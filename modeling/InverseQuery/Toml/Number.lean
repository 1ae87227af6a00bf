import InverseQuery.Toml.Value

/-! Numbers of TOML, recognised from their whole text.
Underscores may separate digits, a decimal number has no leading zero, one to another base has no
sign, and a real number has digits on both sides of its point. The shape of an integer is one thing
and its digits another: a word such as `0x` or `1_cat` is taken for an integer, which has no number.
-/

namespace InverseQuery.Toml

/-- The integer that digits denote, if it fits one hundred and twenty-eight bits: with a sign if it
is negative, and without otherwise.
-/
def fittingInteger? (negative : Bool) (base : Nat) (digits : List Char) : Option Int :=
  let bound := if negative then Nat.pow 2 127 + 1 else Nat.pow 2 128
  (Text.numeralBelow? base bound digits).map (Text.signed negative)

def withoutUnderscores (text : List Char) : List Char := text.filter (· != '_')

/-- Whether each underscore of a text stands between two digits. -/
def isSeparated (isDigit : Char → Bool) : List Char → Bool
  | [] => true
  | '_' :: _ => false
  | char :: '_' :: rest => isDigit char && rest.head?.any isDigit && isSeparated isDigit rest
  | _ :: rest => isSeparated isDigit rest

/-- Whether a text begins with a zero before another digit. -/
def hasLeadingZero : List Char → Bool
  | '0' :: next :: _ => next == '_' || Text.isDigit 10 next
  | _ => false

/-- Whether a text is a row of decimal digits. -/
def isNumeral (text : List Char) : Bool := !text.isEmpty && text.all (Text.isDigit 10)

/-- The integer to another base than ten after the letter for the base. It may lack digits, and then
has no number.
-/
def basedInteger? (base : Nat) (text : List Char) : Option Value :=
  let digits := withoutUnderscores text
  if isSeparated (Text.isDigit base) text && digits.all (Text.isDigit base) then
    some (.integer (if digits.isEmpty then none else fittingInteger? false base digits))
  else none

/-- The decimal integer of a text without a sign: digits, and from the first underscore on any
characters but spaces, if those around underscores are digits, for which letters up to F count as
well. It has a number only if all its characters are decimal digits.
-/
def decimalInteger? (negative : Bool) (text : List Char) : Option Value :=
  let digits := withoutUnderscores text
  let ending := text.dropWhile (Text.isDigit 10)
  if !text.isEmpty && ending.head?.all (· == '_') && !text.contains ' '
      && isSeparated (Text.isDigit 16) text then
    some (.integer (if isNumeral digits then fittingInteger? negative 10 digits else none))
  else none

/-- The power of ten after the letter that announces it. Once it has reached 65536 it is far beyond
every number that can be represented, and further digits do not count.
-/
def exponent? (text : List Char) : Option Int :=
  let (negative, digits) := Text.splitSign text
  let append (value : Nat) (digit : Char) : Nat :=
    if value < 65536 then Text.appendDigit 10 value digit else value
  if isNumeral digits then some (Text.signed negative (digits.foldl append 0)) else none

/-- Whether a character announces the power of ten. -/
def isExponentMark (char : Char) : Bool := char == 'e' || char == 'E'

/-- The real number of a text without a sign and without underscores. -/
def decimal? (negative : Bool) (text : List Char) : Option Real := do
  let significand := text.takeWhile (!isExponentMark ·)
  let whole := significand.takeWhile (· != '.')
  let exponent ←
    match text.drop significand.length with
    | [] => some 0
    | _ :: power => exponent? power
  match significand.drop whole.length with
  | [] => if isNumeral whole then some (.decimal negative whole exponent) else none
  | _ :: fraction =>
      if isNumeral whole && isNumeral fraction then
        some (.decimal negative (whole ++ fraction) (exponent - fraction.length))
      else none

/-- The decimal number of a text that follows a sign or has none. A point or a power of ten tells a
real number from an integer.
-/
def decimalNumber? (negative : Bool) (text : List Char) : Option Value :=
  if hasLeadingZero text then none
  else if text.any fun char => char == '.' || isExponentMark char then
    if isSeparated (Text.isDigit 10) text then
      (decimal? negative (withoutUnderscores text)).map .real
    else none
  else decimalInteger? negative text

def number? : List Char → Option Value
  | '0' :: 'x' :: text => basedInteger? 16 text
  | '0' :: 'o' :: text => basedInteger? 8 text
  | '0' :: 'b' :: text => basedInteger? 2 text
  | word =>
      let (negative, text) := Text.splitSign word
      if text = "inf".toList then some (.real (.infinity negative))
      else if text = "nan".toList then some (.real .notANumber)
      else decimalNumber? negative text

end InverseQuery.Toml
