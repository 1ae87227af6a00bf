import InverseQuery.Text.Numeral
import InverseQuery.Toml.Value

/-! Dates and times of TOML, recognised from their whole text.
Dates have to exist in the calendar, leap years included. The seconds of a time may be left out,
and sixty of them are admitted for the sake of leap seconds.
-/

namespace InverseQuery.Toml

/-- Splits off a number of exactly `count` decimal digits. -/
def fixedNumber? (count : Nat) (text : List Char) : Option (Nat × List Char) :=
  let digits := text.take count
  if digits.length = count ∧ digits.all (Text.isDigit 10) then
    some (Text.numeral 10 digits, text.drop count)
  else none

/-- Splits off a given character. -/
def drop? (expected : Char) : List Char → Option (List Char)
  | [] => none
  | char :: rest => if char = expected then some rest else none

def isLeapYear (year : Nat) : Bool := year % 4 == 0 && (year % 100 != 0 || year % 400 == 0)

def daysInMonth (year month : Nat) : Nat :=
  if month = 2 then if isLeapYear year then 29 else 28
  else if month = 4 ∨ month = 6 ∨ month = 9 ∨ month = 11 then 30
  else 31

/-- What follows a date at the front of a text. -/
def afterDate? (text : List Char) : Option (List Char) := do
  let (year, rest) ← fixedNumber? 4 text
  let (month, rest) ← fixedNumber? 2 (← drop? '-' rest)
  let (day, rest) ← fixedNumber? 2 (← drop? '-' rest)
  if 1 ≤ month ∧ month ≤ 12 ∧ 1 ≤ day ∧ day ≤ daysInMonth year month then some rest else none

/-- What follows an hour and a minute at the front of a text. -/
def afterMinute? (text : List Char) : Option (List Char) := do
  let (hour, rest) ← fixedNumber? 2 text
  let (minute, rest) ← fixedNumber? 2 (← drop? ':' rest)
  if hour ≤ 23 ∧ minute ≤ 59 then some rest else none

/-- What follows a time of day at the front of a text. -/
def afterTime? (text : List Char) : Option (List Char) := do
  match ← afterMinute? text with
  | ':' :: rest =>
      let (second, rest) ← fixedNumber? 2 rest
      if 60 < second then none
      else
        match rest with
        | '.' :: rest =>
            if rest.head?.any (Text.isDigit 10) then some (rest.dropWhile (Text.isDigit 10))
            else none
        | rest => some rest
  | rest => some rest

/-- Whether a text is nothing, or a distance from universal time. -/
def isOffset (text : List Char) : Bool :=
  match text with
  | [] | ['Z'] | ['z'] => true
  | '+' :: rest | '-' :: rest => afterMinute? rest == some []
  | _ => false

def isDateTime (text : List Char) : Bool :=
  match afterDate? text with
  | some [] => true
  | some (mark :: rest) =>
      (mark == 'T' || mark == 't' || mark == ' ') && (afterTime? rest).any isOffset
  | none => afterTime? text == some []

end InverseQuery.Toml
