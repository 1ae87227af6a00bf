/-! Numerals: rows of digits to a base, perhaps after a sign, and the number that they denote. -/

namespace InverseQuery.Text

/-- The value of a digit to a base of at most sixteen; letters count in either case. -/
def digit? (base : Nat) (char : Char) : Option Nat :=
  let code := char.toNat
  let value :=
    if '0'.toNat ≤ code ∧ code ≤ '9'.toNat then some (code - '0'.toNat)
    else if 'a'.toNat ≤ code ∧ code ≤ 'f'.toNat then some (code - 'a'.toNat + 10)
    else if 'A'.toNat ≤ code ∧ code ≤ 'F'.toNat then some (code - 'A'.toNat + 10)
    else none
  value.filter (· < base)

def isDigit (base : Nat) (char : Char) : Bool := (digit? base char).isSome

/-- The number whose digits are those of another one and one more; a character that is no digit counts
as zero.
-/
def appendDigit (base value : Nat) (char : Char) : Nat :=
  base * value + (digit? base char).getD 0

/-- The number that a row of digits denotes, the highest digit first. -/
def numeral (base : Nat) (digits : List Char) : Nat := digits.foldl (appendDigit base) 0

/-- The number that a row of digits denotes, if it is below a bound. The rest of the row is not looked
at once the bound is reached, however long it is.
-/
def numeralBelow? (base bound : Nat) (digits : List Char) : Option Nat :=
  let append (value : Nat) (char : Char) : Option Nat :=
    let next := appendDigit base value char
    if next < bound then some next else none
  digits.foldlM append 0

/-- Splits off a sign, if there is one: whether it is a minus, and the rest. -/
def splitSign : List Char → Bool × List Char
  | '-' :: rest => (true, rest)
  | '+' :: rest => (false, rest)
  | chars => (false, chars)

/-- A magnitude with its sign. -/
def signed (negative : Bool) (magnitude : Nat) : Int :=
  if negative then -magnitude else magnitude

/-- Further digits do not make a number smaller, by induction over them. -/
theorem le_foldl_appendDigit {base : Nat} (positive : 0 < base) (digits : List Char) (value : Nat)
    : value ≤ digits.foldl (appendDigit base) value := by
  induction digits generalizing value with
  | nil => exact Nat.le_refl value
  | cons char digits ih =>
      have grown : value ≤ base * value := Nat.le_mul_of_pos_left value positive
      exact Nat.le_trans (Nat.le_trans grown (Nat.le_add_right _ _)) (ih _)

/-- Stopping at the bound loses no number below it, by induction over the digits. -/
theorem numeralBelow?_eq_some_iff {base bound number : Nat} {digits : List Char}
    (positive : 0 < base) (bounded : 0 < bound)
    : numeralBelow? base bound digits = some number
      ↔ numeral base digits = number ∧ number < bound := by
  unfold numeralBelow? numeral
  generalize 0 = value at bounded ⊢
  induction digits generalizing value with
  | nil =>
      simp only [List.foldlM_nil, List.foldl_nil, Option.pure_def, Option.some.injEq]
      exact ⟨fun same => ⟨same, same ▸ bounded⟩, fun same => same.1⟩
  | cons char digits ih =>
      simp only [List.foldlM_cons, List.foldl_cons]
      by_cases fits : appendDigit base value char < bound
      · simpa only [if_pos fits, Option.bind_eq_bind, Option.bind_some] using ih _ fits
      · have most := le_foldl_appendDigit positive digits (appendDigit base value char)
        simp only [if_neg fits, Option.bind_eq_bind, Option.bind_none, reduceCtorEq, false_iff]
        intro same
        omega

end InverseQuery.Text
