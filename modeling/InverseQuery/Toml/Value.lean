import InverseQuery.Text.Numeral

/-! TOML values, and the faults that a document may have.
Tables remember how they came into being, since that decides which later parts of a document may
still add to them.
-/

namespace InverseQuery.Toml

/-- What is wrong with a document. -/
inductive Fault where
  | expected (what : String)
  | tooDeep
  | duplicateKey (key : String)
  | notExtensible (key : String)
  | wrongType (key : String)
  | outOfRange (key : String)
  deriving Repr, DecidableEq

def Fault.message : Fault → String
  | expected what => "expected " ++ what
  | tooDeep => "nested too deeply"
  | duplicateKey key => "duplicate key " ++ key
  | notExtensible key => "cannot extend " ++ key
  | wrongType key => "wrong type for " ++ key
  | outOfRange key => "number out of range in " ++ key

/-- How a table came into being: written in braces, opened by a header, implied by the header of a
table below it, or implied by a dotted key.
-/
inductive TableKind where
  | inline
  | opened
  | implied
  | dotted
  deriving Repr, DecidableEq

/-- A real number as written: the digits of a whole number and the power of ten that it is multiplied
by, or one of the two special ones.
-/
inductive Real where
  | decimal (negative : Bool) (digits : List Char) (exponent : Int)
  | infinity (negative : Bool)
  | notANumber
  deriving Repr, DecidableEq

/-- A value of a document. An integer has no number if its word denotes none that fits. An array is
`ofTables` when headers in double brackets make it up; its last table then stands first.
-/
inductive Value where
  | string (text : String)
  | integer (number : Option Int)
  | real (value : Real)
  | boolean (value : Bool)
  | dateTime (text : String)
  | array (ofTables : Bool) (items : List Value)
  | table (kind : TableKind) (entries : List (String × Value))
  deriving Repr

/-- The keys of a table with their values, each key once, the last one first. -/
abbrev Entries := List (String × Value)

def Entries.get? (entries : Entries) (key : String) : Option Value := entries.lookup key

/-- The entries with another value for a key that they have. -/
def Entries.replace (entries : Entries) (key : String) (value : Value) : Entries :=
  entries.map fun entry => if entry.1 == key then (key, value) else entry

/-- The digits before the point in a number that has as many of them as the greatest finite number of
64 bits.
-/
def wholeLimit : Nat := 309

/-- Whether a number of 64 bits represents a real number. A decimal has to be below the middle between
the greatest such number and the next power of two; above it rounding leads to infinity. The middle
is a whole number, so that the digits before the point decide.
-/
def Real.isRepresentable : Real → Bool
  | decimal _ digits exponent =>
      let significant := digits.dropWhile (· == '0')
      let wholeLength : Int := significant.length + exponent
      if significant.isEmpty ∨ wholeLength < wholeLimit then true
      else if wholeLimit < wholeLength then false
      else
        let whole := (significant.rightpad wholeLimit '0').take wholeLimit
        decide (Text.numeral 10 whole < Nat.pow 2 1024 - Nat.pow 2 970)
  | infinity _ | notANumber => true

/-- Whether every number in a value can be represented. -/
def Value.isRepresentable : Value → Bool
  | integer number => number.isSome
  | real value => value.isRepresentable
  | array _ items => items.attach.all fun item => item.1.isRepresentable
  | table _ entries => entries.attach.all fun entry => entry.1.2.isRepresentable
  | _ => true
termination_by value => sizeOf value
decreasing_by
  · have := List.sizeOf_lt_of_mem item.2
    simp only [array.sizeOf_spec]
    omega
  · have := List.sizeOf_lt_of_mem entry.2
    have : sizeOf entry.1.2 < sizeOf entry.1 := by
      rcases entry with ⟨⟨_, _⟩, _⟩
      simp only [Prod.mk.sizeOf_spec]
      omega
    simp only [table.sizeOf_spec]
    omega

end InverseQuery.Toml
