import InverseQuery.File.Entry
import InverseQuery.File.Fault
import InverseQuery.Request.Policy
import InverseQuery.Text.Blank
import InverseQuery.Text.Numeral
import InverseQuery.Text.Utf8

/-! The flag that turns inverse queries on: the signed integer at the front of a text file.
Blanks may stand before it and anything after it; the integer has to fit 64 bits.
-/

namespace InverseQuery

namespace Flag

/-- The number of negative flags, which is also the number of flags that are not negative. -/
def bound : Nat := 0x8000000000000000

/-- Whether an integer fits 64 bits with a sign. -/
def inRange (value : Int) : Bool := decide (-bound ≤ value) && decide (value < bound)

/-- The integer at the front of a sequence of characters. -/
def parse? (chars : List Char) : Option Int :=
  let (negative, unsigned) := Text.splitSign (chars.dropWhile Text.isBlank)
  let digits := unsigned.takeWhile (Text.isDigit 10)
  if digits.isEmpty then none
  else
    -- No magnitude above the bound fits with either sign.
    (Text.numeralBelow? 10 (bound + 1) digits).map (Text.signed negative) |>.filter inRange

def ofEntry (path : String) (entry : PathEntry) : Except FileFault Int :=
  match entry.read with
  | .error cause => .error (.flagUnreadable path cause)
  | .ok octets =>
      match Text.decodeUtf8? octets with
      | none => .error (.flagUnreadable path "not UTF-8")
      | some text =>
          match parse? text.toList with
          | none => .error (.flagMissing path)
          | some value => .ok value

end Flag

end InverseQuery
