/-! The characters with the White_Space property of Unicode, which may stand before a number. -/

namespace InverseQuery.Text

/-- White space: the ASCII blanks, the next-line and no-break characters, and the spaces and
separators of general punctuation.
-/
def isBlank (char : Char) : Bool :=
  let code := char.toNat
  (decide (0x09 ≤ code) && decide (code ≤ 0x0D))
  || code == 0x20 || code == 0x85 || code == 0xA0 || code == 0x1680
  || (decide (0x2000 ≤ code) && decide (code ≤ 0x200A))
  || code == 0x2028 || code == 0x2029 || code == 0x202F || code == 0x205F || code == 0x3000

end InverseQuery.Text
