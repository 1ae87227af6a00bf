import InverseQuery.Text.CaseTable

/-! Upper-case text by the full, context-free rules of Unicode.
Each character is replaced on its own.
-/

namespace InverseQuery.Text

/-- The upper-case form of one character, which may have up to three characters. -/
def upperChar (char : Char) : List Char :=
  match caseExpansions.find? (fun entry => entry.1 == char.toNat) with
  | some entry => entry.2.map Char.ofNat
  | none =>
      match caseRuns.find? (fun run => run.holds char.toNat) with
      | some run => [Char.ofNat (char.toNat + run.shift).toNat]
      | none => [char]

def upperChars (chars : List Char) : List Char := chars.flatMap upperChar

def uppercase (text : String) : String := String.ofList (upperChars text.toList)

end InverseQuery.Text
