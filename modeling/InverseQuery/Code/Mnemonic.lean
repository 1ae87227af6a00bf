import InverseQuery.Text.Uppercase

/-! Finding a registered code by its mnemonic.
A text names an entry when its upper-case form is the entry's mnemonic; a text that names nothing
is kept in the error as it was written.
-/

namespace InverseQuery

/-- A text that is no mnemonic of its registry. -/
inductive UnknownMnemonic where
  | opcode (text : String)
  | recordType (text : String)
  deriving Repr, DecidableEq

def UnknownMnemonic.message : UnknownMnemonic → String
  | .opcode text => "Unknown opcode: " ++ text
  | .recordType text => "Unknown record type: " ++ text

/-- The entry of a registry that a text names in some mixture of cases. -/
def findMnemonic {α : Type} (registry : List α) (mnemonic : α → String) (text : String)
    : Option α :=
  registry.find? fun entry => mnemonic entry == Text.uppercase text

/-- An entry that is found is registered under the upper-case form of the text. -/
theorem findMnemonic_eq_some {α : Type} {registry : List α} {mnemonic : α → String}
    {text : String} {entry : α} (found : findMnemonic registry mnemonic text = some entry)
    : entry ∈ registry ∧ mnemonic entry = Text.uppercase text :=
  ⟨List.mem_of_find?_eq_some found, by simpa using List.find?_some found⟩

end InverseQuery
