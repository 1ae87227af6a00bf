import InverseQuery.Toml.Item

/-! Whole documents: lines that set values, and headers that say which table they are set in. -/

namespace InverseQuery.Toml

/-- One line of a document that is not empty. -/
inductive Statement where
  | setting (path : List String) (key : String) (value : Value)
  | tableHeader (path : List String) (key : String)
  | arrayHeader (path : List String) (key : String)
  deriving Repr

def headerKey : Scanner (List String × String) := do
  skipBlanks
  let key ← dottedKey
  skipBlanks
  return key

/-- Takes a header, or a key with its value. -/
def statementText : Scanner Statement := do
  if ← Scanner.accept "[[" then
    let (path, key) ← headerKey
    Scanner.expect "]]"
    return .arrayHeader path key
  if ← Scanner.accept "[" then
    let (path, key) ← headerKey
    Scanner.expect "]"
    return .tableHeader path key
  let (path, key) ← dottedKey
  skipBlanks
  Scanner.expect "="
  skipBlanks
  return .setting path key (← value depthLimit)

def statement : Scanner Statement := do
  let statement ← statementText
  endLine
  return statement

def statements : Scanner (List Statement) :=
  Scanner.many do
    skipLines
    if (← get).isEmpty then return none else return some (← statement)

/-- A document that is read in part: the keys of the last header, and the tables so far. -/
structure Draft where
  header : List String := []
  root : Entries := []

/-- Adds one line to a draft. -/
def Draft.add (draft : Draft) : Statement → Except Fault Draft
  | .setting path key value => do
      let set : TableChange := fun kind entries => setValue path key value kind entries
      return { draft with root := ← alter .implied set draft.header .opened draft.root }
  | .tableHeader path key => do
      return ⟨path ++ [key], ← openTable path key .opened draft.root⟩
  | .arrayHeader path key => do
      return ⟨path ++ [key], ← appendTable path key .opened draft.root⟩

/-- The top-level table of a document. A byte order mark may stand at its front. -/
def Entries.parse (text : String) : Except Fault Entries := do
  let chars :=
    match text.toList with
    | '\uFEFF' :: rest => rest
    | chars => chars
  let (lines, _) ← statements.run chars
  let draft ← lines.foldlM Draft.add {}
  return draft.root

end InverseQuery.Toml
