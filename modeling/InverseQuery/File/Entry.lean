import InverseQuery.Text.Utf8

/-! What stands at a path, which is all that the program learns of a file system. -/

namespace InverseQuery

/-- What stands at a path. -/
inductive PathEntry where
  | missing
  | unreadable (cause : String)
  | file (content : Octets)
  deriving Repr, DecidableEq

namespace PathEntry

/-- The content of what can be read, or else why it cannot. -/
def read : PathEntry → Except String Octets
  | missing => .error "not found"
  | unreadable cause => .error cause
  | file content => .ok content

/-- Whether anything stands at the path, readable or not. -/
def isPresent : PathEntry → Bool
  | missing => false
  | _ => true

/-- A file of text in UTF-8. -/
def HoldsText (entry : PathEntry) (text : String) : Prop := entry = .file (Text.encodeUtf8 text)

end PathEntry

end InverseQuery
