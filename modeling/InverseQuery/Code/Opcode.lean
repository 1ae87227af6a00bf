import InverseQuery.Code.Mnemonic

/-! The operation that a message asks for: a code of four bits, five of whose values have names. -/

namespace InverseQuery

/-- The kind of query that a header announces. -/
inductive Opcode where
  | query
  | inverseQuery
  | status
  | notify
  | update
  | unassigned (code : UInt8)
  deriving Repr, DecidableEq

namespace Opcode

def registry : List Opcode := [query, inverseQuery, status, notify, update]

/-- The name of an opcode; all unassigned ones share one. -/
def mnemonic : Opcode → String
  | query => "QUERY"
  | inverseQuery => "IQUERY"
  | status => "STATUS"
  | notify => "NOTIFY"
  | update => "UPDATE"
  | unassigned _ => "UNKNOWN"

/-- The text of an opcode: its name, or the number of an unassigned one. -/
def text : Opcode → String
  | unassigned code => "OPCODE" ++ toString code.toNat
  | opcode => opcode.mnemonic

/-- The four bits that stand for an opcode in a header. -/
def code : Opcode → UInt8
  | query => 0
  | inverseQuery => 1
  | status => 2
  | notify => 4
  | update => 5
  | unassigned code => code &&& 0x0F

def ofCode (octet : UInt8) : Opcode :=
  match octet &&& 0x0F with
  | 0 => query
  | 1 => inverseQuery
  | 2 => status
  | 4 => notify
  | 5 => update
  | code => unassigned code

/-- Reads the name of an opcode in any case; an unassigned opcode has no readable name. -/
def parse (text : String) : Except UnknownMnemonic Opcode :=
  match findMnemonic registry mnemonic text with
  | some opcode => .ok opcode
  | none => .error (.opcode text)

end Opcode

end InverseQuery
