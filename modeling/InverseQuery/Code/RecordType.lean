import InverseQuery.Code.Mnemonic

/-! The types of resource record that have a name here, with their 16-bit codes. -/

namespace InverseQuery

/-- A type of resource record; only addresses are ever looked up in reverse. -/
inductive RecordType where
  | a
  | ns
  | cname
  | soa
  | ptr
  | mx
  | txt
  | aaaa
  deriving Repr, DecidableEq

namespace RecordType

def registry : List RecordType := [a, ns, cname, soa, ptr, mx, txt, aaaa]

def mnemonic : RecordType → String
  | a => "A"
  | ns => "NS"
  | cname => "CNAME"
  | soa => "SOA"
  | ptr => "PTR"
  | mx => "MX"
  | txt => "TXT"
  | aaaa => "AAAA"

def code : RecordType → UInt16
  | a => 1
  | ns => 2
  | cname => 5
  | soa => 6
  | ptr => 12
  | mx => 15
  | txt => 16
  | aaaa => 28

def ofCode? (word : UInt16) : Option RecordType := registry.find? fun type => type.code == word

def parse (text : String) : Except UnknownMnemonic RecordType :=
  match findMnemonic registry mnemonic text with
  | some type => .ok type
  | none => .error (.recordType text)

/-- Every record type is found by its code. -/
theorem ofCode?_code (type : RecordType) : ofCode? type.code = some type := by
  cases type <;> rfl

/-- The record type of a code is the one that has this code. -/
theorem ofCode?_eq_some_iff {word : UInt16} {type : RecordType}
    : ofCode? word = some type ↔ word = type.code := by
  constructor
  · intro found
    have same := List.find?_some found
    exact (beq_iff_eq.mp same).symm
  · intro same
    rw [same]
    exact ofCode?_code type

end RecordType

end InverseQuery
