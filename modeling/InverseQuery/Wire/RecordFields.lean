import InverseQuery.Code.RecordType
import InverseQuery.Wire.Cursor

/-! The fixed fields of a resource record, which follow its owner name.
Reading them checks each 16-bit field and passes over the time to live and the data; whether the
record ends where the message ends is a separate question.
-/

namespace InverseQuery

/-- The fields of a record that are kept. -/
structure RecordFields where
  typeCode : UInt16
  classCode : UInt16
  dataLength : UInt16
  deriving Repr, DecidableEq

namespace RecordFields

def ttlSize : Nat := 4

/-- The type of the record, when it has a name. -/
def recordType? (fields : RecordFields) : Option RecordType := RecordType.ofCode? fields.typeCode

/-- A record is one of an address exactly if its type code is 1. -/
theorem recordType?_eq_a_iff {fields : RecordFields}
    : fields.recordType? = some .a ↔ fields.typeCode = 1 :=
  RecordType.ofCode?_eq_some_iff

/-- Reads the fields at the cursor and passes over the data. -/
def read (message : Octets) (limit : Nat) : WireReader RecordFields := do
  let typeCode ← Cursor.readWord message limit
  let classCode ← Cursor.readWord message limit
  Cursor.skip ttlSize
  let dataLength ← Cursor.readWord message limit
  Cursor.skip dataLength.toNat
  return { typeCode, classCode, dataLength }

/-- Reads the fields of a record that ends exactly at `limit`. -/
def readLast (message : Octets) (limit : Nat) : WireReader RecordFields := do
  let fields ← read message limit
  match (← get).requireAt limit with
  | .ok () => return fields
  | .error fault => throw fault

/-- No part of the fields is read further back. -/
theorem forward_read (message : Octets) (limit : Nat) : (read message limit).Forward :=
  (WireReader.Forward.readWord message limit).bind fun _ =>
    (WireReader.Forward.readWord message limit).bind fun _ =>
      (WireReader.Forward.skip ttlSize).bind fun _ =>
        (WireReader.Forward.readWord message limit).bind fun dataLength =>
          (WireReader.Forward.skip dataLength.toNat).bind fun _ => .pure _

theorem forward_readLast (message : Octets) (limit : Nat) : (readLast message limit).Forward := by
  refine (forward_read message limit).bind fun fields => WireReader.Forward.get.bind fun cursor => ?_
  cases cursor.requireAt limit with
  | ok => exact .pure fields
  | error fault => exact .throw fault

end RecordFields

/-- The part of a record after its owner name, with everything that the wire carries. -/
structure RecordBody where
  typeCode : UInt16
  classCode : UInt16
  ttl : Octets
  data : Octets
  ttl_length : ttl.length = RecordFields.ttlSize
  data_length_le : data.length ≤ 0xFFFF

namespace RecordBody

def fields (body : RecordBody) : RecordFields :=
  { typeCode := body.typeCode, classCode := body.classCode,
    dataLength := UInt16.ofNat body.data.length }

def encode (body : RecordBody) : Octets :=
  Octets.ofWord body.typeCode ++ Octets.ofWord body.classCode ++ body.ttl
    ++ Octets.ofWord body.fields.dataLength ++ body.data

theorem length_encode (body : RecordBody) : body.encode.length = 10 + body.data.length := by
  simp only [encode, List.length_append, Octets.length_ofWord, body.ttl_length,
    RecordFields.ttlSize]

end RecordBody

end InverseQuery
