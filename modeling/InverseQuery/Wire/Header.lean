import InverseQuery.Octets
import InverseQuery.Code.Opcode
import InverseQuery.Code.ResponseCode

/-! The fixed header at the front of a message.
A header is a view of octets that are long enough; of its fields only the response code can be
rewritten, which touches the low four bits of one octet.
-/

namespace InverseQuery

abbrev Header.size : Nat := 12

/-- Octets that start with a whole header. -/
structure Header where
  octets : Octets
  size_le : Header.size ≤ octets.length
  deriving DecidableEq

namespace Header

/-- The header at the front of a string, when the string is long enough. -/
def view? (octets : Octets) : Option Header :=
  if h : size ≤ octets.length then some ⟨octets, h⟩ else none

def octet (header : Header) (index : Fin size) : UInt8 :=
  header.octets.get ⟨index, Nat.lt_of_lt_of_le index.isLt header.size_le⟩

/-- The number that pairs an answer with its query. -/
def id (header : Header) : UInt16 := Octets.joinWord (header.octet 0) (header.octet 1)

/-- Whether the message is an answer. -/
def isResponse (header : Header) : Bool := header.octet 2 &&& 0x80 != 0

def opcodeBits (header : Header) : UInt8 := (header.octet 2 >>> 3) &&& 0x0F

def opcode (header : Header) : Opcode := Opcode.ofCode header.opcodeBits

/-- The outcome that the message reports. -/
def responseCode (header : Header) : ResponseCode := ResponseCode.ofCode (header.octet 3 &&& 0x0F)

def questionCount (header : Header) : UInt16 :=
  Octets.joinWord (header.octet 4) (header.octet 5)

def answerCount (header : Header) : UInt16 :=
  Octets.joinWord (header.octet 6) (header.octet 7)

def authorityCount (header : Header) : UInt16 :=
  Octets.joinWord (header.octet 8) (header.octet 9)

def additionalCount (header : Header) : UInt16 :=
  Octets.joinWord (header.octet 10) (header.octet 11)

/-- The octet of flags with its response code replaced and its other bits kept. -/
def withCode (flags : UInt8) (code : ResponseCode) : UInt8 := (flags &&& 0xF0) ||| code.code

/-- Headers whose octets are the same at a position have the same octet there. -/
theorem octet_eq_of_getElem? {first second : Header} {index : Fin size}
    (same : first.octets[index.val]? = second.octets[index.val]?)
    : first.octet index = second.octet index := by
  have present := Nat.lt_of_lt_of_le index.isLt first.size_le
  have present' := Nat.lt_of_lt_of_le index.isLt second.size_le
  rw [List.getElem?_eq_getElem present, List.getElem?_eq_getElem present'] at same
  exact Option.some.inj same

/-- The octets of a message with the response code replaced. -/
def writeResponseCode (octets : Octets) (code : ResponseCode) : Octets :=
  octets.modify 3 (withCode · code)

@[simp]
theorem length_writeResponseCode (octets : Octets) (code : ResponseCode)
    : (writeResponseCode octets code).length = octets.length :=
  List.length_modify ..

def setResponseCode (header : Header) (code : ResponseCode) : Header :=
  ⟨writeResponseCode header.octets code, by simpa using header.size_le⟩

/-- The written code takes the low four bits, whatever stood there. -/
theorem low_withCode (flags : UInt8) (code : ResponseCode)
    : withCode flags code &&& 0x0F = code.code &&& 0x0F := by
  apply UInt8.toBitVec_inj.mp
  simp only [withCode, UInt8.toBitVec_and, UInt8.toBitVec_or, BitVec.and_or_distrib_right,
    BitVec.and_assoc]
  simp

/-- The high four bits stay, whatever code is written. -/
theorem high_withCode (flags : UInt8) (code : ResponseCode)
    : withCode flags code &&& 0xF0 = flags &&& 0xF0 := by
  have bits := UInt8.toBitVec_inj.mpr code.code_and_high
  apply UInt8.toBitVec_inj.mp
  simp only [UInt8.toBitVec_and] at bits
  simp only [withCode, UInt8.toBitVec_and, UInt8.toBitVec_or, BitVec.and_or_distrib_right,
    BitVec.and_assoc, bits]
  simp

theorem withCode_withCode (flags : UInt8) (first second : ResponseCode)
    : withCode (withCode flags first) second = withCode flags second := by
  rw [withCode, high_withCode, withCode]

theorem writeResponseCode_writeResponseCode (octets : Octets) (first second : ResponseCode)
    : writeResponseCode (writeResponseCode octets first) second
      = writeResponseCode octets second := by
  have last : (withCode · second) ∘ (withCode · first) = (withCode · second) :=
    funext fun flags => withCode_withCode flags first second
  rw [writeResponseCode, writeResponseCode, List.modify_modify_eq, last, writeResponseCode]

/-- The response code that is read back is the one of the written bits. -/
theorem responseCode_setResponseCode (header : Header) (code : ResponseCode)
    : (header.setResponseCode code).responseCode = ResponseCode.ofCode code.code := by
  have written : (header.setResponseCode code).octet 3 = withCode (header.octet 3) code :=
    List.getElem_modify_eq ..
  have masked : code.code &&& 0x0F &&& 0x0F = code.code &&& 0x0F := by
    rw [UInt8.and_assoc, UInt8.and_self]
  rw [responseCode, written, low_withCode]
  simp only [ResponseCode.ofCode, masked]

end Header

end InverseQuery
