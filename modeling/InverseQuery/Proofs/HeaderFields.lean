import InverseQuery.Proofs.SessionInvariant
import Mathlib.Data.Nat.Bitwise

/-! The fields of a header as numbers, told from the octets of a message.
Octets that a short message does not have count as zeros.
-/

namespace InverseQuery

namespace Octets

/-- The number at a position, zero past the end. -/
def valueAt (octets : Octets) (position : Nat) : Nat := (octets[position]?.getD 0).toNat

/-- The number that two octets stand for, the high one first. -/
def wordValueAt (octets : Octets) (position : Nat) : Nat :=
  256 * octets.valueAt position + octets.valueAt (position + 1)

end Octets

namespace Header

/-- A header whose fields are those of these octets, with zeros where octets are missing. -/
structure Shows (header : Header) (octets : Octets) : Prop where
  id : header.id.toNat = octets.wordValueAt 0
  isResponse : header.isResponse = decide (128 ≤ octets.valueAt 2)
  opcodeBits : header.opcodeBits.toNat = octets.valueAt 2 / 8 % 16
  opcode : header.opcode = .ofCode (.ofNat (octets.valueAt 2 / 8 % 16))
  responseCode : header.responseCode = .ofCode (.ofNat (octets.valueAt 3 % 16))
  questionCount : header.questionCount.toNat = octets.wordValueAt 4
  answerCount : header.answerCount.toNat = octets.wordValueAt 6
  authorityCount : header.authorityCount.toNat = octets.wordValueAt 8
  additionalCount : header.additionalCount.toNat = octets.wordValueAt 10

/-- The highest bit of an octet is set in the upper half of its values. -/
theorem high_bit_ne_zero (octet : UInt8)
    : (octet &&& 0x80 != 0) = decide (128 ≤ octet.toNat) := by
  have small := octet.toNat_lt
  have masked : (octet &&& 0x80).toNat = (octet.toNat.testBit 7).toNat * 2 ^ 7 :=
    (UInt8.toNat_and octet 0x80).trans (Nat.and_two_pow octet.toNat 7)
  rw [Nat.testBit_eq_decide_div_mod_eq] at masked
  rw [bne, Bool.eq_iff_iff, Bool.not_eq_true', beq_eq_false_iff_ne, decide_eq_true_iff, ne_eq,
    ← UInt8.toNat_inj, masked]
  by_cases set : octet.toNat / 2 ^ 7 % 2 = 1
  · simp only [set, decide_true, Bool.toNat_true, UInt8.toNat_zero]
    omega
  · simp only [set, decide_false, Bool.toNat_false, UInt8.toNat_zero]
    omega

/-- The opcode stands in the four bits after the highest one. -/
theorem toNat_opcodeBits (header : Header)
    : header.opcodeBits.toNat = (header.octet 2).toNat / 8 % 16 := by
  rw [opcodeBits, ResponseCode.toNat_low, UInt8.toNat_shiftRight, Nat.shiftRight_eq_div_pow]
  rfl

/-- The fields only depend on the octets of the header. -/
theorem Shows.of_octet {header : Header} {octets : Octets}
    (same : ∀ index : Fin size, header.octet index = octets[index.val]?.getD 0)
    : header.Shows octets := by
  have value (index : Fin size) : (header.octet index).toNat = octets.valueAt index :=
    congrArg UInt8.toNat (same index)
  have word (high low : Fin size) (next : low.val = high.val + 1)
      : (Octets.joinWord (header.octet high) (header.octet low)).toNat
        = octets.wordValueAt high := by
    rw [Octets.toNat_joinWord, value, value, next, Octets.wordValueAt]
  have bits : header.opcodeBits.toNat = octets.valueAt 2 / 8 % 16 :=
    header.toNat_opcodeBits.trans (congrArg (· / 8 % 16) (value 2))
  have code : (header.octet 3 &&& 0x0F).toNat = octets.valueAt 3 % 16 :=
    (ResponseCode.toNat_low _).trans (congrArg (· % 16) (value 3))
  exact
    { id := word 0 1 rfl
      isResponse := (high_bit_ne_zero _).trans (congrArg (fun n => decide (128 ≤ n)) (value 2))
      opcodeBits := bits
      opcode := by rw [← bits, UInt8.ofNat_toNat]; rfl
      responseCode := by rw [← code, UInt8.ofNat_toNat]; rfl
      questionCount := word 4 5 rfl
      answerCount := word 6 7 rfl
      authorityCount := word 8 9 rfl
      additionalCount := word 10 11 rfl }

/-- Padding reads as zeros. -/
theorem octet_ofPadded (octets : Octets) (index : Fin size)
    : (ofPadded octets).octet index = octets[index.val]?.getD 0 := by
  have within := index.isLt
  have present := Nat.lt_of_lt_of_le within (ofPadded octets).size_le
  have read
      : (octets ++ List.replicate (size - octets.length) 0)[index.val]?
        = some ((ofPadded octets).octet index) :=
    List.getElem?_eq_getElem present
  rw [List.getElem?_append] at read
  split at read
  next => rw [read, Option.getD_some]
  next past =>
    rw [List.getElem?_replicate, if_pos (by omega)] at read
    rw [List.getElem?_eq_none (by omega), Option.getD_none, Option.some.inj read]

end Header

/-- However a message is loaded, its header shows its octets. -/
theorem Message.Loaded.shows {message : Message} (loaded : message.Loaded)
    : message.header.Shows message.octets := by
  apply Header.Shows.of_octet
  intro index
  rw [loaded.header_octet, Header.octet_ofPadded]

end InverseQuery
