import InverseQuery.Proofs.Scanning
import Mathlib.Logic.ExistsUnique

/-! The first handling of a message, told from its octets alone.
Five conditions on the octets, the capacity and the policy exclude one another and leave nothing
out, and each of them fixes everything that the request holds afterwards.
-/

namespace InverseQuery

/-- A whole name of `length` octets follows the header. -/
def Octets.NameAfterHeader (octets : Octets) (length : Nat) : Prop :=
  Header.size + length ≤ octets.length
  ∧ EncodedName (octets.window Header.size (Header.size + length))

/-- A record follows a name of `length` octets, and its data end where the octets end. -/
structure Octets.RecordEndsAfter (octets : Octets) (length : Nat) (record : RecordFields)
    : Prop where
  typeCode : octets.word? (Header.size + length) = some record.typeCode
  classCode : octets.word? (Header.size + length + 2) = some record.classCode
  dataLength : octets.word? (Header.size + length + 8) = some record.dataLength
  end_eq : octets.length = Header.size + length + 10 + record.dataLength.toNat

/-- How the first handling of a message may end, with the length of the name and the record. -/
inductive FirstOutcome where
  | nameless
  | misfit (length : Nat)
  | refused (length : Nat) (record : RecordFields)
  | overflow (length : Nat) (record : RecordFields)
  | copied (length : Nat) (record : RecordFields)

namespace FirstOutcome

/-- When a message is handled with this outcome, said without handling it. -/
def Applies (octets : Octets) (capacity : Nat) (policy : Policy) : FirstOutcome → Prop
  | nameless => ∀ length, ¬ octets.NameAfterHeader length
  | misfit length =>
      octets.NameAfterHeader length
      ∧ ¬ ∃ dataLength,
          octets.word? (Header.size + length + 8) = some dataLength
          ∧ octets.length = Header.size + length + 10 + dataLength.toNat
  | refused length record =>
      octets.NameAfterHeader length
      ∧ octets.RecordEndsAfter length record
      ∧ ¬ (record.typeCode = 1 ∧ policy.enabled)
  | overflow length record =>
      octets.NameAfterHeader length
      ∧ octets.RecordEndsAfter length record
      ∧ (record.typeCode = 1 ∧ policy.enabled)
      ∧ capacity < length
  | copied length record =>
      octets.NameAfterHeader length
      ∧ octets.RecordEndsAfter length record
      ∧ (record.typeCode = 1 ∧ policy.enabled)
      ∧ length ≤ capacity

/-- What handling a fresh request with this outcome gives: its verdict and the request after it,
in which every field that is not mentioned is still the fresh one.
-/
def Leaves (octets : Octets) (capacity : Nat) (verdict : Verdict) (after : Request)
    : FirstOutcome → Prop
  | nameless =>
      verdict = .finish
      ∧ after.responseCode = .formatError
      ∧ after
        = { Request.fresh octets capacity with
            message := (Message.ofOctets octets).setResponseCode .formatError
            notices := [.nameProblem] }
  | misfit _ =>
      verdict = .finish
      ∧ after.responseCode = .formatError
      ∧ ∃ cursor,
          after
          = { Request.fresh octets capacity with
              cursor
              message := (Message.ofOctets octets).setResponseCode .formatError
              notices := [.lengthOff] }
  | refused _ record =>
      verdict = .refuse
      ∧ ∃ cursor,
          cursor.position = octets.length
          ∧ after = { Request.fresh octets capacity with cursor, record := some record }
  | overflow _ record =>
      verdict = .handBack
      ∧ ∃ cursor,
          cursor.position = octets.length
          ∧ after
            = { Request.fresh octets capacity with
                cursor
                record := some record
                notices := [.accepted record.classCode 1, .answerOverflow] }
  | copied length record =>
      verdict = .finish
      ∧ ∃ answer,
          answer.capacity = capacity
          ∧ answer.content = octets.window Header.size (Header.size + length)
          ∧ after
            = { Request.fresh octets capacity with
                answer
                record := some record
                extraction := some
                  { nameStart := Header.size
                    length
                    dataOffset := length - record.dataLength.toNat }
                remaining := octets.length - Header.size
                notices := [.accepted record.classCode 1, .copying length capacity] }

-----------------------------------------------------------------------------------------
-- The conditions exclude one another and leave nothing out
-----------------------------------------------------------------------------------------

theorem nameAfterHeader_iff_at {octets : Octets} {length : Nat}
    : octets.NameAfterHeader length
      ↔ EncodedName.At octets Header.size octets.length length := by
  rw [Octets.NameAfterHeader, EncodedName.At, Nat.min_self]

theorem name_unique {octets : Octets} {first second : Nat}
    (h : octets.NameAfterHeader first) (h' : octets.NameAfterHeader second)
    : first = second :=
  (nameAfterHeader_iff_at.mp h).unique (nameAfterHeader_iff_at.mp h')

theorem record_unique {octets : Octets} {length : Nat} {first second : RecordFields}
    (h : octets.RecordEndsAfter length first) (h' : octets.RecordEndsAfter length second)
    : first = second := by
  have types := Option.some.inj (h.typeCode.symm.trans h'.typeCode)
  have classes := Option.some.inj (h.classCode.symm.trans h'.classCode)
  have sizes := Option.some.inj (h.dataLength.symm.trans h'.dataLength)
  cases first
  cases second
  congr

/-- Where the last word gives the right end, the other two words are there as well. -/
theorem exists_record {octets : Octets} {length : Nat} {dataLength : UInt16}
    (sized : octets.word? (Header.size + length + 8) = some dataLength)
    (ends : octets.length = Header.size + length + 10 + dataLength.toNat)
    : ∃ record, octets.RecordEndsAfter length record := by
  have typed := (Octets.word?_isSome_iff octets (Header.size + length)).mpr (by omega)
  have classed := (Octets.word?_isSome_iff octets (Header.size + length + 2)).mpr (by omega)
  obtain ⟨typeCode, typed⟩ := Option.isSome_iff_exists.mp typed
  obtain ⟨classCode, classed⟩ := Option.isSome_iff_exists.mp classed
  exact ⟨⟨typeCode, classCode, dataLength⟩, typed, classed, sized, ends⟩

/-- At most one outcome applies, since the name and the record are unique. -/
theorem Applies.unique {octets : Octets} {capacity : Nat} {policy : Policy}
    {first second : FirstOutcome}
    (h : first.Applies octets capacity policy) (h' : second.Applies octets capacity policy)
    : first = second := by
  have names {first second} := @name_unique octets first second
  have records {length first second} := @record_unique octets length first second
  have sized {length record} (h : octets.RecordEndsAfter length record) :=
    And.intro h.dataLength h.end_eq
  cases first <;> cases second <;> simp only [Applies] at h h' <;> grind

/-- Some outcome applies, by asking one condition after the other. -/
theorem exists_applies (octets : Octets) (capacity : Nat) (policy : Policy)
    : ∃ outcome : FirstOutcome, outcome.Applies octets capacity policy := by
  by_cases named : ∃ length, octets.NameAfterHeader length
  · obtain ⟨length, name⟩ := named
    by_cases fitting : ∃ dataLength,
        octets.word? (Header.size + length + 8) = some dataLength
        ∧ octets.length = Header.size + length + 10 + dataLength.toNat
    · obtain ⟨dataLength, sized, ends⟩ := fitting
      obtain ⟨record, found⟩ := exists_record sized ends
      by_cases approved : record.typeCode = 1 ∧ policy.enabled
      · rcases Nat.lt_or_ge capacity length with long | fits
        · exact ⟨.overflow length record, name, found, approved, long⟩
        · exact ⟨.copied length record, name, found, approved, fits⟩
      · exact ⟨.refused length record, name, found, approved⟩
    · exact ⟨.misfit length, name, fitting⟩
  · exact ⟨.nameless, not_exists.mp named⟩

-----------------------------------------------------------------------------------------
-- The search finds what the conditions say
-----------------------------------------------------------------------------------------

/-- Reading the last record succeeds exactly where the conditions see a record. -/
theorem readLast_eq_ok_iff_recordEndsAfter {octets : Octets} {length : Nat}
    {cursor next : Cursor} {record : RecordFields} (range : octets.length < Cursor.maximum)
    (start : cursor.position = Header.size + length)
    : RecordFields.readLast octets octets.length cursor = .ok record next
      ↔ octets.RecordEndsAfter length record
        ∧ next = cursor.advance (10 + record.dataLength.toNat) := by
  rw [RecordFields.readLast_eq_ok_iff, RecordFields.at_iff (Nat.le_of_lt range), Nat.min_self, start]
  constructor
  · intro h
    obtain ⟨⟨room, typed, classed, sized⟩, rfl, last⟩ := h
    rw [Cursor.position_advance, start] at last
    exact ⟨⟨typed, classed, sized, by omega⟩, rfl⟩
  · intro h
    obtain ⟨⟨typed, classed, sized, ends⟩, rfl⟩ := h
    refine ⟨⟨by omega, typed, classed, sized⟩, rfl, ?_⟩
    rw [Cursor.position_advance_of_le (by omega), start]
    omega

section Search

variable {octets : Octets} (capacity : Nat)

theorem octets_fresh : (Request.fresh octets capacity).message.octets = octets :=
  Message.octets_ofBounded ..

/-- The search for a fresh request starts after the header and may use all the octets. -/
theorem scan_fresh
    : (Request.fresh octets capacity).scan EncodedName.skip
      = .ofOctets EncodedName.skip octets octets.length (.ofNat Header.size) := by
  rw [Request.scan, octets_fresh]
  rfl

theorem scan_fresh_of_absent (absent : ∀ length, ¬ octets.NameAfterHeader length)
    : (Request.fresh octets capacity).scan EncodedName.skip = .nameless := by
  rw [scan_fresh]
  apply Scan.ofOctets_eq_nameless_iff.mpr
  refine ⟨.malformedName Header.size, EncodedName.skip_eq_error_iff.mpr ⟨?_, rfl⟩⟩
  intro length stands
  exact absent length (nameAfterHeader_iff_at.mpr stands)

/-- After a name the search goes on at its end. -/
theorem scan_fresh_of_name {length : Nat} (name : octets.NameAfterHeader length)
    : (Request.fresh octets capacity).scan EncodedName.skip
      = match RecordFields.readLast octets octets.length (.ofNat (Header.size + length)) with
        | .error _ stopped => .misfit stopped
        | .ok record stopped => .entry record (.ofNat (Header.size + length)) stopped := by
  rw [scan_fresh]
  exact Scan.ofOctets_of_ok (EncodedName.skip_eq_ok_iff.mpr (nameAfterHeader_iff_at.mp name))

variable {length : Nat} (range : octets.length < Cursor.maximum)
include range

theorem position_nameEnd (name : octets.NameAfterHeader length)
    : (Cursor.ofNat (Header.size + length)).position = Header.size + length :=
  Cursor.position_ofNat (Nat.le_of_lt (Nat.lt_of_le_of_lt name.1 range))

theorem scan_fresh_of_misfit (name : octets.NameAfterHeader length)
    (unfitting
      : ¬ ∃ dataLength,
          octets.word? (Header.size + length + 8) = some dataLength
          ∧ octets.length = Header.size + length + 10 + dataLength.toNat)
    : ∃ stopped, (Request.fresh octets capacity).scan EncodedName.skip = .misfit stopped := by
  rw [scan_fresh_of_name capacity name]
  cases read : RecordFields.readLast octets octets.length (.ofNat (Header.size + length)) with
  | error fault stopped => exact ⟨stopped, rfl⟩
  | ok record stopped =>
      obtain ⟨found, _⟩ :=
        (readLast_eq_ok_iff_recordEndsAfter range (position_nameEnd range name)).mp read
      exact absurd ⟨record.dataLength, found.dataLength, found.end_eq⟩ unfitting

theorem scan_fresh_of_record {record : RecordFields} (name : octets.NameAfterHeader length)
    (found : octets.RecordEndsAfter length record)
    : ∃ nameEnd stopped : Cursor,
        (Request.fresh octets capacity).scan EncodedName.skip = .entry record nameEnd stopped
        ∧ nameEnd.position = Header.size + length
        ∧ stopped.position = octets.length := by
  have start := position_nameEnd range name
  have read := (readLast_eq_ok_iff_recordEndsAfter range start).mpr ⟨found, rfl⟩
  refine ⟨_, _, ?_, start, (RecordFields.readLast_eq_ok_iff.mp read).2.2⟩
  rw [scan_fresh_of_name capacity name, read]

end Search

-----------------------------------------------------------------------------------------
-- Handling leaves what the outcome says
-----------------------------------------------------------------------------------------

/-- Whichever outcome applies, handling does what it says, by cases on the outcome. -/
theorem Applies.leaves {octets : Octets} {capacity : Nat} {policy : Policy}
    (range : octets.length < Cursor.maximum) {outcome : FirstOutcome}
    (h : outcome.Applies octets capacity policy)
    : outcome.Leaves octets capacity
        ((Request.fresh octets capacity).handle policy EncodedName.skip).1
        ((Request.fresh octets capacity).handle policy EncodedName.skip).2 := by
  have roomy : (Request.fresh octets capacity).answer.capacity = capacity :=
    Answer.capacity_empty capacity
  cases outcome with
  | nameless =>
      rw [(Request.Handled.nameless (scan_fresh_of_absent capacity h)).eq]
      exact ⟨rfl, Request.responseCode_malformed .., rfl⟩
  | misfit length =>
      obtain ⟨stopped, found⟩ := scan_fresh_of_misfit capacity range h.1 h.2
      rw [(Request.Handled.misfit found).eq]
      exact ⟨rfl, Request.responseCode_malformed .., stopped, rfl⟩
  | refused length record =>
      obtain ⟨name, fields, declined⟩ := h
      obtain ⟨nameEnd, stopped, found, _, last⟩ := scan_fresh_of_record capacity range name fields
      rw [← RecordFields.recordType?_eq_a_iff] at declined
      rw [(Request.Handled.refused found declined).eq]
      exact ⟨rfl, stopped, last, rfl⟩
  | overflow length record =>
      obtain ⟨name, fields, approved, long⟩ := h
      obtain ⟨nameEnd, stopped, found, start, last⟩ :=
        scan_fresh_of_record capacity range name fields
      have address := approved.1
      rw [← RecordFields.recordType?_eq_a_iff] at approved
      rw [(Request.Handled.overflow found approved (by omega) (by omega)).eq]
      refine ⟨rfl, stopped, last, ?_⟩
      rw [Request.accepted, address]
      rfl
  | copied length record =>
      obtain ⟨name, fields, approved, fits⟩ := h
      obtain ⟨nameEnd, stopped, found, start, last⟩ :=
        scan_fresh_of_record capacity range name fields
      have address := approved.1
      rw [← RecordFields.recordType?_eq_a_iff] at approved
      rw [(Request.Handled.copied found approved (by omega) (by omega)).eq]
      have copiedLength : (octets.window Header.size (Header.size + length)).length = length := by
        rw [Octets.length_window, Nat.min_eq_left name.1, Nat.add_sub_cancel_left]
      refine ⟨rfl,
        (Answer.empty capacity).overwrite (octets.window Header.size (Header.size + length)),
        ?_, Answer.content_overwrite .., ?_⟩
      · rw [Answer.capacity_overwrite (by rwa [copiedLength, Answer.capacity_empty]),
          Answer.capacity_empty]
      · simp only [Request.copied, Request.accepted, Request.report, Request.decoded, address,
          start, Nat.add_sub_cancel_left, roomy, octets_fresh]
        rfl

end FirstOutcome

/-- Exactly one outcome applies to the first handling of a message, and that is what happens. The
octets may be as many as a cursor can count without meeting its largest position.
-/
theorem firstHandling_classified (octets : Octets) (capacity : Nat) (policy : Policy)
    (range : octets.length < Cursor.maximum)
    : (∃! outcome : FirstOutcome, outcome.Applies octets capacity policy)
      ∧ ∀ outcome : FirstOutcome,
          outcome.Applies octets capacity policy
          → outcome.Leaves octets capacity
              ((Request.fresh octets capacity).handle policy EncodedName.skip).1
              ((Request.fresh octets capacity).handle policy EncodedName.skip).2 := by
  constructor
  · obtain ⟨outcome, applies⟩ := FirstOutcome.exists_applies octets capacity policy
    exact ⟨outcome, applies, fun other applies' => applies'.unique applies⟩
  · intro outcome applies
    exact applies.leaves range

/-- A name of one label and a pointer is copied whole to an answer that it fills. -/
theorem firstHandling_label_then_pointer
    : let octets : Octets := List.replicate 12 0 ++ [1, 97, 0xC0, 12, 0, 1, 0, 1, 0, 0, 0, 0, 0, 0]
      let outcome : FirstOutcome := .copied 4 ⟨1, 1, 0⟩
      octets.length < Cursor.maximum
      ∧ outcome.Applies octets 4 ⟨true⟩
      ∧ outcome.Leaves octets 4
          ((Request.fresh octets 4).handle ⟨true⟩ EncodedName.skip).1
          ((Request.fresh octets 4).handle ⟨true⟩ EncodedName.skip).2 := by
  intro octets outcome
  have range : octets.length < Cursor.maximum := by decide
  have name : octets.NameAfterHeader 4 :=
    ⟨by decide, .label 1 [97] [0xC0, 12] (by decide) (by decide) rfl (.pointer 0xC0 12 (by decide))⟩
  have applies : outcome.Applies octets 4 ⟨true⟩ :=
    ⟨name, ⟨rfl, rfl, rfl, rfl⟩, ⟨rfl, rfl⟩, Nat.le_refl 4⟩
  exact ⟨range, applies, (firstHandling_classified octets 4 ⟨true⟩ range).2 outcome applies⟩

end InverseQuery
