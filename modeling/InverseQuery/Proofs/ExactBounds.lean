import InverseQuery.Proofs.HandlingFrame
import InverseQuery.Proofs.RecordDecoding

/-! The check of the bounds against exact numbers, for every length that a name is said to have.
Positions stop at a largest one, and the limit may be that position. Still a record is only accepted
where the sums without any bound say that it ends at the limit, and then no position was stopped.
-/

namespace InverseQuery

namespace Cursor

/-- A cursor that did not come to the largest position was not stopped on the way. -/
theorem position_advance_of_lt {cursor : Cursor} {count : Nat}
    (before : (cursor.advance count).position < maximum)
    : (cursor.advance count).position = cursor.position + count := by
  rw [position_advance] at before ⊢
  omega

end Cursor

/-- A record whose data end at the limit is the last one. -/
theorem RecordFields.ReadsTo.readLast {message : Octets} {limit : Nat} {cursor next : Cursor}
    {fields : RecordFields} (h : ReadsTo message limit cursor fields next)
    (last : next.position = limit)
    : RecordFields.readLast message limit cursor = .ok fields next := by
  rw [readLast_eq, h.read_eq]
  exact if_pos last

/-- The difference of a length and a word does not wrap around in 64 bits. -/
theorem toInt_length_sub_word {length : Nat} (word : UInt16)
    (short : length ≤ Octets.longest)
    : (Int64.ofNat length - Int64.ofNat word.toNat).toInt = length - word.toNat := by
  have small := word.toNat_lt
  have inRange : length < 2 ^ 63 := Nat.lt_succ_of_le short
  rw [Int64.toInt_sub, Int64.toInt_ofNat_of_lt inRange, Int64.toInt_ofNat_of_lt (by omega)]
  apply Int.bmod_eq_of_le <;> omega

namespace Request

/-- Handling gets past the check of the bounds: it refuses the request, hands it back or reports
that the query was accepted.
-/
def PassesBounds (request : Request) (policy : Policy) (skipName : NameSkipper) : Prop :=
  (request.handle policy skipName).1 = .refuse
  ∨ (request.handle policy skipName).1 = .handBack
  ∨ ∃ classCode typeCode, .accepted classCode typeCode ∈ request.addedNotices policy skipName

/-- In exact numbers the fields after a name of `length` octets end inside the message, and
`dataLength` more octets end at the limit.
-/
structure EndsExactly (request : Request) (length : Nat) (dataLength : UInt16) : Prop where
  room : request.cursor.position + length + 10 ≤ min request.limit request.message.length
  word : request.message.octets.word? (request.cursor.position + length + 8) = some dataLength
  exact : request.cursor.position + length + 10 + dataLength.toNat = request.limit

-----------------------------------------------------------------------------------------
-- The search finds a record exactly where the sums do
-----------------------------------------------------------------------------------------

variable {request : Request} {policy : Policy} {skipName : NameSkipper}

/-- The check is passed exactly if a record was found, by cases on the exit. -/
theorem passesBounds_iff_record
    : request.PassesBounds policy skipName
      ↔ ∃ record, (request.scan skipName).record? = some record := by
  obtain ⟨exit, verdict, added, frame⟩ := request.exists_exit policy skipName
  rw [PassesBounds, verdict, added, ← frame.reads.record?_eq]
  cases exit <;>
    simp [HandlingExit.verdict, HandlingExit.notices, HandlingExit.record?]

section Skipped

variable {length : Nat} (range : request.message.length ≤ Octets.longest)
include range

/-- Where the sums say that a record ends at the limit it is read up to there, and no position on the
way is a stopped one.
-/
theorem EndsExactly.readsTo {dataLength : UInt16} (h : request.EndsExactly length dataLength)
    : ∃ record stopped,
        RecordFields.ReadsTo request.message.octets request.limit (request.cursor.advance length)
          record stopped
        ∧ record.dataLength = dataLength
        ∧ stopped.position = request.limit
        ∧ ∀ passed ≤ 10 + dataLength.toNat,
            ((request.cursor.advance length).advance passed).position
            = request.cursor.position + length + passed := by
  obtain ⟨room, word, exact⟩ := h
  have inside : request.cursor.position + length ≤ Octets.longest := by omega
  have nameEnd : (request.cursor.advance length).position = request.cursor.position + length :=
    Cursor.position_advance_of_le (Nat.le_trans inside (by decide))
  rw [← Message.length_octets] at range room
  rw [← nameEnd] at room word inside ⊢
  obtain ⟨record, stopped, reads, _, _, found⟩ := RecordFields.exists_readsTo range room
  obtain rfl : record.dataLength = dataLength := Option.some.inj (found.symm.trans word)
  refine ⟨record, stopped, reads, rfl, ?_, ?_⟩
  · rw [reads.position_eq, nameEnd, exact]
  · intro passed few
    have small := record.dataLength.toNat_lt
    apply Cursor.position_advance_of_longest inside
    unfold Octets.longest
    omega

variable
  (skipped : skipName request.message.octets request.cursor.position request.limit = .ok length)
include skipped

/-- A record that was found ends where the sums say, since no position was stopped on the way. -/
theorem endsExactly_of_entry {record : RecordFields} {nameEnd stopped : Cursor}
    (found : request.scan skipName = .entry record nameEnd stopped)
    : nameEnd.position = request.cursor.position + length
      ∧ request.EndsExactly length record.dataLength := by
  obtain ⟨length', skipped', rfl, read⟩ := Scan.ofOctets_eq_entry_iff.mp found
  obtain rfl : length = length' := Except.ok.inj (skipped.symm.trans skipped')
  obtain ⟨fields, rfl, last⟩ := RecordFields.readLast_eq_ok_iff.mp read
  rw [← Message.length_octets] at range
  obtain ⟨room, _, _, word⟩ :=
    (RecordFields.at_iff (Nat.le_trans range (by decide))).mp fields
  have inside : (request.cursor.advance length).position < Octets.longest := by omega
  have nameEnd : (request.cursor.advance length).position = request.cursor.position + length :=
    Cursor.position_advance_of_lt (Nat.lt_trans inside (by decide))
  have small := record.dataLength.toNat_lt
  have short : 10 + record.dataLength.toNat ≤ Octets.longest := by
    unfold Octets.longest
    omega
  have dataEnd := Cursor.position_advance_of_longest (Nat.le_of_lt inside) short
  rw [nameEnd] at room word dataEnd
  rw [Message.length_octets] at room
  exact ⟨nameEnd, room, word, by omega⟩

/-- So that record is found. -/
theorem EndsExactly.exists_record {dataLength : UInt16} (h : request.EndsExactly length dataLength)
    : ∃ record, (request.scan skipName).record? = some record := by
  obtain ⟨record, stopped, reads, _, last, _⟩ := h.readsTo range
  rw [scan, Scan.ofOctets_of_ok skipped, reads.readLast last]
  exact ⟨record, rfl⟩

theorem passesBounds_iff_endsExactly
    : request.PassesBounds policy skipName
      ↔ ∃ dataLength, request.EndsExactly length dataLength := by
  rw [passesBounds_iff_record]
  constructor
  · intro h
    obtain ⟨record, found⟩ := h
    obtain ⟨nameEnd, stopped, found⟩ := Scan.exists_of_record? found
    exact ⟨record.dataLength, (endsExactly_of_entry range skipped found).2⟩
  · intro h
    obtain ⟨dataLength, ends⟩ := h
    exact ends.exists_record range skipped

omit range in
/-- A request whose name has a length and that does not pass the check is found to be a misfit. -/
theorem handle_of_not_passesBounds (fails : ¬ request.PassesBounds policy skipName)
    : (request.handle policy skipName).1 = .finish
      ∧ request.addedNotices policy skipName = [.lengthOff]
      ∧ (request.handle policy skipName).2.responseCode = .formatError := by
  rw [passesBounds_iff_record] at fails
  cases found : request.scan skipName with
  | nameless =>
      obtain ⟨fault, failed⟩ := Scan.ofOctets_eq_nameless_iff.mp found
      cases skipped.symm.trans failed
  | misfit stopped =>
      rw [addedNotices, (Handled.misfit found).eq]
      exact ⟨rfl, List.drop_left, responseCode_malformed _ _⟩
  | entry record nameEnd stopped => exact absurd ⟨record, congrArg Scan.record? found⟩ fails

/-- A copied name comes with the exact distance of its end and the start of the data, which also
64 bits hold.
-/
theorem EndsExactly.dataOffset {dataLength : UInt16} (h : request.EndsExactly length dataLength)
    {copied room : Nat} (copying : .copying copied room ∈ request.addedNotices policy skipName)
    : ∃ extraction,
        (request.handle policy skipName).2.extraction = some extraction
        ∧ extraction.length = copied
        ∧ extraction.dataOffset
          = (request.cursor.position + length : Nat) - Header.size - dataLength.toNat
        ∧ (Int64.ofNat extraction.length - Int64.ofNat dataLength.toNat).toInt
          = extraction.dataOffset := by
  obtain ⟨exit, _, added, frame⟩ := request.exists_exit policy skipName
  rw [added] at copying
  cases exit with
  | copied record copied' room' =>
      obtain ⟨rfl, rfl⟩ : copied = copied' ∧ room = room' := by
        simpa [HandlingExit.notices] using copying
      obtain ⟨nameEnd, stopped, found, position, _⟩ := frame.reads
      obtain ⟨position', ends⟩ := endsExactly_of_entry range skipped found
      obtain rfl : record.dataLength = dataLength := Option.some.inj (ends.word.symm.trans h.word)
      have inside := h.room
      refine ⟨_, (frame.answered record copied room rfl).extraction, rfl, ?_, ?_⟩
      · change (copied : Int) - _ = _
        omega
      · exact toInt_length_sub_word _ (show copied ≤ Octets.longest by omega)
  | _ => simp [HandlingExit.notices] at copying

end Skipped

/-- Once a name is said to have some length, the check of the bounds is passed exactly if the sums
without any bound say that the record ends at the limit. Then every position on the way is the exact
one, the check is made at the limit, and the offset that comes with a copy is exact too. Otherwise
handling reports that the length is off.
-/
theorem passesBounds_exactly (policy : Policy) {length : Nat}
    (range : request.message.length ≤ Octets.longest)
    (skipped : skipName request.message.octets request.cursor.position request.limit = .ok length)
    : (request.PassesBounds policy skipName ↔ ∃ dataLength, request.EndsExactly length dataLength)
      ∧ (∀ dataLength,
          request.EndsExactly length dataLength
          → (∃ record stopped,
              RecordFields.ReadsTo request.message.octets request.limit
                (request.cursor.advance length) record stopped
              ∧ record.dataLength = dataLength
              ∧ stopped.position = request.limit
              ∧ ∀ passed ≤ 10 + dataLength.toNat,
                  ((request.cursor.advance length).advance passed).position
                  = request.cursor.position + length + passed)
            ∧ ∀ copied room,
                .copying copied room ∈ request.addedNotices policy skipName
                → ∃ extraction,
                    (request.handle policy skipName).2.extraction = some extraction
                    ∧ extraction.length = copied
                    ∧ extraction.dataOffset
                      = (request.cursor.position + length : Nat) - Header.size
                        - dataLength.toNat
                    ∧ (Int64.ofNat extraction.length - Int64.ofNat dataLength.toNat).toInt
                      = extraction.dataOffset)
      ∧ (¬ request.PassesBounds policy skipName
        → (request.handle policy skipName).1 = .finish
          ∧ request.addedNotices policy skipName = [.lengthOff]
          ∧ (request.handle policy skipName).2.responseCode = .formatError) := by
  refine ⟨passesBounds_iff_endsExactly range skipped, ?_, handle_of_not_passesBounds skipped⟩
  intro dataLength ends
  exact ⟨ends.readsTo range, fun _ _ => ends.dataOffset range skipped⟩

/-- A label is copied with the offset of the end of its name. A name that is said to be as long as
positions go is not accepted at the largest position, although the cursor is stopped at the limit.
-/
theorem passesBounds_exactly_at_largest_position
    : let octets : Octets := List.replicate 12 0 ++ [1, 97, 0, 0, 1, 0, 1, 0, 0, 0, 0, 0, 0]
      let said (length : Nat) : NameSkipper := fun _ _ _ => .ok length
      let request := Request.fresh octets 4
      let last := { request with cursor := .ofNat Cursor.maximum, limit := Cursor.maximum }
      (request.PassesBounds ⟨true⟩ (said 3)
        ∧ ∃ extraction,
            (request.handle ⟨true⟩ (said 3)).2.extraction = some extraction
            ∧ extraction.dataOffset = 3)
      ∧ ((last.cursor.advance Cursor.maximum).position = last.limit
        ∧ ¬ last.PassesBounds ⟨true⟩ (said Cursor.maximum)
        ∧ last.addedNotices ⟨true⟩ (said Cursor.maximum) = [.lengthOff]) := by
  intro octets said request last
  have range : request.message.length ≤ Octets.longest := by decide
  have skipped
      : said 3 request.message.octets request.cursor.position request.limit = .ok 3 := rfl
  have skipped'
      : said Cursor.maximum last.message.octets last.cursor.position last.limit
        = .ok Cursor.maximum := rfl
  have ends : request.EndsExactly 3 0 := ⟨by decide, by decide, by decide⟩
  have copying : .copying 3 4 ∈ request.addedNotices ⟨true⟩ (said 3) := by decide +kernel
  obtain ⟨passes, exact, _⟩ := passesBounds_exactly ⟨true⟩ range skipped
  obtain ⟨passes', _, fails⟩ :=
    passesBounds_exactly ⟨true⟩ (show last.message.length ≤ Octets.longest from range) skipped'
  obtain ⟨extraction, given, _, offset, _⟩ := (exact 0 ends).2 3 4 copying
  have unfit : ¬ last.PassesBounds ⟨true⟩ (said Cursor.maximum) := by
    rw [passes']
    intro ends
    obtain ⟨dataLength, ends⟩ := ends
    exact absurd ends.room (by decide)
  exact ⟨⟨passes.mpr ⟨0, ends⟩, extraction, given, offset⟩, by decide, unfit,
    (fails unfit).2.1⟩

end Request

end InverseQuery
