import InverseQuery.Proofs.RecordReading

/-! Where reading the fields of a record stops, in exact numbers, and reading back what was written.
Wherever a message ends too early, reading stops at the first word that is not there. A record that
stands somewhere in a message is read from there, whatever its neighbours are.
-/

namespace InverseQuery

namespace Octets

theorem exists_word? {octets : Octets} {position : Nat} (room : position + 2 ≤ octets.length)
    : ∃ word, octets.word? position = some word :=
  Option.isSome_iff_exists.mp ((word?_isSome_iff octets position).mpr room)

theorem exists_wordBefore? {message : Octets} {limit position : Nat}
    (room : position + 2 ≤ min limit message.length)
    : ∃ word, message.wordBefore? limit position = some word := by
  rw [wordBefore?_of_le room]
  exact exists_word? (Nat.le_trans room (Nat.min_le_right ..))

/-- A written word is read at its distance from the start of whatever it is part of. -/
theorem word?_written (before passed : Octets) (word : UInt16) (rest : Octets)
    : (before ++ (passed ++ (ofWord word ++ rest))).word? (before.length + passed.length)
      = some word := by
  have first := word?_append_left passed (ofWord word ++ rest) 0
  rw [Nat.add_zero, word?_ofWord_append] at first
  rw [word?_append_left, first]

end Octets

/-- Nothing that starts in a message and is no longer than one meets the largest position. -/
theorem Cursor.position_advance_of_longest {cursor : Cursor} {count : Nat}
    (start : cursor.position ≤ Octets.longest) (short : count ≤ Octets.longest)
    : (cursor.advance count).position = cursor.position + count := by
  apply position_advance_of_le
  unfold Octets.longest at start short
  unfold maximum
  omega

-----------------------------------------------------------------------------------------
-- The first word that is missing
-----------------------------------------------------------------------------------------

namespace RecordFields

/-- Reading fails for want of the word that is `passed` octets after the cursor, and leaves the
cursor there.
-/
def StopsAfter (message : Octets) (limit : Nat) (cursor : Cursor) (passed : Nat) : Prop :=
  ∃ stopped : Cursor,
    stopped.position = cursor.position + passed
    ∧ read message limit cursor = .error (.truncated (cursor.position + passed) 2) stopped

section Stops

variable {message : Octets} {limit : Nat} {cursor : Cursor}

theorem stopsAfter_of_missing {passed : Nat}
    (missed : read message limit cursor = missing (cursor.advance passed))
    (position : (cursor.advance passed).position = cursor.position + passed)
    : StopsAfter message limit cursor passed := by
  refine ⟨cursor.advance passed, position, ?_⟩
  rw [missed, missing, position]

/-- Without room for the type nothing is read. -/
theorem stopsAfter_type (short : min limit message.length < cursor.position + 2)
    : StopsAfter message limit cursor 0 := by
  apply stopsAfter_of_missing
  · rw [read_eq, Octets.wordBefore?_eq_none_iff.mpr short, Cursor.advance_zero]
  · rw [Cursor.advance_zero, Nat.add_zero]

variable (range : message.length ≤ Octets.longest)
include range

/-- Without room for the class only the type is read. -/
theorem stopsAfter_class (room : cursor.position + 2 ≤ min limit message.length)
    (short : min limit message.length < cursor.position + 4)
    : StopsAfter message limit cursor 2 := by
  have position : (cursor.advance 2).position = cursor.position + 2 :=
    Cursor.position_advance_of_longest (by omega) (by decide)
  apply stopsAfter_of_missing ?_ position
  obtain ⟨typeCode, typed⟩ := Octets.exists_wordBefore? room
  have classed : message.wordBefore? limit (cursor.advance 2).position = none :=
    Octets.wordBefore?_eq_none_iff.mpr (by omega)
  simp only [read_eq, typed, classed]

/-- Without room for the data length reading stops after the time to live, also where that itself
is cut short.
-/
theorem stopsAfter_ttl (room : cursor.position + 4 ≤ min limit message.length)
    (short : min limit message.length < cursor.position + 10)
    : StopsAfter message limit cursor 8 := by
  have position' : (cursor.advance 2).position = cursor.position + 2 :=
    Cursor.position_advance_of_longest (by omega) (by decide)
  have position : (cursor.advance 8).position = cursor.position + 8 :=
    Cursor.position_advance_of_longest (by omega) (by decide)
  apply stopsAfter_of_missing ?_ position
  obtain ⟨typeCode, typed⟩ : ∃ word, message.wordBefore? limit cursor.position = some word :=
    Octets.exists_wordBefore? (by omega)
  obtain ⟨classCode, classed⟩
      : ∃ word, message.wordBefore? limit (cursor.advance 2).position = some word :=
    Octets.exists_wordBefore? (by omega)
  have sized : message.wordBefore? limit (cursor.advance 8).position = none :=
    Octets.wordBefore?_eq_none_iff.mpr (by omega)
  simp only [read_eq, typed, classed, sized]

/-- The fields at a cursor are read, and the data are passed over. -/
structure ReadsTo (message : Octets) (limit : Nat) (cursor : Cursor) (fields : RecordFields)
    (next : Cursor) : Prop where
  read_eq : read message limit cursor = .ok fields next
  position_eq : next.position = cursor.position + 10 + fields.dataLength.toNat

/-- With room for all the words reading succeeds with these. -/
theorem readsTo_of_words (room : cursor.position + 10 ≤ min limit message.length)
    {fields : RecordFields} (typed : message.word? cursor.position = some fields.typeCode)
    (classed : message.word? (cursor.position + 2) = some fields.classCode)
    (sized : message.word? (cursor.position + 8) = some fields.dataLength)
    : ReadsTo message limit cursor fields (cursor.advance (10 + fields.dataLength.toNat)) := by
  have range' : message.length ≤ Cursor.maximum := Nat.le_trans range (by decide)
  have found : At message limit cursor fields := (at_iff range').mpr ⟨room, typed, classed, sized⟩
  have small := fields.dataLength.toNat_lt
  have position : (cursor.advance (10 + fields.dataLength.toNat)).position
      = cursor.position + (10 + fields.dataLength.toNat) :=
    Cursor.position_advance_of_longest (by omega) (by unfold Octets.longest; omega)
  exact ⟨read_eq_ok_iff.mpr ⟨found, rfl⟩, by rw [position, Nat.add_assoc]⟩

theorem exists_readsTo (room : cursor.position + 10 ≤ min limit message.length)
    : ∃ fields next,
        ReadsTo message limit cursor fields next
        ∧ message.word? cursor.position = some fields.typeCode
        ∧ message.word? (cursor.position + 2) = some fields.classCode
        ∧ message.word? (cursor.position + 8) = some fields.dataLength := by
  obtain ⟨typeCode, typed⟩ : ∃ word, message.word? cursor.position = some word :=
    Octets.exists_word? (by omega)
  obtain ⟨classCode, classed⟩ : ∃ word, message.word? (cursor.position + 2) = some word :=
    Octets.exists_word? (by omega)
  obtain ⟨dataLength, sized⟩ : ∃ word, message.word? (cursor.position + 8) = some word :=
    Octets.exists_word? (by omega)
  exact ⟨⟨typeCode, classCode, dataLength⟩, _, readsTo_of_words range room typed classed sized,
    typed, classed, sized⟩

end Stops

end RecordFields

-----------------------------------------------------------------------------------------
-- A written record is read back
-----------------------------------------------------------------------------------------

namespace RecordBody

theorem toNat_dataLength (body : RecordBody) : body.fields.dataLength.toNat = body.data.length :=
  UInt16.toNat_ofNat_of_lt' (Nat.lt_succ_of_le body.data_length_le)

/-- The words of a written record stand at their distances from its start. -/
theorem words_encode (before : Octets) (body : RecordBody) (following : Octets)
    : let octets := before ++ body.encode ++ following
      octets.word? before.length = some body.typeCode
      ∧ octets.word? (before.length + 2) = some body.classCode
      ∧ octets.word? (before.length + 8) = some body.fields.dataLength := by
  intro octets
  have shape : octets
      = before ++ (Octets.ofWord body.typeCode
          ++ (Octets.ofWord body.classCode
            ++ (body.ttl ++ (Octets.ofWord body.fields.dataLength
              ++ (body.data ++ following))))) := by
    simp only [octets, encode, List.append_assoc]
  have passed : (Octets.ofWord body.typeCode ++ (Octets.ofWord body.classCode ++ body.ttl)).length
      = 8 := by
    simp only [List.length_append, Octets.length_ofWord, body.ttl_length, RecordFields.ttlSize]
  refine ⟨?_, ?_, ?_⟩
  · rw [shape]
    exact Octets.word?_written before [] body.typeCode _
  · rw [shape]
    exact Octets.word?_written before (Octets.ofWord body.typeCode) body.classCode _
  · have written := Octets.word?_written before
      (Octets.ofWord body.typeCode ++ (Octets.ofWord body.classCode ++ body.ttl))
      body.fields.dataLength (body.data ++ following)
    rw [passed] at written
    rw [shape, ← written]
    simp only [List.append_assoc]

end RecordBody

namespace RecordFields

/-- A record that is written somewhere in a message is read back from there, as soon as the limit
admits its words. It is the last record exactly if the limit is where its data end.
-/
theorem readsTo_encode {before following : Octets} {body : RecordBody} {limit : Nat}
    {cursor : Cursor} (range : (before ++ body.encode ++ following).length ≤ Octets.longest)
    (start : cursor.position = before.length) (room : before.length + 10 ≤ limit)
    : ∃ next,
        ReadsTo (before ++ body.encode ++ following) limit cursor body.fields next
        ∧ next.position = before.length + 10 + body.data.length
        ∧ (next.requireAt limit = .ok () ↔ limit = next.position) := by
  obtain ⟨typed, classed, sized⟩ := body.words_encode before following
  have inside : cursor.position + 10 ≤ min limit (before ++ body.encode ++ following).length := by
    simp only [List.length_append, body.length_encode]
    omega
  rw [← start] at typed classed sized
  have reads := readsTo_of_words range inside typed classed sized
  refine ⟨_, reads, ?_, ?_⟩
  · rw [reads.position_eq, body.toNat_dataLength, start]
  · rw [Cursor.requireAt]
    split
    next last => exact iff_of_true rfl last.symm
    next notLast => exact iff_of_false (by simp) (Ne.symm notLast)

/-- Reading the fields of a record stops exactly in front of the first word that does not end in
time, and otherwise gives the three words and stands after the data, which no position saturates. So
a record that is written anywhere is read back, and only its own end makes it the last one.
-/
theorem read_exactly
    : (∀ (message : Octets) (limit : Nat) (cursor : Cursor),
          message.length ≤ Octets.longest
          → let bound := min limit message.length
            let start := cursor.position
            (bound < start + 2 → StopsAfter message limit cursor 0)
            ∧ (start + 2 ≤ bound → bound < start + 4 → StopsAfter message limit cursor 2)
            ∧ (start + 4 ≤ bound → bound < start + 10 → StopsAfter message limit cursor 8)
            ∧ (start + 10 ≤ bound
              → ∃ fields next,
                  ReadsTo message limit cursor fields next
                  ∧ message.word? start = some fields.typeCode
                  ∧ message.word? (start + 2) = some fields.classCode
                  ∧ message.word? (start + 8) = some fields.dataLength))
      ∧ ∀ (before : Octets) (body : RecordBody) (following : Octets) (limit : Nat)
          (cursor : Cursor),
          (before ++ body.encode ++ following).length ≤ Octets.longest
          → cursor.position = before.length
          → before.length + 10 ≤ limit
          → ∃ next,
              ReadsTo (before ++ body.encode ++ following) limit cursor body.fields next
              ∧ next.position = before.length + 10 + body.data.length
              ∧ (next.requireAt limit = .ok () ↔ limit = next.position) := by
  constructor
  · intro message limit cursor range bound start
    exact ⟨stopsAfter_type, stopsAfter_class range, stopsAfter_ttl range, exists_readsTo range⟩
  · intro before body following limit cursor range start room
    exact readsTo_encode range start room

/-- A cut in the time to live stops the reading after it, and a record with four octets of data is
read back between its neighbours and ends where its data do.
-/
theorem read_exactly_cut_and_whole
    : let cut : Octets := [0, 1, 0, 1, 0, 0]
      let body : RecordBody := ⟨1, 1, [0, 0, 14, 16], [192, 0, 2, 1], rfl, by decide⟩
      let whole : Octets := [7] ++ body.encode ++ [0xC0, 12]
      (cut.length ≤ Octets.longest ∧ StopsAfter cut 9 (.ofNat 0) 8)
      ∧ whole.length ≤ Octets.longest
      ∧ ∃ next,
          ReadsTo whole 15 (.ofNat 1) body.fields next
          ∧ next.position = 15
          ∧ next.requireAt 15 = .ok () := by
  intro cut body whole
  have range : cut.length ≤ Octets.longest := by decide
  have range' : whole.length ≤ Octets.longest := by decide
  obtain ⟨stops, reads⟩ := read_exactly
  obtain ⟨_, _, inTtl, _⟩ := stops cut 9 (.ofNat 0) range
  obtain ⟨next, read, position, last⟩ :=
    reads [7] body [0xC0, 12] 15 (.ofNat 1) range' rfl (by decide)
  exact ⟨⟨range, inTtl (by decide) (by decide)⟩, range', next, read, position,
    last.mpr position.symm⟩

end RecordFields

end InverseQuery
