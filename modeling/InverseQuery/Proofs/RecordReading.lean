import InverseQuery.Wire.RecordFields

/-! What reading the fields of a record gives, and where it leaves the cursor.
All of it is determined by the words at three positions, so two messages with the same words there
are read alike.
-/

namespace InverseQuery

-----------------------------------------------------------------------------------------
-- Where a cursor stands after it was moved on
-----------------------------------------------------------------------------------------

namespace Cursor

theorem position_advance (cursor : Cursor) (count : Nat)
    : (cursor.advance count).position = min (cursor.position + count) maximum := rfl

theorem position_advance_of_le {cursor : Cursor} {count : Nat}
    (h : cursor.position + count ≤ maximum)
    : (cursor.advance count).position = cursor.position + count :=
  Nat.min_eq_left h

/-- Advancing twice is advancing by the sum, also where the largest position is met. -/
theorem advance_advance (cursor : Cursor) (first second : Nat)
    : (cursor.advance first).advance second = cursor.advance (first + second) := by
  apply eq_of_position
  simp only [position_advance]
  omega

end Cursor

namespace Octets

/-- The word at `position`, when it ends at or before `limit` and inside the octets. -/
def wordBefore? (message : Octets) (limit position : Nat) : Option UInt16 :=
  if position + 2 ≤ limit then message.word? position else none

/-- A word that was found leaves room for both of its octets. -/
theorem le_of_wordBefore? {message : Octets} {limit position : Nat} {word : UInt16}
    (h : message.wordBefore? limit position = some word)
    : position + 2 ≤ min limit message.length := by
  unfold wordBefore? at h
  split at h
  next before =>
    have inside := (word?_isSome_iff message position).mp (Option.isSome_of_eq_some h)
    exact Nat.le_min.mpr ⟨before, inside⟩
  next => cases h

theorem wordBefore?_of_le {message : Octets} {limit position : Nat}
    (h : position + 2 ≤ min limit message.length)
    : message.wordBefore? limit position = message.word? position :=
  if_pos (Nat.le_trans h (Nat.min_le_left ..))

theorem wordBefore?_eq_none_iff {message : Octets} {limit position : Nat}
    : message.wordBefore? limit position = none
      ↔ min limit message.length < position + 2 := by
  constructor
  · intro h
    apply Nat.lt_of_not_le
    intro room
    have found := (word?_isSome_iff message position).mpr (Nat.le_trans room (Nat.min_le_right ..))
    rw [← wordBefore?_of_le room, h] at found
    cases found
  · intro short
    cases h : message.wordBefore? limit position with
    | none => rfl
    | some word => exact absurd (le_of_wordBefore? h) (Nat.not_le.mpr short)

end Octets

/-- Reading a word gives the word at the cursor and moves past it, or moves nowhere. -/
theorem Cursor.readWord_eq (message : Octets) (limit : Nat) (cursor : Cursor)
    : readWord message limit cursor
      = match message.wordBefore? limit cursor.position with
        | some word => .ok word (cursor.advance 2)
        | none => .error (.truncated cursor.position 2) cursor := by
  unfold readWord Octets.wordBefore?
  split
  · cases message.word? cursor.position <;> rfl
  · rfl

-----------------------------------------------------------------------------------------
-- The fields of a record stand at fixed distances
-----------------------------------------------------------------------------------------

namespace RecordFields

/-- The outcome of reading at a cursor where a word is missing. -/
def missing (cursor : Cursor) : EStateM.Result WireFault Cursor RecordFields :=
  .error (.truncated cursor.position 2) cursor

/-- Reading looks at three words, at fixed distances from where it starts. -/
theorem read_eq (message : Octets) (limit : Nat) (cursor : Cursor)
    : read message limit cursor
      = match message.wordBefore? limit cursor.position with
        | none => missing cursor
        | some typeCode =>
            match message.wordBefore? limit (cursor.advance 2).position with
            | none => missing (cursor.advance 2)
            | some classCode =>
                match message.wordBefore? limit (cursor.advance 8).position with
                | none => missing (cursor.advance 8)
                | some dataLength =>
                    .ok ⟨typeCode, classCode, dataLength⟩
                      (cursor.advance (10 + dataLength.toNat)) := by
  have skip_apply (count : Nat) (cursor : Cursor)
      : Cursor.skip count cursor = .ok () (cursor.advance count) := rfl
  unfold read
  simp only [WireReader.bind_apply, Cursor.readWord_eq, skip_apply]
  cases message.wordBefore? limit cursor.position with
  | none => rfl
  | some typeCode =>
      dsimp only
      cases message.wordBefore? limit (cursor.advance 2).position with
      | none => rfl
      | some classCode =>
          simp only [Cursor.advance_advance, ttlSize]
          cases message.wordBefore? limit (cursor.advance 8).position with
          | none => rfl
          | some dataLength =>
            simp only [Cursor.advance_advance]
            rfl

/-- The fields that the words from a cursor on make up. -/
structure At (message : Octets) (limit : Nat) (cursor : Cursor) (fields : RecordFields)
    : Prop where
  typeCode : message.wordBefore? limit cursor.position = some fields.typeCode
  classCode : message.wordBefore? limit (cursor.advance 2).position = some fields.classCode
  dataLength : message.wordBefore? limit (cursor.advance 8).position = some fields.dataLength

/-- Reading succeeds exactly where all three words are, and passes over the data. -/
theorem read_eq_ok_iff {message : Octets} {limit : Nat} {cursor next : Cursor}
    {fields : RecordFields}
    : read message limit cursor = .ok fields next
      ↔ At message limit cursor fields
        ∧ next = cursor.advance (10 + fields.dataLength.toNat) := by
  rw [read_eq]
  constructor
  · intro h
    cases typed : message.wordBefore? limit cursor.position with
    | none => simp [typed, missing] at h
    | some typeCode =>
        cases classed : message.wordBefore? limit (cursor.advance 2).position with
        | none => simp [typed, classed, missing] at h
        | some classCode =>
            cases sized : message.wordBefore? limit (cursor.advance 8).position with
            | none => simp [typed, classed, sized, missing] at h
            | some dataLength =>
                simp only [typed, classed, sized, EStateM.Result.ok.injEq] at h
                obtain ⟨rfl, rfl⟩ := h
                exact ⟨⟨typed, classed, sized⟩, rfl⟩
  · intro h
    obtain ⟨found, rfl⟩ := h
    simp only [found.typeCode, found.classCode, found.dataLength]

/-- The last record is one whose data end at the limit. -/
theorem readLast_eq (message : Octets) (limit : Nat) (cursor : Cursor)
    : readLast message limit cursor
      = match read message limit cursor with
        | .error fault next => .error fault next
        | .ok fields next =>
            if next.position = limit then .ok fields next
            else .error (.lengthMismatch next.position limit) next := by
  unfold readLast
  rw [WireReader.bind_apply]
  cases read message limit cursor with
  | error fault next => rfl
  | ok fields next =>
      have get_apply : (get : WireReader Cursor) next = .ok next next := rfl
      simp only [WireReader.bind_apply, get_apply, Cursor.requireAt]
      split <;> rfl

/-- The last record is read exactly if its words are there and its data end at the limit. -/
theorem readLast_eq_ok_iff {message : Octets} {limit : Nat} {cursor next : Cursor}
    {fields : RecordFields}
    : readLast message limit cursor = .ok fields next
      ↔ At message limit cursor fields
        ∧ next = cursor.advance (10 + fields.dataLength.toNat)
        ∧ next.position = limit := by
  rw [← and_assoc, ← read_eq_ok_iff, readLast_eq]
  cases read message limit cursor with
  | error fault next => simp
  | ok fields next =>
      dsimp only
      split
      next last =>
        simp only [EStateM.Result.ok.injEq]
        constructor
        · intro h
          obtain ⟨rfl, rfl⟩ := h
          exact ⟨⟨rfl, rfl⟩, last⟩
        · exact And.left
      next notLast =>
        simp only [reduceCtorEq, EStateM.Result.ok.injEq, false_iff]
        intro h
        obtain ⟨⟨_, rfl⟩, last⟩ := h
        exact notLast last

/-- Messages with the same three words are read alike. -/
theorem readLast_congr {first second : Octets} {limit : Nat} {cursor : Cursor}
    (same
      : ∀ passed ∈ [0, 2, 8],
          first.wordBefore? limit (cursor.advance passed).position
          = second.wordBefore? limit (cursor.advance passed).position)
    : readLast first limit cursor = readLast second limit cursor := by
  have typed := same 0 (by simp)
  rw [Cursor.advance_zero] at typed
  have classed := same 2 (by simp)
  have sized := same 8 (by simp)
  simp only [readLast_eq, read_eq, typed, classed, sized]

/-- In a message within the range of cursors the words stand at plain distances. -/
theorem at_iff {message : Octets} {limit : Nat} {cursor : Cursor} {fields : RecordFields}
    (range : message.length ≤ Cursor.maximum)
    : At message limit cursor fields
      ↔ cursor.position + 10 ≤ min limit message.length
        ∧ message.word? cursor.position = some fields.typeCode
        ∧ message.word? (cursor.position + 2) = some fields.classCode
        ∧ message.word? (cursor.position + 8) = some fields.dataLength := by
  have plain {passed : Nat} (inside : (cursor.advance passed).position + 2 ≤ message.length)
      : (cursor.advance passed).position = cursor.position + passed := by
    rw [Cursor.position_advance] at inside ⊢
    omega
  constructor
  · intro h
    obtain ⟨typed, classed, sized⟩ := h
    have typeRoom := Octets.le_of_wordBefore? typed
    have classRoom := Octets.le_of_wordBefore? classed
    have sizeRoom := Octets.le_of_wordBefore? sized
    rw [Octets.wordBefore?_of_le typeRoom] at typed
    rw [Octets.wordBefore?_of_le classRoom, plain (by omega)] at classed
    rw [Octets.wordBefore?_of_le sizeRoom, plain (by omega)] at sized
    rw [plain (by omega)] at sizeRoom
    exact ⟨sizeRoom, typed, classed, sized⟩
  · intro h
    obtain ⟨room, typed, classed, sized⟩ := h
    have exact2 : (cursor.advance 2).position = cursor.position + 2 :=
      Cursor.position_advance_of_le (by omega)
    have exact8 : (cursor.advance 8).position = cursor.position + 8 :=
      Cursor.position_advance_of_le (by omega)
    refine ⟨?_, ?_, ?_⟩
    · rwa [Octets.wordBefore?_of_le (by omega)]
    · rwa [exact2, Octets.wordBefore?_of_le (by omega)]
    · rwa [exact8, Octets.wordBefore?_of_le (by omega)]

end RecordFields

end InverseQuery
