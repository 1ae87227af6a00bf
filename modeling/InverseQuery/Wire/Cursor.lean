import InverseQuery.Octets
import InverseQuery.Wire.Fault

/-! A position in a message, and reading from there.
Positions never pass a fixed largest one. A word is read only before the end of the message and
inside its octets; a failing read leaves the position where it was, and a skip is not checked. No
reader moves back, which takes a position that was already passed.
-/

namespace InverseQuery

/-- The largest position: sixty-four ones. -/
def Cursor.maximum : Nat := 0xFFFFFFFFFFFFFFFF

/-- A position in a message, possibly past its end. -/
structure Cursor where
  position : Nat
  position_le : position ≤ Cursor.maximum
  deriving Repr, DecidableEq

/-- One movement of a cursor. -/
inductive CursorStep where
  | readWord (limit : Nat)
  | skip (count : Nat)
  | rewind (position : Nat)
  deriving Repr, DecidableEq

/-- What a movement of a cursor gives back. -/
inductive CursorResult where
  | done
  | word (word : UInt16)
  | fault (fault : WireFault)
  | refused
  deriving Repr, DecidableEq

/-- Reading with a cursor, which keeps its position also when the reading fails. -/
abbrev WireReader := EStateM WireFault Cursor

namespace Cursor

/-- The cursor at `position`, or at the largest position if that is smaller. -/
def ofNat (position : Nat) : Cursor := ⟨min position maximum, Nat.min_le_right ..⟩

/-- The cursor `count` octets further on, stopping at the largest position. -/
def advance (cursor : Cursor) (count : Nat) : Cursor := .ofNat (cursor.position + count)

/-- The cursor at an earlier position. -/
def rewind (cursor : Cursor) (position : Nat) (earlier : position ≤ cursor.position) : Cursor where
  position := position
  position_le := Nat.le_trans earlier cursor.position_le

/-- Goes back to a position, which must not be a later one. -/
def rewind? (cursor : Cursor) (position : Nat) : Option Cursor :=
  if earlier : position ≤ cursor.position then some (cursor.rewind position earlier) else none

/-- Passes over octets without looking at them. -/
def skip (count : Nat) : WireReader Unit := modify (·.advance count)

/-- Reads a word that ends at or before `limit`. -/
def readWord (message : Octets) (limit : Nat) : WireReader UInt16 := fun cursor =>
  let missing := WireFault.truncated cursor.position 2
  if cursor.position + 2 ≤ limit then
    match message.word? cursor.position with
    | some word => .ok word (cursor.advance 2)
    | none => .error missing cursor
  else .error missing cursor

/-- Requires that the cursor stands exactly at `limit`. -/
def requireAt (limit : Nat) (cursor : Cursor) : Except WireFault Unit :=
  if cursor.position = limit then .ok () else .error (.lengthMismatch cursor.position limit)

/-- Moves the cursor over a message. -/
def step (message : Octets) (cursor : Cursor) : CursorStep → CursorResult × Cursor
  | .readWord limit =>
      match readWord message limit cursor with
      | .ok word next => (.word word, next)
      | .error fault next => (.fault fault, next)
  | .skip count => (.done, cursor.advance count)
  | .rewind position =>
      match cursor.rewind? position with
      | some next => (.done, next)
      | none => (.refused, cursor)

theorem position_ofNat {position : Nat} (h : position ≤ maximum)
    : (Cursor.ofNat position).position = position :=
  Nat.min_eq_left h

theorem eq_of_position {first second : Cursor} (h : first.position = second.position)
    : first = second := by
  cases first
  cases second
  congr

theorem rewind_eq {cursor : Cursor} {position : Nat} (earlier : position ≤ cursor.position)
    : cursor.rewind position earlier = .ofNat position :=
  eq_of_position (position_ofNat (Nat.le_trans earlier cursor.position_le)).symm

theorem rewind?_of_le {cursor : Cursor} {position : Nat} (earlier : position ≤ cursor.position)
    : cursor.rewind? position = some (cursor.rewind position earlier) :=
  dif_pos earlier

@[simp]
theorem advance_zero (cursor : Cursor) : cursor.advance 0 = cursor := by
  cases cursor with
  | mk position bound => simp [advance, Cursor.ofNat, Nat.min_eq_left bound]

theorem le_position_advance (cursor : Cursor) (count : Nat)
    : cursor.position ≤ (cursor.advance count).position :=
  Nat.le_min.mpr ⟨Nat.le_add_right .., cursor.position_le⟩

end Cursor

-----------------------------------------------------------------------------------------
-- Readers do not move back
-----------------------------------------------------------------------------------------

namespace WireReader

variable {α β : Type} {reader : WireReader α} {next : α → WireReader β}

/-- A reader after another one starts where that one stopped, unless that one failed. -/
theorem bind_apply (reader : WireReader α) (next : α → WireReader β) (cursor : Cursor)
    : (reader >>= next) cursor
      = match reader cursor with
        | .ok value cursor => next value cursor
        | .error fault cursor => .error fault cursor := by
  change EStateM.bind reader next cursor = _
  unfold EStateM.bind
  cases reader cursor <;> rfl

/-- Where a reader leaves the cursor, whether or not it fails. -/
def stop (reader : WireReader α) (cursor : Cursor) : Cursor :=
  match reader cursor with
  | .ok _ stopped => stopped
  | .error _ stopped => stopped

/-- A reader that does not move the cursor back. -/
def Forward (reader : WireReader α) : Prop :=
  ∀ cursor, cursor.position ≤ (reader.stop cursor).position

namespace Forward

variable {cursor stopped : Cursor}

theorem le_of_ok (h : Forward reader) {value : α} (read : reader cursor = .ok value stopped)
    : cursor.position ≤ stopped.position := by
  have forward := h cursor
  rwa [stop, read] at forward

theorem le_of_error (h : Forward reader) {fault : WireFault}
    (read : reader cursor = .error fault stopped)
    : cursor.position ≤ stopped.position := by
  have forward := h cursor
  rwa [stop, read] at forward

/-- Reading one part after the other does not move back if neither part does. -/
theorem bind (h : Forward reader) (h' : ∀ value, Forward (next value))
    : Forward (reader >>= next) := by
  intro cursor
  rw [stop, bind_apply]
  cases read : reader cursor with
  | ok value stopped => exact Nat.le_trans (h.le_of_ok read) (h' value stopped)
  | error fault stopped => exact h.le_of_error read

theorem pure (value : α) : Forward (Pure.pure value) := fun _ => Nat.le_refl _

theorem throw (fault : WireFault) : Forward (throw fault : WireReader α) := fun _ => Nat.le_refl _

theorem get : Forward (get : WireReader Cursor) := fun _ => Nat.le_refl _

theorem skip (count : Nat) : Forward (Cursor.skip count) :=
  fun cursor => cursor.le_position_advance count

/-- A word that is missing leaves the cursor where it was. -/
theorem readWord (message : Octets) (limit : Nat) : Forward (Cursor.readWord message limit) := by
  intro cursor
  simp only [stop, Cursor.readWord]
  by_cases before : cursor.position + 2 ≤ limit
  · rw [if_pos before]
    cases message.word? cursor.position with
    | none => exact Nat.le_refl _
    | some word => exact cursor.le_position_advance 2
  · simp only [if_neg before, Nat.le_refl]

end Forward

end WireReader

end InverseQuery
