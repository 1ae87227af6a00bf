import InverseQuery.Proofs.Scanning

/-! Which octets of a message can influence how it is handled.
Only those between the header and the end of the message count, and once a name is found only its
own and those of the type, the class and the data length. What stands anywhere else changes nothing
but the message itself.
-/

namespace InverseQuery

-----------------------------------------------------------------------------------------
-- The search sees only the octets that count
-----------------------------------------------------------------------------------------

namespace Request

/-- A name stands at the cursor, and the position belongs to the time to live of the record after it
or comes after the data length.
-/
def Ignores (request : Request) (position : Nat) : Prop :=
  ∃ length,
    EncodedName.skip request.message.octets request.cursor.position request.limit = .ok length
    ∧ (let nameEnd := request.cursor.position + length
      nameEnd + 4 ≤ position ∧ position < nameEnd + 8 ∨ nameEnd + 10 ≤ position)

/-- The positions between the header and the end of the message that are not ignored. -/
structure Heeds (request : Request) (position : Nat) : Prop where
  afterHeader : Header.size ≤ position
  beforeEnd : position < min request.limit request.message.length
  notIgnored : ¬ request.Ignores position

section Heeding

variable {request : Request} {position : Nat} (after : Header.size ≤ position)
  (before : position < min request.limit request.message.octets.length)
include after before

/-- With no name at the cursor everything up to the end of the message counts. -/
theorem heeds_of_nameless
    (nameless
      : ∀ length,
          ¬ EncodedName.At request.message.octets request.cursor.position request.limit length)
    : request.Heeds position where
  afterHeader := after
  beforeEnd := by rwa [Message.length_octets] at before
  notIgnored := by
    intro ignored
    obtain ⟨length, skipped, _⟩ := ignored
    exact nameless length (EncodedName.skip_eq_ok_iff.mp skipped)

/-- With a name at the cursor everything up to its end counts, and so do the words after it. -/
theorem heeds_of_name {length : Nat}
    (name : EncodedName.At request.message.octets request.cursor.position request.limit length)
    (near
      : position < request.cursor.position + length + 4
        ∨ request.cursor.position + length + 8 ≤ position
          ∧ position < request.cursor.position + length + 10)
    : request.Heeds position where
  afterHeader := after
  beforeEnd := by rwa [Message.length_octets] at before
  notIgnored := by
    intro ignored
    obtain ⟨length', skipped, far⟩ := ignored
    obtain rfl := name.unique (EncodedName.skip_eq_ok_iff.mp skipped)
    omega

end Heeding

/-- Requests that are the same in everything but their messages. -/
structure SameApart (first second : Request) : Prop where
  cursor : first.cursor = second.cursor
  limit : first.limit = second.limit
  remaining : first.remaining = second.remaining
  answer : first.answer = second.answer
  record : first.record = second.record
  extraction : first.extraction = second.extraction
  notices : first.notices = second.notices

/-- Requests that are the same apart from messages which agree on every octet that counts. -/
structure HeedAlike (first second : Request) : Prop where
  same : first.SameApart second
  forward : Header.size ≤ first.cursor.position
  range : first.limit ≤ Cursor.maximum
  bound
    : min first.limit first.message.octets.length = min first.limit second.message.octets.length
  agree : Octets.AgreeOn first.Heeds first.message.octets second.message.octets

namespace HeedAlike

variable {first second : Request} {length : Nat}

/-- Up to the end of a name the messages are the same. -/
theorem window_eq (h : HeedAlike first second)
    (name : EncodedName.At first.message.octets first.cursor.position first.limit length)
    {start : Nat} (after : Header.size ≤ start)
    : first.message.octets.window start (first.cursor.position + length)
      = second.message.octets.window start (first.cursor.position + length) := by
  have inside := name.1
  apply h.agree.window_eq h.bound (by omega)
  intro position later before
  exact heeds_of_name (Nat.le_trans after later) (by omega) name (by omega)

/-- So a name that stands in one message also stands in the other. -/
theorem name (h : HeedAlike first second)
    (name : EncodedName.At first.message.octets first.cursor.position first.limit length)
    : EncodedName.At second.message.octets first.cursor.position first.limit length := by
  have same := h.window_eq name h.forward
  obtain ⟨inside, derived⟩ := name
  rw [same] at derived
  exact ⟨h.bound ▸ inside, derived⟩

/-- Where no name stands, all that was searched is the same. -/
theorem skip_eq_of_nameless (h : HeedAlike first second)
    (nameless
      : ∀ length,
          ¬ EncodedName.At first.message.octets first.cursor.position first.limit length)
    : EncodedName.skip first.message.octets first.cursor.position first.limit
      = EncodedName.skip second.message.octets first.cursor.position first.limit := by
  have same : first.message.octets.window first.cursor.position first.limit
      = second.message.octets.window first.cursor.position first.limit := by
    apply h.agree.window_eq h.bound (Nat.le_refl _)
    intro position later before
    exact heeds_of_nameless (Nat.le_trans h.forward later) before nameless
  rw [EncodedName.skip, EncodedName.skip, same]

/-- The three words after a name are the same, or are missing from both messages. -/
theorem readLast_eq (h : HeedAlike first second)
    (name : EncodedName.At first.message.octets first.cursor.position first.limit length)
    : RecordFields.readLast first.message.octets first.limit (first.cursor.advance length)
      = RecordFields.readLast second.message.octets first.limit (first.cursor.advance length) := by
  have forward := h.forward
  have range := h.range
  apply RecordFields.readLast_congr
  intro passed chosen
  rw [Cursor.advance_advance, Cursor.position_advance]
  apply h.agree.wordBefore?_eq h.bound
  intro room
  -- A position that leaves room before the limit is not the largest one.
  have exact : min (first.cursor.position + (length + passed)) Cursor.maximum
      = first.cursor.position + length + passed := by
    omega
  rw [exact] at room ⊢
  have near : passed = 0 ∨ passed = 2 ∨ passed = 8 := by simpa using chosen
  exact ⟨heeds_of_name (by omega) (by omega) name (by omega),
    heeds_of_name (by omega) (by omega) name (by omega)⟩

/-- Both requests find the same, by cases on whether a name stands at the cursor. -/
theorem scan_eq (h : HeedAlike first second)
    : first.scan EncodedName.skip = second.scan EncodedName.skip := by
  rw [scan, scan, ← h.same.limit, ← h.same.cursor]
  cases skipped : EncodedName.skip first.message.octets first.cursor.position first.limit with
  | ok length =>
      have stands := EncodedName.skip_eq_ok_iff.mp skipped
      rw [Scan.ofOctets_of_ok skipped,
        Scan.ofOctets_of_ok (EncodedName.skip_eq_ok_iff.mpr (h.name stands)), h.readLast_eq stands]
  | error fault =>
      have skipped' := skipped
      rw [h.skip_eq_of_nameless (EncodedName.skip_eq_error_iff.mp skipped).1] at skipped'
      rw [Scan.ofOctets_eq_nameless_iff.mpr ⟨fault, skipped⟩,
        Scan.ofOctets_eq_nameless_iff.mpr ⟨fault, skipped'⟩]

/-- Up to the end of a name that was found before a record the messages are the same. -/
theorem window_eq_of_entry (h : HeedAlike first second) {record : RecordFields}
    {nameEnd stopped : Cursor}
    (found : first.scan EncodedName.skip = .entry record nameEnd stopped)
    : first.message.octets.window Header.size nameEnd.position
      = second.message.octets.window Header.size nameEnd.position := by
  obtain ⟨length, skipped, rfl, _⟩ := Scan.ofOctets_eq_entry_iff.mp found
  have stands := EncodedName.skip_eq_ok_iff.mp skipped
  have inside := stands.1
  have range := h.range
  rw [Cursor.position_advance_of_le (by omega)]
  exact h.window_eq stands (Nat.le_refl Header.size)

end HeedAlike

-----------------------------------------------------------------------------------------
-- Handling keeps requests the same apart from their messages
-----------------------------------------------------------------------------------------

namespace SameApart

variable {first second : Request}

theorem report (h : SameApart first second) (notice : Notice)
    : SameApart (first.report notice) (second.report notice) :=
  { h with notices := congrArg (· ++ [notice]) h.notices }

theorem malformed (h : SameApart first second) (notice : Notice)
    : SameApart (first.malformed notice) (second.malformed notice) :=
  { h with notices := congrArg (· ++ [notice]) h.notices }

theorem moved (h : SameApart first second) (cursor : Cursor)
    : SameApart { first with cursor } { second with cursor } :=
  { h with cursor := rfl }

theorem decoded (h : SameApart first second) (record : RecordFields) (stopped : Cursor)
    : SameApart (first.decoded record stopped) (second.decoded record stopped) :=
  { h with cursor := rfl, record := rfl }

theorem accepted (h : SameApart first second) (record : RecordFields) (stopped : Cursor)
    : SameApart (first.accepted record stopped) (second.accepted record stopped) :=
  (h.decoded record stopped).report _

/-- The same is copied if the messages are the same up to the end of the name. -/
theorem copied (h : SameApart first second) (record : RecordFields) {nameEnd : Nat}
    (name
      : first.message.octets.window Header.size nameEnd
        = second.message.octets.window Header.size nameEnd)
    : SameApart (first.copied record nameEnd) (second.copied record nameEnd) where
  cursor := rfl
  limit := h.limit
  remaining := congrArg (· - Header.size) h.remaining
  answer := by simp only [Request.copied, name, h.answer]
  record := h.record
  extraction := rfl
  notices := by simp only [Request.copied, h.notices, h.answer]

end SameApart

/-- Requests that find the same are handled alike, by cases on what was found. -/
theorem HeedAlike.handle {first second : Request} (h : HeedAlike first second) (policy : Policy)
    : (first.handle policy EncodedName.skip).1 = (second.handle policy EncodedName.skip).1
      ∧ (first.handle policy EncodedName.skip).2.SameApart
          (second.handle policy EncodedName.skip).2 := by
  have same := h.same
  have search := h.scan_eq
  have handled := first.handled policy EncodedName.skip
  generalize first.handle policy EncodedName.skip = outcome at handled ⊢
  cases handled with
  | nameless found =>
      rw [(Handled.nameless (search ▸ found)).eq]
      exact ⟨rfl, same.malformed .nameProblem⟩
  | misfit found =>
      rw [(Handled.misfit (search ▸ found)).eq]
      exact ⟨rfl, (same.moved _).malformed .lengthOff⟩
  | refused found declined =>
      rw [(Handled.refused (search ▸ found) declined).eq]
      exact ⟨rfl, same.decoded _ _⟩
  | early found approved before =>
      rw [(Handled.early (search ▸ found) approved before).eq]
      exact ⟨rfl, (same.accepted _ _).malformed .nameProblem⟩
  | overflow found approved after long =>
      rw [same.answer] at long
      rw [(Handled.overflow (search ▸ found) approved after long).eq]
      exact ⟨rfl, (same.accepted _ _).report .answerOverflow⟩
  | copied found approved after fits =>
      rw [same.answer] at fits
      rw [(Handled.copied (search ▸ found) approved after fits).eq]
      exact ⟨rfl, (same.accepted _ _).copied _ (h.window_eq_of_entry found)⟩

/-- Octets of the header, of the time to live and of the data, and all octets after the limit, have
no influence: two requests that are the same apart from their messages, and whose messages agree on
the octets that count, are handled with the same verdict and stay the same apart from their messages.
The limit may be any position that a cursor can have.
-/
theorem handle_noninterference {first second : Request} (policy : Policy)
    (same : first.SameApart second)
    (forward : Header.size ≤ first.cursor.position)
    (range : first.limit ≤ Cursor.maximum)
    (sizes
      : first.message.length = second.message.length
        ∨ first.limit ≤ first.message.length ∧ first.limit ≤ second.message.length)
    (agree : Octets.AgreeOn first.Heeds first.message.octets second.message.octets)
    : (first.handle policy EncodedName.skip).1 = (second.handle policy EncodedName.skip).1
      ∧ (first.handle policy EncodedName.skip).2.SameApart
          (second.handle policy EncodedName.skip).2 := by
  have bound : min first.limit first.message.octets.length
      = min first.limit second.message.octets.length := by
    rw [Message.length_octets, Message.length_octets]
    omega
  have alike : HeedAlike first second := ⟨same, forward, range, bound, agree⟩
  exact alike.handle policy

/-- Two messages of different lengths, which differ in the header, the time to live, the data and
after the limit.
-/
theorem handle_noninterference_beyond_limit
    : let front : Octets := List.replicate 12 0 ++ [5, 1, 97, 0, 0, 1, 0, 1]
      let octets := front ++ [0, 0, 0, 0, 0, 2, 7, 8, 9]
      let octets' := front.set 3 0xFF ++ [1, 2, 3, 4, 0, 2, 0, 0, 0, 1]
      let first : Request :=
        { Request.fresh octets 4 with cursor := .ofNat 13, limit := 28, remaining := 28 }
      let second : Request := { first with message := Message.ofOctets octets' }
      first.SameApart second
      ∧ Header.size ≤ first.cursor.position
      ∧ first.limit ≤ Cursor.maximum
      ∧ (first.limit ≤ first.message.length ∧ first.limit ≤ second.message.length)
      ∧ Octets.AgreeOn first.Heeds first.message.octets second.message.octets
      ∧ (first.handle ⟨true⟩ EncodedName.skip).1 = (second.handle ⟨true⟩ EncodedName.skip).1
      ∧ (first.handle ⟨true⟩ EncodedName.skip).2.SameApart
          (second.handle ⟨true⟩ EncodedName.skip).2 := by
  intro front octets octets' first second
  have same : first.SameApart second := ⟨rfl, rfl, rfl, rfl, rfl, rfl, rfl⟩
  have sizes : first.limit ≤ first.message.length ∧ first.limit ≤ second.message.length := by
    decide
  have differences
      : ∀ position < 28,
          12 ≤ position
          → ¬ (20 ≤ position ∧ position < 24 ∨ 26 ≤ position)
          → octets[position]? = octets'[position]? := by
    decide
  have name : EncodedName.skip first.message.octets 13 28 = .ok 3 :=
    EncodedName.skip_eq_ok_iff.mpr
      ⟨by decide, .label 1 [97] [0] (by decide) (by decide) rfl .root⟩
  have agree : Octets.AgreeOn first.Heeds first.message.octets second.message.octets := by
    intro position heeds
    have before : position < 28 := Nat.lt_of_lt_of_le heeds.beforeEnd (Nat.min_le_left ..)
    apply differences position before heeds.afterHeader
    intro ignored
    exact heeds.notIgnored ⟨3, name, ignored⟩
  exact ⟨same, by decide, by decide, sizes, agree,
    handle_noninterference ⟨true⟩ same (by decide) (by decide) (.inr sizes) agree⟩

end Request

end InverseQuery
