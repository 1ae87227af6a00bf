import InverseQuery.Proofs.RepeatedHandling
import InverseQuery.Proofs.SourceFilling

/-! No accepted message is a proper prefix of another.
A name and the words of a record are found again in every longer message, and the record says where
its message ends. So a message that was cut short or that goes on is rejected.
-/

namespace InverseQuery

-----------------------------------------------------------------------------------------
-- What is found in a prefix is found in the whole
-----------------------------------------------------------------------------------------

section Prefix

variable {first second : Octets} (front : first <+: second)
include front

theorem Octets.window_eq_of_prefix {stop : Nat} (inside : stop ≤ first.length) (start : Nat)
    : first.window start stop = second.window start stop := by
  obtain ⟨rest, rfl⟩ := front
  rw [Octets.window, Octets.window, List.take_append_of_le_length inside]

/-- A word of a prefix stands in the whole at the same place. -/
theorem Octets.wordBefore?_of_prefix {position : Nat} {word : UInt16}
    (found : first.wordBefore? first.length position = some word)
    : second.wordBefore? second.length position = some word := by
  have room := le_of_wordBefore? found
  have longer := front.length_le
  rw [wordBefore?_of_le room] at found
  rw [wordBefore?_of_le (by omega)]
  obtain ⟨rest, rfl⟩ := front
  unfold word? at found ⊢
  rw [List.drop_append_of_le_length (by omega)]
  split at found
  next high low more split => rw [split]; exact found
  next => cases found

theorem RecordFields.At.of_prefix {cursor : Cursor} {fields : RecordFields}
    (h : At first first.length cursor fields)
    : At second second.length cursor fields where
  typeCode := Octets.wordBefore?_of_prefix front h.typeCode
  classCode := Octets.wordBefore?_of_prefix front h.classCode
  dataLength := Octets.wordBefore?_of_prefix front h.dataLength

/-- The names of a prefix are those of the whole that end inside the prefix. -/
theorem EncodedName.at_prefix_iff {start length : Nat}
    : At first start first.length length
      ↔ start + length ≤ first.length ∧ At second start second.length length := by
  have longer := front.length_le
  unfold At
  rw [Nat.min_self, Nat.min_self]
  constructor
  · intro h
    obtain ⟨inside, name⟩ := h
    rw [Octets.window_eq_of_prefix front inside] at name
    exact ⟨inside, Nat.le_trans inside longer, name⟩
  · intro h
    obtain ⟨inside, _, name⟩ := h
    rw [Octets.window_eq_of_prefix front inside]
    exact ⟨inside, name⟩

/-- A record that ends a prefix ends the whole only if there is nothing more in the whole. -/
theorem Octets.eq_of_entries {cursor : Cursor} {record record' : RecordFields}
    {nameEnd nameEnd' stopped stopped' : Cursor}
    (found : first.scan cursor = .entry record nameEnd stopped)
    (found' : second.scan cursor = .entry record' nameEnd' stopped')
    : first = second := by
  obtain ⟨length, skipped, rfl, read⟩ := Scan.ofOctets_eq_entry_iff.mp found
  obtain ⟨length', skipped', rfl, read'⟩ := Scan.ofOctets_eq_entry_iff.mp found'
  have name := ((EncodedName.at_prefix_iff front).mp (EncodedName.skip_eq_ok_iff.mp skipped)).2
  obtain rfl := name.unique (EncodedName.skip_eq_ok_iff.mp skipped')
  obtain ⟨fields, stops, last⟩ := RecordFields.readLast_eq_ok_iff.mp read
  obtain ⟨fields', stops', last'⟩ := RecordFields.readLast_eq_ok_iff.mp read'
  have sizes := (fields.of_prefix front).dataLength.symm.trans fields'.dataLength
  rw [Option.some.inj sizes, ← stops'] at stops
  apply front.eq_of_length
  rw [← last, ← last', stops]

end Prefix

namespace Octets

variable {octets : Octets} {cursor : Cursor}

theorem scan_eq_nameless_iff
    : octets.scan cursor = .nameless
      ↔ ∀ length, ¬ EncodedName.At octets cursor.position octets.length length := by
  rw [scan, Scan.ofOctets_eq_nameless_iff]
  simp only [EncodedName.skip_eq_error_iff, exists_and_left, exists_eq, and_true]

theorem exists_name_of_entry {record : RecordFields} {nameEnd stopped : Cursor}
    (found : octets.scan cursor = .entry record nameEnd stopped)
    : ∃ length, EncodedName.At octets cursor.position octets.length length := by
  obtain ⟨length, skipped, _⟩ := Scan.ofOctets_eq_entry_iff.mp found
  exact ⟨length, EncodedName.skip_eq_ok_iff.mp skipped⟩

/-- Where a name stands but no record follows to the end, the search ends at a misfit. -/
theorem exists_misfit (cursor : Cursor) {length : Nat}
    (name : EncodedName.At octets cursor.position octets.length length)
    (unended
      : ∀ record nameEnd stopped, octets.scan cursor ≠ .entry record nameEnd stopped)
    : ∃ stopped, octets.scan cursor = .misfit stopped := by
  cases found : octets.scan cursor with
  | nameless => exact absurd name (scan_eq_nameless_iff.mp found length)
  | misfit stopped => exact ⟨stopped, rfl⟩
  | entry record nameEnd stopped => exact absurd found (unended record nameEnd stopped)

end Octets

-----------------------------------------------------------------------------------------
-- Messages that are accepted and messages that are rejected
-----------------------------------------------------------------------------------------

/-- Handles the fresh request for a message. -/
def Message.firstHandled (message : Message) (capacity : Nat) (policy : Policy)
    : Verdict × Request :=
  (Request.ofMessage message (.empty capacity)).handle policy EncodedName.skip

/-- The first handling of the message does not call it malformed. -/
def Message.Accepted (message : Message) (capacity : Nat) (policy : Policy) : Prop :=
  .nameProblem ∉ (message.firstHandled capacity policy).2.notices
  ∧ .lengthOff ∉ (message.firstHandled capacity policy).2.notices

/-- The first handling of a message calls it malformed, with `notice` as its only one, and keeps
nothing of it.
-/
structure Rejected (notice : Notice) (outcome : Verdict × Request) : Prop where
  verdict : outcome.1 = .finish
  responseCode : outcome.2.responseCode = .formatError
  notices : outcome.2.notices = [notice]
  record : outcome.2.record = none
  extraction : outcome.2.extraction = none
  answer : outcome.2.answer.content = []

namespace Message

variable {message : Message} {capacity : Nat} {policy : Policy}

/-- The search of a fresh request starts after the header, however the message is stored. -/
theorem scan_ofMessage (message : Message) (capacity : Nat)
    : (Request.ofMessage message (.empty capacity)).scan EncodedName.skip
      = message.octets.scan (.ofNat Header.size) := by
  rw [Request.scan, Octets.scan, length_octets]
  rfl

/-- A fresh request rejects its message wherever its cursor has come to. -/
theorem rejected_malformed (message : Message) (capacity : Nat) (cursor : Cursor) (notice : Notice)
    : Rejected notice
        (.finish,
          { Request.ofMessage message (.empty capacity) with cursor }.malformed notice) :=
  ⟨rfl, Request.responseCode_malformed .., rfl, rfl, rfl, rfl⟩

theorem rejected_of_nameless (found : message.octets.scan (.ofNat Header.size) = .nameless)
    : Rejected .nameProblem (message.firstHandled capacity policy) := by
  rw [← scan_ofMessage message capacity] at found
  rw [firstHandled, (Request.Handled.nameless found).eq]
  exact message.rejected_malformed capacity (.ofNat Header.size) .nameProblem

theorem rejected_of_misfit {stopped : Cursor}
    (found : message.octets.scan (.ofNat Header.size) = .misfit stopped)
    : Rejected .lengthOff (message.firstHandled capacity policy) := by
  rw [← scan_ofMessage message capacity] at found
  rw [firstHandled, (Request.Handled.misfit found).eq]
  exact message.rejected_malformed capacity stopped .lengthOff

/-- How the first handling of a message ends, with what its exit says of the message. -/
theorem firstHandled_exit (message : Message) (capacity : Nat) (policy : Policy)
    : ∃ exit : HandlingExit,
        (message.firstHandled capacity policy).1 = exit.verdict
        ∧ (message.firstHandled capacity policy).2.notices = exit.notices
        ∧ exit.record? = (message.octets.scan (.ofNat Header.size)).record?
        ∧ ∀ record, exit ≠ .early record := by
  obtain ⟨exit, verdict, frame⟩ :=
    (Request.handled (.ofMessage message (.empty capacity)) policy EncodedName.skip).frame
  have record? := frame.reads.record?_eq
  rw [scan_ofMessage] at record?
  refine ⟨exit, verdict, frame.notices, record?, ?_⟩
  intro record early
  subst early
  exact frame.reads.not_early (Nat.le_refl Header.size)

/-- A message is accepted exactly if a record is found that ends it, so neither the policy nor the
answer counts.
-/
theorem accepted_iff
    : message.Accepted capacity policy
      ↔ ∃ record, (message.octets.scan (.ofNat Header.size)).record? = some record := by
  obtain ⟨exit, _, notices, record?, notEarly⟩ := message.firstHandled_exit capacity policy
  rw [Accepted, notices, ← record?]
  cases exit with
  | early record => exact absurd rfl (notEarly record)
  | _ => simp [HandlingExit.notices, HandlingExit.record?]

/-- A message is accepted exactly if its handling refuses it, hands it back or copies its name. -/
theorem accepted_iff_verdict
    : message.Accepted capacity policy
      ↔ (message.firstHandled capacity policy).1 = .refuse
        ∨ (message.firstHandled capacity policy).1 = .handBack
        ∨ (message.firstHandled capacity policy).1 = .finish
          ∧ ∃ length room,
              .copying length room ∈ (message.firstHandled capacity policy).2.notices := by
  obtain ⟨exit, verdict, notices, _, notEarly⟩ := message.firstHandled_exit capacity policy
  rw [Accepted, verdict, notices]
  cases exit with
  | early record => exact absurd rfl (notEarly record)
  | _ => simp [HandlingExit.notices, HandlingExit.verdict]

theorem Accepted.exists_entry (h : message.Accepted capacity policy)
    : ∃ record nameEnd stopped,
        message.octets.scan (.ofNat Header.size) = .entry record nameEnd stopped := by
  obtain ⟨record, found⟩ := accepted_iff.mp h
  obtain ⟨nameEnd, stopped, found⟩ := Scan.exists_of_record? found
  exact ⟨record, nameEnd, stopped, found⟩

/-- Of two accepted messages neither goes on where the other ends. -/
theorem Accepted.eq_of_prefix {other : Message} {capacity' : Nat} {policy' : Policy}
    (h : message.Accepted capacity policy) (h' : other.Accepted capacity' policy')
    (front : message.octets <+: other.octets)
    : message.octets = other.octets := by
  obtain ⟨_, _, _, found⟩ := h.exists_entry
  obtain ⟨_, _, _, found'⟩ := h'.exists_entry
  exact Octets.eq_of_entries front found found'

/-- The octets of a name of `length` octets follow the header. -/
def NameStands (message : Message) (length : Nat) : Prop :=
  EncodedName.At message.octets Header.size message.octets.length length

theorem nameStands_prefix_iff {short : Message} {length : Nat}
    (front : short.octets <+: message.octets)
    : short.NameStands length
      ↔ Header.size + length ≤ short.length ∧ message.NameStands length := by
  rw [← length_octets]
  exact EncodedName.at_prefix_iff front

theorem rejected_of_absent (absent : ∀ length, ¬ message.NameStands length)
    : Rejected .nameProblem (message.firstHandled capacity policy) :=
  rejected_of_nameless (Octets.scan_eq_nameless_iff.mpr absent)

/-- Where a name stands, a message that is not accepted is one whose record does not end it. -/
theorem rejected_of_name {length : Nat} (name : message.NameStands length)
    (unaccepted : ¬ message.Accepted capacity policy)
    : Rejected .lengthOff (message.firstHandled capacity policy) := by
  have unended (record : RecordFields) (nameEnd stopped : Cursor)
      : message.octets.scan (.ofNat Header.size) ≠ .entry record nameEnd stopped := by
    intro found
    exact unaccepted (accepted_iff.mpr ⟨record, by rw [found]; rfl⟩)
  obtain ⟨stopped, found⟩ := Octets.exists_misfit (.ofNat Header.size) name unended
  exact rejected_of_misfit found

/-- A message that stops short of an accepted one is rejected, and the notice tells whether its name
is still whole.
-/
theorem Accepted.rejected_of_shorter {short : Message} {length : Nat}
    (h : message.Accepted capacity policy) (name : message.NameStands length)
    (front : short.octets <+: message.octets) (shorter : short.length < message.length)
    (capacity' : Nat) (policy' : Policy)
    : Rejected (if short.length < Header.size + length then .nameProblem else .lengthOff)
        (short.firstHandled capacity' policy') := by
  split
  next cut =>
    apply rejected_of_absent
    intro length' stands
    obtain ⟨inside, stands⟩ := (nameStands_prefix_iff front).mp stands
    have same := name.unique stands
    omega
  next whole =>
    apply rejected_of_name ((nameStands_prefix_iff front).mpr ⟨Nat.le_of_not_lt whole, name⟩)
    intro accepted
    have same := congrArg List.length (accepted.eq_of_prefix h front)
    rw [length_octets, length_octets] at same
    omega

/-- A message that goes on after an accepted one is rejected. -/
theorem Accepted.rejected_of_longer {long : Message} (h : message.Accepted capacity policy)
    (front : message.octets <+: long.octets) (longer : message.length < long.length)
    (capacity' : Nat) (policy' : Policy)
    : Rejected .lengthOff (long.firstHandled capacity' policy') := by
  obtain ⟨_, _, _, found⟩ := h.exists_entry
  obtain ⟨length, name⟩ := Octets.exists_name_of_entry found
  apply rejected_of_name ((EncodedName.at_prefix_iff front).mp name).2
  intro accepted
  have same := congrArg List.length (h.eq_of_prefix accepted front)
  rw [length_octets, length_octets] at same
  omega

end Message

/-- A message is accepted exactly if it is refused, handed back or has its name copied. Whatever is
accepted is rejected once it is cut short or goes on, under every policy and with every answer. A cut
inside the header or the name is a problem of the name, a later one and anything that follows are
problems of the length; so no accepted message is a proper prefix of another.
-/
theorem acceptance_prefixFree {message : Message} {capacity : Nat} {policy : Policy}
    (accepted : message.Accepted capacity policy)
    : (∀ (other : Message) (capacity : Nat) (policy : Policy),
        other.Accepted capacity policy
        ↔ (other.firstHandled capacity policy).1 = .refuse
          ∨ (other.firstHandled capacity policy).1 = .handBack
          ∨ (other.firstHandled capacity policy).1 = .finish
            ∧ ∃ length room,
                .copying length room ∈ (other.firstHandled capacity policy).2.notices)
      ∧ ∃ nameLength,
          message.NameStands nameLength
          ∧ (∀ cut < message.length,
              let notice : Notice :=
                if cut < Header.size + nameLength then .nameProblem else .lengthOff
              (∀ (short : Message) (capacity : Nat) (policy : Policy),
                short.octets = message.octets.take cut
                → Rejected notice (short.firstHandled capacity policy))
              ∧ ∀ interrupts : List Nat,
                  ∃ kept,
                    (Message.readFrom cut { rest := message.octets, interrupts }).1 = .ok kept
                    ∧ ∀ capacity policy, Rejected notice (kept.firstHandled capacity policy))
          ∧ (∀ (long : Message) (extra : Octets) (capacity : Nat) (policy : Policy),
              extra ≠ []
              → long.octets = message.octets ++ extra
              → Rejected .lengthOff (long.firstHandled capacity policy))
          ∧ ∀ (other : Message) (capacity : Nat) (policy : Policy),
              other.Accepted capacity policy
              → message.octets <+: other.octets
              → message.octets = other.octets := by
  obtain ⟨_, _, _, found⟩ := accepted.exists_entry
  obtain ⟨nameLength, name⟩ := Octets.exists_name_of_entry found
  refine ⟨fun _ _ _ => Message.accepted_iff_verdict, nameLength, name, ?_, ?_, ?_⟩
  · intro cut inside notice
    have cutShort (short : Message) (capacity : Nat) (policy : Policy)
        (taken : short.octets = message.octets.take cut)
        : Rejected notice (short.firstHandled capacity policy) := by
      have length : short.length = cut := by
        rw [← short.length_octets, taken, List.length_take, message.length_octets]
        omega
      have front : short.octets <+: message.octets := taken ▸ List.take_prefix cut _
      have rejected := accepted.rejected_of_shorter name front (by omega) capacity policy
      rwa [length] at rejected
    refine ⟨cutShort, ?_⟩
    intro interrupts
    refine ⟨.ofPrefix cut message.octets, Message.readFrom_eq message.octets interrupts cut, ?_⟩
    intro capacity policy
    exact cutShort _ capacity policy (Message.octets_ofBounded ..)
  · intro long extra capacity policy more whole
    have front : message.octets <+: long.octets := ⟨extra, whole.symm⟩
    have length : long.length = message.length + extra.length := by
      rw [← long.length_octets, whole, List.length_append, message.length_octets]
    have positive := List.length_pos_iff.mpr more
    exact accepted.rejected_of_longer front (by omega) capacity policy
  · intro other capacity policy accepted' front
    exact accepted.eq_of_prefix accepted' front

/-- A record with a name of one label and two octets of data ends an accepted message, which is
rejected when cut inside its name, when cut right after it, and when one octet follows.
-/
theorem acceptance_prefixFree_two_octets_of_data
    : let octets : Octets :=
        List.replicate 12 0 ++ [1, 97, 0, 0, 1, 0, 1, 0, 0, 0, 0, 0, 2, 7, 8]
      (Message.ofOctets octets).Accepted 3 ⟨true⟩
      ∧ Rejected .nameProblem ((Message.ofOctets (octets.take 14)).firstHandled 3 ⟨true⟩)
      ∧ Rejected .lengthOff ((Message.ofOctets (octets.take 15)).firstHandled 3 ⟨true⟩)
      ∧ Rejected .lengthOff ((Message.ofOctets (octets ++ [0])).firstHandled 3 ⟨true⟩) := by
  intro octets
  have accepted : (Message.ofOctets octets).Accepted 3 ⟨true⟩ :=
    ⟨by decide +kernel, by decide +kernel⟩
  obtain ⟨_, length, name, short, long, _⟩ := acceptance_prefixFree accepted
  have three : (Message.ofOctets octets).NameStands 3 :=
    ⟨by decide, .label 1 [97] [0] (by decide) (by decide) rfl .root⟩
  obtain rfl := name.unique three
  exact ⟨accepted, (short 14 (by decide)).1 _ _ _ rfl, (short 15 (by decide)).1 _ _ _ rfl,
    long _ [0] _ _ (by decide) rfl⟩

end InverseQuery
