import InverseQuery.Proofs.NameGrammar
import InverseQuery.Wire.Cursor
import Mathlib.Data.Option.Basic

/-! Walking over an encoded name from one leading octet to the next.
The walk tells what is announced by the two high bits alone, notes where it looks, and has no answer
for a look past the octets or for a position past the largest one. It always has an answer, which is
that of the grammar, and looks at nothing at or beyond the end of the message.
-/

namespace InverseQuery

-----------------------------------------------------------------------------------------
-- What the two high bits announce
-----------------------------------------------------------------------------------------

/-- The two high bits are clear below 64 and both set from 192 on, by a look at all octets. -/
theorem NameLead.high_bits (octet : UInt8)
    : (octet &&& 0xC0 = 0 ↔ octet < 0x40) ∧ (octet &&& 0xC0 = 0xC0 ↔ 0xC0 ≤ octet) := by
  have table
      : ∀ value : Fin 256,
          (UInt8.ofFin value &&& 0xC0 = 0 ↔ UInt8.ofFin value < 0x40)
          ∧ (UInt8.ofFin value &&& 0xC0 = 0xC0 ↔ 0xC0 ≤ UInt8.ofFin value) := by
    decide +kernel
  exact table octet.toFin

/-- The two high bits and whether the octet is zero tell what it announces. -/
theorem NameLead.ofOctet_eq_of_high_bits (octet : UInt8)
    : ofOctet octet
      = if octet &&& 0xC0 = 0 then if octet = 0 then terminator else label octet.toNat
        else if octet &&& 0xC0 = 0xC0 then pointer else reserved := by
  obtain ⟨clear, set⟩ := high_bits octet
  simp only [ofOctet, clear, set]
  grind

-----------------------------------------------------------------------------------------
-- The walk and its answer
-----------------------------------------------------------------------------------------

/-- What a walk over a name comes to: the position after the name, unless there is no whole name,
and the positions that were looked at.
-/
structure NameWalk where
  nameEnd : Option Nat
  looked : List Nat
  deriving Repr, DecidableEq

namespace NameWalk

/-- A walk that goes no further than its look at `position`. The name would end at `stop`, which
must not be after `bound`.
-/
def ending (bound position stop : Nat) : NameWalk :=
  ⟨if stop ≤ bound then some stop else none, [position]⟩

/-- A walk after a look at an earlier position. -/
def after (walk : NameWalk) (position : Nat) : NameWalk :=
  { walk with looked := position :: walk.looked }

/-- Walks over the part of a name that starts at `position` and has to end at or before `bound`.
Nothing is given if an octet is missing where the walk looks or if a position cannot be represented.
-/
def from? (message : Octets) (bound position : Nat) : Option NameWalk :=
  if position < bound then do
    let lead ← message[position]?
    if lead &&& 0xC0 = 0 then
      if lead = 0 then
        guard (position + 1 ≤ Cursor.maximum)
        return ending bound position (position + 1)
      else
        guard (position + 1 + lead.toNat ≤ Cursor.maximum)
        let rest ← from? message bound (position + 1 + lead.toNat)
        return rest.after position
    else if lead &&& 0xC0 = 0xC0 then
      guard (position + 2 ≤ Cursor.maximum)
      return ending bound position (position + 2)
    else return ⟨none, [position]⟩
  else return ⟨none, []⟩
termination_by bound - position

end NameWalk

-----------------------------------------------------------------------------------------
-- The walk finds what the grammar derives
-----------------------------------------------------------------------------------------

namespace Octets

theorem window_of_lt {octets : Octets} {start stop : Nat} (before : start < stop)
    (inside : start < octets.length)
    : octets.window start stop = octets[start] :: octets.window (start + 1) stop := by
  have present : start < (octets.take stop).length := by
    rw [List.length_take]
    exact Nat.lt_min.mpr ⟨before, inside⟩
  rw [window, window, List.drop_eq_getElem_cons present, List.getElem_take]

theorem window_of_ge {octets : Octets} {start stop : Nat} (passed : stop ≤ start)
    : octets.window start stop = [] := by
  apply List.eq_nil_of_length_eq_zero
  rw [length_window]
  omega

theorem drop_window (octets : Octets) (start stop count : Nat)
    : (octets.window start stop).drop count = octets.window (start + count) stop :=
  List.drop_drop ..

end Octets

namespace EncodedName

variable {message : Octets} {bound position : Nat}

/-- The position after the name that starts at `position` and ends at or before `bound`. -/
def end? (message : Octets) (bound position : Nat) : Option Nat :=
  (length? (message.window position bound)).map (position + ·)

theorem end?_of_ge (passed : bound ≤ position) : end? message bound position = none := by
  rw [end?, Octets.window_of_ge passed, length?]
  rfl

/-- The leading octet tells whether the name ends at once or where it goes on. -/
theorem end?_of_lead {lead : UInt8} (before : position < bound) (inside : bound ≤ message.length)
    (found : message[position]? = some lead)
    : end? message bound position
      = match NameLead.ofOctet lead with
        | .terminator => some (position + 1)
        | .label size => end? message bound (position + 1 + size)
        | .pointer => if position + 2 ≤ bound then some (position + 2) else none
        | .reserved => none := by
  obtain ⟨present, rfl⟩ := List.getElem?_eq_some_iff.mp found
  rw [end?, Octets.window_of_lt before present, length?]
  cases NameLead.ofOctet message[position] with
  | terminator => rfl
  | reserved => rfl
  | label size =>
      have total : (position + ·) ∘ (1 + size + ·) = (position + 1 + size + ·) := by
        funext length
        simp only [Function.comp_apply]
        omega
      simp only [end?, Octets.drop_window, Option.map_map, total]
  | pointer =>
      have spent : (message.window (position + 1) bound).isEmpty ↔ ¬ position + 2 ≤ bound := by
        rw [List.isEmpty_iff_length_eq_zero, Octets.length_window]
        omega
      by_cases room : position + 2 ≤ bound
      · rw [if_pos room, if_neg (mt spent.mp (not_not_intro room))]
        rfl
      · rw [if_neg room, if_pos (spent.mpr room)]
        rfl

end EncodedName

namespace NameWalk

open EncodedName

variable {message : Octets} {bound position : Nat}

/-- The walk has the answer `nameEnd`, and looks only from `position` on and before `bound`. -/
def Finds (message : Octets) (bound position : Nat) (nameEnd : Option Nat) : Prop :=
  ∃ looked,
    from? message bound position = some ⟨nameEnd, looked⟩
    ∧ ∀ place ∈ looked, position ≤ place ∧ place < bound

/-- The walk finds where the grammar says that the name ends, by the recursion of the walk. No
position on the way is past the largest one, since a label adds little to a position in the message.
-/
theorem finds_end? (inside : bound ≤ message.length) (range : message.length ≤ Octets.longest)
    : Finds message bound position (end? message bound position) := by
  induction position using from?.induct bound with
  | case1 position before ih =>
      have present : position < message.length := Nat.lt_of_lt_of_le before inside
      obtain ⟨lead, found⟩ : ∃ lead, message[position]? = some lead :=
        ⟨_, List.getElem?_eq_getElem present⟩
      have small := lead.toNat_lt
      have allowed (next : Nat) (near : next ≤ position + 256)
          : (guard (next ≤ Cursor.maximum) : Option Unit) = some () := by
        unfold Octets.longest at range
        have representable : next ≤ Cursor.maximum := by
          unfold Cursor.maximum
          omega
        exact if_pos representable
      have here : ∀ place ∈ [position], position ≤ place ∧ place < bound := by
        simpa using before
      rw [end?_of_lead before inside found, NameLead.ofOctet_eq_of_high_bits, Finds, from?,
        if_pos before, found]
      simp only [Option.bind_eq_bind, Option.bind_some]
      by_cases clear : lead &&& 0xC0 = 0
      · rw [if_pos clear, if_pos clear]
        by_cases zero : lead = 0
        · rw [if_pos zero, if_pos zero, allowed _ (by omega), Option.bind_some, ending,
            if_pos (Nat.succ_le_of_lt before)]
          exact ⟨[position], rfl, here⟩
        · obtain ⟨looked, walked, seen⟩ := ih lead
          rw [if_neg zero, if_neg zero, allowed _ (by omega), Option.bind_some, walked]
          refine ⟨position :: looked, rfl, ?_⟩
          intro place member
          rcases List.mem_cons.mp member with rfl | later
          · exact ⟨Nat.le_refl _, before⟩
          · have seen := seen place later
            omega
      · rw [if_neg clear, if_neg clear]
        by_cases set : lead &&& 0xC0 = 0xC0
        · rw [if_pos set, if_pos set, allowed _ (by omega)]
          exact ⟨[position], rfl, here⟩
        · rw [if_neg set, if_neg set]
          exact ⟨[position], rfl, here⟩
  | case2 position passed =>
      rw [end?_of_ge (Nat.le_of_not_lt passed), Finds, from?, if_neg passed]
      exact ⟨[], rfl, by simp⟩

end NameWalk

namespace EncodedName

/-- The length of the name that a walk from `start` on found, or the fault if it found none. -/
def ofWalk (start : Nat) (walk : NameWalk) : Except WireFault Nat :=
  match walk.nameEnd with
  | some nameEnd => .ok (nameEnd - start)
  | none => .error (.malformedName start)

/-- Skipping a name is finding its end, no matter how far past the octets the limit lies. -/
theorem skip_eq_end? (message : Octets) (start limit : Nat) (looked : List Nat)
    : skip message start limit
      = ofWalk start ⟨end? message (min limit message.length) start, looked⟩ := by
  have bounded : message.window start limit = message.window start (min limit message.length) := by
    rw [Octets.window, Octets.window, List.take_eq_take_min]
  rw [skip, ofWalk, end?, bounded]
  cases length? (message.window start (min limit message.length)) with
  | none => rfl
  | some length => exact congrArg Except.ok (Nat.add_sub_cancel_left start length).symm

/-- No name starts with a shorter one, since what follows a name does not change its length. -/
theorem eq_of_prefix {name longer : Octets} (h : EncodedName name) (h' : EncodedName longer)
    (front : name <+: longer)
    : name = longer := by
  obtain ⟨following, rfl⟩ := front
  have found := h.length?_append following
  have whole := h'.length?_append []
  rw [List.append_nil] at whole
  exact (List.prefix_append name following).eq_of_length
    (Option.some.inj (found.symm.trans whole))

/-- Skipping a name has the answer of a walk in which every look falls on an octet before the end of
the message and every position can be represented. The answer is a length exactly if a name of that
length stands there and ends in time. There is at most one such length, it is positive, and without
one the answer is the fault that tells where the name should have started.
-/
theorem skip_accepts_grammar {message : Octets} (range : message.length ≤ Octets.longest)
    (start limit : Nat)
    : (∃ walk,
          NameWalk.from? message (min limit message.length) start = some walk
          ∧ (∀ place ∈ walk.looked, start ≤ place ∧ place < min limit message.length)
          ∧ skip message start limit = ofWalk start walk)
      ∧ (∀ length, skip message start limit = .ok length ↔ At message start limit length)
      ∧ (∀ length, At message start limit length → 1 ≤ length)
      ∧ (∀ first second,
          At message start limit first → At message start limit second → first = second)
      ∧ (skip message start limit = .error (.malformedName start)
        ↔ ∀ length, ¬ At message start limit length)
      ∧ ∀ name longer, EncodedName name → EncodedName longer → name <+: longer → name = longer := by
  have found : NameWalk.Finds message (min limit message.length) start _ :=
    NameWalk.finds_end? (Nat.min_le_right ..) range
  obtain ⟨looked, walked, seen⟩ := found
  refine ⟨⟨_, walked, seen, skip_eq_end? message start limit looked⟩, fun _ => skip_eq_ok_iff,
    fun _ => At.one_le, fun _ _ => At.unique, ?_, fun _ _ => eq_of_prefix⟩
  rw [skip_eq_error_iff]
  exact and_iff_left rfl

/-- A label and a pointer are skipped under a limit far past the octets, and no name ends before a
limit between the two octets of the pointer.
-/
theorem skip_accepts_label_then_pointer
    : let message : Octets := [0, 3, 119, 119, 119, 0xC0, 12, 0]
      message.length ≤ Octets.longest
      ∧ skip message 1 Cursor.maximum = .ok 6
      ∧ ∀ length, ¬ At message 1 6 length := by
  intro message
  have range : message.length ≤ Octets.longest := by decide
  have name : At message 1 Cursor.maximum 6 :=
    ⟨by decide, .label 3 [119, 119, 119] [0xC0, 12] (by decide) (by decide) rfl
      (.pointer 0xC0 12 (by decide))⟩
  obtain ⟨_, accepted, _⟩ := skip_accepts_grammar range 1 Cursor.maximum
  obtain ⟨_, _, _, _, rejected, _⟩ := skip_accepts_grammar range 1 6
  exact ⟨range, (accepted 6).mpr name, rejected.mp (by cbv)⟩

end EncodedName

end InverseQuery
