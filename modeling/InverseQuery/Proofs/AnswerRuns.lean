import InverseQuery.Answer
import Mathlib.Data.List.Induction

/-! What an answer shows after any number of operations on it.
It shows the source of the last copy that fitted, whatever longer contents have left behind in its
storage, and an operation that fails is as if it had never been performed.
-/

namespace InverseQuery

/-- The source of the last copy among some operations that fits a capacity, or nothing if no copy
among them fits.
-/
inductive LastFitting (capacity : Nat) (steps : List AnswerStep) : Octets → Prop
  | nothing (tooLong : ∀ source, .copy source ∈ steps → capacity < source.length)
    : LastFitting capacity steps []
  | copied {earlier later : List AnswerStep} {source : Octets}
    (split : steps = earlier ++ .copy source :: later) (fits : source.length ≤ capacity)
    (tooLong : ∀ other, .copy other ∈ later → capacity < other.length)
    : LastFitting capacity steps source

namespace LastFitting

variable {capacity : Nat} {steps : List AnswerStep} {source content : Octets}

/-- A copy that fits is from now on the last one. -/
theorem copy (fits : source.length ≤ capacity)
    : LastFitting capacity (steps ++ [.copy source]) source :=
  .copied rfl fits nofun

/-- Any other operation leaves the last copy that fits where it was. -/
theorem keep (h : LastFitting capacity steps content) {step : AnswerStep}
    (tooLong : ∀ source, step = .copy source → capacity < source.length)
    : LastFitting capacity (steps ++ [step]) content := by
  have tooLong' (source : Octets) (member : .copy source ∈ [step]) : capacity < source.length :=
    tooLong source (List.mem_singleton.mp member).symm
  cases h with
  | nothing before =>
      refine .nothing fun source member => ?_
      obtain earlier | last := List.mem_append.mp member
      · exact before source earlier
      · exact tooLong' source last
  | @copied earlier later _ split fits after =>
      have split' : steps ++ [step] = earlier ++ .copy content :: (later ++ [step]) := by
        rw [split, List.append_assoc, List.cons_append]
      refine .copied split' fits fun source member => ?_
      obtain between | last := List.mem_append.mp member
      · exact after source between
      · exact tooLong' source last

end LastFitting

namespace Answer

variable {capacity : Nat} {answer : Answer} {source : Octets}

-----------------------------------------------------------------------------------------
-- What one operation reports and changes
-----------------------------------------------------------------------------------------

theorem length_content (answer : Answer) : answer.content.length = answer.length :=
  List.length_take_of_le answer.length_le

theorem isEmpty_iff {answer : Answer} : answer.isEmpty ↔ answer.content = [] := by
  rw [isEmpty, beq_iff_eq, ← length_content, List.length_eq_zero_iff]

theorem step_copy_of_le (fits : source.length ≤ answer.capacity)
    : answer.step (.copy source) = (.ok (), answer.overwrite source) := by
  simp only [step, copy_of_le fits]

/-- A copy that does not fit reports both lengths, and is not even begun. -/
theorem step_copy_of_lt (long : answer.capacity < source.length)
    : answer.step (.copy source)
      = (.error (.answerOverflow source.length answer.capacity), answer) := by
  simp only [step, copy_of_lt long]

theorem step_check (answer : Answer) (length : Nat)
    : answer.step (.check length)
      = (if length ≤ answer.capacity then .ok ()
          else .error (.answerOverflow length answer.capacity), answer) :=
  rfl

/-- A copy succeeds exactly if it fits. -/
theorem step_copy_fst_iff
    : (answer.step (.copy source)).1 = .ok () ↔ source.length ≤ answer.capacity := by
  obtain long | fits := Nat.lt_or_ge answer.capacity source.length
  · simp only [step_copy_of_lt long, reduceCtorEq, Nat.not_le.mpr long]
  · simp only [step_copy_of_le fits, fits]

theorem step_check_fst_iff {length : Nat}
    : (answer.step (.check length)).1 = .ok () ↔ length ≤ answer.capacity := by
  rw [step_check]
  split <;> simp_all

-----------------------------------------------------------------------------------------
-- What a run of operations leaves
-----------------------------------------------------------------------------------------

/-- The capacity of an answer and what it shows, after some operations on an empty one. -/
structure ShowsLast (answer : Answer) (capacity : Nat) (steps : List AnswerStep) : Prop where
  capacity_eq : answer.capacity = capacity
  lastFitting : LastFitting capacity steps answer.content

/-- One more operation keeps the capacity, and shows its source if it is a copy that fits. -/
theorem ShowsLast.step {steps : List AnswerStep} (h : answer.ShowsLast capacity steps)
    (step : AnswerStep)
    : (answer.step step).2.ShowsLast capacity (steps ++ [step]) := by
  obtain ⟨rfl, shown⟩ := h
  cases step with
  | check length => exact ⟨rfl, shown.keep nofun⟩
  | copy source =>
      obtain long | fits := Nat.lt_or_ge answer.capacity source.length
      · rw [step_copy_of_lt long]
        refine ⟨rfl, shown.keep ?_⟩
        rintro _ ⟨rfl⟩
        exact long
      · rw [step_copy_of_le fits]
        refine ⟨capacity_overwrite fits, ?_⟩
        rw [content_overwrite]
        exact .copy fits

/-- The answer after some operations in order. -/
def after (answer : Answer) (steps : List AnswerStep) : Answer :=
  steps.foldl (fun answer step => (answer.step step).2) answer

/-- By induction over the operations, the last one apart. -/
theorem showsLast_after (capacity : Nat) (steps : List AnswerStep)
    : ((empty capacity).after steps).ShowsLast capacity steps := by
  induction steps using List.reverseRecOn with
  | nil => exact ⟨capacity_empty capacity, .nothing nofun⟩
  | append_singleton steps step ih =>
      rw [after, List.foldl_append]
      exact ih.step step

/-- After any copies and checks an answer has the capacity that it started with, and shows the
source of the last copy that fits, all of it and nothing else. A copy or a check succeeds exactly if
its octets fit. Otherwise it reports their number and the capacity, and changes nothing, as no check
does.
-/
theorem after_showsLastCopy (capacity : Nat) (steps : List AnswerStep)
    : let answer := (empty capacity).after steps
      answer.capacity = capacity
      ∧ LastFitting capacity steps answer.content
      ∧ answer.length = answer.content.length
      ∧ answer.length ≤ capacity
      ∧ (answer.isEmpty ↔ answer.content = [])
      ∧ (∀ source : Octets,
          ((answer.step (.copy source)).1 = .ok () ↔ source.length ≤ capacity)
          ∧ ((answer.step (.copy source)).1 = .ok ()
            ↔ (answer.step (.check source.length)).1 = .ok ())
          ∧ (source.length ≤ capacity → (answer.step (.copy source)).2.content = source)
          ∧ (capacity < source.length
            → answer.step (.copy source)
              = (.error (.answerOverflow source.length capacity), answer)))
      ∧ ∀ length,
          answer.step (.check length)
          = (if length ≤ capacity then .ok () else .error (.answerOverflow length capacity),
              answer) := by
  intro answer
  obtain ⟨room, shown⟩ : answer.ShowsLast capacity steps := showsLast_after capacity steps
  have bound : answer.length ≤ capacity := by
    rw [← room, ← length_content]
    exact answer.length_content_le
  refine ⟨room, shown, answer.length_content.symm, bound, isEmpty_iff, ?_, ?_⟩
  · intro source
    refine ⟨?_, ?_, ?_, ?_⟩
    · rw [step_copy_fst_iff, room]
    · rw [step_copy_fst_iff, step_check_fst_iff]
    · intro fits
      rw [step_copy_of_le (room.symm ▸ fits), content_overwrite]
    · intro long
      rw [step_copy_of_lt (room.symm ▸ long), room]
  · intro length
    rw [step_check, room]

/-- An octet of a longer content stays in the storage, where it is not seen. -/
example
    : let answer := (empty 3).after [.copy [1, 2, 3], .copy [9], .copy [4, 5, 6, 7]]
      answer.content = [9] ∧ answer.storage = [9, 2, 3] := by
  decide

end Answer

end InverseQuery
