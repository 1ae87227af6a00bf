import InverseQuery.Octets
import InverseQuery.Wire.Fault

/-! The bounded place that a name is copied to.
A copy replaces the whole content or, when the name is too long, changes nothing. What an earlier
and longer content left behind in the storage is never seen again.
-/

namespace InverseQuery

/-- Storage of a fixed size, the first `length` octets of which are the content. -/
structure Answer where
  storage : Octets
  length : Nat
  length_le : length ≤ storage.length
  deriving Repr, DecidableEq

/-- One operation on an answer. -/
inductive AnswerStep where
  | copy (source : Octets)
  | check (length : Nat)
  deriving Repr, DecidableEq

namespace Answer

def defaultCapacity : Nat := 2

/-- How many octets an answer has room for. -/
def capacity (answer : Answer) : Nat := answer.storage.length

/-- The octets that were copied last. -/
def content (answer : Answer) : Octets := answer.storage.take answer.length

def isEmpty (answer : Answer) : Bool := answer.length == 0

def empty (capacity : Nat) : Answer := ⟨List.replicate capacity 0, 0, Nat.zero_le _⟩

/-- Requires that `length` octets fit. -/
def checkFits (answer : Answer) (length : Nat) : Except WireFault Unit :=
  if length ≤ answer.capacity then .ok () else .error (.answerOverflow length answer.capacity)

/-- Octets written over the front of the storage, as the new content. -/
def overwrite (answer : Answer) (source : Octets) : Answer where
  storage := source ++ answer.storage.drop source.length
  length := source.length
  length_le := by simp

/-- Puts `source` in place of the content, if it fits. -/
def copy (answer : Answer) (source : Octets) : Except WireFault Answer :=
  match answer.checkFits source.length with
  | .ok () => .ok (answer.overwrite source)
  | .error fault => .error fault

/-- Performs an operation: what it reports, and the answer after it. -/
def step (answer : Answer) : AnswerStep → Except WireFault Unit × Answer
  | .copy source =>
      match answer.copy source with
      | .ok next => (.ok (), next)
      | .error fault => (.error fault, answer)
  | .check length => (answer.checkFits length, answer)

@[simp]
theorem capacity_empty (capacity : Nat) : (empty capacity).capacity = capacity :=
  List.length_replicate ..

@[simp]
theorem content_empty (capacity : Nat) : (empty capacity).content = [] := rfl

@[simp]
theorem content_overwrite (answer : Answer) (source : Octets)
    : (answer.overwrite source).content = source :=
  List.take_left' rfl

theorem capacity_overwrite {answer : Answer} {source : Octets}
    (fits : source.length ≤ answer.capacity)
    : (answer.overwrite source).capacity = answer.capacity := by
  simp only [capacity, overwrite, List.length_append, List.length_drop] at fits ⊢
  omega

/-- A content never exceeds the capacity. -/
theorem length_content_le (answer : Answer) : answer.content.length ≤ answer.capacity :=
  List.length_take_le' ..

theorem copy_of_le {answer : Answer} {source : Octets} (fits : source.length ≤ answer.capacity)
    : answer.copy source = .ok (answer.overwrite source) := by
  simp only [copy, checkFits, if_pos fits]

theorem copy_of_lt {answer : Answer} {source : Octets} (long : answer.capacity < source.length)
    : answer.copy source = .error (.answerOverflow source.length answer.capacity) := by
  simp only [copy, checkFits, if_neg (Nat.not_le.mpr long)]

end Answer

end InverseQuery
