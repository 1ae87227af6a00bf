import InverseQuery.Message.Basic

/-! Reading a message from a source of octets.
A source may interrupt a request for an octet, which is then made again, and it may fail from some
position on. Reading asks for one octet more than fits before it stops.
-/

namespace InverseQuery

/-- A failure of the source that no new request mends. -/
structure SourceFailure where
  deriving Repr, DecidableEq

def SourceFailure.message (_ : SourceFailure) : String := "source failed"

/-- A source of octets: those still to come, how many were taken, the positions at which a request
is interrupted, and the position from which every request fails.
-/
structure OctetSource where
  rest : Octets
  position : Nat := 0
  interrupts : List Nat := []
  failAt : Option Nat := none
  deriving Repr, DecidableEq

namespace OctetSource

/-- What a source does when it is asked for an octet. -/
inductive Reply where
  | interrupted
  | failed
  | octet (value : UInt8)
  | exhausted
  deriving Repr, DecidableEq

def ask (source : OctetSource) : Reply × OctetSource :=
  if source.position ∈ source.interrupts then
    (.interrupted, { source with interrupts := source.interrupts.erase source.position })
  else if source.failAt.any (· ≤ source.position) then (.failed, source)
  else
    match source.rest with
    | [] => (.exhausted, source)
    | octet :: rest => (.octet octet, { source with rest, position := source.position + 1 })

/-- An interruption uses up one entry of the list of interrupts. -/
theorem length_interrupts_of_ask {source next : OctetSource}
    (h : source.ask = (.interrupted, next))
    : next.interrupts.length < source.interrupts.length := by
  unfold ask at h
  split at h
  next member =>
    injection h with _ h
    subst h
    have shorter := List.length_erase_of_mem member
    have positive := List.length_pos_of_mem member
    simp only
    omega
  next =>
    split at h
    next => simp at h
    next => split at h <;> simp at h

/-- Asks again after each interruption, and gives the next octet or none at the end. -/
def next (source : OctetSource) : Except SourceFailure (Option UInt8) × OctetSource :=
  match _h : source.ask with
  | (.interrupted, source) => source.next
  | (.failed, source) => (.error ⟨⟩, source)
  | (.octet value, source) => (.ok (some value), source)
  | (.exhausted, source) => (.ok none, source)
termination_by source.interrupts.length
decreasing_by exact length_interrupts_of_ask ‹_›

/-- Takes octets while there is room for them; `taken` holds those already taken, last first. -/
def fill : (room : Nat) → (taken : Octets) → OctetSource
    → Except SourceFailure Octets × OctetSource
  | 0, taken, source =>
      -- The octet that is asked for here has no room and is dropped.
      match source.next with
      | (.error failure, source) => (.error failure, source)
      | (.ok _, source) => (.ok taken.reverse, source)
  | room + 1, taken, source =>
      match source.next with
      | (.error failure, source) => (.error failure, source)
      | (.ok none, source) => (.ok taken.reverse, source)
      | (.ok (some octet), source) => fill room (octet :: taken) source

/-- Filling adds at most as many octets as there is room for. -/
theorem length_fill {room : Nat} {taken octets : Octets} {source next : OctetSource}
    (h : fill room taken source = (.ok octets, next))
    : octets.length ≤ taken.length + room := by
  induction room generalizing taken source with
  | zero =>
      unfold fill at h
      split at h
      next => simp at h
      next =>
        obtain ⟨rfl, _⟩ := by simpa using h
        simp
  | succ room ih =>
      unfold fill at h
      split at h
      next => simp at h
      next =>
        obtain ⟨rfl, _⟩ := by simpa using h
        simp only [List.length_reverse]
        omega
      next =>
        have bound := ih h
        simp only [List.length_cons] at bound
        omega

end OctetSource

def Message.readFrom (capacity : Nat) (source : OctetSource)
    : Except SourceFailure Message × OctetSource :=
  match h : source.fill capacity [] with
  | (.ok octets, source) =>
      (.ok (.ofBounded octets capacity (by simpa using OctetSource.length_fill h)), source)
  | (.error failure, source) => (.error failure, source)

/-- The message that the first `capacity` octets of a string make. -/
def Message.ofPrefix (capacity : Nat) (octets : Octets) : Message :=
  .ofBounded (octets.take capacity) capacity (List.length_take_le ..)

end InverseQuery
