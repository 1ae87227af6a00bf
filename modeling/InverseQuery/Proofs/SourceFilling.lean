import InverseQuery.Message.Source

/-! What filling takes from a source, whatever interrupts it.
An interrupted request is made again until it is answered, so only a failure shows.
-/

namespace InverseQuery

namespace OctetSource

/-- Whether every request for an octet fails by now. -/
def failing (source : OctetSource) : Bool := source.failAt.any (· ≤ source.position)

/-- What a source may do when it is asked, with the source that is left. -/
inductive Replies (source : OctetSource) : Reply × OctetSource → Prop
  | interrupted (interrupts : List Nat)
    : Replies source (.interrupted, { source with interrupts })
  | failed (failing : source.failing) : Replies source (.failed, source)
  | exhausted (sound : ¬ source.failing) (spent : source.rest = [])
    : Replies source (.exhausted, source)
  | octet {value : UInt8} {rest : Octets} (sound : ¬ source.failing)
      (more : source.rest = value :: rest)
    : Replies source (.octet value, { source with rest, position := source.position + 1 })

theorem ask_replies (source : OctetSource) : Replies source source.ask := by
  unfold ask
  split
  · exact .interrupted _
  · split
    next failing => exact .failed failing
    next sound =>
      split
      next spent => exact .exhausted sound spent
      next octet rest more => exact .octet sound more

/-- What comes of asking until there is no interruption. -/
inductive Answers (source : OctetSource) : Except SourceFailure (Option UInt8) × OctetSource → Prop
  | failed (failing : source.failing) (interrupts : List Nat)
    : Answers source (.error ⟨⟩, { source with interrupts })
  | exhausted (sound : ¬ source.failing) (spent : source.rest = []) (interrupts : List Nat)
    : Answers source (.ok none, { source with interrupts })
  | octet {value : UInt8} {rest : Octets} (sound : ¬ source.failing)
      (more : source.rest = value :: rest) (interrupts : List Nat)
    : Answers source
        (.ok (some value), { source with rest, position := source.position + 1, interrupts })

/-- Every request is answered in the end, by induction over the interruptions that come first. -/
theorem next_answers (source : OctetSource) : Answers source source.next := by
  fun_induction OctetSource.next source with
  | case1 source later asked ih =>
      have replies := source.ask_replies
      rw [asked] at replies
      cases replies with
      | interrupted interrupts =>
          -- The interruptions that are left make no difference to the answer.
          generalize next { source with interrupts } = outcome at ih ⊢
          cases ih with
          | failed failing fewer =>
              have failing : source.failing := failing
              exact .failed failing fewer
          | exhausted sound spent fewer =>
              have sound : ¬ source.failing := sound
              exact .exhausted sound spent fewer
          | octet sound more fewer =>
              have sound : ¬ source.failing := sound
              exact .octet sound more fewer
  | case2 source later asked =>
      have replies := source.ask_replies
      rw [asked] at replies
      cases replies with
      | failed failing => exact .failed failing source.interrupts
  | case3 source value later asked =>
      have replies := source.ask_replies
      rw [asked] at replies
      cases replies with
      | octet sound more => exact .octet sound more source.interrupts
  | case4 source later asked =>
      have replies := source.ask_replies
      rw [asked] at replies
      cases replies with
      | exhausted sound spent => exact .exhausted sound spent source.interrupts

/-- Whether the request for an octet after the first `room` ones of a source does not fail yet. -/
def SoundFor (room : Nat) (source : OctetSource) : Prop :=
  ∀ failure ∈ source.failAt, source.position + min room source.rest.length < failure

theorem SoundFor.not_failing {room : Nat} {source : OctetSource} (h : source.SoundFor room)
    : ¬ source.failing := by
  intro failing
  obtain ⟨failure, given, early⟩ := (Option.any_eq_true ..).mp failing
  have late := h failure given
  have early := of_decide_eq_true early
  omega

/-- A source that does not fail too soon gives its first octets and then stands after the next one,
by induction on the room.
-/
theorem fill_eq {room : Nat} {source : OctetSource} (taken : Octets) (h : source.SoundFor room)
    : ∃ next,
        source.fill room taken = (.ok (taken.reverse ++ source.rest.take room), next)
        ∧ next.position = source.position + min (room + 1) source.rest.length := by
  induction room generalizing source taken with
  | zero =>
      have answers := source.next_answers
      unfold fill
      generalize source.next = outcome at answers ⊢
      cases answers with
      | failed failing => exact absurd failing h.not_failing
      | exhausted sound spent interrupts =>
          refine ⟨{ source with interrupts }, ?_, ?_⟩
          · rw [List.take_zero, List.append_nil]
          · rw [spent]
            rfl
      | @octet octet rest sound more interrupts =>
          -- The octet that has no room is dropped.
          refine ⟨{ source with rest, position := source.position + 1, interrupts }, ?_, ?_⟩
          · rw [List.take_zero, List.append_nil]
          · rw [more, List.length_cons]
            change source.position + 1 = _
            omega
  | succ room ih =>
      have answers := source.next_answers
      unfold fill
      generalize source.next = outcome at answers ⊢
      cases answers with
      | failed failing => exact absurd failing h.not_failing
      | exhausted sound spent interrupts =>
          refine ⟨{ source with interrupts }, ?_, ?_⟩
          · rw [spent, List.take_nil, List.append_nil]
          · rw [spent]
            rfl
      | @octet octet rest sound more interrupts =>
          have later : SoundFor room
              { source with rest, position := source.position + 1, interrupts } := by
            intro failure given
            have late := h failure given
            rw [more, List.length_cons] at late
            change source.position + 1 + min room rest.length < failure
            omega
          obtain ⟨next, filled, stands⟩ := ih (octet :: taken) later
          refine ⟨next, ?_, ?_⟩
          · rw [more, List.take_succ_cons]
            simpa using filled
          · rw [stands, more, List.length_cons]
            change source.position + 1 + min (room + 1) rest.length = _
            omega

end OctetSource

/-- A source that never fails is read up to the capacity, through all interruptions. -/
theorem Message.readFrom_eq (octets : Octets) (interrupts : List Nat) (capacity : Nat)
    : (readFrom capacity { rest := octets, interrupts }).1 = .ok (ofPrefix capacity octets) := by
  have sound : OctetSource.SoundFor capacity { rest := octets, interrupts } := by
    intro failure given
    cases given
  obtain ⟨next, filled, _⟩ := OctetSource.fill_eq [] sound
  unfold readFrom
  split
  next read source given =>
    rw [filled] at given
    cases given
    rfl
  next failure source given =>
    rw [filled] at given
    cases given

end InverseQuery
