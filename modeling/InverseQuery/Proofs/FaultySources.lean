import InverseQuery.Proofs.HeaderFields
import InverseQuery.Proofs.SourceFilling

/-! Reading a message from a source that may fail and that interrupts requests.
Reading asks at every position up to the one where the message is full or the source is exhausted.
So it fails exactly if the source fails at one of them, and interruptions make no difference.
-/

namespace InverseQuery

namespace OctetSource

/-- A source that fails while it is filled from stands where its failures start, by induction on the
room: every octet before that is given and the request for the next one fails.
-/
theorem fill_eq_error {room failure : Nat} {source : OctetSource} (taken : Octets)
    (fails : source.failAt = some failure) (ahead : source.position ≤ failure)
    (near : failure ≤ source.position + min room source.rest.length)
    : ∃ next, source.fill room taken = (.error ⟨⟩, next) ∧ next.position = failure := by
  have failing_iff : source.failing ↔ failure ≤ source.position := by
    rw [failing, fails, Option.any_some, decide_eq_true_iff]
  induction room generalizing source taken with
  | zero =>
      have here : source.position = failure := by omega
      have answers := source.next_answers
      unfold fill
      generalize source.next = outcome at answers ⊢
      cases answers with
      | failed _ interrupts => exact ⟨{ source with interrupts }, rfl, here⟩
      | exhausted sound => exact absurd (failing_iff.mpr (Nat.le_of_eq here.symm)) sound
      | octet sound => exact absurd (failing_iff.mpr (Nat.le_of_eq here.symm)) sound
  | succ room ih =>
      have answers := source.next_answers
      unfold fill
      generalize source.next = outcome at answers ⊢
      cases answers with
      | failed failing interrupts =>
          have reached := failing_iff.mp failing
          exact ⟨{ source with interrupts }, rfl, Nat.le_antisymm ahead reached⟩
      | exhausted sound spent interrupts =>
          -- The source is exhausted where it would still have to fail.
          rw [spent, List.length_nil, Nat.min_zero] at near
          exact absurd (failing_iff.mpr near) sound
      | @octet octet rest sound more interrupts =>
          rw [failing_iff] at sound
          rw [more, List.length_cons] at near
          let following : OctetSource :=
            { source with rest, position := source.position + 1, interrupts }
          have fails : following.failAt = some failure := fails
          have ahead : following.position ≤ failure := Nat.not_le.mp sound
          have near : failure ≤ following.position + min room following.rest.length := by
            change failure ≤ source.position + 1 + min room rest.length
            omega
          have failing : following.failing ↔ failure ≤ following.position := by
            rw [failing, fails, Option.any_some, decide_eq_true_iff]
          exact ih (octet :: taken) fails ahead near failing

end OctetSource

namespace Message

/-- The message that a source gives is one of its first octets, with the capacity that was asked
for, and its header shows these octets and zeros in place of missing ones.
-/
structure FilledFrom (message : Message) (octets : Octets) (capacity : Nat) : Prop where
  length_eq : message.length = min capacity octets.length
  capacity_eq : message.capacity = capacity
  octets_eq : message.octets = octets.take capacity
  header : message.header.Shows (octets.take capacity)

/-- The message of the first octets of a string is filled from it. -/
theorem filledFrom_ofPrefix (octets : Octets) (capacity : Nat)
    : (ofPrefix capacity octets).FilledFrom octets capacity where
  length_eq := List.length_take
  capacity_eq := rfl
  octets_eq := octets_ofBounded ..
  header := by
    have loaded : (ofPrefix capacity octets).Loaded := .read (readFrom_eq octets [] capacity)
    have shown := loaded.shows
    rwa [ofPrefix, octets_ofBounded] at shown

/-- A message is read as far as filling from the source goes. -/
theorem readFrom_eq_of_fill {capacity : Nat} {source next : OctetSource} {octets : Octets}
    (bound : octets.length ≤ capacity) (filled : source.fill capacity [] = (.ok octets, next))
    : readFrom capacity source = (.ok (ofBounded octets capacity bound), next) := by
  unfold readFrom
  split
  next read left given =>
    rw [filled] at given
    cases given
    rfl
  next failure left given =>
    rw [filled] at given
    cases given

theorem readFrom_eq_error_of_fill {capacity : Nat} {source next : OctetSource}
    {failure : SourceFailure} (failed : source.fill capacity [] = (.error failure, next))
    : readFrom capacity source = (.error failure, next) := by
  unfold readFrom
  split
  next read left given =>
    rw [failed] at given
    cases given
  next other left given =>
    rw [failed] at given
    cases given
    rfl

/-- How reading a source from its start ends. -/
inductive ReadingEnds (octets : Octets) (capacity : Nat) (failAt : Option Nat)
    : Except SourceFailure Message × OctetSource → Prop
  | failed {failure : Nat} {left : OctetSource} (given : failAt = some failure)
    (reached : failure ≤ min capacity octets.length) (stands : left.position = failure)
    : ReadingEnds octets capacity failAt (.error ⟨⟩, left)
  | filled {left : OctetSource}
    (sound : ∀ failure ∈ failAt, min capacity octets.length < failure)
    (stands : left.position = min (capacity + 1) octets.length)
    : ReadingEnds octets capacity failAt (.ok (ofPrefix capacity octets), left)

/-- Reading ends in one of these ways, by cases on whether the source fails soon enough. -/
theorem readFrom_ends (octets : Octets) (interrupts : List Nat) (failAt : Option Nat)
    (capacity : Nat)
    : ReadingEnds octets capacity failAt
        (readFrom capacity { rest := octets, interrupts, failAt }) := by
  by_cases sound : ∀ failure ∈ failAt, min capacity octets.length < failure
  · have soundFor
        : OctetSource.SoundFor capacity { rest := octets, interrupts, failAt } := by
      intro failure given
      change 0 + min capacity octets.length < failure
      have late := sound failure given
      omega
    obtain ⟨next, filled, stands⟩ := OctetSource.fill_eq [] soundFor
    rw [readFrom_eq_of_fill (List.length_take_le ..) filled]
    exact .filled sound (stands.trans (Nat.zero_add _))
  · push Not at sound
    obtain ⟨failure, given, reached⟩ := sound
    let source : OctetSource := { rest := octets, interrupts, failAt }
    have near : failure ≤ source.position + min capacity source.rest.length := by
      change failure ≤ 0 + min capacity octets.length
      omega
    obtain ⟨next, failed, stands⟩ :=
      OctetSource.fill_eq_error [] given (Nat.zero_le failure : source.position ≤ failure) near
    rw [readFrom_eq_error_of_fill failed]
    exact .failed given reached stands

/-- Whatever interrupts a source, reading it up to a capacity fails exactly if its failures start
at or before the position where the message would be complete, and the source then stands where
they start. Otherwise there is a message of as many octets as there are and as the capacity admits,
and one octet more was taken if there was one. Other interruptions change neither the result nor
the position.
-/
theorem readFrom_exactly (octets : Octets) (interrupts : List Nat) (failAt : Option Nat)
    (capacity : Nat)
    : let source : OctetSource := { rest := octets, interrupts, failAt }
      let outcome := readFrom capacity source
      let complete := min capacity octets.length
      ((∃ failure, outcome.1 = .error failure) ↔ ∃ failure ∈ failAt, failure ≤ complete)
      ∧ (∀ failure, outcome.1 = .error failure → failAt = some outcome.2.position)
      ∧ ((∀ failure ∈ failAt, complete < failure)
        → ∃ message,
            outcome.1 = .ok message
            ∧ message.FilledFrom octets capacity
            ∧ outcome.2.position = min (capacity + 1) octets.length)
      ∧ ∀ interrupts',
          (readFrom capacity { source with interrupts := interrupts' }).1 = outcome.1
          ∧ (readFrom capacity { source with interrupts := interrupts' }).2.position
            = outcome.2.position := by
  intro source outcome complete
  have ends : ReadingEnds octets capacity failAt outcome :=
    readFrom_ends octets interrupts failAt capacity
  have others (interrupts' : List Nat)
      : ReadingEnds octets capacity failAt
          (readFrom capacity { source with interrupts := interrupts' }) :=
    readFrom_ends octets interrupts' failAt capacity
  generalize outcome = outcome at ends ⊢
  cases ends with
  | @failed position left given reached stands =>
      refine ⟨?_, ?_, ?_, ?_⟩
      · exact iff_of_true ⟨_, rfl⟩ ⟨position, given, reached⟩
      · intro failure _
        rw [given, stands]
      · intro sound
        exact absurd reached (Nat.not_le.mpr (sound position given))
      · intro interrupts'
        have other := others interrupts'
        generalize readFrom capacity _ = outcome' at other ⊢
        cases other with
        | failed given' _ stands' =>
            refine ⟨rfl, ?_⟩
            rw [stands, stands']
            exact Option.some.inj (given'.symm.trans given)
        | filled sound => exact absurd reached (Nat.not_le.mpr (sound position given))
  | @filled left sound stands =>
      refine ⟨?_, nofun, ?_, ?_⟩
      · apply iff_of_false
        · rintro ⟨failure, same⟩
          cases same
        · rintro ⟨position, given, reached⟩
          exact absurd reached (Nat.not_le.mpr (sound position given))
      · intro _
        exact ⟨_, rfl, filledFrom_ofPrefix octets capacity, stands⟩
      · intro interrupts'
        have other := others interrupts'
        generalize readFrom capacity _ = outcome' at other ⊢
        cases other with
        | failed given reached => exact absurd reached (Nat.not_le.mpr (sound _ given))
        | filled _ stands' => exact ⟨rfl, stands'.trans stands.symm⟩

/-- With room for three of five octets a source is still asked at the third position: a failure
there loses the whole message, a later one is not noticed, and the header is shown with zeros.
-/
theorem readFrom_exactly_three_of_five
    : let octets : Octets := [1, 2, 0x8F, 4, 5]
      let first : OctetSource := { rest := octets, interrupts := [3, 0, 3], failAt := some 3 }
      let second : OctetSource := { first with failAt := some 4 }
      (∃ failure, (readFrom 3 first).1 = .error failure)
      ∧ (readFrom 3 first).2.position = 3
      ∧ (∀ failure ∈ second.failAt, min 3 octets.length < failure)
      ∧ ∃ message,
          (readFrom 3 second).1 = .ok message
          ∧ message.FilledFrom octets 3
          ∧ (readFrom 3 second).2.position = 4 := by
  intro octets first second
  obtain ⟨fails, stands, _, _⟩ := readFrom_exactly octets [3, 0, 3] (some 3) 3
  obtain ⟨_, _, filled, _⟩ := readFrom_exactly octets [3, 0, 3] (some 4) 3
  obtain ⟨failure, failed⟩ := fails.mpr ⟨3, rfl, Nat.le_refl 3⟩
  have sound : ∀ failure ∈ second.failAt, min 3 octets.length < failure := by
    rintro failure ⟨rfl⟩
    exact Nat.lt_succ_self 3
  exact ⟨⟨failure, failed⟩, (Option.some.inj (stands failure failed)).symm, sound, filled sound⟩

end Message

end InverseQuery
