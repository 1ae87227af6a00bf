import InverseQuery.Proofs.HandlingFrame

/-! What the policy and the room in the answer decide: whether a name is copied, and nothing else.
Neither of them is looked at before a record was found. So requests that differ in one of them are
handled alike up to the point where a name would be copied.
-/

namespace InverseQuery

/-- A notice with the capacity of another answer. -/
def Notice.forCapacity (capacity : Nat) : Notice → Notice
  | copying length _ => copying length capacity
  | notice => notice

/-- Only the notice of a copy shows a capacity. -/
theorem Notice.forCapacity_of_uncopied {notice : Notice} (capacity : Nat)
    (uncopied : notice.isCopy = false)
    : notice.forCapacity capacity = notice := by
  cases notice with
  | copying => cases uncopied
  | _ => rfl

/-- Handling refused a record of an address. -/
def RefusesAddress (outcome : Verdict × Request) : Prop :=
  outcome.1 = .refuse ∧ ∃ record, outcome.2.record = some record ∧ record.typeCode = 1

/-- How handling goes on after it accepted a record: the verdict and the one notice that follows. -/
inductive CopyEnds : Verdict → Notice → Prop
  | copied (length capacity : Nat) : CopyEnds .finish (.copying length capacity)
  | overflow : CopyEnds .handBack .answerOverflow
  | early : CopyEnds .finish .nameProblem

namespace Request

-----------------------------------------------------------------------------------------
-- The policy decides about the records of addresses
-----------------------------------------------------------------------------------------

section Policy

variable {request : Request} {skipName : NameSkipper}

theorem addedNotices_of_eq {policy : Policy} {added : List Notice}
    (h : (request.handle policy skipName).2.notices = request.notices ++ added)
    : request.addedNotices policy skipName = added := by
  rw [addedNotices, h, List.drop_left]

/-- While the policy is off an address is refused exactly where the record of one was found. -/
theorem refusesAddress_off_iff
    : RefusesAddress (request.handle ⟨false⟩ skipName)
      ↔ ∃ record nameEnd stopped,
          request.scan skipName = .entry record nameEnd stopped
          ∧ record.typeCode = 1
          ∧ request.handle ⟨false⟩ skipName = (.refuse, request.decoded record stopped) := by
  have handled := request.handled ⟨false⟩ skipName
  generalize request.handle ⟨false⟩ skipName = outcome at handled ⊢
  constructor
  · rintro ⟨refused, record, kept, address⟩
    cases handled with
    | refused found declined =>
        obtain rfl := Option.some.inj kept
        exact ⟨_, _, _, found, address, rfl⟩
    | _ => cases refused
  · rintro ⟨record, nameEnd, stopped, _, address, rfl⟩
    exact ⟨rfl, record, rfl, address⟩

/-- An address that is refused while the policy is off is accepted once it is on. -/
theorem handle_on_of_refusesAddress (h : RefusesAddress (request.handle ⟨false⟩ skipName))
    : ∃ record ending,
        (request.handle ⟨false⟩ skipName).2.record = some record
        ∧ (request.handle ⟨true⟩ skipName).2.record = some record
        ∧ (request.handle ⟨true⟩ skipName).2.notices
          = request.notices ++ [.accepted record.classCode 1, ending]
        ∧ CopyEnds (request.handle ⟨true⟩ skipName).1 ending := by
  obtain ⟨record, nameEnd, stopped, found, address, off⟩ := refusesAddress_off_iff.mp h
  obtain ⟨exit, verdict, _, frame⟩ := request.exists_exit ⟨true⟩ skipName
  have record? : exit.record? = some record := by
    rw [frame.reads.record?_eq, found]
    rfl
  have kept : (request.handle ⟨true⟩ skipName).2.record = some record := by
    rw [frame.record, record?, Option.some_or]
  have approves := frame.approves
  rw [off, verdict, frame.notices]
  cases exit with
  | nameless => cases record?
  | misfit => cases record?
  | refused other =>
      cases record?
      exact absurd ⟨address, rfl⟩ approves
  | early other =>
      cases record?
      exact ⟨record, .nameProblem, rfl, kept, by rw [← address]; rfl, .early⟩
  | overflow other =>
      cases record?
      exact ⟨record, .answerOverflow, rfl, kept, by rw [← address]; rfl, .overflow⟩
  | copied other length capacity =>
      cases record?
      exact ⟨record, .copying length capacity, rfl, kept, by rw [← address]; rfl,
        .copied length capacity⟩

/-- Whatever else becomes of a request while the policy is off also becomes of it when it is on. -/
theorem handle_on_of_not_refusesAddress
    (h : ¬ RefusesAddress (request.handle ⟨false⟩ skipName))
    : request.handle ⟨true⟩ skipName = request.handle ⟨false⟩ skipName := by
  have handled := request.handled ⟨false⟩ skipName
  generalize request.handle ⟨false⟩ skipName = outcome at handled h ⊢
  cases handled with
  | nameless found => exact (Handled.nameless found).eq
  | misfit found => exact (Handled.misfit found).eq
  | @refused record nameEnd stopped found declined =>
      apply (Handled.refused found _).eq
      rw [RecordFields.recordType?_eq_a_iff]
      rintro ⟨address, _⟩
      exact h ⟨rfl, record, rfl, address⟩
  | early found approved => cases approved.2
  | overflow found approved => cases approved.2
  | copied found approved => cases approved.2

end Policy

-----------------------------------------------------------------------------------------
-- The room in the answer decides about accepted names
-----------------------------------------------------------------------------------------

/-- The length of what would be copied, from the header to the end of the name. -/
def NameSpan (request : Request) (skipName : NameSkipper) (span : Nat) : Prop :=
  ∃ length,
    skipName request.message.octets request.cursor.position request.limit = .ok length
    ∧ span = (request.cursor.advance length).position - Header.size

/-- Handling ends in the same way for a request and for the same request with another answer. Only
the capacity in the notice of a copy differs, and the answers do, unless their content was copied.
-/
structure EndsAlike (request : Request) (answer : Answer) (added : List Notice)
    (small large : Verdict × Request) : Prop where
  verdict : large.1 = small.1
  request_eq : large.2 = { small.2 with answer := large.2.answer, notices := large.2.notices }
  notices : small.2.notices = request.notices ++ added
  notices' : large.2.notices = request.notices ++ added.map (.forCapacity answer.capacity)
  answers
    : if added.any Notice.isCopy then large.2.answer.content = small.2.answer.content
      else small.2.answer = request.answer ∧ large.2.answer = answer

/-- Handling found a name of `span` octets too long for the answer and left all but the cursor, the
record and the notices alone. With another answer it finds so again, or copies exactly those octets.
-/
structure Overflows (request : Request) (skipName : NameSkipper) (answer : Answer)
    (added : List Notice) (small large : Verdict × Request) (span : Nat) : Prop where
  span_eq : request.NameSpan skipName span
  long : request.answer.capacity < span
  verdict : small.1 = .handBack
  request_eq
    : small.2
      = { request with
          cursor := small.2.cursor, record := small.2.record, notices := small.2.notices }
  notices : small.2.notices = request.notices ++ added
  again : answer.capacity < span → large.1 = .handBack ∧ large.2.notices = small.2.notices
  fits
    : span ≤ answer.capacity
      → large.1 = .finish
        ∧ large.2.notices
          = request.notices ++ added.dropLast ++ [.copying span answer.capacity]
        ∧ large.2.answer.content
          = request.message.octets.window Header.size (Header.size + span)
        ∧ large.2.answer.content.length = span

section Room

variable {request : Request} {answer : Answer} {policy : Policy} {skipName : NameSkipper}
  {small : Verdict × Request}

/-- Without a copy each answer stays what it was. -/
theorem EndsAlike.of_uncopied {added : List Notice} {large : Verdict × Request}
    (uncopied : ∀ notice ∈ added, notice.isCopy = false) (verdict : large.1 = small.1)
    (request_eq : large.2 = { small.2 with answer := large.2.answer, notices := large.2.notices })
    (notices : small.2.notices = request.notices ++ added)
    (notices' : large.2.notices = request.notices ++ added)
    (kept : small.2.answer = request.answer) (kept' : large.2.answer = answer)
    : EndsAlike request answer added small large where
  verdict := verdict
  request_eq := request_eq
  notices := notices
  notices' := by
    have same : added.map (.forCapacity answer.capacity) = added.map id :=
      List.map_congr_left fun notice member =>
        notice.forCapacity_of_uncopied answer.capacity (uncopied notice member)
    rw [same, List.map_id, notices']
  answers := by
    rw [if_neg (by simpa using uncopied)]
    exact ⟨kept, kept'⟩

/-- A larger answer changes what becomes of a request only where a name was too long, by cases on
the way in which the request was handled.
-/
theorem Handled.compared (h : Handled policy skipName request small)
    (larger : request.answer.capacity ≤ answer.capacity)
    : (∃ added,
        .answerOverflow ∉ added
        ∧ EndsAlike request answer added small ({ request with answer }.handle policy skipName))
      ∨ ∃ added span,
          .answerOverflow ∈ added
          ∧ Overflows request skipName answer added small
              ({ request with answer }.handle policy skipName) span := by
  have scan_eq : { request with answer }.scan skipName = request.scan skipName := rfl
  cases h with
  | nameless found =>
      rw [(Handled.nameless (scan_eq.trans found)).eq]
      refine .inl ⟨[.nameProblem], by simp, ?_⟩
      exact .of_uncopied (by simp [Notice.isCopy]) rfl rfl rfl rfl rfl rfl
  | misfit found =>
      rw [(Handled.misfit (scan_eq.trans found)).eq]
      refine .inl ⟨[.lengthOff], by simp, ?_⟩
      exact .of_uncopied (by simp [Notice.isCopy]) rfl rfl rfl rfl rfl rfl
  | refused found declined =>
      rw [(Handled.refused (scan_eq.trans found) declined).eq]
      refine .inl ⟨[], by simp, ?_⟩
      have unchanged := (List.append_nil request.notices).symm
      exact .of_uncopied (by simp) rfl rfl unchanged unchanged rfl rfl
  | @early record nameEnd stopped found approved before =>
      rw [(Handled.early (scan_eq.trans found) approved before).eq]
      refine .inl ⟨[.accepted record.classCode record.typeCode, .nameProblem], by simp, ?_⟩
      have added := List.append_assoc request.notices
        [.accepted record.classCode record.typeCode] [.nameProblem]
      exact .of_uncopied (by simp [Notice.isCopy]) rfl rfl added added rfl rfl
  | @copied record nameEnd stopped found approved after fits =>
      rw [(Handled.copied (scan_eq.trans found) approved after (Nat.le_trans fits larger)).eq]
      refine .inl
        ⟨[.accepted record.classCode record.typeCode,
          .copying (nameEnd.position - Header.size) request.answer.capacity], by simp, ?_⟩
      refine ⟨rfl, rfl, List.append_assoc .., List.append_assoc .., ?_⟩
      change (Answer.overwrite ..).content = (Answer.overwrite ..).content
      rw [Answer.content_overwrite, Answer.content_overwrite]
      rfl
  | @overflow record nameEnd stopped found approved after long =>
      refine .inr
        ⟨[.accepted record.classCode record.typeCode, .answerOverflow],
          nameEnd.position - Header.size, by simp, ?_⟩
      obtain ⟨length, skipped, ends, _⟩ := Scan.ofOctets_eq_entry_iff.mp found
      refine
        { span_eq := ⟨length, skipped, by rw [ends]⟩
          long := long
          verdict := rfl
          request_eq := rfl
          notices := List.append_assoc ..
          again := ?_
          fits := ?_ }
      · intro long'
        rw [(Handled.overflow (scan_eq.trans found) approved after long').eq]
        exact ⟨rfl, rfl⟩
      · intro fits
        rw [(Handled.copied (scan_eq.trans found) approved after fits).eq]
        have whole : Header.size + (nameEnd.position - Header.size) = nameEnd.position := by omega
        have content := Answer.content_overwrite answer
          (request.message.octets.window Header.size nameEnd.position)
        refine ⟨rfl, rfl, ?_, ?_⟩
        · rw [whole]
          exact content
        · exact (congrArg List.length content).trans (length_name found)

end Room

/-- The policy and the room in the answer only decide whether an accepted name is copied. Turning
the policy on changes nothing unless the record of an address was refused, which is then accepted.
A larger answer changes nothing but what the copy shows of it, unless a name was too long for the
smaller one, which then is copied as soon as there is room.
-/
theorem handle_gates_copy (request : Request) (skipName : NameSkipper)
    : let off := request.handle ⟨false⟩ skipName
      let on := request.handle ⟨true⟩ skipName
      (¬ RefusesAddress off → on = off)
      ∧ (RefusesAddress off
        → ∃ record ending,
            off.2.record = some record
            ∧ on.2.record = some record
            ∧ on.2.notices = request.notices ++ [.accepted record.classCode 1, ending]
            ∧ CopyEnds on.1 ending)
      ∧ ∀ (policy : Policy) (answer : Answer),
          request.answer.capacity ≤ answer.capacity
          → let small := request.handle policy skipName
            let large := { request with answer }.handle policy skipName
            let added := request.addedNotices policy skipName
            (.answerOverflow ∉ added → EndsAlike request answer added small large)
            ∧ (.answerOverflow ∈ added
              → ∃ span, Overflows request skipName answer added small large span) := by
  refine ⟨handle_on_of_not_refusesAddress, handle_on_of_refusesAddress, ?_⟩
  intro policy answer larger small large added
  rcases (request.handled policy skipName).compared larger with
    ⟨notices, fitting, alike⟩ | ⟨notices, span, overflowing, overflows⟩
  · have same : added = notices := addedNotices_of_eq alike.notices
    rw [same]
    exact ⟨fun _ => alike, fun overflow => absurd overflow fitting⟩
  · have same : added = notices := addedNotices_of_eq overflows.notices
    rw [same]
    exact ⟨fun fits => absurd overflowing fits, fun _ => ⟨span, overflows⟩⟩

/-- A name of three octets that is refused while the policy is off, does not fit an answer for two
when it is on, and is copied to an answer for three.
-/
theorem handle_gates_copy_three_octets
    : let octets : Octets := List.replicate 12 0 ++ [1, 97, 0, 0, 1, 0, 1, 0, 0, 0, 0, 0, 0]
      let skipName : NameSkipper := fun _ _ _ => .ok 3
      let request := Request.fresh octets 2
      let answer := Answer.empty 3
      RefusesAddress (request.handle ⟨false⟩ skipName)
      ∧ (∃ record ending,
          (request.handle ⟨true⟩ skipName).2.record = some record
          ∧ CopyEnds (request.handle ⟨true⟩ skipName).1 ending)
      ∧ request.answer.capacity ≤ answer.capacity
      ∧ .answerOverflow ∈ request.addedNotices ⟨true⟩ skipName
      ∧ ({ request with answer }.handle ⟨true⟩ skipName).2.answer.content = [1, 97, 0] := by
  intro octets skipName request answer
  have refused : RefusesAddress (request.handle ⟨false⟩ skipName) :=
    ⟨by decide +kernel, ⟨1, 1, 0⟩, by decide +kernel, rfl⟩
  have larger : request.answer.capacity ≤ answer.capacity := by decide
  have overflow : .answerOverflow ∈ request.addedNotices ⟨true⟩ skipName := by decide +kernel
  obtain ⟨_, accepted, room⟩ := handle_gates_copy request skipName
  obtain ⟨record, ending, _, kept, _, ends⟩ := accepted refused
  obtain ⟨span, overflows⟩ := (room ⟨true⟩ answer larger).2 overflow
  obtain ⟨length, skipped, span_eq⟩ := overflows.span_eq
  obtain rfl : 3 = length := Except.ok.inj skipped
  obtain rfl : span = 3 := span_eq
  exact ⟨refused, ⟨record, ending, kept, ends⟩, larger, overflow,
    (overflows.fits (Nat.le_refl 3)).2.2.1⟩

end Request

end InverseQuery
