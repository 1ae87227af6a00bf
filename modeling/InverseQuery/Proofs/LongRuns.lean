import InverseQuery.Proofs.RepeatedHandling

/-! What a request comes to when it is handled again and again.
Once a record was refused or handed back, or a name was malformed, nothing more is found. A record
that does not end the message moves the cursor on, so this cannot go on for long. A name that was
copied from the front of the message is copied again each time.
-/

namespace InverseQuery

namespace Request

-----------------------------------------------------------------------------------------
-- Nothing is found any more
-----------------------------------------------------------------------------------------

/-- A request that stands after the header but in front of no name. -/
structure Spent (request : Request) : Prop where
  forward : Header.size ≤ request.cursor.position
  nameless : request.scan EncodedName.skip = .nameless

/-- The response code is not seen from a cursor after the header. -/
theorem scan_malformed {request : Request} (forward : Header.size ≤ request.cursor.position)
    (notice : Notice)
    : (request.malformed notice).scan EncodedName.skip = request.scan EncodedName.skip := by
  have octets : (request.malformed notice).message.octets
      = Header.writeResponseCode request.message.octets .formatError :=
    Message.octets_setResponseCode ..
  rw [scan, scan, octets]
  exact Scan.ofOctets_congr (.writeResponseCode request.message.octets .formatError) forward

namespace Spent

variable {request : Request}

theorem handle_eq (h : request.Spent) (policy : Policy)
    : request.handle policy EncodedName.skip = (.finish, request.malformed .nameProblem) :=
  (Handled.nameless h.nameless).eq

theorem malformed (h : request.Spent) (notice : Notice) : (request.malformed notice).Spent :=
  ⟨h.forward, (scan_malformed h.forward notice).trans h.nameless⟩

theorem of_limit (forward : Header.size ≤ request.cursor.position)
    (last : request.cursor.position = request.limit)
    : request.Spent :=
  ⟨forward, Scan.ofOctets_of_limit last⟩

/-- A spent request stays spent, by induction over the policies. -/
theorem handleAll (h : request.Spent) (policies : List Policy)
    : (request.handleAll policies).Spent := by
  induction policies generalizing request with
  | nil => exact h
  | cons policy rest ih =>
      rw [Request.handleAll, h.handle_eq policy]
      exact ih (h.malformed .nameProblem)

end Spent

end Request

-----------------------------------------------------------------------------------------
-- Where each handling leaves the cursor
-----------------------------------------------------------------------------------------

namespace HandlingCall

def verdict (call : HandlingCall) : Verdict :=
  (call.before.handle call.policy EncodedName.skip).1

/-- The notices that the call adds. -/
def added (call : HandlingCall) : List Notice :=
  call.before.addedNotices call.policy EncodedName.skip

/-- The call refuses its record, hands it back or finds no name. -/
def Settles (call : HandlingCall) : Prop :=
  call.verdict = .refuse ∨ call.verdict = .handBack ∨ .nameProblem ∈ call.added

variable {call : HandlingCall}

theorem exists_exit (call : HandlingCall)
    : ∃ exit : HandlingExit,
        call.verdict = exit.verdict
        ∧ call.added = exit.notices
        ∧ exit.Frame call.policy EncodedName.skip call.before call.after :=
  call.before.exists_exit call.policy EncodedName.skip

/-- Whether the call settles its request can be told from its exit. -/
theorem settles_iff {exit : HandlingExit} (verdict : call.verdict = exit.verdict)
    (added : call.added = exit.notices)
    : call.Settles
      ↔ exit.verdict = .refuse ∨ exit.verdict = .handBack ∨ .nameProblem ∈ exit.notices := by
  rw [Settles, verdict, added]

/-- No call moves the cursor back into the header. -/
theorem forward_after (forward : Header.size ≤ call.before.cursor.position)
    : Header.size ≤ call.after.cursor.position := by
  obtain ⟨exit, _, _, frame⟩ := call.exists_exit
  have reads := frame.reads
  cases exit with
  | nameless =>
      rw [reads.2]
      exact forward
  | misfit => exact Nat.le_trans forward reads.2
  | copied record length capacity =>
      obtain ⟨nameEnd, stopped, _, _, back⟩ := reads
      rw [back]
      exact Nat.le_refl Header.size
  | _ =>
      obtain ⟨nameEnd, found, _⟩ := reads
      obtain ⟨_, ordered, ordered', _⟩ := Scan.entry_bounds found
      exact Nat.le_trans forward (Nat.le_trans ordered ordered')

/-- After a call that settles its request nothing is found any more: the cursor stands at the limit or
still in front of no name.
-/
theorem Settles.spent (h : call.Settles) (forward : Header.size ≤ call.before.cursor.position)
    : call.after.Spent := by
  obtain ⟨exit, verdict, added, frame⟩ := call.exists_exit
  rw [settles_iff verdict added] at h
  have forward' := forward_after forward
  have reads := frame.reads
  cases exit with
  | nameless =>
      have spent : call.before.Spent := ⟨forward, reads.1⟩
      rw [after, spent.handle_eq]
      exact spent.malformed .nameProblem
  | misfit => simp [HandlingExit.verdict, HandlingExit.notices] at h
  | copied record length capacity => simp [HandlingExit.verdict, HandlingExit.notices] at h
  | _ =>
      obtain ⟨nameEnd, found, _⟩ := reads
      exact .of_limit forward' ((Scan.entry_bounds found).1.trans frame.limit.symm)

/-- A call that reports a misfit found a name before the limit, and the cursor is then past it. -/
theorem cursor_lt_of_misfit (range : call.before.limit ≤ Cursor.maximum)
    (misfit : .lengthOff ∈ call.added)
    : call.before.cursor.position < call.before.limit
      ∧ call.before.cursor.position < call.after.cursor.position := by
  obtain ⟨exit, _, added, frame⟩ := call.exists_exit
  rw [added] at misfit
  cases exit with
  | misfit =>
      obtain ⟨found, _⟩ := frame.reads
      obtain ⟨length, fault, skipped, failed⟩ := Scan.ofOctets_eq_misfit_iff.mp found
      have name := EncodedName.skip_eq_ok_iff.mp skipped
      have positive := name.one_le
      have inside := name.1
      have further := (RecordFields.forward_readLast _ _).le_of_error failed
      rw [Cursor.position_advance_of_le (by omega)] at further
      omega
  | _ => simp [HandlingExit.notices] at misfit

end HandlingCall

-----------------------------------------------------------------------------------------
-- Misfits in a row
-----------------------------------------------------------------------------------------

namespace Request

/-- Every call of a run is made after the header and with the limit of the run, by induction over the
policies.
-/
theorem of_mem_calls {request : Request} (forward : Header.size ≤ request.cursor.position)
    {policies : List Policy} {call : HandlingCall} (member : call ∈ request.calls policies)
    : Header.size ≤ call.before.cursor.position ∧ call.before.limit = request.limit := by
  induction policies generalizing request with
  | nil => cases member
  | cons policy rest ih =>
      rcases List.mem_cons.mp member with rfl | later
      · exact ⟨forward, rfl⟩
      · obtain ⟨exit, _, frame⟩ := (request.handled policy EncodedName.skip).frame
        have forward' := @HandlingCall.forward_after ⟨request, policy⟩ forward
        obtain ⟨after, limit⟩ := ih forward' later
        exact ⟨after, limit.trans frame.limit⟩

/-- Misfits in a row are no more than the octets between the cursor and the limit, by induction over
the calls: each of them starts before the limit and moves the cursor on.
-/
theorem length_le_of_misfits {request : Request} (range : request.limit ≤ Cursor.maximum)
    {policies : List Policy} (misfits : ∀ call ∈ request.calls policies, .lengthOff ∈ call.added)
    : policies.length ≤ request.limit - request.cursor.position := by
  induction policies generalizing request with
  | nil => exact Nat.zero_le _
  | cons policy rest ih =>
      obtain ⟨misfit, later⟩ := List.forall_mem_cons.mp misfits
      obtain ⟨before, further⟩ := HandlingCall.cursor_lt_of_misfit range misfit
      obtain ⟨exit, _, frame⟩ := (request.handled policy EncodedName.skip).frame
      have limit := frame.limit
      have bound := ih (limit ▸ range) later
      rw [limit] at bound
      change request.cursor.position < (request.handle policy EncodedName.skip).2.cursor.position
        at further
      change request.cursor.position < request.limit at before
      rw [List.length_cons]
      omega

-----------------------------------------------------------------------------------------
-- Copies again and again
-----------------------------------------------------------------------------------------

/-- The notices of a copied name. -/
def copyNotices (request : Request) (record : RecordFields) (nameEnd : Nat) : List Notice :=
  [.accepted record.classCode record.typeCode,
    .copying (nameEnd - Header.size) request.answer.capacity]

/-- A request after its name was copied `count` more times, with the same notices each time. -/
def recopied (request : Request) (notices : List Notice) (count : Nat) : Request :=
  { request with
    remaining := request.remaining - Header.size * count
    notices := request.notices ++ (List.replicate count notices).flatten }

theorem recopied_succ (request : Request) (notices : List Notice) (count : Nat)
    : (request.recopied notices 1).recopied notices count
      = request.recopied notices (count + 1) := by
  have remaining : request.remaining - Header.size * 1 - Header.size * count
      = request.remaining - Header.size * (count + 1) := by
    rw [Nat.mul_one, Nat.sub_sub, Nat.mul_succ, Nat.add_comm]
  simp only [recopied, remaining, List.replicate_succ, List.replicate_zero, List.flatten_cons,
    List.flatten_nil, List.append_nil, List.append_assoc]

/-- A request that would copy what it has already copied. -/
structure Recopies (request : Request) (record : RecordFields) (nameEnd stopped : Cursor)
    : Prop where
  found : request.scan EncodedName.skip = .entry record nameEnd stopped
  address : record.recordType? = some .a
  after : Header.size ≤ nameEnd.position
  fits : nameEnd.position - Header.size ≤ request.answer.capacity
  cursor : request.cursor = .ofNat Header.size
  kept : request.record = some record
  answer
    : request.answer.overwrite (request.message.octets.window Header.size nameEnd.position)
      = request.answer
  extraction
    : request.extraction
      = some
          { nameStart := Header.size
            length := nameEnd.position - Header.size
            dataOffset := (nameEnd.position - Header.size : Nat) - record.dataLength.toNat }

end Request

/-- Writing the same content twice is writing it once. -/
theorem Answer.overwrite_overwrite (answer : Answer) (source : Octets)
    : (answer.overwrite source).overwrite source = answer.overwrite source := by
  simp only [overwrite, List.drop_left]

namespace Request

variable {request : Request} {record : RecordFields} {nameEnd stopped : Cursor}

/-- Copying once more changes only what remains and the notices. -/
theorem Recopies.handle (h : request.Recopies record nameEnd stopped) {policy : Policy}
    (enabled : policy.enabled)
    : request.handle policy EncodedName.skip
      = (.finish, request.recopied (request.copyNotices record nameEnd.position) 1) := by
  rw [(Handled.copied h.found ⟨h.address, enabled⟩ h.after h.fits).eq]
  simp only [copied, accepted, report, decoded, recopied, copyNotices, h.answer, h.cursor,
    h.kept, h.extraction, Nat.mul_one, List.append_assoc]
  rfl

/-- What would be copied again still would after the next copy. -/
theorem Recopies.recopied (h : request.Recopies record nameEnd stopped) (notices : List Notice)
    (count : Nat)
    : (request.recopied notices count).Recopies record nameEnd stopped :=
  ⟨h.found, h.address, h.after, h.fits, h.cursor, h.kept, h.answer, h.extraction⟩

/-- A name that was copied from a cursor at the end of the header would be copied again. -/
theorem recopies_of_copied (start : request.cursor.position = Header.size)
    (found : request.scan EncodedName.skip = .entry record nameEnd stopped)
    (address : record.recordType? = some .a) (after : Header.size ≤ nameEnd.position)
    (fits : nameEnd.position - Header.size ≤ request.answer.capacity)
    : ((request.accepted record stopped).copied record nameEnd.position).Recopies record nameEnd
        stopped := by
  have cursor : request.cursor = .ofNat Header.size := Cursor.eq_of_position start
  have length := length_name found
  refine
    { found := ?_
      address := address
      after := after
      fits := ?_
      cursor := rfl
      kept := rfl
      answer := Answer.overwrite_overwrite ..
      extraction := rfl }
  · rw [← found, scan, scan, cursor]
    rfl
  · change _ ≤ (request.answer.overwrite _).capacity
    rw [Answer.capacity_overwrite]
    · exact fits
    · change (request.message.octets.window Header.size nameEnd.position).length ≤ _
      rwa [length]

/-- However often the name was copied again, the next time it is copied once more, by induction over
the policies.
-/
theorem Recopies.handle_handleAll (h : request.Recopies record nameEnd stopped)
    {between : List Policy} {next : Policy} (enabled : ∀ policy ∈ between, policy.enabled)
    (enabled' : next.enabled)
    : (request.handleAll between).handle next EncodedName.skip
      = (.finish,
        request.recopied (request.copyNotices record nameEnd.position) (between.length + 1)) := by
  induction between generalizing request with
  | nil => exact h.handle enabled'
  | cons policy rest ih =>
      obtain ⟨first, later⟩ := List.forall_mem_cons.mp enabled
      rw [handleAll, h.handle first, ih (h.recopied _ 1) later]
      exact congrArg (Prod.mk Verdict.finish) (request.recopied_succ _ (rest.length + 1))

end Request

/-- A call that copies a name from the end of the header keeps the message and the cursor, and leaves
a request that would copy the name again with the same notices.
-/
theorem HandlingCall.recopies {call : HandlingCall}
    (start : call.before.cursor.position = Header.size) {length room : Nat}
    (copying : .copying length room ∈ call.added)
    : ∃ record nameEnd stopped,
        call.after.Recopies record nameEnd stopped
        ∧ call.verdict = .finish
        ∧ call.after.message = call.before.message
        ∧ call.after.cursor = call.before.cursor
        ∧ call.added = call.after.copyNotices record nameEnd.position := by
  obtain ⟨exit, verdict, added, frame⟩ := call.exists_exit
  rw [added] at copying
  cases exit with
  | copied record length' room' =>
      obtain ⟨nameEnd, stopped, found, ends, back⟩ := frame.reads
      obtain ⟨whole, fits, _⟩ := frame.answered record length' room' rfl
      have approved := frame.approves
      rw [HandlingExit.Approves, ← RecordFields.recordType?_eq_a_iff] at approved
      have after : Header.size ≤ nameEnd.position := by omega
      have fits : nameEnd.position - Header.size ≤ call.before.answer.capacity := by omega
      have copied := Request.recopies_of_copied start found approved.1 after fits
      have outcome : call.after = _ :=
        congrArg Prod.snd (Request.Handled.copied found approved after fits).eq
      refine ⟨record, nameEnd, stopped, outcome ▸ copied, verdict, ?_, ?_, ?_⟩
      · rw [outcome]
        rfl
      · rw [back]
        exact (Cursor.eq_of_position start).symm
      · have length : nameEnd.position - Header.size = length' := by omega
        rw [added, Request.copyNotices, length, frame.answerCapacity, ← whole]
        rfl
  | _ => simp [HandlingExit.notices] at copying

/-- However a request was handled before, once it was refused or handed back or its name was
malformed, every later handling finishes, adds that the name is malformed and writes that there is a
format error, and changes nothing else. Every misfit moves the cursor on, so in a run of a fresh
request there are never more of them in a row than octets after the header. A name copied from the
end of the header is copied again by every later handling under a policy that is on, which changes
only what remains and adds the same two notices.
-/
theorem repeatedHandling_longRun (request : Request)
    (forward : Header.size ≤ request.cursor.position)
    : (∀ policies, ∀ call ∈ request.calls policies,
        call.Settles
        → ∀ between next,
            let later := call.after.handleAll between
            let ends := later.handle next EncodedName.skip
            ends = (.finish, later.malformed .nameProblem)
            ∧ ends.2.responseCode = .formatError
            ∧ ends.2.message.storage
              = later.message.storage.modify 3 fun flags => (flags &&& 0xF0) ||| 1)
      ∧ (request.limit ≤ Cursor.maximum
        → ∀ policies, ∀ call ∈ request.calls policies,
            .lengthOff ∈ call.added
            → call.before.cursor.position < call.after.cursor.position)
      ∧ (∀ (octets : Octets) (capacity : Nat) (earlier row : List Policy),
          octets.length ≤ Cursor.maximum
          → (∀ call ∈ ((Request.fresh octets capacity).handleAll earlier).calls row,
              .lengthOff ∈ call.added)
          → row.length ≤ octets.length - Header.size)
      ∧ ∀ policies, ∀ call ∈ request.calls policies,
          call.before.cursor.position = Header.size
          → ∀ length room,
              .copying length room ∈ call.added
              → (∃ record,
                  call.after.record = some record
                  ∧ call.added
                    = [.accepted record.classCode record.typeCode, .copying length room])
                ∧ call.after.message = call.before.message
                ∧ call.after.cursor = call.before.cursor
                ∧ ∀ between : List Policy,
                    (∀ policy ∈ between, policy.enabled)
                    → ∀ next : Policy,
                        next.enabled
                        → (call.after.handleAll between).handle next EncodedName.skip
                          = (call.verdict,
                            call.after.recopied call.added (between.length + 1)) := by
  refine ⟨?_, ?_, ?_, ?_⟩
  · intro policies call member settles between next later ends
    have before := (Request.of_mem_calls forward member).1
    have handled : ends = (.finish, later.malformed .nameProblem) :=
      ((settles.spent before).handleAll between).handle_eq next
    refine ⟨handled, ?_, ?_⟩
    · rw [handled]
      exact later.responseCode_malformed .nameProblem
    · rw [handled]
      exact later.storage_malformed .nameProblem
  · intro range policies call member misfit
    have limit := (Request.of_mem_calls forward member).2
    exact (HandlingCall.cursor_lt_of_misfit (limit ▸ range) misfit).2
  · intro octets capacity earlier row range misfits
    have invariant := (RunInvariant.fresh octets capacity).handleAll earlier
    have limit := invariant.frame.limit
    have bound := Request.length_le_of_misfits (limit ▸ range) misfits
    rw [limit] at bound
    exact Nat.le_trans bound (Nat.sub_le_sub_left invariant.search.forward _)
  · intro policies call member start length room copying
    obtain ⟨record, nameEnd, stopped, recopies, verdict, message, cursor, added⟩ :=
      HandlingCall.recopies start copying
    refine ⟨⟨record, recopies.kept, ?_⟩, message, cursor, ?_⟩
    · rw [added] at copying ⊢
      obtain ⟨rfl, rfl⟩ := by simpa [Request.copyNotices] using copying
      rfl
    · intro between enabled next enabled'
      rw [verdict, added]
      exact recopies.handle_handleAll enabled enabled'

/-- A record that is refused once, one that is followed by an octet, and one whose name is copied four
times.
-/
theorem repeatedHandling_longRun_one_label
    : let octets : Octets := List.replicate 12 0 ++ [1, 97, 0, 0, 1, 0, 1, 0, 0, 0, 0, 0, 0]
      let refused : HandlingCall := ⟨Request.fresh octets 4, ⟨false⟩⟩
      let misfit : HandlingCall := ⟨Request.fresh (octets ++ [0]) 4, ⟨true⟩⟩
      let copied : HandlingCall := ⟨Request.fresh octets 4, ⟨true⟩⟩
      (refused.Settles
        ∧ let later := refused.after.handleAll [⟨true⟩]
          let ends := later.handle ⟨false⟩ EncodedName.skip
          ends = (.finish, later.malformed .nameProblem)
          ∧ ends.2.responseCode = .formatError
          ∧ ends.2.message.storage
            = later.message.storage.modify 3 fun flags => (flags &&& 0xF0) ||| 1)
      ∧ (.lengthOff ∈ misfit.added
        ∧ misfit.before.cursor.position < misfit.after.cursor.position
        ∧ [misfit.policy].length ≤ (octets ++ [0]).length - Header.size)
      ∧ (.copying 3 4 ∈ copied.added
        ∧ (copied.after.handleAll [⟨true⟩, ⟨true⟩]).handle ⟨true⟩ EncodedName.skip
          = (copied.verdict, copied.after.recopied copied.added 3)) := by
  intro octets refused misfit copied
  have settles : refused.Settles := .inl (by decide +kernel)
  have misfits : .lengthOff ∈ misfit.added := by decide +kernel
  have copying : .copying 3 4 ∈ copied.added := by decide +kernel
  obtain ⟨settled, _, _, copies⟩ := repeatedHandling_longRun (.fresh octets 4) (by decide)
  obtain ⟨_, moves, rows, _⟩ := repeatedHandling_longRun (.fresh (octets ++ [0]) 4) (by decide)
  refine ⟨⟨settles, settled [⟨false⟩] refused (.head _) settles [⟨true⟩] ⟨false⟩⟩,
    ⟨misfits, moves (by decide) [⟨true⟩] misfit (.head _) misfits, ?_⟩, copying, ?_⟩
  · apply rows (octets ++ [0]) 4 [] [⟨true⟩] (by decide)
    intro call member
    cases List.mem_singleton.mp member
    exact misfits
  · obtain ⟨_, _, _, again⟩ := copies [⟨true⟩] copied (.head _) (by decide) 3 4 copying
    exact again [⟨true⟩, ⟨true⟩] (by decide) ⟨true⟩ rfl

end InverseQuery
