import InverseQuery.Proofs.CheckedAccess

/-! What one handling may change, for every request and every way to skip a name.
The notices that it adds tell which exit it took. Only a copied name changes the answer, and only a
malformed message changes the message, in the low four bits of one octet.
-/

namespace InverseQuery

/-- Whether a notice calls the message malformed. -/
def Notice.isFault : Notice → Bool
  | nameProblem => true
  | lengthOff => true
  | _ => false

/-- Whether a notice announces a copy to the answer. -/
def Notice.isCopy : Notice → Bool
  | copying _ _ => true
  | _ => false

/-- The exits of handling, with the record where one was read to its end. -/
inductive HandlingExit where
  | nameless
  | misfit
  | refused (record : RecordFields)
  /-- The name was said to end inside the header. -/
  | early (record : RecordFields)
  | overflow (record : RecordFields)
  | copied (record : RecordFields) (length capacity : Nat)

namespace HandlingExit

def verdict : HandlingExit → Verdict
  | refused _ => .refuse
  | overflow _ => .handBack
  | _ => .finish

/-- The notices that are added on the way to an exit. -/
def notices : HandlingExit → List Notice
  | nameless => [.nameProblem]
  | misfit => [.lengthOff]
  | refused _ => []
  | early record => [.accepted record.classCode record.typeCode, .nameProblem]
  | overflow record => [.accepted record.classCode record.typeCode, .answerOverflow]
  | copied record length capacity =>
      [.accepted record.classCode record.typeCode, .copying length capacity]

def faulty (exit : HandlingExit) : Bool := exit.notices.any Notice.isFault

def copies (exit : HandlingExit) : Bool := exit.notices.any Notice.isCopy

/-- The record that was read, unless the only notice is that the message is malformed. -/
def record? : HandlingExit → Option RecordFields
  | nameless => none
  | misfit => none
  | refused record => some record
  | early record => some record
  | overflow record => some record
  | copied record _ _ => some record

/-- Whether the record passed the policy, once there was one. -/
def Approves (policy : Policy) : HandlingExit → Prop
  | nameless => True
  | misfit => True
  | refused record => ¬ (record.typeCode = 1 ∧ policy.enabled)
  | early record => record.typeCode = 1 ∧ policy.enabled
  | overflow record => record.typeCode = 1 ∧ policy.enabled
  | copied record _ _ => record.typeCode = 1 ∧ policy.enabled

/-- What was found before an exit, and where the cursor stands after it. -/
def Reads (skipName : NameSkipper) (before after : Request) : HandlingExit → Prop
  | nameless => before.scan skipName = .nameless ∧ after.cursor = before.cursor
  | misfit =>
      before.scan skipName = .misfit after.cursor
      ∧ before.cursor.position ≤ after.cursor.position
  | refused record =>
      ∃ nameEnd,
        before.scan skipName = .entry record nameEnd after.cursor
        ∧ after.cursor.position = before.limit
  | early record =>
      ∃ nameEnd,
        before.scan skipName = .entry record nameEnd after.cursor
        ∧ after.cursor.position = before.limit
        ∧ nameEnd.position < Header.size
  | overflow record =>
      ∃ nameEnd,
        before.scan skipName = .entry record nameEnd after.cursor
        ∧ after.cursor.position = before.limit
        ∧ Header.size + before.answer.capacity < nameEnd.position
  | copied record length _ =>
      ∃ nameEnd stopped,
        before.scan skipName = .entry record nameEnd stopped
        ∧ nameEnd.position = Header.size + length
        ∧ after.cursor = .ofNat Header.size

/-- What a copied name of `length` octets leaves in the answer. -/
structure Copy (record : RecordFields) (length capacity : Nat) (before after : Request)
    : Prop where
  capacity_eq : capacity = before.answer.capacity
  length_le : length ≤ capacity
  inside : Header.size + length ≤ before.message.length
  content
    : after.answer.content = before.message.octets.window Header.size (Header.size + length)
  extraction
    : after.extraction
      = some
          { nameStart := Header.size
            length
            dataOffset := length - record.dataLength.toNat }

/-- How a request before and after handling may differ when handling takes some exit. -/
structure Frame (policy : Policy) (skipName : NameSkipper) (exit : HandlingExit)
    (before after : Request) : Prop where
  approves : exit.Approves policy
  reads : exit.Reads skipName before after
  notices : after.notices = before.notices ++ exit.notices
  limit : after.limit = before.limit
  length : after.message.length = before.message.length
  capacity : after.message.capacity = before.message.capacity
  storage
    : after.message.storage
      = if exit.faulty then
          before.message.storage.modify 3 fun flags => (flags &&& 0xF0) ||| 1
        else before.message.storage
  answerCapacity : after.answer.capacity = before.answer.capacity
  unanswered
    : exit.copies = false
      → after.answer = before.answer ∧ after.extraction = before.extraction
  answered
    : ∀ record length capacity,
        exit = .copied record length capacity → Copy record length capacity before after
  remaining
    : after.remaining
      = if exit.copies then before.remaining - Header.size else before.remaining
  record : after.record = exit.record?.or before.record

/-- An exit gives the record that was found, if there was one. -/
theorem Reads.record?_eq {skipName : NameSkipper} {exit : HandlingExit} {before after : Request}
    (h : exit.Reads skipName before after)
    : exit.record? = (before.scan skipName).record? := by
  cases exit with
  | nameless =>
      rw [h.1]
      rfl
  | misfit =>
      rw [h.1]
      rfl
  | copied record length capacity =>
      obtain ⟨nameEnd, stopped, found, _⟩ := h
      rw [found]
      rfl
  | _ =>
      obtain ⟨nameEnd, found, _⟩ := h
      rw [found]
      rfl

/-- A name never ends before the cursor, so none ends inside the header once the cursor has passed
it.
-/
theorem Reads.not_early {skipName : NameSkipper} {record : RecordFields} {before after : Request}
    (h : (early record).Reads skipName before after)
    (forward : Header.size ≤ before.cursor.position)
    : False := by
  obtain ⟨nameEnd, found, _, inside⟩ := h
  obtain ⟨_, ordered, _⟩ := Scan.entry_bounds found
  omega

theorem Frame.message {policy : Policy} {skipName : NameSkipper} {exit : HandlingExit}
    {before after : Request} (h : Frame policy skipName exit before after)
    : after.message
      = if exit.faulty then before.message.setResponseCode .formatError else before.message := by
  have storage := h.storage
  split
  next faulty =>
    rw [if_pos faulty] at storage
    exact Message.eq_of_storage storage h.length h.capacity
  next sound =>
    rw [if_neg sound] at storage
    exact Message.eq_of_storage storage h.length h.capacity

/-- An exit without a copy leaves the answer, the extraction and what remains alone. -/
theorem Frame.of_uncopied {policy : Policy} {skipName : NameSkipper} {exit : HandlingExit}
    {before after : Request} (uncopied : exit.copies = false)
    (approves : exit.Approves policy) (reads : exit.Reads skipName before after)
    (notices : after.notices = before.notices ++ exit.notices)
    (message
      : after.message
        = if exit.faulty then before.message.setResponseCode .formatError else before.message)
    (record : after.record = exit.record?.or before.record)
    (kept
      : after
        = { before with
            message := after.message
            cursor := after.cursor
            record := after.record
            notices := after.notices })
    : Frame policy skipName exit before after where
  approves := approves
  reads := reads
  notices := notices
  limit := by rw [kept]
  length := by
    rw [message]
    split <;> rfl
  capacity := by
    rw [message]
    split <;> rfl
  storage := by
    rw [message]
    split <;> rfl
  answerCapacity := by rw [kept]
  unanswered := by
    intro _
    rw [kept]
    exact ⟨rfl, rfl⟩
  answered := by
    intro record length capacity same
    rw [same] at uncopied
    cases uncopied
  remaining := by
    rw [uncopied, kept]
    rfl
  record := record

end HandlingExit

-----------------------------------------------------------------------------------------
-- Every way of handling stays in the frame of its exit
-----------------------------------------------------------------------------------------

namespace Request

open HandlingExit

/-- A copied name stays in the frame, since the record that was read lies after it. -/
theorem frame_copied {policy : Policy} {skipName : NameSkipper} {request : Request}
    {record : RecordFields} {nameEnd stopped : Cursor}
    (found : request.scan skipName = .entry record nameEnd stopped)
    (approved : record.typeCode = 1 ∧ policy.enabled)
    (after : Header.size ≤ nameEnd.position)
    (fits : nameEnd.position - Header.size ≤ request.answer.capacity)
    : Frame policy skipName
        (.copied record (nameEnd.position - Header.size) request.answer.capacity)
        request ((request.accepted record stopped).copied record nameEnd.position) := by
  have whole : Header.size + (nameEnd.position - Header.size) = nameEnd.position := by omega
  have inside := nameEnd_le_length found
  have length := length_name found
  refine
    { approves := approved
      reads := ⟨nameEnd, stopped, found, whole.symm, rfl⟩
      notices := List.append_assoc ..
      limit := rfl
      length := rfl
      capacity := rfl
      storage := rfl
      answerCapacity := ?_
      unanswered := ?_
      answered := ?_
      remaining := rfl
      record := rfl }
  · apply Answer.capacity_overwrite
    change (request.message.octets.window Header.size nameEnd.position).length ≤ _
    rwa [length]
  · intro uncopied
    cases uncopied
  · intro record' length' capacity' same
    cases same
    refine ⟨rfl, fits, by rwa [whole], ?_, rfl⟩
    rw [whole]
    exact Answer.content_overwrite ..

/-- Each way of handling is an exit and changes only what that exit may change. -/
theorem Handled.frame {policy : Policy} {skipName : NameSkipper} {request : Request}
    {outcome : Verdict × Request} (h : Handled policy skipName request outcome)
    : ∃ exit : HandlingExit,
        outcome.1 = exit.verdict ∧ Frame policy skipName exit request outcome.2 := by
  cases h with
  | nameless found =>
      exact ⟨.nameless, rfl, .of_uncopied rfl trivial ⟨found, rfl⟩ rfl rfl rfl rfl⟩
  | misfit found =>
      have forward := Scan.le_of_misfit found
      exact ⟨.misfit, rfl, .of_uncopied rfl trivial ⟨found, forward⟩ rfl rfl rfl rfl⟩
  | @refused record nameEnd stopped found declined =>
      have last := (Scan.entry_bounds found).1
      rw [RecordFields.recordType?_eq_a_iff] at declined
      refine ⟨.refused record, rfl,
        .of_uncopied rfl declined ⟨nameEnd, found, last⟩ ?_ rfl rfl rfl⟩
      exact (List.append_nil _).symm
  | @early record nameEnd stopped found approved before =>
      have last := (Scan.entry_bounds found).1
      rw [RecordFields.recordType?_eq_a_iff] at approved
      refine ⟨.early record, rfl,
        .of_uncopied rfl approved ⟨nameEnd, found, last, before⟩ ?_ rfl rfl rfl⟩
      exact List.append_assoc ..
  | @overflow record nameEnd stopped found approved after long =>
      have last := (Scan.entry_bounds found).1
      have past : Header.size + request.answer.capacity < nameEnd.position := by omega
      rw [RecordFields.recordType?_eq_a_iff] at approved
      refine ⟨.overflow record, rfl,
        .of_uncopied rfl approved ⟨nameEnd, found, last, past⟩ ?_ rfl rfl rfl⟩
      exact List.append_assoc ..
  | copied found approved after fits =>
      rw [RecordFields.recordType?_eq_a_iff] at approved
      exact ⟨_, rfl, frame_copied found approved after fits⟩

/-- The notices that handling a request adds. -/
def addedNotices (request : Request) (policy : Policy) (skipName : NameSkipper) : List Notice :=
  (request.handle policy skipName).2.notices.drop request.notices.length

/-- Every handling takes some exit, whose notices are those that it adds. -/
theorem exists_exit (request : Request) (policy : Policy) (skipName : NameSkipper)
    : ∃ exit : HandlingExit,
        (request.handle policy skipName).1 = exit.verdict
        ∧ request.addedNotices policy skipName = exit.notices
        ∧ Frame policy skipName exit request (request.handle policy skipName).2 := by
  obtain ⟨exit, verdict, frame⟩ := (handled request policy skipName).frame
  refine ⟨exit, verdict, ?_, frame⟩
  rw [addedNotices, frame.notices, List.drop_left]

/-- For every request, policy and way to skip a name, handling fails no check on its accesses,
takes one of six exits and stays in the frame of that exit.
-/
theorem handle_checked_and_framed (request : Request) (policy : Policy) (skipName : NameSkipper)
    : request.handle? policy skipName = some (request.handle policy skipName)
      ∧ ∃ exit : HandlingExit,
          (request.handle policy skipName).1 = exit.verdict
          ∧ Frame policy skipName exit request (request.handle policy skipName).2 :=
  ⟨handle?_eq request policy skipName, (handled request policy skipName).frame⟩

end Request

end InverseQuery
