import InverseQuery.Proofs.HandlingFrame
import InverseQuery.Proofs.SourceFilling
import InverseQuery.Request.Session

/-! What no sequence of operations on a request changes.
Its message stays the loaded one but for the response code, which lies past the octets of a short
message and is then written to the padding. A code is only written when it is set and when handling
calls the message malformed.
-/

namespace InverseQuery

-----------------------------------------------------------------------------------------
-- Messages that differ in the response code alone
-----------------------------------------------------------------------------------------

namespace ResponseCode

/-- The number of a response code, with the bits that a header has no room for. -/
def number : ResponseCode → Nat
  | noError => 0
  | formatError => 1
  | serverFailure => 2
  | nameError => 3
  | notImplemented => 4
  | refused => 5
  | unassigned code => code.toNat

theorem toNat_low (octet : UInt8) : (octet &&& 0x0F).toNat = octet.toNat % 16 := by
  rw [UInt8.toNat_and]
  exact Nat.and_two_pow_sub_one_eq_mod octet.toNat 4

/-- A header takes the low four bits of a number. -/
theorem toNat_code (responseCode : ResponseCode)
    : responseCode.code.toNat = responseCode.number % 16 := by
  cases responseCode with
  | unassigned code => exact toNat_low code
  | _ => rfl

/-- The four bits of an octet are those of the code that they stand for. -/
theorem code_ofCode (octet : UInt8) : (ofCode octet).code = octet &&& 0x0F := by
  unfold ofCode
  split
  next same => exact same.symm
  next same => exact same.symm
  next same => exact same.symm
  next same => exact same.symm
  next same => exact same.symm
  next same => exact same.symm
  next => rw [code, UInt8.and_assoc, UInt8.and_self]

end ResponseCode

namespace Header

/-- Octets followed by as many zeros as make up a header. -/
def ofPadded (octets : Octets) : Header where
  octets := octets ++ List.replicate (size - octets.length) 0
  size_le := by
    rw [List.length_append, List.length_replicate]
    omega

/-- Two headers with the same fields, where the response code may differ. -/
structure SameApartFromCode (first second : Header) : Prop where
  id : first.id = second.id
  isResponse : first.isResponse = second.isResponse
  opcodeBits : first.opcodeBits = second.opcodeBits
  questionCount : first.questionCount = second.questionCount
  answerCount : first.answerCount = second.answerCount
  authorityCount : first.authorityCount = second.authorityCount
  additionalCount : first.additionalCount = second.additionalCount

/-- None of these fields lies in the octet of the response code. -/
theorem SameApartFromCode.of_octet {first second : Header}
    (same : ∀ index : Fin size, index.val ≠ 3 → first.octet index = second.octet index)
    : SameApartFromCode first second := by
  have word (high low : Fin size) (left : high.val ≠ 3) (right : low.val ≠ 3)
      : Octets.joinWord (first.octet high) (first.octet low)
        = Octets.joinWord (second.octet high) (second.octet low) := by
    rw [same high left, same low right]
  exact
    { id := word 0 1 (by decide) (by decide)
      isResponse := congrArg (fun octet : UInt8 => octet &&& 0x80 != 0) (same 2 (by decide))
      opcodeBits := congrArg (fun octet : UInt8 => (octet >>> 3) &&& 0x0F) (same 2 (by decide))
      questionCount := word 4 5 (by decide) (by decide)
      answerCount := word 6 7 (by decide) (by decide)
      authorityCount := word 8 9 (by decide) (by decide)
      additionalCount := word 10 11 (by decide) (by decide) }

end Header

namespace Message

/-- A message as it comes from a string of octets or from a source. -/
inductive Loaded : Message → Prop
  | whole (octets : Octets) : Loaded (ofOctets octets)
  | read {capacity : Nat} {source : OctetSource} {message : Message}
    (read : (readFrom capacity source).1 = .ok message)
    : Loaded message

/-- A message that is another one or has a response code written over the one of that. -/
inductive Recoded (initial : Message) : Message → Prop
  | unset : Recoded initial initial
  | set (code : ResponseCode) : Recoded initial (initial.setResponseCode code)

/-- The parts of a message that writing a response code leaves alone, compared with the octets that
were loaded.
-/
structure KeptFrom (initial current : Message) : Prop where
  length : current.length = initial.length
  capacity : current.capacity = initial.capacity
  octets : ∀ index, index ≠ 3 → current.octets[index]? = initial.octets[index]?
  flags : current.octets[3]?.map (· &&& 0xF0) = initial.octets[3]?.map (· &&& 0xF0)
  header : current.header.SameApartFromCode (.ofPadded initial.octets)

theorem Loaded.eq_ofBounded {message : Message} (loaded : message.Loaded)
    : ∃ octets capacity bound, message = ofBounded octets capacity bound := by
  cases loaded with
  | whole octets => exact ⟨octets, octets.length, Nat.le_refl _, rfl⟩
  | @read capacity source _ read =>
      unfold readFrom at read
      split at read
      next octets rest filled =>
        cases read
        exact ⟨octets, capacity, _, rfl⟩
      next => cases read

/-- The padding of a loaded message reads as zeros, like that of its octets alone. -/
theorem Loaded.header_octet {message : Message} (loaded : message.Loaded) (index : Fin Header.size)
    : message.header.octet index = (Header.ofPadded message.octets).octet index := by
  obtain ⟨octets, capacity, bound, rfl⟩ := loaded.eq_ofBounded
  apply Header.octet_eq_of_getElem?
  rw [octets_ofBounded]
  change (octets ++ List.replicate (max capacity Header.size - octets.length) 0)[index.val]?
    = (octets ++ List.replicate (Header.size - octets.length) 0)[index.val]?
  have within := index.isLt
  rw [List.getElem?_append, List.getElem?_append]
  split
  · rfl
  · rw [List.getElem?_replicate, List.getElem?_replicate, if_pos (by omega), if_pos (by omega)]

namespace Recoded

variable {initial current : Message}

theorem setResponseCode (h : Recoded initial current) (code : ResponseCode)
    : Recoded initial (current.setResponseCode code) := by
  cases h with
  | unset => exact .set code
  | set earlier =>
      rw [setResponseCode_setResponseCode]
      exact .set code

/-- Writing a response code changes no other octet of the header. -/
theorem header_octet (h : Recoded initial current) {index : Fin Header.size} (other : index.val ≠ 3)
    : current.header.octet index = initial.header.octet index := by
  cases h with
  | unset => rfl
  | set code =>
      apply Header.octet_eq_of_getElem?
      exact List.getElem?_modify_ne _ _ (Ne.symm other)

theorem keptFrom (h : Recoded initial current) (loaded : initial.Loaded)
    : KeptFrom initial current where
  length := by cases h <;> rfl
  capacity := by cases h <;> rfl
  octets := by
    intro index other
    cases h with
    | unset => rfl
    | set code =>
        rw [octets_setResponseCode]
        exact List.getElem?_modify_ne _ _ (Ne.symm other)
  flags := by
    cases h with
    | unset => rfl
    | set code =>
        rw [octets_setResponseCode, Header.writeResponseCode, List.getElem?_modify_eq]
        cases initial.octets[3]? with
        | none => rfl
        | some flags => exact congrArg some (Header.high_withCode flags code)
  header := by
    apply Header.SameApartFromCode.of_octet
    intro index other
    exact (h.header_octet other).trans (loaded.header_octet index)

end Recoded

end Message

-----------------------------------------------------------------------------------------
-- Operations that write a response code
-----------------------------------------------------------------------------------------

/-- The response code that an operation other than restoring writes to the header, if it writes one:
handling writes one when it adds a notice that the message is malformed.
-/
def SessionStep.writes? (request : Request) : SessionStep → Option ResponseCode
  | .setResponseCode code => some code
  | .handle policy skipper =>
      if (request.addedNotices policy skipper).any Notice.isFault then some .formatError
      else none
  | _ => none

/-- The message before an operation became another one by writing a code, which takes its number
modulo 16 in the low four bits of one octet of the storage and leaves everything else.
-/
structure Message.Rewritten (before after : Message) (code : ResponseCode) : Prop where
  value : after.header.responseCode.code.toNat = code.number % 16
  storage
    : after.storage
      = before.storage.modify 3 fun flags => (flags &&& 0xF0) ||| UInt8.ofNat (code.number % 16)
  length : after.length = before.length
  capacity : after.capacity = before.capacity

theorem Message.rewritten_setResponseCode (message : Message) (code : ResponseCode)
    : message.Rewritten (message.setResponseCode code) code where
  value := by
    have read
        : (message.setResponseCode code).header.responseCode = ResponseCode.ofCode code.code :=
      Header.responseCode_setResponseCode message.header code
    rw [read, ResponseCode.code_ofCode, ResponseCode.toNat_low, code.toNat_code, Nat.mod_mod]
  storage := by
    rw [← code.toNat_code, UInt8.ofNat_toNat]
    rfl
  length := rfl
  capacity := rfl

namespace Session

/-- The session after operations in order. -/
def performAll (session : Session) : List SessionStep → Session
  | [] => session
  | step :: rest => (session.step step).2.performAll rest

/-- What a run shows last is what its last operation gives on the session that the others lead to. -/
theorem run_concat (session : Session) (steps : List SessionStep) (step : SessionStep)
    : session.run (steps ++ [step])
      = session.run steps
        ++ [(((session.performAll steps).step step).1,
            ((session.performAll steps).step step).2.current)] := by
  induction steps generalizing session with
  | nil => rfl
  | cons first rest ih =>
      have shown := ih (session.step first).2
      exact congrArg (((session.step first).1, (session.step first).2.current) :: ·) shown

/-- What an operation other than restoring may do: it writes the code that it says, or none, and may
replace the saved copy by the request.
-/
structure Updates (before after : Session) (code? : Option ResponseCode) : Prop where
  message
    : after.current.message
      = match code? with
        | none => before.current.message
        | some code => before.current.message.setResponseCode code
  saved : after.saved = before.saved ∨ after.saved = before.current

/-- Reading moves the cursor and nothing else. -/
theorem updates_reading {α : Type} (session : Session) (read : WireReader α)
    (result : α → SessionResult)
    : Updates session (session.reading read result).2 none := by
  unfold reading
  cases read session.current.cursor <;> exact ⟨rfl, .inl rfl⟩

/-- Every operation but restoring is such an update, by cases on the operation. -/
theorem updates_step (session : Session) {step : SessionStep} (other : step ≠ .restore)
    : Updates session (session.step step).2 (step.writes? session.current) := by
  cases step with
  | handle policy skipName =>
      obtain ⟨exit, _, added, frame⟩ := session.current.exists_exit policy skipName
      refine ⟨?_, .inl rfl⟩
      simp only [SessionStep.writes?, added]
      refine Eq.trans frame.message ?_
      rw [HandlingExit.faulty]
      split <;> rfl
  | rewind position =>
      unfold Session.step
      dsimp only
      split <;> exact ⟨rfl, .inl rfl⟩
  | copy source =>
      unfold Session.step
      dsimp only
      split <;> exact ⟨rfl, .inl rfl⟩
  | skipName =>
      unfold Session.step
      dsimp only
      split <;> exact ⟨rfl, .inl rfl⟩
  | readWord => exact session.updates_reading ..
  | readRecord => exact session.updates_reading ..
  | requireEnd =>
      unfold Session.step
      dsimp only
      split <;> exact ⟨rfl, .inl rfl⟩
  | save => exact ⟨rfl, .inr rfl⟩
  | restore => exact absurd rfl other
  | _ => exact ⟨rfl, .inl rfl⟩

/-- A session in which neither the message nor the saved one differs from the initial one in more than
the response code.
-/
structure Recodes (initial : Message) (session : Session) : Prop where
  current : Message.Recoded initial session.current.message
  saved : Message.Recoded initial session.saved.message

namespace Recodes

variable {initial : Message} {session : Session}

theorem start (initial : Message) (answer : Answer)
    : Recodes initial (.start (.ofMessage initial answer)) :=
  ⟨.unset, .unset⟩

/-- An update writes a code at most, and restoring brings back a message that differs in no more. -/
theorem step (h : Recodes initial session) (step : SessionStep)
    : Recodes initial (session.step step).2 := by
  by_cases restoring : step = .restore
  · subst restoring
    exact ⟨h.saved, h.saved⟩
  · have updates := session.updates_step restoring
    constructor
    · rw [updates.message]
      split
      · exact h.current
      · exact h.current.setResponseCode _
    · rcases updates.saved with same | replaced
      · rw [same]
        exact h.saved
      · rw [replaced]
        exact h.current

/-- No operations change more than the response code, by induction over them. -/
theorem performAll (h : Recodes initial session) (steps : List SessionStep)
    : Recodes initial (session.performAll steps) := by
  induction steps generalizing session with
  | nil => exact h
  | cons step rest ih => exact ih (h.step step)

end Recodes

end Session

/-- However a loaded message is operated on, its length, its capacity, its octets but for a response
code and the other fields of its header stay as they were loaded, with zeros in place of octets that a
short message does not have; and the answer stays within its capacity. Apart from restoring, an
operation changes the message only by writing a response code, which setting a code does with the
number of that code and handling with 1 where it calls the message malformed. That is what a run
shows after the operation.
-/
theorem session_keeps_message {initial : Message} (loaded : initial.Loaded) (answerCapacity : Nat)
    (steps : List SessionStep)
    : let start := Session.start (.ofMessage initial (.empty answerCapacity))
      let session := start.performAll steps
      initial.KeptFrom session.current.message
      ∧ session.current.message.length ≤ session.current.message.capacity
      ∧ session.current.answer.content.length ≤ session.current.answer.capacity
      ∧ (∀ step : SessionStep,
          step ≠ .restore
          → let after := (session.step step).2.current.message
            match step.writes? session.current with
            | none => after = session.current.message
            | some code => session.current.message.Rewritten after code)
      ∧ ∀ step : SessionStep,
          start.run (steps ++ [step])
          = start.run steps ++ [((session.step step).1, (session.step step).2.current)] := by
  intro start session
  have recodes : session.Recodes initial := (Session.Recodes.start initial _).performAll steps
  refine ⟨recodes.current.keptFrom loaded, session.current.message.length_le,
    session.current.answer.length_content_le, ?_, start.run_concat steps⟩
  intro step other after
  have written := (session.updates_step other).message
  split
  next unwritten =>
    rw [unwritten] at written
    exact written
  next code writes =>
    rw [writes] at written
    have same : after = session.current.message.setResponseCode code := written
    rw [same]
    exact session.current.message.rewritten_setResponseCode code

/-- In a message of three octets, read into room for six, the response code lies after the octets, and
a code with high bits is written over one that was restored.
-/
theorem session_keeps_message_three_octets
    : let initial := Message.ofPrefix 6 [1, 2, 0x83]
      let start := Session.start (.ofMessage initial (.empty 2))
      let session := start.performAll
        [.setResponseCode (.unassigned 0xF1), .save, .handle ⟨true⟩ fun _ _ _ => .ok 5,
          .setLimit 3, .restore]
      let step : SessionStep := .setResponseCode (.unassigned 0xF2)
      initial.Loaded
      ∧ initial.KeptFrom session.current.message
      ∧ step ≠ .restore
      ∧ session.current.message.Rewritten (session.step step).2.current.message
          (.unassigned 0xF2) := by
  intro initial start session step
  have loaded : initial.Loaded := .read (Message.readFrom_eq [1, 2, 0x83] [] 6)
  have other : step ≠ .restore := nofun
  obtain ⟨kept, _, _, written, _⟩ := session_keeps_message loaded 2
    [.setResponseCode (.unassigned 0xF1), .save, .handle ⟨true⟩ fun _ _ _ => .ok 5,
      .setLimit 3, .restore]
  exact ⟨loaded, kept, other, written step other⟩

end InverseQuery
