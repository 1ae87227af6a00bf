import InverseQuery.Proofs.Scanning
import InverseQuery.Proofs.SourceFilling
import InverseQuery.Request.Session
import Mathlib.Data.List.Forall2

/-! Two ways to load a message, which no sequence of operations tells apart.
A message that was read keeps storage for its whole capacity, one made of octets only for these.
Both agree on the octets and on the header, and nothing beyond those is ever looked at.
-/

namespace InverseQuery

/-- Two headers with the same fields. -/
structure Header.Agrees (first second : Header) : Prop where
  id : first.id = second.id
  isResponse : first.isResponse = second.isResponse
  opcodeBits : first.opcodeBits = second.opcodeBits
  opcode : first.opcode = second.opcode
  responseCode : first.responseCode = second.responseCode
  questionCount : first.questionCount = second.questionCount
  answerCount : first.answerCount = second.answerCount
  authorityCount : first.authorityCount = second.authorityCount
  additionalCount : first.additionalCount = second.additionalCount

/-- Two requests of which everything but the capacity of the message is the same. -/
structure Request.Agrees (first second : Request) : Prop where
  octets : first.message.octets = second.message.octets
  length : first.message.length = second.message.length
  header : first.message.header.Agrees second.message.header
  responseCode : first.responseCode = second.responseCode
  cursor : first.cursor = second.cursor
  limit : first.limit = second.limit
  remaining : first.remaining = second.remaining
  answer : first.answer = second.answer
  record : first.record = second.record
  extraction : first.extraction = second.extraction
  notices : first.notices = second.notices

/-- Two results that are the same, except that headers are compared field by field. -/
inductive SessionResult.Agrees : SessionResult → SessionResult → Prop
  | same (result : SessionResult) : Agrees result result
  | header {first second : Header} (agrees : first.Agrees second)
    : Agrees (.header first) (.header second)

/-- What an operation shows: its result and the request after it. -/
def Session.ShownAlike (first second : SessionResult × Request) : Prop :=
  first.1.Agrees second.1 ∧ first.2.Agrees second.2

theorem SessionResult.Agrees.of_eq {first second : SessionResult} (h : first = second)
    : Agrees first second := by
  rw [h]
  exact .same second

-----------------------------------------------------------------------------------------
-- Only the front of the storage of a message is looked at
-----------------------------------------------------------------------------------------

/-- Messages of the same length whose storage is the same up to the end of the octets and of the
header.
-/
structure Message.Alike (first second : Message) : Prop where
  length : first.length = second.length
  front
    : first.storage.take (max first.length Header.size)
      = second.storage.take (max first.length Header.size)

namespace Message.Alike

variable {first second : Message}

/-- The front holds all the octets. -/
theorem octets (h : Alike first second) : first.octets = second.octets := by
  have inside : first.length ≤ max first.length Header.size := Nat.le_max_left ..
  have front := congrArg (List.take first.length) h.front
  rw [List.take_take, List.take_take, Nat.min_eq_left inside] at front
  rw [Message.octets, Message.octets, ← h.length, front]

/-- The front also holds the whole header. -/
theorem octet (h : Alike first second) (index : Fin Header.size)
    : first.header.octet index = second.header.octet index := by
  have inside : index.val < max first.length Header.size :=
    Nat.lt_of_lt_of_le index.isLt (Nat.le_max_right ..)
  have front := congrArg (·[index.val]?) h.front
  simp only [List.getElem?_take_of_lt inside] at front
  exact Header.octet_eq_of_getElem? front

theorem header (h : Alike first second) : first.header.Agrees second.header := by
  constructor <;>
    simp only [Header.id, Header.isResponse, Header.opcodeBits, Header.opcode,
      Header.responseCode, Header.questionCount, Header.answerCount, Header.authorityCount,
      Header.additionalCount, h.octet]

/-- Replacing the response code replaces it in the front. -/
theorem setResponseCode (h : Alike first second) (code : ResponseCode)
    : Alike (first.setResponseCode code) (second.setResponseCode code) where
  length := h.length
  front := by
    have front := congrArg (·.modify 3 (Header.withCode · code)) h.front
    simp only [← List.take_modify] at front
    exact front

end Message.Alike

/-- The octets that a source has room for make a message like the one that was read. -/
theorem Message.alike_ofPrefix (octets : Octets) (capacity : Nat)
    : Alike (ofPrefix capacity octets) (ofOctets (octets.take capacity)) where
  length := rfl
  front := by
    have short : (octets.take capacity).length ≤ capacity := List.length_take_le ..
    simp only [ofPrefix, ofOctets, ofBounded, pad, List.take_append, List.take_replicate]
    congr 2
    omega

-----------------------------------------------------------------------------------------
-- Handling keeps requests alike
-----------------------------------------------------------------------------------------

/-- Requests that differ at most in messages that are alike. -/
inductive Request.Alike : Request → Request → Prop
  | of_message (request : Request) {first second : Message} (same : first.Alike second)
    : Alike { request with message := first } { request with message := second }

namespace Request.Alike

variable {first second : Request}

theorem agrees (h : Alike first second) : first.Agrees second := by
  cases h with
  | of_message request same =>
      exact
        { octets := same.octets
          length := same.length
          header := same.header
          responseCode := same.header.responseCode
          cursor := rfl
          limit := rfl
          remaining := rfl
          answer := rfl
          record := rfl
          extraction := rfl
          notices := rfl }

/-- Changing something other than the message keeps requests alike. -/
theorem update (h : Alike first second) (change : Request → Request)
    (apart
      : ∀ (request : Request) (message : Message),
          change { request with message } = { change request with message })
    : Alike (change first) (change second) := by
  cases h with
  | @of_message request message message' same =>
      rw [apart request message, apart request message']
      exact .of_message (change request) same

theorem setResponseCode (h : Alike first second) (code : ResponseCode)
    : Alike { first with message := first.message.setResponseCode code }
        { second with message := second.message.setResponseCode code } := by
  cases h with
  | of_message request same => exact .of_message request (same.setResponseCode code)

theorem malformed (h : Alike first second) (notice : Notice)
    : Alike (first.malformed notice) (second.malformed notice) :=
  (h.setResponseCode .formatError).update (·.report notice) fun _ _ => rfl

/-- A copied name is cut from octets that are the same. -/
theorem copied (h : Alike first second) (record : RecordFields) (nameEnd : Nat)
    : Alike (first.copied record nameEnd) (second.copied record nameEnd) := by
  cases h with
  | @of_message request message message' same =>
      have octets := same.octets
      simp only [Request.copied, octets]
      exact .of_message ({ request with message := message' }.copied record nameEnd) same

/-- Both requests are handled in the same way, since both find the same. -/
theorem handle (h : Alike first second) (policy : Policy) (skipName : NameSkipper)
    : (first.handle policy skipName).1 = (second.handle policy skipName).1
      ∧ Alike (first.handle policy skipName).2 (second.handle policy skipName).2 := by
  have agrees := h.agrees
  have found : first.scan skipName = second.scan skipName := by
    simp only [Request.scan, agrees.octets, agrees.limit, agrees.cursor]
  rw [Request.handle_eq, Request.handle_eq, found]
  cases second.scan skipName with
  | nameless => exact ⟨rfl, h.malformed .nameProblem⟩
  | misfit stopped =>
      have moved : Alike { first with cursor := stopped } { second with cursor := stopped } :=
        h.update ({ · with cursor := stopped }) fun _ _ => rfl
      exact ⟨rfl, moved.malformed .lengthOff⟩
  | entry record nameEnd stopped =>
      have decoded : Alike (first.decoded record stopped) (second.decoded record stopped) :=
        h.update (·.decoded record stopped) fun _ _ => rfl
      have accepted : Alike (first.accepted record stopped) (second.accepted record stopped) :=
        h.update (·.accepted record stopped) fun _ _ => rfl
      dsimp only
      split
      · rw [Request.extracted_accepted, Request.extracted_accepted, agrees.length,
          agrees.answer]
        split
        · split
          · exact ⟨rfl, accepted.copied record nameEnd.position⟩
          · exact ⟨rfl, accepted.update (·.report .answerOverflow) fun _ _ => rfl⟩
        · exact ⟨rfl, accepted.malformed .nameProblem⟩
      · exact ⟨rfl, decoded⟩

end Request.Alike

-----------------------------------------------------------------------------------------
-- No operation tells sessions apart
-----------------------------------------------------------------------------------------

/-- Sessions whose requests are alike, and the copies of these as well. -/
structure Session.Alike (first second : Session) : Prop where
  current : first.current.Alike second.current
  saved : first.saved.Alike second.saved

/-- What an operation gives on one session and on another, when the two cannot be told apart. -/
def Session.StepAlike (first second : SessionResult × Session) : Prop :=
  first.1.Agrees second.1 ∧ first.2.Alike second.2

namespace Session.Alike

variable {first second : Session}

theorem update (h : Alike first second) (change : Request → Request)
    (apart
      : ∀ (request : Request) (message : Message),
          change { request with message } = { change request with message })
    : StepAlike (first.update change) (second.update change) :=
  ⟨.same .done, ⟨h.current.update change apart, h.saved⟩⟩

/-- Reading the same octets from the same cursor gives the same and stops at the same cursor. -/
theorem reading {α : Type} (h : Alike first second) (read : WireReader α)
    (result : α → SessionResult)
    : StepAlike (first.reading read result) (second.reading read result) := by
  unfold Session.reading
  rw [h.current.agrees.cursor]
  cases read second.current.cursor with
  | ok value cursor =>
      refine ⟨.same (result value), ⟨?_, h.saved⟩⟩
      exact h.current.update ({ · with cursor }) fun _ _ => rfl
  | error fault cursor =>
      refine ⟨.same (.fault fault), ⟨?_, h.saved⟩⟩
      exact h.current.update ({ · with cursor }) fun _ _ => rfl

/-- No operation tells sessions apart that are alike, by cases on the operation. -/
theorem step (h : Alike first second) (step : SessionStep)
    : StepAlike (first.step step) (second.step step) := by
  have agrees := h.current.agrees
  cases step with
  | handle policy skipName =>
      obtain ⟨verdict, current⟩ := h.current.handle policy skipName
      exact ⟨.of_eq (congrArg SessionResult.verdict verdict), ⟨current, h.saved⟩⟩
  | rewind position =>
      unfold Session.step
      dsimp only
      rw [agrees.cursor]
      cases second.current.cursor.rewind? position with
      | some cursor => exact h.update ({ · with cursor }) fun _ _ => rfl
      | none => exact ⟨.same .refused, h⟩
  | setResponseCode code => exact ⟨.same .done, ⟨h.current.setResponseCode code, h.saved⟩⟩
  | copy source =>
      unfold Session.step
      dsimp only
      rw [agrees.answer]
      cases second.current.answer.copy source with
      | ok answer => exact h.update ({ · with answer }) fun _ _ => rfl
      | error fault => exact ⟨.same (.fault fault), h⟩
  | skipName =>
      unfold Session.step
      dsimp only
      rw [agrees.octets, agrees.cursor, agrees.limit]
      split
      · exact ⟨.same _, h⟩
      · exact ⟨.same _, h⟩
  | readWord =>
      unfold Session.step
      rw [agrees.octets, agrees.limit]
      exact h.reading ..
  | readRecord =>
      unfold Session.step
      rw [agrees.octets, agrees.limit]
      exact h.reading ..
  | requireEnd =>
      unfold Session.step
      dsimp only
      rw [agrees.cursor, agrees.limit]
      split
      · exact ⟨.same .done, h⟩
      · exact ⟨.same _, h⟩
  | readHeader => exact ⟨.header agrees.header, h⟩
  | save => exact ⟨.same .done, ⟨h.current, h.current⟩⟩
  | restore => exact ⟨.same .done, ⟨h.saved, h.saved⟩⟩
  | _ => exact h.update _ fun _ _ => rfl

/-- What a sequence of operations shows is the same at every step, by induction over it. -/
theorem run (h : Alike first second) (steps : List SessionStep)
    : List.Forall₂ ShownAlike (first.run steps) (second.run steps) := by
  induction steps generalizing first second with
  | nil => exact .nil
  | cons step rest ih =>
      obtain ⟨result, next⟩ := h.step step
      exact .cons ⟨result, next.current.agrees⟩ (ih next)

end Session.Alike

/-- A string of octets is always read from a source, however often that is interrupted, and neither
the request for what was read nor any sequence of operations on it shows more than the request for
the octets that the capacity admits.
-/
theorem loaded_alike (octets : Octets) (interrupts : List Nat)
    (capacity answerCapacity : Nat) (steps : List SessionStep)
    : ∃ message,
        (Message.readFrom capacity { rest := octets, interrupts }).1 = .ok message
        ∧ (let first := Request.ofMessage message (.empty answerCapacity)
          let second :=
            Request.ofMessage (.ofOctets (octets.take capacity)) (.empty answerCapacity)
          first.Agrees second
          ∧ List.Forall₂ Session.ShownAlike
              ((Session.start first).run steps) ((Session.start second).run steps)) := by
  refine ⟨.ofPrefix capacity octets, Message.readFrom_eq octets interrupts capacity, ?_⟩
  intro first second
  have alike : first.Alike second :=
    .of_message (.ofMessage (.ofPrefix capacity octets) (.empty answerCapacity))
      (Message.alike_ofPrefix octets capacity)
  have sessions : (Session.start first).Alike (Session.start second) := ⟨alike, alike⟩
  exact ⟨alike.agrees, sessions.run steps⟩

end InverseQuery
