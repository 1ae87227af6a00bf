import InverseQuery.Proofs.HandlingFrame
import Mathlib.Logic.Relation

/-! Handling one message again and again, with the policy chosen anew each time.
Malformed records drive the cursor along a path that the octets alone determine, and a copied name
takes it back to the start of that path. So a run finds at most one record, and copies at most one
name.
-/

namespace InverseQuery

open Relation

-----------------------------------------------------------------------------------------
-- Misfits lead along one path
-----------------------------------------------------------------------------------------

namespace Octets

/-- The search through all the octets from a cursor on. -/
def scan (octets : Octets) (cursor : Cursor) : Scan :=
  .ofOctets EncodedName.skip octets octets.length cursor

/-- Where the search ends at a misfit, the next one starts. -/
def Misfit (octets : Octets) (before after : Cursor) : Prop := octets.scan before = .misfit after

/-- The cursors that misfits lead to from the end of the header, and the end of the octets. -/
def OnPath (octets : Octets) (cursor : Cursor) : Prop :=
  ReflTransGen octets.Misfit (.ofNat Header.size) cursor ∨ cursor.position = octets.length

/-- A record that is found somewhere on the path, after a name up to `nameEnd`. -/
def Reached (octets : Octets) (record : RecordFields) (nameEnd : Cursor) : Prop :=
  ∃ cursor stopped, octets.OnPath cursor ∧ octets.scan cursor = .entry record nameEnd stopped

variable {octets : Octets}

theorem Misfit.rightUnique : Relator.RightUnique octets.Misfit := by
  intro before first second toFirst toSecond
  exact Scan.misfit.inj (toFirst.symm.trans toSecond)

/-- Nothing is left at the end of the octets, so no name is found there. -/
theorem scan_end {cursor : Cursor} (last : cursor.position = octets.length)
    : octets.scan cursor = .nameless :=
  Scan.ofOctets_of_limit last

/-- A misfit leads from a cursor on the path to another one. -/
theorem OnPath.misfit {before after : Cursor} (h : octets.OnPath before)
    (next : octets.Misfit before after)
    : octets.OnPath after := by
  rcases h with path | last
  · exact .inl (path.tail next)
  · rw [Misfit, scan_end last] at next
    cases next

/-- The path ends where a record is found, since only a misfit leads further. -/
theorem eq_of_entry {first second stopped nameEnd : Cursor} {record : RecordFields}
    (found : octets.scan first = .entry record nameEnd stopped)
    (further : ReflTransGen octets.Misfit first second)
    : first = second := by
  rcases further.cases_head with same | ⟨next, step, _⟩
  · exact same
  · rw [Misfit, found] at step
    cases step

/-- At most one record is found on the path: of two cursors on it one leads to the other. -/
theorem Reached.unique {first second : RecordFields} {firstEnd secondEnd : Cursor}
    (h : octets.Reached first firstEnd) (h' : octets.Reached second secondEnd)
    : first = second ∧ firstEnd = secondEnd := by
  obtain ⟨cursor, stopped, path | last, found⟩ := h
  · obtain ⟨cursor', stopped', path' | last', found'⟩ := h'
    · have same : cursor = cursor' := by
        rcases ReflTransGen.total_of_right_unique Misfit.rightUnique path path' with ahead | behind
        · exact eq_of_entry found ahead
        · exact (eq_of_entry found' behind).symm
      rw [same, found'] at found
      cases found
      exact ⟨rfl, rfl⟩
    · rw [scan_end last'] at found'
      cases found'
  · rw [scan_end last] at found
    cases found

end Octets

-----------------------------------------------------------------------------------------
-- Every handling keeps what a run relies on
-----------------------------------------------------------------------------------------

namespace Request

/-- Handles a request once under each policy in turn. -/
def handleAll (request : Request) : List Policy → Request
  | [] => request
  | policy :: rest => (request.handle policy EncodedName.skip).2.handleAll rest

/-- Whether the message was called malformed. -/
def reported (request : Request) : Bool := request.notices.any Notice.isFault

/-- How often a name was copied. -/
def copyCount (request : Request) : Nat := request.notices.countP Notice.isCopy

end Request

/-- One handling in a run: the request that it was called on, and its policy. -/
structure HandlingCall where
  before : Request
  policy : Policy

namespace HandlingCall

def after (call : HandlingCall) : Request := (call.before.handle call.policy EncodedName.skip).2

/-- The call reads `record` to the end of the message, and so keeps it. -/
def Decodes (call : HandlingCall) (record : RecordFields) : Prop :=
  ∃ nameEnd stopped, call.before.scan EncodedName.skip = .entry record nameEnd stopped

/-- What a call decodes is the record afterwards, whatever the policy makes of it. -/
theorem Decodes.kept {call : HandlingCall} {record : RecordFields} (h : call.Decodes record)
    : call.after.record = some record := by
  obtain ⟨nameEnd, stopped, found⟩ := h
  obtain ⟨exit, _, frame⟩ :=
    (Request.handled call.before call.policy EncodedName.skip).frame
  rw [HandlingCall.after, frame.record, frame.reads.record?_eq, found]
  rfl

/-- The call copies a name and leaves `extraction` to tell where it came from. -/
def Extracts (call : HandlingCall) (extraction : Extraction) : Prop :=
  call.after.copyCount = call.before.copyCount + 1 ∧ call.after.extraction = some extraction

end HandlingCall

/-- The calls of a run, each on the request that the one before it left. -/
def Request.calls (request : Request) : List Policy → List HandlingCall
  | [] => []
  | policy :: rest =>
      ⟨request, policy⟩ :: (request.handle policy EncodedName.skip).2.calls rest

/-- The parts of a request that a run changes in a fixed way, by what was reported so far. -/
structure RunFrame (octets : Octets) (capacity : Nat) (request : Request) : Prop where
  limit : request.limit = octets.length
  message
    : request.message
      = if request.reported then (Message.ofOctets octets).setResponseCode .formatError
        else Message.ofOctets octets
  remaining : request.remaining = octets.length - Header.size * request.copyCount
  answerCapacity : request.answer.capacity = capacity

/-- Where the cursor stands in a run, and what it has led to. -/
structure RunSearch (octets : Octets) (request : Request) : Prop where
  forward : Header.size ≤ request.cursor.position
  path : octets.OnPath request.cursor
  record
    : ∀ record, request.record = some record → ∃ nameEnd, octets.Reached record nameEnd

/-- What a run has copied, which is nothing or the name of the one record. -/
structure RunCopy (octets : Octets) (capacity : Nat) (request : Request) : Prop where
  extraction_isSome : request.extraction.isSome ↔ 1 ≤ request.copyCount
  copied
    : ∀ extraction,
        request.extraction = some extraction
        → ∃ record nameEnd,
            request.record = some record
            ∧ octets.Reached record nameEnd
            ∧ record.typeCode = 1
            ∧ nameEnd.position = Header.size + extraction.length
            ∧ extraction.nameStart = Header.size
            ∧ extraction.length ≤ capacity
            ∧ extraction.dataOffset = extraction.length - record.dataLength.toNat
            ∧ Header.size + extraction.length ≤ octets.length
            ∧ request.answer.content
              = octets.window Header.size (Header.size + extraction.length)
  uncopied : request.copyCount = 0 → request.answer.content = []

section Step

variable {octets : Octets} {capacity : Nat} {policy : Policy} {skipName : NameSkipper}
  {exit : HandlingExit} {before after : Request}

theorem HandlingExit.Frame.reported_eq (h : Frame policy skipName exit before after)
    : after.reported = (before.reported || exit.faulty) := by
  rw [Request.reported, h.notices, List.any_append]
  rfl

theorem HandlingExit.Frame.copyCount_eq (h : Frame policy skipName exit before after)
    : after.copyCount = before.copyCount + if exit.copies then 1 else 0 := by
  have added : exit.notices.countP Notice.isCopy = if exit.copies then 1 else 0 := by
    cases exit <;> rfl
  rw [Request.copyCount, h.notices, List.countP_append, added]
  rfl

theorem RunFrame.step (h : RunFrame octets capacity before)
    (frame : HandlingExit.Frame policy skipName exit before after)
    : RunFrame octets capacity after where
  limit := frame.limit.trans h.limit
  message := by
    rw [frame.message, h.message, frame.reported_eq]
    cases exit.faulty with
    | false => simp only [Bool.or_false, Bool.false_eq_true, if_false]
    | true =>
        simp only [Bool.or_true, if_true]
        split
        · exact Message.setResponseCode_setResponseCode ..
        · rfl
  remaining := by
    rw [frame.remaining, h.remaining, frame.copyCount_eq]
    cases exit.copies with
    | false => rfl
    | true => exact Nat.sub_sub ..
  answerCapacity := frame.answerCapacity.trans h.answerCapacity

theorem RunFrame.octets_eq (h : RunFrame octets capacity before)
    : before.message.octets
      = if before.reported then Header.writeResponseCode octets .formatError else octets := by
  have original : (Message.ofOctets octets).octets = octets := Message.octets_ofBounded ..
  rw [h.message]
  split
  · rw [Message.octets_setResponseCode, original]
  · exact original

/-- The response code lies before everything that a run reads. -/
theorem RunFrame.agree (h : RunFrame octets capacity before)
    : Octets.AgreeFrom Header.size before.message.octets octets := by
  rw [h.octets_eq]
  split
  · exact .writeResponseCode octets .formatError
  · exact .refl Header.size octets

/-- So a run searches the original octets. -/
theorem RunFrame.scan_eq (h : RunFrame octets capacity before)
    (forward : Header.size ≤ before.cursor.position)
    : before.scan EncodedName.skip = octets.scan before.cursor := by
  rw [Request.scan, h.limit, Octets.scan]
  exact Scan.ofOctets_congr h.agree forward

/-- A record that an exit gives lies on the path. -/
theorem RunSearch.reached (h : RunSearch octets before) (run : RunFrame octets capacity before)
    {record : RecordFields} {nameEnd stopped : Cursor}
    (found : before.scan EncodedName.skip = .entry record nameEnd stopped)
    : octets.Reached record nameEnd := by
  rw [run.scan_eq h.forward] at found
  exact ⟨before.cursor, stopped, h.path, found⟩

/-- A handling moves the cursor along the path: a misfit one step on, a record to the end of the
octets, and a copy back to the start.
-/
theorem RunSearch.cursor_step (h : RunSearch octets before)
    (run : RunFrame octets capacity before)
    (reads : exit.Reads EncodedName.skip before after)
    : Header.size ≤ after.cursor.position ∧ octets.OnPath after.cursor := by
  have atEnd {record : RecordFields} {nameEnd : Cursor}
      (found : before.scan EncodedName.skip = .entry record nameEnd after.cursor)
      : Header.size ≤ after.cursor.position ∧ octets.OnPath after.cursor := by
    obtain ⟨last, nameForward, recordForward, _⟩ := Scan.entry_bounds found
    refine ⟨Nat.le_trans h.forward (Nat.le_trans nameForward recordForward), .inr ?_⟩
    rw [last, run.limit]
  cases exit with
  | nameless =>
      rw [reads.2]
      exact ⟨h.forward, h.path⟩
  | misfit =>
      obtain ⟨found, forward⟩ := reads
      rw [run.scan_eq h.forward] at found
      exact ⟨Nat.le_trans h.forward forward, h.path.misfit found⟩
  | copied record length capacity =>
      obtain ⟨nameEnd, stopped, _, _, back⟩ := reads
      rw [back]
      exact ⟨Nat.le_refl Header.size, .inl .refl⟩
  | _ =>
      obtain ⟨nameEnd, found, _⟩ := reads
      exact atEnd found

theorem RunSearch.step (h : RunSearch octets before) (run : RunFrame octets capacity before)
    (frame : HandlingExit.Frame policy EncodedName.skip exit before after)
    : RunSearch octets after where
  forward := (h.cursor_step run frame.reads).1
  path := (h.cursor_step run frame.reads).2
  record := by
    intro record kept
    rw [frame.record] at kept
    cases read : exit.record? with
    | none =>
        rw [read] at kept
        exact h.record record kept
    | some found =>
        rw [read] at kept
        cases kept
        rw [frame.reads.record?_eq] at read
        obtain ⟨nameEnd, stopped, entry⟩ := Scan.exists_of_record? read
        exact ⟨nameEnd, h.reached run entry⟩

/-- A record that is kept stays the same, also when a record is read once more. -/
theorem RunSearch.record_step (h : RunSearch octets before) (run : RunFrame octets capacity before)
    (frame : HandlingExit.Frame policy EncodedName.skip exit before after)
    {record : RecordFields} (kept : before.record = some record)
    : after.record = some record := by
  rw [frame.record]
  cases read : exit.record? with
  | none => exact kept
  | some found =>
      rw [frame.reads.record?_eq] at read
      obtain ⟨nameEnd, stopped, entry⟩ := Scan.exists_of_record? read
      obtain ⟨nameEnd', reached⟩ := h.record record kept
      have same := (h.reached run entry).unique reached
      rw [same.1]
      rfl

/-- Only a copy changes what was copied, and what it copies does not depend on what was copied
before.
-/
theorem RunCopy.step (h : RunCopy octets capacity before) (run : RunFrame octets capacity before)
    (search : RunSearch octets before)
    (frame : HandlingExit.Frame policy EncodedName.skip exit before after)
    : RunCopy octets capacity after := by
  have count := frame.copyCount_eq
  cases copying : exit.copies with
  | false =>
      obtain ⟨answer, extraction⟩ := frame.unanswered copying
      rw [copying] at count
      refine ⟨?_, ?_, ?_⟩
      · rw [extraction, count]
        exact h.extraction_isSome
      · intro extracted present
        rw [extraction] at present
        obtain ⟨record, nameEnd, kept, facts⟩ := h.copied extracted present
        refine ⟨record, nameEnd, search.record_step run frame kept, ?_⟩
        rw [answer]
        exact facts
      · intro none
        rw [count] at none
        rw [answer]
        exact h.uncopied none
  | true =>
      cases exit with
      | copied record length room =>
          obtain ⟨whole, fits, inside, content, extraction⟩ :=
            frame.answered record length room rfl
          obtain ⟨nameEnd, stopped, entry, ends, _⟩ := frame.reads
          have size := run.agree.length
          rw [Message.length_octets] at size
          rw [copying, if_pos rfl] at count
          refine ⟨?_, ?_, ?_⟩
          · rw [extraction, count]
            exact ⟨fun _ => Nat.le_add_left .., fun _ => rfl⟩
          · intro extracted present
            rw [extraction] at present
            cases present
            refine ⟨record, nameEnd, frame.record, search.reached run entry, frame.approves.1,
              ends, rfl, ?_, rfl, ?_, ?_⟩
            · rwa [whole, run.answerCapacity] at fits
            · rwa [size] at inside
            · rw [content, run.agree.window_eq (Nat.le_refl Header.size)]
          · intro none
            rw [count] at none
            cases none
      | _ => cases copying

end Step

-----------------------------------------------------------------------------------------
-- A run keeps the invariant
-----------------------------------------------------------------------------------------

/-- What holds of a request after any number of handlings of the message that `octets` make. -/
structure RunInvariant (octets : Octets) (capacity : Nat) (request : Request) : Prop where
  frame : RunFrame octets capacity request
  search : RunSearch octets request
  copy : RunCopy octets capacity request

namespace RunInvariant

variable {octets : Octets} {capacity : Nat} {request : Request}

theorem fresh (octets : Octets) (capacity : Nat)
    : RunInvariant octets capacity (.fresh octets capacity) where
  frame :=
    { limit := rfl
      message := rfl
      remaining := rfl
      answerCapacity := Answer.capacity_empty capacity }
  search :=
    { forward := Nat.le_refl Header.size
      path := .inl .refl
      record := by
        intro record present
        cases present }
  copy :=
    { extraction_isSome := by
        constructor <;>
          intro present <;>
          cases present
      copied := by
        intro extraction present
        cases present
      uncopied := fun _ => Answer.content_empty capacity }

/-- Every handling keeps the invariant, whatever its policy. -/
theorem step (h : RunInvariant octets capacity request) (policy : Policy)
    : RunInvariant octets capacity (request.handle policy EncodedName.skip).2 := by
  obtain ⟨exit, _, frame⟩ := (Request.handled request policy EncodedName.skip).frame
  exact ⟨h.frame.step frame, h.search.step h.frame frame, h.copy.step h.frame h.search frame⟩

/-- A run keeps the invariant, by induction over its policies. -/
theorem handleAll (h : RunInvariant octets capacity request) (policies : List Policy)
    : RunInvariant octets capacity (request.handleAll policies) := by
  induction policies generalizing request with
  | nil => exact h
  | cons policy rest ih => exact ih (h.step policy)

/-- Every call of a run is made where the invariant holds, by the same induction. -/
theorem of_mem_calls (h : RunInvariant octets capacity request) {policies : List Policy}
    {call : HandlingCall} (member : call ∈ request.calls policies)
    : RunInvariant octets capacity call.before := by
  induction policies generalizing request with
  | nil => cases member
  | cons policy rest ih =>
      rcases List.mem_cons.mp member with rfl | later
      · exact h
      · exact ih (h.step policy) later

/-- Two requests of runs on the same octets find the same record, if each finds one. -/
theorem decodes_unique {first second : HandlingCall}
    (h : RunInvariant octets capacity first.before)
    (h' : RunInvariant octets capacity second.before) {record record' : RecordFields}
    (decoded : first.Decodes record) (decoded' : second.Decodes record')
    : record = record' := by
  obtain ⟨nameEnd, stopped, found⟩ := decoded
  obtain ⟨nameEnd', stopped', found'⟩ := decoded'
  have reached := h.search.reached h.frame found
  have reached' := h'.search.reached h'.frame found'
  exact (reached.unique reached').1

/-- Nor do their extractions differ, which the name and the record determine. -/
theorem extraction_unique {first second : Request}
    (h : RunInvariant octets capacity first) (h' : RunInvariant octets capacity second)
    {extraction extraction' : Extraction} (present : first.extraction = some extraction)
    (present' : second.extraction = some extraction')
    : extraction = extraction' := by
  obtain ⟨record, nameEnd, _, reached, _, ends, start, _, offset, _⟩ :=
    h.copy.copied extraction present
  obtain ⟨record', nameEnd', _, reached', _, ends', start', _, offset', _⟩ :=
    h'.copy.copied extraction' present'
  obtain ⟨sameRecord, sameEnd⟩ := reached.unique reached'
  subst sameRecord sameEnd
  have length : extraction.length = extraction'.length :=
    Nat.add_left_cancel (ends.symm.trans ends')
  cases extraction
  cases extraction'
  simp only at start start' length offset offset'
  rw [start, start', offset, offset', length]

end RunInvariant

/-- Under every sequence of policies the request of a message keeps the invariant. Its octets differ
from those of the message only in a response code that was set, its answer stays within the
capacity, and the calls agree on the record that they decode, and keep, and on the name that they
extract.
-/
theorem repeatedHandling_invariant (octets : Octets) (capacity : Nat) (policies : List Policy)
    : let start := Request.fresh octets capacity
      let request := start.handleAll policies
      RunInvariant octets capacity request
      ∧ request.message.octets
        = (if request.reported then octets.modify 3 fun flags => (flags &&& 0xF0) ||| 1 else octets)
      ∧ (request.reported → request.responseCode = .formatError)
      ∧ request.answer.content.length ≤ capacity
      ∧ ∀ first ∈ start.calls policies,
          (∀ record, first.Decodes record → first.after.record = some record)
          ∧ ∀ second ∈ start.calls policies,
              (∀ record record',
                first.Decodes record → second.Decodes record' → record = record')
              ∧ ∀ extraction extraction',
                  first.Extracts extraction
                  → second.Extracts extraction'
                  → extraction = extraction' := by
  intro start request
  have invariant : RunInvariant octets capacity request :=
    (RunInvariant.fresh octets capacity).handleAll policies
  refine ⟨invariant, invariant.frame.octets_eq, ?_, ?_, ?_⟩
  · intro reported
    rw [Request.responseCode, invariant.frame.message, if_pos reported]
    exact Header.responseCode_setResponseCode ..
  · rw [← invariant.frame.answerCapacity]
    exact request.answer.length_content_le
  · intro first member
    refine ⟨fun _ decoded => decoded.kept, ?_⟩
    intro second member'
    have before := (RunInvariant.fresh octets capacity).of_mem_calls member
    have before' := (RunInvariant.fresh octets capacity).of_mem_calls member'
    constructor
    · intro record record' decoded decoded'
      exact before.decodes_unique before' decoded decoded'
    · intro extraction extraction' extracted extracted'
      exact (before.step first.policy).extraction_unique (before'.step second.policy)
        extracted.2 extracted'.2

-- The first record does not end the message and is copied along with the name of the second.
example
    : let record : Octets := [0, 0, 1, 0, 1, 0, 0, 0, 0, 0, 0]
      let octets := List.replicate Header.size 0 ++ record ++ record
      ((Request.fresh octets 12).handleAll [⟨true⟩, ⟨true⟩, ⟨false⟩, ⟨true⟩]).notices
      = [.lengthOff, .accepted 1 1, .copying 12 12, .lengthOff, .accepted 1 1, .copying 12 12] := by
  cbv

end InverseQuery
