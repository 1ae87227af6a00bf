import InverseQuery.Request.Handling

/-! A request under a sequence of operations.
Besides being handled, a request may have its position, bounds, response code and answer set from
outside, be inspected, and be saved and restored. A session keeps the request and a saved copy.
-/

namespace InverseQuery

/-- One operation on a request. -/
inductive SessionStep where
  | handle (policy : Policy) (skipName : NameSkipper)
  | setCursor (position : Nat)
  | skip (count : Nat)
  | rewind (position : Nat)
  | setLimit (limit : Nat)
  | setRemaining (remaining : Nat)
  | setResponseCode (code : ResponseCode)
  | copy (source : Octets)
  | newAnswer (capacity : Nat)
  | clearNotices
  | skipName
  | readWord
  | readRecord
  | requireEnd
  | readHeader
  | save
  | restore

/-- What an operation gives back. -/
inductive SessionResult where
  | done
  | verdict (verdict : Verdict)
  | length (length : Nat)
  | word (word : UInt16)
  | record (fields : RecordFields)
  | header (header : Header)
  | fault (fault : WireFault)
  | refused

/-- A request and the copy of it to which it can be restored. -/
structure Session where
  current : Request
  saved : Request

namespace Session

def start (request : Request) : Session := ⟨request, request⟩

/-- Changes the request by an operation that gives nothing back. -/
def update (session : Session) (change : Request → Request) : SessionResult × Session :=
  (.done, { session with current := change session.current })

/-- Moves the cursor by reading at it. -/
def reading {α : Type} (session : Session) (read : WireReader α) (result : α → SessionResult)
    : SessionResult × Session :=
  match read session.current.cursor with
  | .ok value cursor => (result value, { session with current.cursor := cursor })
  | .error fault cursor => (.fault fault, { session with current.cursor := cursor })

def step (session : Session) : SessionStep → SessionResult × Session
  | .handle policy skipName =>
      let (verdict, request) := session.current.handle policy skipName
      (.verdict verdict, { session with current := request })
  | .setCursor position => session.update ({ · with cursor := .ofNat position })
  | .skip count => session.update fun request =>
      { request with cursor := request.cursor.advance count }
  | .rewind position =>
      match session.current.cursor.rewind? position with
      | some cursor => session.update ({ · with cursor })
      | none => (.refused, session)
  | .setLimit limit => session.update ({ · with limit })
  | .setRemaining remaining => session.update ({ · with remaining })
  | .setResponseCode code => session.update fun request =>
      { request with message := request.message.setResponseCode code }
  | .copy source =>
      match session.current.answer.copy source with
      | .ok answer => session.update ({ · with answer })
      | .error fault => (.fault fault, session)
  | .newAnswer capacity => session.update ({ · with answer := .empty capacity })
  | .clearNotices => session.update ({ · with notices := [] })
  | .skipName =>
      let request := session.current
      match EncodedName.skip request.message.octets request.cursor.position request.limit with
      | .ok length => (.length length, session)
      | .error fault => (.fault fault, session)
  | .readWord =>
      session.reading (Cursor.readWord session.current.message.octets session.current.limit) .word
  | .readRecord =>
      session.reading (RecordFields.read session.current.message.octets session.current.limit)
        .record
  | .requireEnd =>
      match session.current.cursor.requireAt session.current.limit with
      | .ok () => (.done, session)
      | .error fault => (.fault fault, session)
  | .readHeader => (.header session.current.message.header, session)
  | .save => (.done, { session with saved := session.current })
  | .restore => (.done, { session with current := session.saved })

/-- Performs operations in order, with what each gives back and the request after it. -/
def run (session : Session) : List SessionStep → List (SessionResult × Request)
  | [] => []
  | step :: steps =>
      let (result, next) := session.step step
      (result, next.current) :: next.run steps

end Session

end InverseQuery
