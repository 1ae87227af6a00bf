import InverseQuery.Proofs.Scanning

/-! Handling in which every access is checked before it is made.
Nothing stands for an access that would fall outside its octets, or for a rewinding that would move
forward. That handling never gives nothing says that handling needs none of these checks.
-/

namespace InverseQuery

/-- The front of a string up to `stop`, which has to be a position in it. -/
def Octets.front? (octets : Octets) (stop : Nat) : Option Octets :=
  if stop ≤ octets.length then some (octets.take stop) else none

/-- The octets of a message, cut from its storage. -/
def Message.octets? (message : Message) : Option Octets := message.storage.front? message.length

/-- Replaces the response code, whose octet has to be in the storage. -/
def Message.setResponseCode? (message : Message) (code : ResponseCode) : Option Message :=
  if 3 < message.storage.length then some (message.setResponseCode code) else none

/-- Puts `source` in place of the content; the part of the storage that it takes has to be there. -/
def Answer.copy? (answer : Answer) (source : Octets) : Option (Except WireFault Answer) :=
  match answer.checkFits source.length with
  | .error fault => some (.error fault)
  | .ok () => do
      let _ ← answer.storage.front? source.length
      return .ok (answer.overwrite source)

/-- Reading with a cursor in which an access may be out of range. -/
abbrev CheckedReader := ExceptT WireFault (StateT Cursor Option)

/-- Reads a word, both of whose octets have to be in what was cut out for it. -/
def Cursor.readWord? (message : Octets) (limit : Nat) : CheckedReader UInt16 :=
  ExceptT.mk fun cursor =>
    let missing := WireFault.truncated cursor.position 2
    if cursor.position + 2 ≤ limit then
      match message.slice? cursor.position (cursor.position + 2) with
      | none => some (.error missing, cursor)
      | some octets => do
          let high ← octets[0]?
          let low ← octets[1]?
          return (.ok (Octets.joinWord high low), cursor.advance 2)
    else some (.error missing, cursor)

def Cursor.skip? (count : Nat) : CheckedReader Unit := modify (·.advance count)

/-- Reads the fields at the cursor and passes over the data. -/
def RecordFields.read? (message : Octets) (limit : Nat) : CheckedReader RecordFields := do
  let typeCode ← Cursor.readWord? message limit
  let classCode ← Cursor.readWord? message limit
  Cursor.skip? ttlSize
  let dataLength ← Cursor.readWord? message limit
  Cursor.skip? dataLength.toNat
  return { typeCode, classCode, dataLength }

/-- Reads the fields of a record that ends exactly at `limit`. -/
def RecordFields.readLast? (message : Octets) (limit : Nat) : CheckedReader RecordFields := do
  let fields ← read? message limit
  match (← get).requireAt limit with
  | .ok () => return fields
  | .error fault => throw fault

namespace Request

/-- Ends a request whose message is malformed. -/
def formatError? (request : Request) (notice : Notice) : Option (Verdict × Request) := do
  let reported := request.report notice
  let message ← reported.message.setResponseCode? .formatError
  return (.finish, { reported with message })

/-- Copies the octets between the header and `nameEnd` to the answer. -/
def extractName? (request : Request) (record : RecordFields) (nameEnd : Nat)
    : Option (Verdict × Request) := do
  let octets ← request.message.octets?
  match octets.slice? Header.size nameEnd with
  | none => request.formatError? .nameProblem
  | some name =>
      match ← request.answer.copy? name with
      | .error _ => return (.handBack, request.report .answerOverflow)
      | .ok answer =>
          let reported := request.report (.copying name.length answer.capacity)
          let cursor ← request.cursor.rewind? Header.size
          let extraction : Extraction :=
            { nameStart := Header.size, length := name.length,
              dataOffset := name.length - record.dataLength.toNat }
          return (.finish,
            { reported with
              answer
              extraction := some extraction
              cursor
              remaining := request.remaining - Header.size })

/-- Handles a request with every access checked. -/
def handle? (policy : Policy) (skipName : NameSkipper) (request : Request)
    : Option (Verdict × Request) := do
  let octets ← request.message.octets?
  match skipName octets request.cursor.position request.limit with
  | .error _ => request.formatError? .nameProblem
  | .ok length =>
      let nameEnd := request.cursor.advance length
      match ← RecordFields.readLast? octets request.limit nameEnd with
      | (.error _, cursor) => formatError? { request with cursor } .lengthOff
      | (.ok record, cursor) =>
          let decoded := { request with cursor, record := some record }
          if record.recordType? = some .a ∧ policy.enabled then
            (decoded.report (.accepted record.classCode record.typeCode)).extractName? record
              nameEnd.position
          else return (.refuse, decoded)

end Request

-----------------------------------------------------------------------------------------
-- No check fails
-----------------------------------------------------------------------------------------

/-- The front of a message never reaches past its storage. -/
theorem Message.octets?_eq (message : Message) : message.octets? = some message.octets := by
  have inside : message.length ≤ message.storage.length := by
    rw [message.storage_length]
    exact Nat.le_trans message.length_le (Nat.le_max_left ..)
  exact if_pos inside

/-- The storage holds a header, and so the octet of the response code. -/
theorem Message.setResponseCode?_eq (message : Message) (code : ResponseCode)
    : message.setResponseCode? code = some (message.setResponseCode code) := by
  have inside : 3 < message.storage.length := by
    have header := message.header.size_le
    exact Nat.lt_of_lt_of_le (by decide) header
  exact if_pos inside

/-- What passes the check of a copy has its place in the storage. -/
theorem Answer.copy?_eq (answer : Answer) (source : Octets)
    : answer.copy? source = some (answer.copy source) := by
  unfold copy? copy
  rcases Nat.lt_or_ge answer.capacity source.length with long | fits
  · simp only [checkFits, if_neg (Nat.not_le.mpr long)]
  · have front : answer.storage.front? source.length = some (answer.storage.take source.length) :=
      if_pos fits
    simp only [checkFits, if_pos fits, front]
    rfl

/-- A checked reader that never meets a failing check and otherwise reads as `reader` does. -/
def CheckedReader.Follows {α : Type} (checked : CheckedReader α) (reader : WireReader α) : Prop :=
  ∀ cursor,
    checked.run.run cursor
    = match reader cursor with
      | .ok value next => some (.ok value, next)
      | .error fault next => some (.error fault, next)

namespace CheckedReader.Follows

/-- Reading one part after the other meets no failing check if neither part does. -/
theorem bind {α β : Type} {checked : CheckedReader α} {reader : WireReader α}
    {checkedNext : α → CheckedReader β} {next : α → WireReader β}
    (h : Follows checked reader) (h' : ∀ value, Follows (checkedNext value) (next value))
    : Follows (checked >>= checkedNext) (reader >>= next) := by
  intro cursor
  have first := h cursor
  rw [WireReader.bind_apply]
  simp only [ExceptT.run_bind, StateT.run_bind, first]
  cases reader cursor with
  | ok value stopped => exact h' value stopped
  | error fault stopped => rfl

theorem pure {α : Type} (value : α)
    : Follows (Pure.pure value : CheckedReader α) (Pure.pure value : WireReader α) := by
  intro cursor
  rfl

theorem skip (count : Nat) : Follows (Cursor.skip? count) (Cursor.skip count) := by
  intro cursor
  rfl

/-- What is cut out for a word has both of its octets. -/
theorem readWord (message : Octets) (limit : Nat)
    : Follows (Cursor.readWord? message limit) (Cursor.readWord message limit) := by
  intro cursor
  change (if cursor.position + 2 ≤ limit then _ else _) = _
  unfold Cursor.readWord Octets.slice?
  by_cases before : cursor.position + 2 ≤ limit
  · rw [if_pos before]
    dsimp only
    rw [if_pos before]
    by_cases inside : cursor.position + 2 ≤ message.length
    · have cut : message.window cursor.position (cursor.position + 2)
          = (message.drop cursor.position).take 2 := by
        rw [Octets.window, List.drop_take, Nat.add_sub_cancel_left]
      have found := (Octets.word?_isSome_iff message cursor.position).mpr inside
      rw [if_pos ⟨Nat.le_add_right .., inside⟩, cut]
      unfold Octets.word? at found ⊢
      split at found
      next high low rest split => rw [split]; rfl
      next => cases found
    · have absent : message.word? cursor.position = none := by
        rw [← Option.not_isSome_iff_eq_none, Octets.word?_isSome_iff]
        exact inside
      rw [if_neg (fun ordered => inside ordered.2), absent]
  · rw [if_neg before]
    dsimp only
    rw [if_neg before]

/-- The fields of a record are read without a failing check, part by part. -/
theorem read (message : Octets) (limit : Nat)
    : Follows (RecordFields.read? message limit) (RecordFields.read message limit) := by
  unfold RecordFields.read? RecordFields.read
  refine (readWord message limit).bind fun typeCode => ?_
  refine (readWord message limit).bind fun classCode => ?_
  refine (skip RecordFields.ttlSize).bind fun _ => ?_
  refine (readWord message limit).bind fun dataLength => ?_
  exact (skip dataLength.toNat).bind fun _ => pure _

theorem readLast (message : Octets) (limit : Nat)
    : Follows (RecordFields.readLast? message limit) (RecordFields.readLast message limit) := by
  unfold RecordFields.readLast? RecordFields.readLast
  refine (read message limit).bind fun fields => ?_
  intro cursor
  change StateT.run (ExceptT.run (match cursor.requireAt limit with
    | .ok () => Pure.pure fields
    | .error fault => throw fault)) cursor = _
  have get_apply : (get : WireReader Cursor) cursor = .ok cursor cursor := rfl
  rw [WireReader.bind_apply, get_apply]
  dsimp only
  cases cursor.requireAt limit <;> rfl

end CheckedReader.Follows

namespace Request

theorem formatError?_eq (request : Request) (notice : Notice)
    : request.formatError? notice = some (request.formatError notice) := by
  unfold formatError? formatError
  dsimp only
  rw [Message.setResponseCode?_eq]
  rfl

/-- Extraction fails no check if the name ends where the cursor stands or before. -/
theorem extractName?_eq {request : Request} (record : RecordFields) {nameEnd : Nat}
    (passed : nameEnd ≤ request.cursor.position)
    : request.extractName? record nameEnd
      = some (request.extractName record nameEnd passed) := by
  unfold extractName
  split
  next cut =>
    rw [extractName?, Message.octets?_eq, Option.bind_eq_bind, Option.bind_some, cut]
    exact formatError?_eq request .nameProblem
  next name cut =>
    have earlier : Header.size ≤ request.cursor.position :=
      Nat.le_trans (Octets.slice?_eq_some_iff.mp cut).1.1 passed
    simp only [extractName?, Message.octets?_eq, cut, Answer.copy?_eq, Option.bind_eq_bind,
      Option.bind_some, Cursor.rewind?_of_le earlier]
    cases request.answer.copy name with
    | error fault => rfl
    | ok answer => rfl

/-- Handling fails no check, whatever the request, the policy and the way to skip a name. -/
theorem handle?_eq (request : Request) (policy : Policy) (skipName : NameSkipper)
    : request.handle? policy skipName = some (request.handle policy skipName) := by
  unfold handle? handle
  rw [Message.octets?_eq, Option.bind_eq_bind, Option.bind_some]
  dsimp only
  cases skipped : skipName request.message.octets request.cursor.position request.limit with
  | error fault => exact formatError?_eq request .nameProblem
  | ok length =>
      have follows := CheckedReader.Follows.readLast request.message.octets request.limit
        (request.cursor.advance length)
      change RecordFields.readLast? _ _ (request.cursor.advance length) = _ at follows
      dsimp only
      split
      next fault stopped read =>
        rw [read] at follows
        rw [follows]
        exact formatError?_eq _ .lengthOff
      next record stopped read =>
        rw [read] at follows
        rw [follows, Option.bind_eq_bind, Option.bind_some]
        dsimp only
        split
        · exact extractName?_eq record _
        · rfl

end Request

end InverseQuery
