import InverseQuery.Request.Basic
import InverseQuery.Request.Policy
import InverseQuery.Wire.EncodedName

/-! Handling an inverse query.
The owner name is passed over and one record is read, which has to end where the message ends.
A record of another type than an address is refused, as is every record while the policy is off.
Otherwise the octets from the header to the end of the name are copied to the answer.
-/

namespace InverseQuery.Request

/-- Ends a request whose message is malformed: the notice says how, the header says that. -/
def formatError (request : Request) (notice : Notice) : Verdict × Request :=
  let reported := request.report notice
  (.finish, { reported with message := reported.message.setResponseCode .formatError })

/-- Copies the octets between the header and `nameEnd` to the answer. The cursor, which has passed
`nameEnd`, goes back to the header.
-/
def extractName (request : Request) (record : RecordFields) (nameEnd : Nat)
    (passed : nameEnd ≤ request.cursor.position)
    : Verdict × Request :=
  match cut : request.message.octets.slice? Header.size nameEnd with
  -- The name may have been said to end inside the header.
  | none => request.formatError .nameProblem
  | some name =>
      match request.answer.copy name with
      | .error _ => (.handBack, request.report .answerOverflow)
      | .ok answer =>
          let earlier := Nat.le_trans (Octets.slice?_eq_some_iff.mp cut).1.1 passed
          let reported := request.report (.copying name.length answer.capacity)
          let extraction : Extraction :=
            { nameStart := Header.size, length := name.length,
              dataOffset := name.length - record.dataLength.toNat }
          (.finish,
            { reported with
              answer := answer
              extraction := some extraction
              cursor := request.cursor.rewind Header.size earlier
              remaining := request.remaining - Header.size })

/-- Handles a request under a policy, with a given way to find the length of its name. -/
def handle (policy : Policy) (skipName : NameSkipper) (request : Request) : Verdict × Request :=
  let octets := request.message.octets
  match skipName octets request.cursor.position request.limit with
  | .error _ => request.formatError .nameProblem
  | .ok length =>
      -- A length past the end of the message shows when the record is read.
      let nameEnd := request.cursor.advance length
      match read : RecordFields.readLast octets request.limit nameEnd with
      | .error _ cursor => { request with cursor }.formatError .lengthOff
      | .ok record cursor =>
          -- The record is kept whether or not it is then refused.
          let decoded := { request with cursor, record := some record }
          if record.recordType? = some .a ∧ policy.enabled then
            let passed := (RecordFields.forward_readLast octets request.limit).le_of_ok read
            (decoded.report (.accepted record.classCode record.typeCode)).extractName record
              nameEnd.position passed
          else (.refuse, decoded)

end InverseQuery.Request
