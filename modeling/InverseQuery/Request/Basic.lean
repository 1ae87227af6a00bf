import InverseQuery.Answer
import InverseQuery.Message.Basic
import InverseQuery.Request.Notice
import InverseQuery.Wire.RecordFields

/-! The state of one request: the message, how far it was read, and what was found in it. -/

namespace InverseQuery

/-- What becomes of a request once it was looked at. -/
inductive Verdict where
  | finish
  | refuse
  | handBack
  deriving Repr, DecidableEq

def Verdict.text : Verdict → String
  | finish => "Finish"
  | refuse => "Refuse"
  | handBack => "Return"

/-- Where a copied name came from, how long it is, and where in the answer the data of the record
would start if it ended with the name.
-/
structure Extraction where
  nameStart : Nat
  length : Nat
  dataOffset : Int
  deriving Repr, DecidableEq

/-- A request while it is handled. The message ends at `limit` for all reading; `remaining` is the
length that is left to the caller.
-/
structure Request where
  message : Message
  cursor : Cursor
  limit : Nat
  remaining : Nat
  answer : Answer
  record : Option RecordFields := none
  extraction : Option Extraction := none
  notices : List Notice := []

namespace Request

/-- A fresh request stands after the header of its message. -/
def ofMessage (message : Message) (answer : Answer) : Request where
  message := message
  cursor := .ofNat Header.size
  limit := message.length
  remaining := message.length
  answer := answer

def responseCode (request : Request) : ResponseCode := request.message.header.responseCode

def report (request : Request) (notice : Notice) : Request :=
  { request with notices := request.notices ++ [notice] }

end Request

end InverseQuery
