import InverseQuery.Request.Handling

/-! The report on one message: a line for its opcode, then what became of the inverse query in it,
or a line that says that there is none.
-/

namespace InverseQuery

/-- The printed lines on a message, with the facts behind them. -/
structure Report where
  opcode : Opcode
  verdict : Option Verdict
  lines : List String
  deriving Repr, DecidableEq

namespace Report

def opcodeLine (bits : UInt8) : String := "opcode = " ++ toString bits.toNat

def unsupportedLine : String := "We only support inverse queries!"

/-- Handles a message if it is an inverse query, and reports on it. -/
def ofMessage (message : Message) (policy : Policy) (answerCapacity : Nat) : Report :=
  let header := message.header
  let first := opcodeLine header.opcodeBits
  match header.opcode with
  | .inverseQuery =>
      let (verdict, request) :=
        (Request.ofMessage message (.empty answerCapacity)).handle policy EncodedName.skip
      ⟨.inverseQuery, some verdict, first :: request.notices.map Notice.line⟩
  | opcode => ⟨opcode, none, [first, unsupportedLine]⟩

end Report

end InverseQuery
