/-! The decision points that are reported while a request is handled, with the lines they print. -/

namespace InverseQuery

/-- One reported decision. -/
inductive Notice where
  | nameProblem
  | lengthOff
  /-- An inverse query was accepted, with the codes of its class and type. -/
  | accepted (classCode typeCode : UInt16)
  | answerOverflow
  /-- A name of `length` octets goes into an answer for `capacity`. -/
  | copying (length capacity : Nat)
  deriving Repr, DecidableEq

def Notice.line : Notice → String
  | nameProblem => "FORMERR IQuery packet name problem"
  | lengthOff => "FORMERR IQuery message length off"
  | accepted classCode typeCode =>
      "req: IQuery class " ++ toString classCode.toNat ++ " type " ++ toString typeCode.toNat
  | answerOverflow => "BUFFER OVERFLOW DETECTED!"
  | copying length capacity =>
      "Copying " ++ toString length ++ " bytes from fname to anbuf which can store "
        ++ toString capacity ++ " bytes"

end InverseQuery
