/-! What can be wrong with the octets of a message, with the positions that show it. -/

namespace InverseQuery

/-- A reason why a message does not read as it should. -/
inductive WireFault where
  /-- The name that starts at `offset` is malformed or does not end in time. -/
  | malformedName (offset : Nat)
  /-- The record ends at `position` and the message at `limit`. -/
  | lengthMismatch (position limit : Nat)
  /-- Of `needed` octets at `offset` some are missing. -/
  | truncated (offset needed : Nat)
  /-- A name of `length` octets does not fit an answer for `capacity`. -/
  | answerOverflow (length capacity : Nat)
  deriving Repr, DecidableEq

def WireFault.message : WireFault → String
  | malformedName offset => "Malformed encoded name at offset " ++ toString offset
  | lengthMismatch position limit =>
      "Message length off: cursor at " ++ toString position
        ++ ", end of message at " ++ toString limit
  | truncated offset needed =>
      "Read of " ++ toString needed ++ " bytes at offset " ++ toString offset
        ++ " runs past end of message"
  | answerOverflow length capacity =>
      "Extracted name of " ++ toString length ++ " bytes exceeds answer buffer capacity of "
        ++ toString capacity

end InverseQuery
