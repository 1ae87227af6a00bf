/-! The outcome that an answer reports: a code of four bits, six of whose values have names. -/

namespace InverseQuery

/-- The outcome of a request, as the header of its answer tells it. -/
inductive ResponseCode where
  | noError
  | formatError
  | serverFailure
  | nameError
  | notImplemented
  | refused
  | unassigned (code : UInt8)
  deriving Repr, DecidableEq

namespace ResponseCode

/-- The name of a response code; all unassigned ones share one. -/
def mnemonic : ResponseCode → String
  | noError => "NOERROR"
  | formatError => "FORMERR"
  | serverFailure => "SERVFAIL"
  | nameError => "NXDOMAIN"
  | notImplemented => "NOTIMP"
  | refused => "REFUSED"
  | unassigned _ => "UNKNOWN"

/-- The text of a response code: its name, or the number of an unassigned one. -/
def text : ResponseCode → String
  | unassigned code => "RCODE" ++ toString code.toNat
  | code => code.mnemonic

/-- The four bits that stand for a response code in a header. -/
def code : ResponseCode → UInt8
  | noError => 0
  | formatError => 1
  | serverFailure => 2
  | nameError => 3
  | notImplemented => 4
  | refused => 5
  | unassigned code => code &&& 0x0F

def ofCode (octet : UInt8) : ResponseCode :=
  match octet &&& 0x0F with
  | 0 => noError
  | 1 => formatError
  | 2 => serverFailure
  | 3 => nameError
  | 4 => notImplemented
  | 5 => refused
  | code => unassigned code

/-- A code has no bits beyond the low four. -/
theorem code_and_high (responseCode : ResponseCode) : responseCode.code &&& 0xF0 = 0 := by
  cases responseCode with
  | unassigned code =>
      change code &&& 0x0F &&& 0xF0 = 0
      rw [UInt8.and_assoc]
      exact UInt8.and_zero
  | _ => rfl

end ResponseCode

end InverseQuery
