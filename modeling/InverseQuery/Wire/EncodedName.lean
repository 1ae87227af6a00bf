import InverseQuery.Octets
import InverseQuery.Wire.Fault

/-! Domain names as they are encoded in a message.
A name is a row of labels that ends in an empty label or in a pointer to the rest of the name.
The grammar of whole names stands beside the function that finds where a name ends, which looks
no further than that end.
-/

namespace InverseQuery

/-- What the first octet of a name announces. -/
inductive NameLead where
  | terminator
  /-- A label of at most 63 octets after their number, and then the rest of the name. -/
  | label (size : Nat)
  | pointer
  | reserved
  deriving Repr, DecidableEq

/-- The two high bits tell labels and pointers apart; two of their values are reserved. -/
def NameLead.ofOctet (octet : UInt8) : NameLead :=
  if octet = 0 then .terminator
  else if octet < 0x40 then .label octet.toNat
  else if octet < 0xC0 then .reserved
  else .pointer

/-- The octet strings that are one whole encoded name. -/
inductive EncodedName : Octets → Prop where
  /-- The empty label that ends a name. -/
  | root : EncodedName [0]
  /-- Two octets in place of the rest of a name. -/
  | pointer (lead low : UInt8) (high : 0xC0 ≤ lead) : EncodedName [lead, low]
  /-- A label of at most 63 octets after their number, and then the rest of the name. -/
  | label (size : UInt8) (content rest : Octets) (positive : 1 ≤ size) (short : size ≤ 63)
      (exact : content.length = size.toNat) (tail : EncodedName rest)
    : EncodedName (size :: (content ++ rest))

namespace EncodedName

/-- The length of the name at the front of a string, when a whole name stands there. -/
def length? : Octets → Option Nat
  | [] => none
  | lead :: rest =>
      match NameLead.ofOctet lead with
      | .terminator => some 1
      | .label size => (length? (rest.drop size)).map (1 + size + ·)
      | .pointer => if rest.isEmpty then none else some 2
      | .reserved => none
termination_by octets => octets.length
decreasing_by
  simp only [List.length_drop, List.length_cons]
  omega

/-- The length of the name that starts at `start` and ends at or before `limit`. -/
def skip (message : Octets) (start limit : Nat) : Except WireFault Nat :=
  match length? (message.window start limit) with
  | some length => .ok length
  | none => .error (.malformedName start)

end EncodedName

/-- A way to find the length of a name, given a message, where the name starts and where the
message ends.
-/
abbrev NameSkipper := Octets → Nat → Nat → Except WireFault Nat

end InverseQuery
