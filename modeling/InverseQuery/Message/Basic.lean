import InverseQuery.Wire.Header

/-! A message: its octets, in storage for as many as it may hold and for a header at least.
Zeros fill the rest of the storage. So the header can always be read and its response code always be
written, also where it lies past the octets of a short message.
-/

namespace InverseQuery

/-- Storage for `capacity` octets and at least for a header, the first `length` octets of which are
the message.
-/
structure Message where
  storage : Octets
  length : Nat
  capacity : Nat
  storage_length : storage.length = max capacity Header.size
  length_le : length ≤ capacity

namespace Message

def defaultCapacity : Nat := 10000

/-- Octets followed by as many zeros as fill up the storage for `capacity` of them. -/
def pad (octets : Octets) (capacity : Nat) : Octets :=
  octets ++ List.replicate (max capacity Header.size - octets.length) 0

/-- A message of octets that a capacity admits. -/
def ofBounded (octets : Octets) (capacity : Nat) (h : octets.length ≤ capacity) : Message where
  storage := pad octets capacity
  length := octets.length
  capacity := capacity
  storage_length := by
    simp only [pad, List.length_append, List.length_replicate]
    omega
  length_le := h

/-- A message whose capacity is exactly its length. -/
def ofOctets (octets : Octets) : Message := ofBounded octets octets.length (Nat.le_refl _)

/-- The octets of the message, without padding. -/
def octets (message : Message) : Octets := message.storage.take message.length

def header (message : Message) : Header :=
  ⟨message.storage, by rw [message.storage_length]; exact Nat.le_max_right ..⟩

def setResponseCode (message : Message) (code : ResponseCode) : Message :=
  { message with
    storage := (message.header.setResponseCode code).octets
    storage_length :=
      (Header.length_writeResponseCode message.storage code).trans message.storage_length }

/-- The unpadded octets are those that the message was made of. -/
@[simp]
theorem octets_ofBounded (octets : Octets) (capacity : Nat) (h : octets.length ≤ capacity)
    : (ofBounded octets capacity h).octets = octets :=
  List.take_left' rfl

@[simp]
theorem length_octets (message : Message) : message.octets.length = message.length := by
  have bound := message.length_le
  simp only [Message.octets, List.length_take, message.storage_length]
  omega

/-- Replacing the response code in the storage replaces it in the octets, if it lies in them. -/
theorem octets_setResponseCode (message : Message) (code : ResponseCode)
    : (message.setResponseCode code).octets = Header.writeResponseCode message.octets code :=
  List.take_modify ..

/-- Only the storage and the two sizes of it tell messages apart. -/
theorem eq_of_storage {first second : Message} (storage : first.storage = second.storage)
    (length : first.length = second.length) (capacity : first.capacity = second.capacity)
    : first = second := by
  cases first
  cases second
  congr

theorem setResponseCode_setResponseCode (message : Message) (first second : ResponseCode)
    : (message.setResponseCode first).setResponseCode second = message.setResponseCode second :=
  eq_of_storage (Header.writeResponseCode_writeResponseCode message.storage first second) rfl rfl

end Message

end InverseQuery
