import InverseQuery.Wire.EncodedName

/-! The length of a name is found exactly where the grammar derives a name.
Both directions are stated with whatever follows the name, so that they apply inside a message.
-/

namespace InverseQuery

/-- Zero alone announces the end of a name. -/
theorem NameLead.ofOctet_eq_terminator {octet : UInt8}
    : NameLead.ofOctet octet = .terminator ↔ octet = 0 := by
  simp only [NameLead.ofOctet]
  grind

/-- The octets from 1 to 63 announce a label of that size. -/
theorem NameLead.ofOctet_eq_label {octet : UInt8} {size : Nat}
    : NameLead.ofOctet octet = .label size
      ↔ 1 ≤ octet ∧ octet ≤ 63 ∧ octet.toNat = size := by
  simp only [NameLead.ofOctet]
  grind

/-- The octets with both high bits set announce a pointer. -/
theorem NameLead.ofOctet_eq_pointer {octet : UInt8}
    : NameLead.ofOctet octet = .pointer ↔ 0xC0 ≤ octet := by
  simp only [NameLead.ofOctet]
  grind

namespace EncodedName

theorem length_pos {name : Octets} (h : EncodedName name) : 1 ≤ name.length := by
  cases h with
  | root => exact Nat.le_refl 1
  | pointer lead low high => exact Nat.le_succ 1
  | label size content rest _ _ _ _ => exact Nat.succ_le_succ (Nat.zero_le _)

/-- The length of a name is found whatever follows it, by induction on its derivation. -/
theorem length?_append {name : Octets} (h : EncodedName name) (following : Octets)
    : length? (name ++ following) = some name.length := by
  induction h with
  | root => rw [List.singleton_append, length?, NameLead.ofOctet_eq_terminator.mpr rfl]; rfl
  | pointer lead low high =>
      rw [List.cons_append, length?, NameLead.ofOctet_eq_pointer.mpr high]
      rfl
  | label size content rest positive short exact _ ih =>
      have dropped : (content ++ rest ++ following).drop size.toNat = rest ++ following := by
        rw [← exact, List.append_assoc, List.drop_left]
      have total : 1 + size.toNat + rest.length = (size :: (content ++ rest)).length := by
        simp only [List.length_cons, List.length_append, exact]
        omega
      rw [List.cons_append, length?, NameLead.ofOctet_eq_label.mpr ⟨positive, short, rfl⟩]
      simp only [dropped, ih, Option.map_some, total]

/-- Where a length is found, that many octets are a name, by the recursion that finds it. -/
theorem exists_of_length? {octets : Octets} {length : Nat} (h : length? octets = some length)
    : ∃ name following,
        octets = name ++ following ∧ EncodedName name ∧ name.length = length := by
  fun_induction length? octets generalizing length with
  | case1 => cases h
  | case2 lead rest terminator =>
      obtain rfl := NameLead.ofOctet_eq_terminator.mp terminator
      exact ⟨[0], rest, rfl, .root, Option.some.inj h⟩
  | case3 lead rest size label ih =>
      obtain ⟨tail, found, rfl⟩ := Option.map_eq_some_iff.mp h
      obtain ⟨name, following, split, derived, rfl⟩ := ih found
      obtain ⟨positive, short, rfl⟩ := NameLead.ofOctet_eq_label.mp label
      have room : lead.toNat ≤ rest.length := by
        have lengths := congrArg List.length split
        have positive := derived.length_pos
        simp only [List.length_drop, List.length_append] at lengths
        omega
      have exact : (rest.take lead.toNat).length = lead.toNat := List.length_take_of_le room
      refine ⟨lead :: (rest.take lead.toNat ++ name), following, ?_,
        .label lead _ name positive short exact derived, ?_⟩
      · rw [List.cons_append, List.append_assoc, ← split, List.take_append_drop]
      · simp only [List.length_cons, List.length_append, exact]
        omega
  | case4 => cases h
  | case5 lead rest pointer more =>
      obtain ⟨low, following, rfl⟩ := List.exists_cons_of_ne_nil (by simpa using more)
      exact ⟨[lead, low], following, rfl, .pointer lead low (NameLead.ofOctet_eq_pointer.mp pointer),
        Option.some.inj h⟩
  | case6 => cases h

/-- A length is found exactly where a string starts with a name of that length. -/
theorem length?_eq_some_iff {octets : Octets} {length : Nat}
    : length? octets = some length
      ↔ length ≤ octets.length ∧ EncodedName (octets.take length) := by
  constructor
  · intro h
    obtain ⟨name, following, rfl, derived, rfl⟩ := exists_of_length? h
    rw [List.take_left' rfl, List.length_append]
    exact ⟨Nat.le_add_right .., derived⟩
  · intro h
    obtain ⟨room, derived⟩ := h
    have found := length?_append derived (octets.drop length)
    rwa [List.take_append_drop, List.length_take_of_le room] at found

/-- A name of `length` octets stands at `start` and ends at or before `limit` and the end of the
message.
-/
def At (message : Octets) (start limit length : Nat) : Prop :=
  start + length ≤ min limit message.length
    ∧ EncodedName (message.window start (start + length))

theorem take_window {message : Octets} {start limit length : Nat} (h : start + length ≤ limit)
    : (message.window start limit).take length = message.window start (start + length) := by
  rw [Octets.window, Octets.window, List.take_drop, List.take_take, Nat.min_eq_left h]

/-- A name is skipped exactly if it stands where the reading starts. -/
theorem skip_eq_ok_iff {message : Octets} {start limit length : Nat}
    : skip message start limit = .ok length ↔ At message start limit length := by
  have unfolded : skip message start limit = .ok length
      ↔ length? (message.window start limit) = some length := by
    unfold skip
    cases length? (message.window start limit) <;> simp
  rw [unfolded, length?_eq_some_iff, Octets.length_window, At]
  constructor
  · intro h
    obtain ⟨room, derived⟩ := h
    have positive := derived.length_pos
    rw [List.length_take, Octets.length_window] at positive
    have inside : start + length ≤ min limit message.length := by omega
    rw [take_window (by omega)] at derived
    exact ⟨inside, derived⟩
  · intro h
    obtain ⟨inside, derived⟩ := h
    rw [take_window (by omega)]
    exact ⟨by omega, derived⟩

/-- Where no name stands, the fault tells where the reading started. -/
theorem skip_eq_error_iff {message : Octets} {start limit : Nat} {fault : WireFault}
    : skip message start limit = .error fault
      ↔ (∀ length, ¬ At message start limit length) ∧ fault = .malformedName start := by
  simp only [← skip_eq_ok_iff]
  unfold skip
  cases length? (message.window start limit) <;> simp [eq_comm]

/-- A name that stands somewhere takes at least one octet. -/
theorem At.one_le {message : Octets} {start limit length : Nat} (h : At message start limit length)
    : 1 ≤ length := by
  have positive := h.2.length_pos
  rw [Octets.length_window] at positive
  omega

/-- At most one name stands at a position. -/
theorem At.unique {message : Octets} {start limit first second : Nat}
    (h : At message start limit first) (h' : At message start limit second)
    : first = second :=
  Except.ok.inj ((skip_eq_ok_iff.mpr h).symm.trans (skip_eq_ok_iff.mpr h'))

end EncodedName

end InverseQuery
