/-! Octet strings, and the big-endian 16-bit words that stand in them.
A word is found exactly where both of its octets are, and writing a word and reading it back
gives the word again.
-/

namespace InverseQuery

/-- A finite string of octets. -/
abbrev Octets := List UInt8

namespace Octets

/-- The greatest length of a string that is held in memory: sixty-three ones. -/
def longest : Nat := 0x7FFFFFFFFFFFFFFF

/-- The word with the high octet `high` and the low octet `low`. -/
def joinWord (high low : UInt8) : UInt16 := high.toUInt16 <<< 8 ||| low.toUInt16

/-- A word as two octets, the high one first. -/
def ofWord (word : UInt16) : Octets := [(word >>> 8).toUInt8, word.toUInt8]

/-- The word that starts at `offset`, when both of its octets are present. -/
def word? (octets : Octets) (offset : Nat) : Option UInt16 :=
  match octets.drop offset with
  | high :: low :: _ => some (joinWord high low)
  | _ => none

/-- The octets before `stop`, without the first `start`; positions past the end hold nothing. -/
def window (octets : Octets) (start stop : Nat) : Octets := (octets.take stop).drop start

/-- The octets from `start` up to `stop`, when these are positions in order inside the string. -/
def slice? (octets : Octets) (start stop : Nat) : Option Octets :=
  if start ≤ stop ∧ stop ≤ octets.length then some (octets.window start stop) else none

theorem slice?_eq_some_iff {octets cut : Octets} {start stop : Nat}
    : octets.slice? start stop = some cut
      ↔ (start ≤ stop ∧ stop ≤ octets.length) ∧ octets.window start stop = cut := by
  rw [slice?, Option.ite_none_right_eq_some, Option.some_inj]

theorem slice?_eq_none_iff {octets : Octets} {start stop : Nat}
    : octets.slice? start stop = none ↔ ¬ (start ≤ stop ∧ stop ≤ octets.length) := by
  rw [slice?]
  split <;> simp_all

@[simp]
theorem length_window (octets : Octets) (start stop : Nat)
    : (octets.window start stop).length = min stop octets.length - start := by
  rw [window, List.length_drop, List.length_take]

theorem toNat_joinWord (high low : UInt8)
    : (joinWord high low).toNat = 256 * high.toNat + low.toNat := by
  have hh := high.toNat_lt
  have hl := low.toNat_lt
  have shifted : (high.toUInt16 <<< 8).toNat = 2 ^ 8 * high.toNat := by
    simp [Nat.shiftLeft_eq]
    omega
  rw [joinWord, UInt16.toNat_or, shifted, UInt8.toNat_toUInt16,
    ← Nat.two_pow_add_eq_or_of_lt hl]

theorem joinWord_ofWord (word : UInt16)
    : joinWord (word >>> 8).toUInt8 word.toUInt8 = word := by
  have bound := word.toNat_lt
  apply UInt16.toNat_inj.mp
  rw [toNat_joinWord]
  simp [Nat.shiftRight_eq_div_pow]
  omega

@[simp]
theorem length_ofWord (word : UInt16) : (ofWord word).length = 2 := rfl

/-- A word is read back after it is written, whatever follows it. -/
theorem word?_ofWord_append (word : UInt16) (rest : Octets)
    : word? (ofWord word ++ rest) 0 = some word :=
  congrArg some (joinWord_ofWord word)

/-- Words at an offset past `before` are those of what follows `before`. -/
theorem word?_append_left (before rest : Octets) (offset : Nat)
    : word? (before ++ rest) (before.length + offset) = word? rest offset := by
  simp only [word?, List.drop_append, Nat.add_sub_cancel_left,
    List.drop_eq_nil_of_le (Nat.le_add_right before.length offset), List.nil_append]

/-- A word is the two octets from its position on. -/
theorem word?_eq_bind (octets : Octets) (position : Nat)
    : octets.word? position
      = octets[position]?.bind fun high => octets[position + 1]?.map (joinWord high) := by
  have atFirst : octets[position]? = (octets.drop position)[0]? := by
    rw [List.getElem?_drop, Nat.add_zero]
  have atSecond : octets[position + 1]? = (octets.drop position)[1]? := by
    rw [List.getElem?_drop]
  rw [atFirst, atSecond, word?]
  rcases octets.drop position with _ | ⟨high, _ | ⟨low, rest⟩⟩ <;> rfl

/-- There is a word exactly at the offsets that leave room for two octets. -/
theorem word?_isSome_iff (octets : Octets) (offset : Nat)
    : (octets.word? offset).isSome ↔ offset + 2 ≤ octets.length := by
  have len : (octets.drop offset).length = octets.length - offset := List.length_drop
  unfold word?
  split
  next high low rest h =>
    simp only [h, List.length_cons] at len
    simp only [Option.isSome_some, true_iff]
    omega
  next h =>
    simp only [Option.isSome_none, Bool.false_eq_true, false_iff]
    intro room
    match hd : octets.drop offset, len with
    | [], len => simp only [List.length_nil] at len; omega
    | [_], len => simp only [List.length_cons, List.length_nil] at len; omega
    | high :: low :: rest, _ => exact h high low rest hd

end Octets

end InverseQuery
