import InverseQuery.Proofs.FlagGrammar

/-! The flag of a text as the integer that is written there.
A text has at most one set of parts that starts with an integer, so the flag is a function of the
parts: zeros in front of the digits do not change it, and a written integer is read back.
-/

namespace InverseQuery

namespace Text

/-- The code points with the White_Space property of Unicode. -/
def whiteSpace : List Nat :=
  [0x09, 0x0A, 0x0B, 0x0C, 0x0D, 0x20, 0x85, 0xA0, 0x1680, 0x2000, 0x2001, 0x2002, 0x2003, 0x2004,
    0x2005, 0x2006, 0x2007, 0x2008, 0x2009, 0x200A, 0x2028, 0x2029, 0x202F, 0x205F, 0x3000]

theorem isBlank_iff {char : Char} : isBlank char ↔ char.toNat ∈ whiteSpace := by
  simp only [isBlank, whiteSpace, List.mem_cons, List.not_mem_nil, Bool.or_eq_true,
    Bool.and_eq_true, decide_eq_true_eq, beq_iff_eq, or_false]
  omega

/-- Only zeros denote zero, by induction over the digits. -/
theorem ofDigitChars_eq_zero_iff {digits : List Char} (decimal : ∀ char ∈ digits, char.isDigit)
    : Nat.ofDigitChars 10 digits 0 = 0 ↔ ∀ char ∈ digits, char = '0' := by
  induction digits with
  | nil => simp
  | cons first digits ih =>
      obtain ⟨firstDecimal, decimal⟩ := List.forall_mem_cons.mp decimal
      have least : '0'.toNat ≤ first.toNat := (isDigit_iff.mp firstDecimal).1
      have zero : first.toNat - '0'.toNat = 0 ↔ first = '0' := by
        rw [Nat.sub_eq_zero_iff_le, ← Char.toNat_inj]
        omega
      have power : 10 ^ digits.length ≠ 0 := Nat.pos_iff_ne_zero.mp (Nat.pow_pos (by decide))
      rw [Nat.ofDigitChars_cons, Nat.ofDigitChars_eq_ofDigitChars_zero, List.forall_mem_cons,
        ← ih decimal, ← zero, Nat.add_eq_zero_iff, Nat.mul_zero, Nat.zero_add,
        Nat.mul_eq_zero, or_iff_right power]

end Text

theorem IntegerSign.chars_injective : Function.Injective IntegerSign.chars := by
  intro sign sign' same
  cases sign <;> cases sign' <;> first | rfl | cases same

namespace LeadingInteger

-----------------------------------------------------------------------------------------
-- The integer of the parts
-----------------------------------------------------------------------------------------

/-- A minus before zeros does not turn them into another integer. -/
theorem denoted_eq_zero_iff (parts : LeadingInteger)
    : parts.denoted = 0 ↔ ∀ char ∈ parts.digits, char = '0' := by
  rw [← Text.ofDigitChars_eq_zero_iff parts.digits_decimal, denoted]
  cases parts.sign with
  | absent => exact Int.natCast_eq_zero
  | plus => exact Int.natCast_eq_zero
  | minus => exact Int.neg_eq_zero.trans Int.natCast_eq_zero

-----------------------------------------------------------------------------------------
-- A text has one set of parts
-----------------------------------------------------------------------------------------

/-- What follows the blanks is found without knowing the parts, and so is what follows the sign. -/
theorem chars_injective : Function.Injective chars := by
  intro parts parts' same
  have signed
      : parts.sign.chars ++ (parts.digits ++ parts.rest)
        = parts'.sign.chars ++ (parts'.digits ++ parts'.rest) := by
    rw [← parts.dropWhile_chars, ← parts'.dropWhile_chars, same]
  have unsigned : parts.digits ++ parts.rest = parts'.digits ++ parts'.rest := by
    have splits := congrArg (fun text => (Text.splitSign text).2) signed
    simpa only [parts.splitSign_chars, parts'.splitSign_chars] using splits
  have digits : parts.digits = parts'.digits := by
    rw [← parts.takeWhile_digits, ← parts'.takeWhile_digits, unsigned]
  have blanks : parts.blanks = parts'.blanks := by
    rw [chars, chars, signed] at same
    exact List.append_cancel_right same
  have signs : parts.sign = parts'.sign := by
    rw [unsigned] at signed
    exact IntegerSign.chars_injective (List.append_cancel_right signed)
  have rest : parts.rest = parts'.rest := by
    rw [digits] at unsigned
    exact List.append_cancel_left unsigned
  cases parts
  cases parts'
  simp_all only

-----------------------------------------------------------------------------------------
-- Zeros in front, and integers that are written out
-----------------------------------------------------------------------------------------

/-- The same parts with more zeros in front of the digits. -/
def zeroPadded (parts : LeadingInteger) (zeros : Nat) : LeadingInteger where
  blanks := parts.blanks
  sign := parts.sign
  digits := List.replicate zeros '0' ++ parts.digits
  rest := parts.rest
  blanks_blank := parts.blanks_blank
  digits_ne_nil := List.append_ne_nil_of_right_ne_nil _ parts.digits_ne_nil
  digits_decimal := by
    intro char member
    rcases List.mem_append.mp member with zero | digit
    · rw [List.eq_of_mem_replicate zero]
      rfl
    · exact parts.digits_decimal char digit
  rest_stops := parts.rest_stops

theorem denoted_zeroPadded (parts : LeadingInteger) (zeros : Nat)
    : (parts.zeroPadded zeros).denoted = parts.denoted := by
  have same
      : Nat.ofDigitChars 10 (parts.zeroPadded zeros).digits 0
        = Nat.ofDigitChars 10 parts.digits 0 := by
    rw [zeroPadded, Nat.ofDigitChars_append, Nat.ofDigitChars_replicate_zero, Nat.mul_zero]
  rw [denoted, denoted, same]
  rfl

/-- The parts of a text in which an integer is written out, with no sign unless it is negative. -/
def ofDecimal (blanks : List Char) (value : Int) (rest : List Char)
    (blank : ∀ char ∈ blanks, Text.isBlank char) (stops : ∀ char ∈ rest.head?, ¬ char.isDigit)
    : LeadingInteger where
  blanks := blanks
  sign := if value < 0 then .minus else .absent
  digits := Nat.toDigits 10 value.natAbs
  rest := rest
  blanks_blank := blank
  digits_ne_nil := Nat.toDigits_ne_nil
  digits_decimal := fun _ => Nat.isDigit_of_mem_toDigits (by decide) (by decide)
  rest_stops := stops

section OfDecimal

variable {blanks rest : List Char} (blank : ∀ char ∈ blanks, Text.isBlank char)
  (stops : ∀ char ∈ rest.head?, ¬ char.isDigit) (value : Int)

theorem chars_ofDecimal
    : (ofDecimal blanks value rest blank stops).chars
      = blanks ++ ((toString value).toList ++ rest) := by
  have written
      : (if value < 0 then IntegerSign.minus else .absent).chars ++ Nat.toDigits 10 value.natAbs
        = (toString value).toList := by
    rw [Int.toString_eq_repr]
    cases value with
    | ofNat number =>
        rw [if_neg (Int.not_lt.mpr (Int.natCast_nonneg number) : ¬ Int.ofNat number < 0)]
        exact Nat.toList_repr.symm
    | negSucc number =>
        rw [if_pos (Int.negSucc_lt_zero number)]
        change ['-'] ++ Nat.toDigits 10 (number + 1) = ("-" ++ (number + 1).repr).toList
        rw [String.toList_append, Nat.toList_repr]
        rfl
  rw [chars, ← written, List.append_assoc]
  rfl

theorem denoted_ofDecimal : (ofDecimal blanks value rest blank stops).denoted = value := by
  rw [denoted, ofDecimal]
  dsimp only
  rw [Nat.ofDigitChars_ten_toDigits]
  by_cases negative : value < 0
  · rw [if_pos negative]
    change -(value.natAbs : Int) = value
    omega
  · rw [if_neg negative]
    change (value.natAbs : Int) = value
    omega

end OfDecimal

end LeadingInteger

/-- A written number is told from what follows it, if that does not go on with a digit. -/
theorem Text.toString_append_injective {number number' : Nat} {rest rest' : List Char}
    (stops : ∀ char ∈ rest.head?, ¬ char.isDigit) (stops' : ∀ char ∈ rest'.head?, ¬ char.isDigit)
    (same : (toString number).toList ++ rest = (toString number').toList ++ rest')
    : number = number' ∧ rest = rest' := by
  have chars
      : (LeadingInteger.ofDecimal [] number rest nofun stops).chars
        = (LeadingInteger.ofDecimal [] number' rest' nofun stops').chars := by
    rw [LeadingInteger.chars_ofDecimal, LeadingInteger.chars_ofDecimal]
    exact same
  have parts := LeadingInteger.chars_injective chars
  have denoted := congrArg LeadingInteger.denoted parts
  rw [LeadingInteger.denoted_ofDecimal, LeadingInteger.denoted_ofDecimal] at denoted
  exact ⟨Int.ofNat.inj denoted, congrArg LeadingInteger.rest parts⟩

theorem Text.toString_injective : Function.Injective (toString : Nat → String) := by
  intro number number' same
  have stops : ∀ char ∈ ([] : List Char).head?, ¬ char.isDigit := nofun
  exact (toString_append_injective stops stops (by rw [same])).1

theorem Policy.enabled_ofFlag_iff {flag : Int} : (Policy.ofFlag flag).enabled ↔ flag ≠ 0 :=
  decide_eq_true_iff

namespace Flag

theorem inRange_iff {value : Int}
    : inRange value ↔ -0x8000000000000000 ≤ value ∧ value ≤ 0x7FFFFFFFFFFFFFFF := by
  have limit : (bound : Int) = 0x7FFFFFFFFFFFFFFF + 1 := rfl
  rw [inRange, limit, Bool.and_eq_true, decide_eq_true_eq, decide_eq_true_eq, Int.lt_add_one_iff]
  rfl

/-- The flag of a text that starts with an integer is that integer, if it fits 64 bits. -/
theorem parse?_chars (parts : LeadingInteger)
    : parse? parts.chars = if inRange parts.denoted then some parts.denoted else none := by
  ext value
  rw [parse?_eq_some_iff, Option.ite_none_right_eq_some, Option.some_inj, and_comm]
  have leads : Leads parts.chars value ↔ parts.denoted = value := by
    constructor
    · rintro ⟨parts', same, rfl⟩
      rw [LeadingInteger.chars_injective same]
    · exact fun denoted => ⟨parts, rfl, denoted⟩
  rw [leads]
  constructor
  · rintro ⟨fits, rfl⟩
    exact ⟨fits, rfl⟩
  · rintro ⟨fits, rfl⟩
    exact ⟨fits, rfl⟩

/-- A text has no flag exactly if every integer that it starts with is out of range. -/
theorem parse?_eq_none_iff {chars : List Char}
    : parse? chars = none
      ↔ ∀ parts : LeadingInteger, parts.chars = chars → ¬ inRange parts.denoted := by
  constructor
  · rintro nothing parts rfl fits
    rw [parse?_chars, if_pos fits] at nothing
    cases nothing
  · intro outside
    rw [Option.eq_none_iff_forall_ne_some]
    intro value parsed
    obtain ⟨⟨parts, same, denoted⟩, fits⟩ := parse?_eq_some_iff.mp parsed
    exact outside parts same (denoted ▸ fits)

/-- Nothing else may stand between a sign and the first digit. -/
theorem parse?_eq_none_of_sign {blanks rest : List Char} {sign : IntegerSign}
    (blank : ∀ char ∈ blanks, Text.isBlank char) (signed : sign ≠ .absent)
    (stops : ∀ char ∈ rest.head?, ¬ char.isDigit)
    : parse? (blanks ++ (sign.chars ++ rest)) = none := by
  have unsigned
      : Text.splitSign ((blanks ++ (sign.chars ++ rest)).dropWhile Text.isBlank)
        = (sign.isNegative, rest) := by
    rw [List.dropWhile_append_of_pos blank]
    cases sign with
    | absent => exact absurd rfl signed
    | plus => rfl
    | minus => rfl
  unfold parse?
  rw [unsigned]
  dsimp only
  rw [Text.takeWhile_isDigit_of_stops stops]
  rfl

/-- A text has a flag exactly if it starts with an integer of 64 bits: blanks, a sign or none,
decimal digits, and something that does not go on with a digit. The parts are unique, more zeros in
front of the digits make no difference, and inverse queries are on exactly if some digit is not
zero. An integer that is written out after blanks is read back, whereas a sign without a digit
right after it has no flag.
-/
theorem parse?_accepts_grammar (chars : List Char) {blanks rest : List Char}
    (blank : ∀ char ∈ blanks, Text.isBlank char) (stops : ∀ char ∈ rest.head?, ¬ char.isDigit)
    : (∀ char, Text.isBlank char ↔ char.toNat ∈ Text.whiteSpace)
      ∧ (∀ value,
          parse? chars = some value
          ↔ (∃ parts : LeadingInteger, parts.chars = chars ∧ parts.denoted = value)
            ∧ -0x8000000000000000 ≤ value
            ∧ value ≤ 0x7FFFFFFFFFFFFFFF)
      ∧ (parse? chars = none
        ↔ ∀ parts : LeadingInteger, parts.chars = chars →
            parts.denoted < -0x8000000000000000 ∨ 0x7FFFFFFFFFFFFFFF < parts.denoted)
      ∧ (∀ parts parts' : LeadingInteger,
          parts.chars = chars → parts'.chars = chars → parts = parts')
      ∧ (∀ parts : LeadingInteger, parts.chars = chars →
          (∀ zeros, parse? (parts.zeroPadded zeros).chars = parse? chars)
          ∧ ((Policy.ofFlag parts.denoted).enabled ↔ ∃ char ∈ parts.digits, char ≠ '0'))
      ∧ (∀ value, parse? chars = some value → ((Policy.ofFlag value).enabled ↔ value ≠ 0))
      ∧ (∀ value : Int, -0x8000000000000000 ≤ value → value ≤ 0x7FFFFFFFFFFFFFFF →
          parse? (blanks ++ ((toString value).toList ++ rest)) = some value)
      ∧ ∀ sign : IntegerSign, sign ≠ .absent → parse? (blanks ++ (sign.chars ++ rest)) = none := by
  refine ⟨fun _ => Text.isBlank_iff, ?_, ?_, ?_, ?_, ?_, ?_,
    fun _ signed => parse?_eq_none_of_sign blank signed stops⟩
  · intro value
    rw [parse?_eq_some_iff, inRange_iff]
    exact Iff.rfl
  · rw [parse?_eq_none_iff]
    refine forall₂_congr (fun parts _ => ?_)
    rw [inRange_iff]
    omega
  · rintro parts parts' rfl same
    exact LeadingInteger.chars_injective same.symm
  · rintro parts rfl
    constructor
    · intro zeros
      rw [parse?_chars, parse?_chars, LeadingInteger.denoted_zeroPadded]
    · rw [Policy.enabled_ofFlag_iff, Ne, LeadingInteger.denoted_eq_zero_iff]
      simp only [Classical.not_forall, exists_prop]
  · exact fun value _ => Policy.enabled_ofFlag_iff
  · intro value low high
    have parsed := parse?_chars (.ofDecimal blanks value rest blank stops)
    rw [LeadingInteger.chars_ofDecimal, LeadingInteger.denoted_ofDecimal,
      if_pos (inRange_iff.mpr ⟨low, high⟩)] at parsed
    exact parsed

/-- The lowest flag is read back in front of a digit that is not a decimal one, which does not make
up a flag itself.
-/
theorem parse?_accepts_lowest
    : let blanks := ['\n', '\u3000']
      let rest := ['\u0663', '1']
      (∀ char ∈ blanks, Text.isBlank char)
      ∧ (∀ char ∈ rest.head?, ¬ char.isDigit)
      ∧ parse? (blanks ++ ((toString (-0x8000000000000000 : Int)).toList ++ rest))
        = some (-0x8000000000000000)
      ∧ parse? (blanks ++ (IntegerSign.minus.chars ++ rest)) = none := by
  intro blanks rest
  have blank : ∀ char ∈ blanks, Text.isBlank char := List.all_eq_true.mp rfl
  have stops : ∀ char ∈ rest.head?, ¬ char.isDigit := by
    rintro char ⟨rfl⟩
    decide
  obtain ⟨_, _, _, _, _, _, readBack, unsigned⟩ := parse?_accepts_grammar [] blank stops
  exact ⟨blank, stops, readBack _ (by decide) (by decide), unsigned .minus nofun⟩

end Flag

end InverseQuery
