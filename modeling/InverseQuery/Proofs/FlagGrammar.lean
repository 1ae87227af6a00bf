import InverseQuery.Flag

/-! Texts that start with an integer, as what they are put together from.
Such a text is blanks, at most one sign, decimal digits and a rest that does not go on with a digit.
The flag that is read from a text is the integer of its parts, if that fits 64 bits.
-/

namespace InverseQuery

namespace Text

/-- The decimal digits are those of the standard library. -/
theorem isDigit_iff {char : Char}
    : char.isDigit ↔ 0x30 ≤ char.toNat ∧ char.toNat ≤ 0x39 := by
  simp only [Char.isDigit, Bool.and_eq_true, decide_eq_true_eq, UInt32.le_iff_toNat_le, ge_iff_le]
  rfl

theorem isDigit_ten (char : Char) : isDigit 10 char = char.isDigit := by
  rw [Bool.eq_iff_iff, isDigit_iff, isDigit, digit?]
  split
  next decimal =>
    have decimal : 0x30 ≤ char.toNat ∧ char.toNat ≤ 0x39 := decimal
    simp only [Option.isSome_filter, Option.any_some, decide_eq_true_eq]
    change char.toNat - 0x30 < 10 ↔ _
    omega
  next other =>
    -- A letter has a value of ten at least.
    refine iff_of_false ?_ other
    split
    · simp
    · split <;> simp

theorem digit?_ten {char : Char} (h : char.isDigit)
    : digit? 10 char = some (char.toNat - '0'.toNat) := by
  have bounds : '0'.toNat ≤ char.toNat ∧ char.toNat ≤ '9'.toNat := isDigit_iff.mp h
  have small : char.toNat - '0'.toNat < 10 := by
    change char.toNat - 0x30 < 10
    have most : char.toNat ≤ 0x39 := bounds.2
    omega
  rw [digit?, if_pos bounds]
  simp only [Option.filter_some, decide_eq_true_eq, if_pos small]

/-- Decimal digits denote what the standard library reads from them, by induction over the digits
after any number.
-/
theorem numeral_eq_ofDigitChars {digits : List Char} (decimal : ∀ char ∈ digits, char.isDigit)
    : numeral 10 digits = Nat.ofDigitChars 10 digits 0 := by
  unfold numeral
  generalize 0 = value
  induction digits generalizing value with
  | nil => rfl
  | cons first digits ih =>
      obtain ⟨firstDecimal, decimal⟩ := List.forall_mem_cons.mp decimal
      rw [List.foldl_cons, Nat.ofDigitChars_cons, ih decimal, appendDigit,
        digit?_ten firstDecimal, Option.getD_some]

theorem not_isBlank_of_isDigit {char : Char} (h : char.isDigit) : ¬ isBlank char := by
  have bounds := isDigit_iff.mp h
  simp only [isBlank, Bool.or_eq_true, Bool.and_eq_true, decide_eq_true_eq, beq_iff_eq]
  omega

theorem takeWhile_isDigit_of_stops {rest : List Char} (stops : ∀ char ∈ rest.head?, ¬ char.isDigit)
    : rest.takeWhile (isDigit 10) = [] := by
  cases rest with
  | nil => rfl
  | cons char rest =>
      have stop : ¬ isDigit 10 char := by
        rw [isDigit_ten]
        exact stops char rfl
      exact List.takeWhile_cons_of_neg stop

end Text

/-- The sign before an integer, which may be left out. -/
inductive IntegerSign where
  | absent
  | plus
  | minus
  deriving Repr, DecidableEq

namespace IntegerSign

def chars : IntegerSign → List Char
  | absent => []
  | plus => ['+']
  | minus => ['-']

def isNegative (sign : IntegerSign) : Bool := sign = minus

end IntegerSign

/-- The parts of a text that starts with an integer. -/
structure LeadingInteger where
  blanks : List Char
  sign : IntegerSign
  digits : List Char
  rest : List Char
  blanks_blank : ∀ char ∈ blanks, Text.isBlank char
  digits_ne_nil : digits ≠ []
  digits_decimal : ∀ char ∈ digits, char.isDigit
  rest_stops : ∀ char ∈ rest.head?, ¬ char.isDigit

namespace LeadingInteger

/-- The text that the parts make up. -/
def chars (parts : LeadingInteger) : List Char :=
  parts.blanks ++ (parts.sign.chars ++ (parts.digits ++ parts.rest))

/-- The integer that the sign and the digits denote, in the reading of the standard library. -/
def denoted (parts : LeadingInteger) : Int :=
  match parts.sign with
  | .absent | .plus => Nat.ofDigitChars 10 parts.digits 0
  | .minus => -Nat.ofDigitChars 10 parts.digits 0

-----------------------------------------------------------------------------------------
-- The parts are found in the text that they make up
-----------------------------------------------------------------------------------------

variable (parts : LeadingInteger)

theorem signed_numeral
    : Text.signed parts.sign.isNegative (Text.numeral 10 parts.digits) = parts.denoted := by
  rw [Text.numeral_eq_ofDigitChars parts.digits_decimal, denoted]
  cases parts.sign <;> rfl

theorem takeWhile_digits
    : (parts.digits ++ parts.rest).takeWhile (Text.isDigit 10) = parts.digits := by
  have decimal : ∀ char ∈ parts.digits, Text.isDigit 10 char := by
    intro char member
    rw [Text.isDigit_ten]
    exact parts.digits_decimal char member
  rw [List.takeWhile_append_of_pos decimal, Text.takeWhile_isDigit_of_stops parts.rest_stops,
    List.append_nil]

/-- A digit is no sign, so nothing is split off where the sign is left out. -/
theorem splitSign_chars
    : Text.splitSign (parts.sign.chars ++ (parts.digits ++ parts.rest))
      = (parts.sign.isNegative, parts.digits ++ parts.rest) := by
  cases parts.sign with
  | plus => rfl
  | minus => rfl
  | absent =>
      obtain ⟨first, more, split⟩ := List.exists_cons_of_ne_nil parts.digits_ne_nil
      have decimal : first.isDigit := parts.digits_decimal first (by simp [split])
      rw [split]
      unfold Text.splitSign
      split
      next same =>
        cases same
        exact absurd decimal (by decide)
      next same =>
        cases same
        exact absurd decimal (by decide)
      next => rfl

/-- A sign or a digit is not blank, so exactly the blanks are passed over. -/
theorem dropWhile_chars
    : parts.chars.dropWhile Text.isBlank = parts.sign.chars ++ (parts.digits ++ parts.rest) := by
  rw [chars, List.dropWhile_append_of_pos parts.blanks_blank]
  obtain ⟨first, more, split⟩ := List.exists_cons_of_ne_nil parts.digits_ne_nil
  have decimal : first.isDigit := parts.digits_decimal first (by simp [split])
  rw [split]
  cases parts.sign with
  | absent => exact List.dropWhile_cons_of_neg (Text.not_isBlank_of_isDigit decimal)
  | plus => exact List.dropWhile_cons_of_neg (by decide)
  | minus => exact List.dropWhile_cons_of_neg (by decide)

end LeadingInteger

-----------------------------------------------------------------------------------------
-- Every flag comes from such parts
-----------------------------------------------------------------------------------------

/-- What is split off is a sign, or nothing. -/
theorem IntegerSign.exists_of_splitSign (chars : List Char)
    : ∃ sign : IntegerSign,
        chars = sign.chars ++ (Text.splitSign chars).2
        ∧ (Text.splitSign chars).1 = sign.isNegative := by
  unfold Text.splitSign
  split
  · exact ⟨.minus, rfl, rfl⟩
  · exact ⟨.plus, rfl, rfl⟩
  · exact ⟨.absent, rfl, rfl⟩

/-- The parts of a text that goes on with a digit after its blanks and its sign. -/
def LeadingInteger.ofUnsigned (blanks : List Char) (sign : IntegerSign) (unsigned : List Char)
    (blank : ∀ char ∈ blanks, Text.isBlank char)
    (nonempty : unsigned.takeWhile (Text.isDigit 10) ≠ [])
    : LeadingInteger where
  blanks := blanks
  sign := sign
  digits := unsigned.takeWhile (Text.isDigit 10)
  rest := unsigned.dropWhile (Text.isDigit 10)
  blanks_blank := blank
  digits_ne_nil := nonempty
  digits_decimal := by
    intro char member
    rw [← Text.isDigit_ten]
    exact List.all_eq_true.mp List.all_takeWhile char member
  rest_stops := by
    intro char first
    have stops := List.head?_dropWhile_not (Text.isDigit 10) unsigned
    rw [Option.mem_def.mp first] at stops
    dsimp only at stops
    rw [Text.isDigit_ten] at stops
    exact Bool.eq_false_iff.mp stops

theorem LeadingInteger.chars_ofUnsigned {blanks : List Char} {sign : IntegerSign}
    {unsigned : List Char} (blank : ∀ char ∈ blanks, Text.isBlank char)
    (nonempty : unsigned.takeWhile (Text.isDigit 10) ≠ [])
    : (ofUnsigned blanks sign unsigned blank nonempty).chars
      = blanks ++ (sign.chars ++ unsigned) := by
  rw [chars, ofUnsigned, List.takeWhile_append_dropWhile]

namespace Flag

/-- A signed magnitude that fits 64 bits is not stopped at the bound on magnitudes. -/
theorem magnitude_le {negative : Bool} {magnitude : Nat}
    (fits : inRange (Text.signed negative magnitude))
    : magnitude < bound + 1 := by
  simp only [inRange, Bool.and_eq_true, decide_eq_true_eq] at fits
  obtain ⟨low, high⟩ := fits
  cases negative with
  | false =>
      change (magnitude : Int) < bound at high
      omega
  | true =>
      change -(bound : Int) ≤ -(magnitude : Int) at low
      omega

/-- The digits after a sign give the integer that they denote, if it fits. -/
theorem ofDigits_eq_some_iff {negative : Bool} {digits : List Char} {value : Int}
    : ((Text.numeralBelow? 10 (bound + 1) digits).map (Text.signed negative)).filter inRange
          = some value
      ↔ Text.signed negative (Text.numeral 10 digits) = value ∧ inRange value := by
  simp only [Option.filter_eq_some_iff, Option.map_eq_some_iff,
    Text.numeralBelow?_eq_some_iff (by decide : 0 < 10) (Nat.succ_pos bound)]
  constructor
  · intro h
    obtain ⟨⟨number, ⟨rfl, _⟩, rfl⟩, fits⟩ := h
    exact ⟨rfl, fits⟩
  · intro h
    obtain ⟨rfl, fits⟩ := h
    exact ⟨⟨_, ⟨rfl, magnitude_le fits⟩, rfl⟩, fits⟩

/-- The text starts with an integer, which is `value`. -/
def Leads (chars : List Char) (value : Int) : Prop :=
  ∃ parts : LeadingInteger, parts.chars = chars ∧ parts.denoted = value

/-- A flag is parsed exactly where the text starts with an integer of 64 bits. -/
theorem parse?_eq_some_iff {chars : List Char} {value : Int}
    : parse? chars = some value ↔ Leads chars value ∧ inRange value := by
  constructor
  · intro h
    unfold parse? at h
    obtain ⟨sign, split, negative⟩ :=
      IntegerSign.exists_of_splitSign (chars.dropWhile Text.isBlank)
    generalize Text.splitSign (chars.dropWhile Text.isBlank) = parted at h split negative
    obtain ⟨negative, unsigned⟩ := parted
    dsimp only at h split negative
    split at h
    next => cases h
    next nonempty =>
      obtain ⟨denoted, fits⟩ := ofDigits_eq_some_iff.mp h
      have blank : ∀ char ∈ chars.takeWhile Text.isBlank, Text.isBlank char :=
        List.all_eq_true.mp List.all_takeWhile
      refine ⟨⟨.ofUnsigned _ sign unsigned blank (by simpa using nonempty), ?_, ?_⟩, fits⟩
      · rw [LeadingInteger.chars_ofUnsigned, ← split, List.takeWhile_append_dropWhile]
      · rw [← LeadingInteger.signed_numeral, ← denoted, negative]
        rfl
  · intro h
    obtain ⟨⟨parts, rfl, rfl⟩, fits⟩ := h
    unfold parse?
    rw [parts.dropWhile_chars, parts.splitSign_chars]
    dsimp only
    rw [parts.takeWhile_digits, if_neg (by simpa using parts.digits_ne_nil)]
    exact ofDigits_eq_some_iff.mpr ⟨parts.signed_numeral, fits⟩

end Flag

end InverseQuery
