import InverseQuery.Code.Opcode
import InverseQuery.Code.RecordType
import Mathlib

/-! The texts that name an opcode or a record type.
A name is read from its letters in either case. Of all characters beyond ASCII only four have an
upper-case form that occurs in a name, two of them for one letter and two for a pair of letters, so
that there are no other spellings.
-/

namespace InverseQuery

namespace Text

-----------------------------------------------------------------------------------------
-- The characters whose upper-case form is made up of capital letters
-----------------------------------------------------------------------------------------

theorem toNat_le_of_isUpper {char : Char} (capital : char.isUpper) : char.toNat ≤ 0x5A := by
  simp only [Char.isUpper, decide_eq_true_eq] at capital
  exact UInt32.le_iff_toNat_le.mp capital.2

/-- What is to hold of the characters in ASCII can be checked code by code. -/
theorem forall_ascii {p : Char → Prop} (checked : ∀ code < 128, p (Char.ofNat code))
    : ∀ char : Char, char.toNat < 128 → p char :=
  fun char ascii => char.ofNat_toNat ▸ checked char.toNat ascii

theorem ascii_of_isUpper {char : Char} (capital : char.isUpper) : char.toNat < 128 :=
  Nat.lt_of_le_of_lt (toNat_le_of_isUpper capital) (by decide)

/-- Both cases of a letter have the capital one as their upper-case form. -/
theorem upperChar_of_cased {char letter : Char} (capital : letter.isUpper)
    (cased : char = letter ∨ char = letter.toLower)
    : upperChar char = [letter] := by
  have checked
      : ∀ letter : Char, letter.toNat < 128 → letter.isUpper →
        upperChar letter = [letter] ∧ upperChar letter.toLower = [letter] :=
    forall_ascii (by decide +kernel)
  obtain ⟨upper, lower⟩ := checked letter (ascii_of_isUpper capital) capital
  obtain rfl | rfl := cased
  · exact upper
  · exact lower

/-- A character is one of the two cases of its upper-case form in ASCII. -/
theorem cased_toUpper (char : Char) : char = char.toUpper ∨ char = char.toUpper.toLower := by
  by_cases lower : char.isLower
  · have small : char.toLower = char :=
      Char.toLower_eq_of_not_isUpper (Char.not_isUpper_of_isLower lower)
    exact .inr (by rw [Char.toLower_toUpper_eq_toLower, small])
  · exact .inl (Char.toUpper_eq_of_not_isLower lower).symm

/-- Two letters beyond ASCII and two ligatures, with the capital letters that they change to. -/
def foreignLetters : List (Char × List Char) :=
  [('\u0131', ['I']), ('\u017F', ['S']), ('\uFB05', ['S', 'T']), ('\uFB06', ['S', 'T'])]

/-- The other characters beyond ASCII that change to capital letters, all of them joined letters. -/
def joinedLetters : List (Char × List Char) :=
  [
    ('\u00DF', ['S', 'S']), ('\uFB00', ['F', 'F']), ('\uFB01', ['F', 'I']), ('\uFB02', ['F', 'L']),
    ('\uFB03', ['F', 'F', 'I']), ('\uFB04', ['F', 'F', 'L'])
  ]

def foreignCapitals : List (Char × List Char) := foreignLetters ++ joinedLetters

/-- A character whose upper-case form is made up of capital letters, and these letters. -/
inductive CapitalForm : Char → List Char → Prop
  | cased {char letter : Char} (capital : letter.isUpper)
    (same : char = letter ∨ char = letter.toLower)
    : CapitalForm char [letter]
  | foreign {char : Char} {letters : List Char} (listed : (char, letters) ∈ foreignCapitals)
    : CapitalForm char letters

theorem upperChar_of_foreign
    : ∀ entry ∈ foreignCapitals, upperChar entry.1 = entry.2 := by
  decide +kernel

/-- A character that expands to capital letters is listed. -/
theorem foreign_of_expansion {entry : Nat × List Nat} (member : entry ∈ caseExpansions)
    (capital : ∀ letter ∈ entry.2.map Char.ofNat, letter.isUpper)
    : (Char.ofNat entry.1, entry.2.map Char.ofNat) ∈ foreignCapitals := by
  have checked
      : ∀ entry ∈ caseExpansions, (entry.2.map Char.ofNat).all Char.isUpper →
        (Char.ofNat entry.1, entry.2.map Char.ofNat) ∈ foreignCapitals := by
    decide +kernel
  exact checked entry member (List.all_eq_true.mpr capital)

theorem le_of_isUpper_ofNat {code : Nat} (capital : (Char.ofNat code).isUpper) : code ≤ 0x5A := by
  by_cases valid : code.isValidChar
  · have same : (Char.ofNat code).toNat = code := by
      rw [Char.ofNat, dif_pos valid]
      rfl
    exact same ▸ toNat_le_of_isUpper capital
  · rw [Char.ofNat, dif_neg valid] at capital
    cases capital

/-- A character that changes to a capital letter is its other case, or is listed. The start of a run
tells this of the whole run: apart from that of the ASCII letters, each run that leads to a capital
letter holds one character.
-/
theorem capitalForm_of_run {run : CaseRun} (member : run ∈ caseRuns) {char : Char}
    (holds : run.holds char.toNat)
    (capital : (Char.ofNat (char.toNat + run.shift).toNat).isUpper)
    : CapitalForm char [Char.ofNat (char.toNat + run.shift).toNat] := by
  have checked
      : ∀ run ∈ caseRuns,
        run = ⟨0x61, 0x7A, 1, -32⟩
        ∨ 0x5A < run.first + run.shift
        ∨ run.first = run.last
          ∧ (Char.ofNat run.first, [Char.ofNat (run.first + run.shift).toNat])
            ∈ foreignCapitals := by
    decide +kernel
  simp only [CaseRun.holds, Bool.and_eq_true, decide_eq_true_eq] at holds
  obtain ⟨⟨low, high⟩, _⟩ := holds
  obtain rfl | far | ⟨one, listed⟩ := checked run member
  · have lowered
        : ∀ char : Char, char.toNat < 128 → 0x61 ≤ char.toNat → char.toNat ≤ 0x7A →
          char = (Char.ofNat (char.toNat + (-32 : Int)).toNat).toLower :=
      forall_ascii (by decide +kernel)
    exact .cased capital (.inr (lowered char (Nat.lt_of_le_of_lt high (by decide)) low high))
  · have small := le_of_isUpper_ofNat capital
    omega
  · have same : run.first = char.toNat := by omega
    rw [same, Char.ofNat_toNat] at listed
    exact .foreign listed

/-- There are no other characters with such forms, by cases on how the form is found. -/
theorem capitalForm_of_upperChar {char : Char} (capital : ∀ letter ∈ upperChar char, letter.isUpper)
    : CapitalForm char (upperChar char) := by
  cases expands : caseExpansions.find? fun entry => entry.1 == char.toNat with
  | some entry =>
      simp only [upperChar, expands] at capital ⊢
      have listed := foreign_of_expansion (List.mem_of_find?_eq_some expands) capital
      have code := List.find?_some expands
      rw [beq_iff_eq.mp code, Char.ofNat_toNat] at listed
      exact .foreign listed
  | none =>
      cases changes : caseRuns.find? fun run => run.holds char.toNat with
      | some run =>
          simp only [upperChar, expands, changes] at capital ⊢
          have holds := List.find?_some changes
          exact capitalForm_of_run (List.mem_of_find?_eq_some changes) holds
            (capital _ List.mem_cons_self)
      | none =>
          simp only [upperChar, expands, changes] at capital ⊢
          exact .cased (capital char List.mem_cons_self) (.inl rfl)

/-- The letters of a form are indeed the upper-case form. -/
theorem CapitalForm.upperChar_eq {char : Char} {letters : List Char} (h : CapitalForm char letters)
    : upperChar char = letters := by
  cases h with
  | cased capital same => exact upperChar_of_cased capital same
  | foreign listed => exact upperChar_of_foreign _ listed

-----------------------------------------------------------------------------------------
-- The spellings of a word
-----------------------------------------------------------------------------------------

/-- A way to write a word: its letters in either case, and perhaps a dotless letter for an I, a long
letter for an S, and either ligature for an S and a T.
-/
inductive Spells : List Char → List Char → Prop
  | nil : Spells [] []
  | letter {letter written : Char} {word rest : List Char}
    (cased : written = letter ∨ written = letter.toLower) (tail : Spells word rest)
    : Spells (letter :: word) (written :: rest)
  | dotlessI {word rest : List Char} (tail : Spells word rest)
    : Spells ('I' :: word) ('\u0131' :: rest)
  | longS {word rest : List Char} (tail : Spells word rest)
    : Spells ('S' :: word) ('\u017F' :: rest)
  | longSAndT {word rest : List Char} (tail : Spells word rest)
    : Spells ('S' :: 'T' :: word) ('\uFB05' :: rest)
  | sAndT {word rest : List Char} (tail : Spells word rest)
    : Spells ('S' :: 'T' :: word) ('\uFB06' :: rest)

/-- The pairs of letters with which joined letters start. -/
def joinedPairs : List (List Char) := [['S', 'S'], ['F', 'F'], ['F', 'I'], ['F', 'L']]

/-- A word of capital letters without a pair that other characters stand for. -/
structure Plain (word : List Char) : Prop where
  capital : ∀ letter ∈ word, letter.isUpper
  unjoined : ∀ pair ∈ joinedPairs, ¬ pair <:+: word

-- The capital letters are looked for with `List.all`, never among all characters that there are.
instance (word : List Char) : Decidable (Plain word) :=
  decidable_of_iff (word.all Char.isUpper ∧ ∀ pair ∈ joinedPairs, ¬ pair <:+: word)
    ⟨fun h => ⟨List.all_eq_true.mp h.1, h.2⟩, fun h => ⟨List.all_eq_true.mpr h.1, h.2⟩⟩

theorem Plain.of_suffix {rest word : List Char} (h : Plain word) (ends : rest <:+ word)
    : Plain rest where
  capital letter member := h.capital letter (ends.subset member)
  unjoined pair known inside := h.unjoined pair known (inside.trans ends.isInfix)

/-- No joined letters stand for a part of a plain word. -/
theorem Plain.foreign {char : Char} {letters word : List Char} (h : Plain (letters ++ word))
    (listed : (char, letters) ∈ foreignCapitals)
    : (char, letters) ∈ foreignLetters := by
  have starts : ∀ entry ∈ joinedLetters, ∃ pair ∈ joinedPairs, pair <+: entry.2 := by decide
  obtain foreign | joined := List.mem_append.mp listed
  · exact foreign
  · obtain ⟨pair, known, front⟩ := starts _ joined
    exact absurd (front.trans (List.prefix_append ..)).isInfix (h.unjoined pair known)

theorem CapitalForm.upperChars_cons {char : Char} {letters word rest : List Char}
    (form : CapitalForm char letters) (tail : upperChars rest = word)
    : upperChars (char :: rest) = letters ++ word := by
  rw [upperChars, List.flatMap_cons, form.upperChar_eq]
  exact congrArg (letters ++ ·) tail

/-- A text has a plain word as its upper-case form exactly if it spells that word. The induction is
on the text, whose first character stands for the letters at the front of the word.
-/
theorem upperChars_eq_iff {word written : List Char} (plain : Plain word)
    : upperChars written = word ↔ Spells word written := by
  constructor
  · rintro rfl
    induction written with
    | nil => exact .nil
    | cons char rest ih =>
        rw [upperChars, List.flatMap_cons, ← upperChars] at plain ⊢
        have tail := ih (plain.of_suffix (List.suffix_append ..))
        have form := capitalForm_of_upperChar fun letter member =>
          plain.capital letter (List.mem_append_left _ member)
        generalize upperChar char = letters at plain form ⊢
        cases form with
        | cased _ same => exact .letter same tail
        | foreign listed =>
            have few := plain.foreign listed
            simp only [foreignLetters, List.mem_cons, Prod.mk.injEq, List.not_mem_nil,
              or_false] at few
            obtain ⟨rfl, rfl⟩ | ⟨rfl, rfl⟩ | ⟨rfl, rfl⟩ | ⟨rfl, rfl⟩ := few
            · exact .dotlessI tail
            · exact .longS tail
            · exact .longSAndT tail
            · exact .sAndT tail
  · intro h
    induction h with
    | nil => rfl
    | @letter letter _ word _ cased _ ih =>
        have form : CapitalForm _ [letter] :=
          .cased (plain.capital letter List.mem_cons_self) cased
        exact form.upperChars_cons (ih (plain.of_suffix ⟨[letter], rfl⟩))
    | dotlessI _ ih =>
        have form : CapitalForm '\u0131' ['I'] := .foreign (by decide)
        exact form.upperChars_cons (ih (plain.of_suffix ⟨['I'], rfl⟩))
    | longS _ ih =>
        have form : CapitalForm '\u017F' ['S'] := .foreign (by decide)
        exact form.upperChars_cons (ih (plain.of_suffix ⟨['S'], rfl⟩))
    | longSAndT _ ih =>
        have form : CapitalForm '\uFB05' ['S', 'T'] := .foreign (by decide)
        exact form.upperChars_cons (ih (plain.of_suffix ⟨['S', 'T'], rfl⟩))
    | sAndT _ ih =>
        have form : CapitalForm '\uFB06' ['S', 'T'] := .foreign (by decide)
        exact form.upperChars_cons (ih (plain.of_suffix ⟨['S', 'T'], rfl⟩))

/-- Writing letters of a plain word in either case of ASCII spells it, by induction on the word. -/
theorem spells_of_toUpper {word written : List Char} (capital : ∀ letter ∈ word, letter.isUpper)
    (same : written.map Char.toUpper = word.map Char.toUpper)
    : Spells word written := by
  induction word generalizing written with
  | nil =>
      obtain rfl := List.map_eq_nil_iff.mp same
      exact .nil
  | cons letter word ih =>
      cases written with
      | nil => cases same
      | cons char rest =>
          obtain ⟨first, others⟩ := List.cons.inj same
          have upper := Char.not_isLower_of_isUpper (capital letter List.mem_cons_self)
          rw [Char.toUpper_eq_of_not_isLower upper] at first
          have cased := cased_toUpper char
          rw [first] at cased
          exact .letter cased (ih (fun other member => capital other (.tail letter member)) others)

end Text

-----------------------------------------------------------------------------------------
-- The names of a registry
-----------------------------------------------------------------------------------------

section Registry

variable {α : Type} {registry : List α} {mnemonic : α → String} {text : String} {entry : α}

/-- If no two entries share a mnemonic, one is found exactly if its own is the upper-case form. -/
theorem findMnemonic_eq_some_iff
    (apart
      : ∀ entry ∈ registry, ∀ other ∈ registry, mnemonic entry = mnemonic other → entry = other)
    : findMnemonic registry mnemonic text = some entry
      ↔ entry ∈ registry ∧ mnemonic entry = Text.uppercase text := by
  refine ⟨findMnemonic_eq_some, fun ⟨member, same⟩ => ?_⟩
  cases found : findMnemonic registry mnemonic text with
  | none =>
      have others := List.find?_eq_none.mp found entry member
      exact absurd (beq_iff_eq.mpr same) others
  | some other =>
      obtain ⟨member', same'⟩ := findMnemonic_eq_some found
      rw [apart entry member other member' (same.trans same'.symm)]

/-- If the mnemonics are plain words, an entry is found exactly under the spellings of its mnemonic.
-/
theorem findMnemonic_spells
    (apart
      : ∀ entry ∈ registry, ∀ other ∈ registry, mnemonic entry = mnemonic other → entry = other)
    (plain : ∀ entry ∈ registry, Text.Plain (mnemonic entry).toList)
    : findMnemonic registry mnemonic text = some entry
      ↔ entry ∈ registry ∧ Text.Spells (mnemonic entry).toList text.toList := by
  rw [findMnemonic_eq_some_iff apart]
  refine and_congr_right fun member => ?_
  rw [← Text.upperChars_eq_iff (plain entry member), Text.uppercase, eq_comm,
    ← String.toList_inj, String.toList_ofList]

/-- A text is not found if the letter that it starts with starts no mnemonic. -/
theorem findMnemonic_eq_none_of_head {letter : Char} {rest : List Char} (capital : letter.isUpper)
    (starts : text.toList = letter :: rest)
    (others : ∀ entry ∈ registry, (mnemonic entry).toList.head? ≠ some letter)
    : findMnemonic registry mnemonic text = none := by
  rw [Option.eq_none_iff_forall_ne_some]
  intro entry found
  obtain ⟨member, same⟩ := findMnemonic_eq_some found
  have form : Text.CapitalForm letter [letter] := .cased capital (.inl rfl)
  apply others entry member
  rw [same, Text.uppercase, String.toList_ofList, starts, form.upperChars_cons rfl]
  rfl

end Registry

/-- How names are read from a text: it is accepted exactly if it spells the mnemonic of something
that has a name, which is then the only such thing, and otherwise rejected with a complaint that ends
in the text. All that differs from what is shown in the case of ASCII letters is accepted.
-/
structure ReadsNames {α : Type} (read : String → Except UnknownMnemonic α) (named : α → Prop)
    (mnemonic shown : α → String) (complaint text : String)
    : Prop where
  accepts_iff
    : ∀ entry,
      read text = .ok entry ↔ named entry ∧ Text.Spells (mnemonic entry).toList text.toList
  rejects
    : (∀ entry, named entry → ¬ Text.Spells (mnemonic entry).toList text.toList)
      → ∃ fault, read text = .error fault ∧ fault.message = complaint ++ text
  unique
    : ∀ entry other,
      named entry → named other
      → Text.Spells (mnemonic entry).toList text.toList
      → Text.Spells (mnemonic other).toList text.toList
      → entry = other
  recased
    : ∀ entry,
      named entry
      → text.toList.map Char.toUpper = (shown entry).toList.map Char.toUpper
      → read text = .ok entry

section Reading

variable {α : Type} {read : String → Except UnknownMnemonic α} {named : α → Prop}
  {mnemonic shown : α → String} {registry : List α} {complaint text : String}

/-- Names are read by finding plain mnemonics in a registry of what has a name. -/
theorem ReadsNames.of_registry (fault : UnknownMnemonic)
    (finds : ∀ entry, findMnemonic registry mnemonic text = some entry → read text = .ok entry)
    (misses : findMnemonic registry mnemonic text = none → read text = .error fault)
    (tells : fault.message = complaint ++ text)
    (registered : ∀ entry, named entry ↔ entry ∈ registry)
    (apart
      : ∀ entry ∈ registry, ∀ other ∈ registry, mnemonic entry = mnemonic other → entry = other)
    (plain : ∀ entry ∈ registry, Text.Plain (mnemonic entry).toList)
    (shows : ∀ entry ∈ registry, shown entry = mnemonic entry)
    : ReadsNames read named mnemonic shown complaint text := by
  have accepts (entry : α)
      : read text = .ok entry
        ↔ named entry ∧ Text.Spells (mnemonic entry).toList text.toList := by
    rw [registered, ← findMnemonic_spells apart plain]
    cases found : findMnemonic registry mnemonic text with
    | none => simp [misses found]
    | some other => simp [finds other found]
  refine ⟨accepts, ?_, ?_, ?_⟩
  · intro unspelled
    refine ⟨fault, misses (Option.eq_none_iff_forall_ne_some.mpr fun entry found => ?_), tells⟩
    obtain ⟨name, spells⟩ := (accepts entry).mp (finds entry found)
    exact unspelled entry name spells
  · intro entry other name name' spells spells'
    have first := (accepts entry).mpr ⟨name, spells⟩
    exact Except.ok.inj (first.symm.trans ((accepts other).mpr ⟨name', spells'⟩))
  · intro entry name same
    have member := (registered entry).mp name
    rw [shows entry member] at same
    exact (accepts entry).mpr ⟨name, Text.spells_of_toUpper (plain entry member).capital same⟩

end Reading

/-- The opcodes that have a name of their own. -/
def Opcode.Named (opcode : Opcode) : Prop := ∀ code, opcode ≠ .unassigned code

theorem Opcode.named_iff (opcode : Opcode) : opcode.Named ↔ opcode ∈ registry := by
  cases opcode with
  | unassigned code => exact iff_of_false (fun named => named code rfl) (by simp [registry])
  | _ => exact iff_of_true nofun (by decide)

theorem RecordType.mem_registry (type : RecordType) : type ∈ registry := by
  cases type <;> decide

/-- The texts of unassigned opcodes are read neither as an opcode nor as a record type. -/
theorem unassigned_unread (code : UInt8)
    : ∀ text ∈ [(Opcode.unassigned code).text, (Opcode.unassigned code).mnemonic],
        Opcode.parse text = .error (.opcode text)
        ∧ RecordType.parse text = .error (.recordType text) := by
  have lost {text : String} (opcode : findMnemonic Opcode.registry Opcode.mnemonic text = none)
      (type : findMnemonic RecordType.registry RecordType.mnemonic text = none)
      : Opcode.parse text = .error (.opcode text)
        ∧ RecordType.parse text = .error (.recordType text) := by
    rw [Opcode.parse, opcode, RecordType.parse, type]
    exact ⟨rfl, rfl⟩
  intro text member
  simp only [List.mem_cons, List.not_mem_nil, or_false] at member
  obtain rfl | rfl := member
  · have starts : (Opcode.unassigned code).text.toList
        = 'O' :: ("PCODE".toList ++ (toString code.toNat).toList) := by
      rw [Opcode.text, String.toList_append]
      rfl
    exact lost (findMnemonic_eq_none_of_head (by decide) starts (by decide))
      (findMnemonic_eq_none_of_head (by decide) starts (by decide))
  · have unnamed : (Opcode.unassigned code).mnemonic = "UNKNOWN" := rfl
    rw [unnamed]
    exact lost (by decide +kernel) (by decide +kernel)

/-- An opcode or a record type is read exactly from the spellings of its name, and any other text is
rejected as it is. No unassigned opcode is ever read, nor is anything from the texts that stand for
one.
-/
theorem names_read_exactly (text : String)
    : ReadsNames Opcode.parse Opcode.Named Opcode.mnemonic Opcode.text "Unknown opcode: " text
      ∧ ReadsNames RecordType.parse (fun _ => True) RecordType.mnemonic RecordType.mnemonic
          "Unknown record type: " text
      ∧ (∀ code, Opcode.parse text ≠ .ok (.unassigned code))
      ∧ ∀ code : UInt8,
          ∀ unread ∈ [(Opcode.unassigned code).text, (Opcode.unassigned code).mnemonic],
            Opcode.parse unread = .error (.opcode unread)
            ∧ RecordType.parse unread = .error (.recordType unread) := by
  have opcodes
      : ReadsNames Opcode.parse Opcode.Named Opcode.mnemonic Opcode.text "Unknown opcode: " text :=
    .of_registry (.opcode text) (fun _ found => by rw [Opcode.parse, found])
      (fun missed => by rw [Opcode.parse, missed]) rfl Opcode.named_iff (by decide) (by decide)
      (by decide)
  have types
      : ReadsNames RecordType.parse (fun _ => True) RecordType.mnemonic RecordType.mnemonic
          "Unknown record type: " text :=
    .of_registry (.recordType text) (fun _ found => by rw [RecordType.parse, found])
      (fun missed => by rw [RecordType.parse, missed]) rfl
      (fun type => iff_of_true trivial type.mem_registry) (by decide) (by decide) (by decide)
  refine ⟨opcodes, types, ?_, unassigned_unread⟩
  intro code parsed
  exact ((opcodes.accepts_iff _).mp parsed).1 code rfl

/-- A ligature, small letters and a long letter make up the name of an opcode, and a long letter
that of a record type, whereas the ligature alone names nothing.
-/
theorem names_read_exactly_ligature
    : Opcode.parse "\uFB06aTu\u017F" = .ok .status
      ∧ RecordType.parse "\u017FOa" = .ok .soa
      ∧ ∃ fault, Opcode.parse "\uFB06" = .error fault
        ∧ fault.message = "Unknown opcode: \uFB06" := by
  obtain ⟨opcodes, _, _, _⟩ := names_read_exactly "\uFB06aTu\u017F"
  obtain ⟨_, types, _, _⟩ := names_read_exactly "\u017FOa"
  obtain ⟨lone, _, _, _⟩ := names_read_exactly "\uFB06"
  have status : Text.Spells ['S', 'T', 'A', 'T', 'U', 'S'] ['\uFB06', 'a', 'T', 'u', '\u017F'] :=
    .sAndT (.letter (by decide) (.letter (by decide) (.letter (by decide) (.longS .nil))))
  have soa : Text.Spells ['S', 'O', 'A'] ['\u017F', 'O', 'a'] :=
    .longS (.letter (by decide) (.letter (by decide) .nil))
  refine ⟨(opcodes.accepts_iff .status).mpr ⟨nofun, ?_⟩, (types.accepts_iff .soa).mpr ⟨trivial, ?_⟩,
    lone.rejects ?_⟩
  · exact status
  · exact soa
  · intro opcode named spells
    have foreign
        : ∀ opcode ∈ Opcode.registry,
          Text.Plain opcode.mnemonic.toList
          ∧ Text.upperChars "\uFB06".toList ≠ opcode.mnemonic.toList := by
      decide +kernel
    obtain ⟨plain, other⟩ := foreign opcode (opcode.named_iff.mp named)
    exact other ((Text.upperChars_eq_iff plain).mpr spells)

end InverseQuery
