import InverseQuery.Settings.Document
import InverseQuery.Settings.Load
import Mathlib.Data.List.Forall2

/-! Settings that differ only in how the program logs.
Documents that give other levels of logging, or ask for other colours, are accepted or rejected
alike, and so are the settings in them once the command line has had its say. What remains of the
settings is the same.
-/

namespace InverseQuery

open InverseQuery.Toml

-----------------------------------------------------------------------------------------
-- Results that fail together
-----------------------------------------------------------------------------------------

/-- Two results that are failures both, or values in some relation. -/
inductive FailTogether {ε α : Type} (related : α → α → Prop)
    : Except ε α → Except ε α → Prop where
  | failed (first second : ε) : FailTogether related (.error first) (.error second)
  | passed {first second : α} (h : related first second)
    : FailTogether related (.ok first) (.ok second)

namespace FailTogether

variable {ε α β : Type} {related : α → α → Prop} {next : β → β → Prop}

theorem of_refl (result : Except ε α) (refl : ∀ value, related value value)
    : FailTogether related result result := by
  cases result with
  | error fault => exact .failed fault fault
  | ok value => exact .passed (refl value)

theorem bind {first second : Except ε α} {f g : α → Except ε β}
    (h : FailTogether related first second)
    (step : ∀ one other, related one other → FailTogether next (f one) (g other))
    : FailTogether next (first >>= f) (second >>= g) := by
  cases h with
  | failed fault other => exact .failed fault other
  | passed h => exact step _ _ h

theorem bind_same (result : Except ε α) {f g : α → Except ε β}
    (step : ∀ value, FailTogether next (f value) (g value))
    : FailTogether next (result >>= f) (result >>= g) :=
  (of_refl result Eq.refl).bind fun value _ same => same ▸ step value

theorem mapError {ε' : Type} {first second : Except ε α} (h : FailTogether related first second)
    (report : ε → ε')
    : FailTogether related (first.mapError report) (second.mapError report) := by
  cases h with
  | failed fault other => exact .failed (report fault) (report other)
  | passed h => exact .passed h

end FailTogether

-----------------------------------------------------------------------------------------
-- Documents that differ only in the section on logging
-----------------------------------------------------------------------------------------

namespace FileSettings

/-- Entries with the same keys in order, and under each key values that are related there. -/
def EntriesAlike (related : String → Value → Value → Prop) (first second : Entries) : Prop :=
  List.Forall₂ (fun one other => one.1 = other.1 ∧ related one.1 one.2 other.2) first second

/-- Under the keys of the settings for logging, values that such a setting may take. -/
inductive LoggingAlike : String → Value → Value → Prop where
  | same (key : String) (value : Value) : LoggingAlike key value value
  | level (first second : String) : LoggingAlike "level" (.string first) (.string second)
  | colour (first second : Bool) : LoggingAlike "ansi" (.boolean first) (.boolean second)

/-- Under the key of the section on logging, tables that differ in the values of its settings. -/
inductive SectionAlike : String → Value → Value → Prop where
  | same (key : String) (value : Value) : SectionAlike key value value
  | logging (first second : TableKind) {entries others : Entries}
    (h : EntriesAlike LoggingAlike entries others)
    : SectionAlike "logging" (.table first entries) (.table second others)

/-- Settings of a file that differ at most in how the program logs. -/
structure SameWork (first second : FileSettings) : Prop where
  messagePath : first.messagePath = second.messagePath
  messageCapacity : first.messageCapacity = second.messageCapacity
  answerCapacity : first.answerCapacity = second.answerCapacity

section

variable {related : String → Value → Value → Prop} {first second : Entries}

/-- A key is looked up in two lists of entries with related results, by induction over both. -/
theorem EntriesAlike.get? (h : EntriesAlike related first second) (key : String)
    : Option.Rel (related key) (first.get? key) (second.get? key) := by
  induction h with
  | nil => exact .none
  | @cons one other first second heads _ ih =>
      obtain ⟨name, value⟩ := one
      obtain ⟨name', value'⟩ := other
      obtain ⟨rfl, heads⟩ := heads
      simp only [Entries.get?, List.lookup_cons] at ih ⊢
      cases found : key == name with
      | true => exact .some (beq_iff_eq.mp found ▸ heads)
      | false => exact ih

/-- Values under other keys are checked alike if only values under the given keys differ. -/
theorem EntriesAlike.checkOthers (h : EntriesAlike related first second) {names : List String}
    (same : ∀ {key value value'}, key ∉ names → related key value value' → value = value')
    : FileSettings.checkOthers names first = FileSettings.checkOthers names second := by
  unfold FileSettings.checkOthers
  induction h with
  | nil => rfl
  | @cons one other first second heads _ ih =>
      obtain ⟨name, value⟩ := one
      obtain ⟨name', value'⟩ := other
      obtain ⟨rfl, heads⟩ := heads
      by_cases named : name ∈ names
      · simpa [named] using ih
      · obtain rfl := same named heads
        by_cases representable : value.isRepresentable
        · simpa [named, representable] using ih
        · simp [named, representable]

/-- A setting is read alike if each of two related values is one that it may take. -/
theorem EntriesAlike.setting? {α : Type} (h : EntriesAlike related first second) {key : String}
    {read? : Value → Option α}
    (alike : ∀ {name value value'}, name = key → related name value value'
      → value = value' ∨ (read? value).isSome ∧ (read? value').isSome)
    : FailTogether (fun _ _ => True) (FileSettings.setting? first key read?)
        (FileSettings.setting? second key read?) := by
  have values := h.get? key
  unfold FileSettings.setting?
  generalize first.get? key = one, second.get? key = other at values
  cases values with
  | none => exact .passed trivial
  | some values =>
      obtain rfl | ⟨taken, taken'⟩ := alike rfl values
      · exact .of_refl _ fun _ => trivial
      · obtain ⟨value, taken⟩ := Option.isSome_iff_exists.mp taken
        obtain ⟨value', taken'⟩ := Option.isSome_iff_exists.mp taken'
        simp only [taken, taken']
        exact .passed trivial

end

variable {root other : Entries}

/-- Of a section that is not the one on logging nothing differs. -/
theorem sectionOf_eq (h : EntriesAlike SectionAlike root other) {key : String}
    (apart : key ≠ "logging") (names : List String)
    : sectionOf root key names = sectionOf other key names := by
  have values := h.get? key
  unfold sectionOf
  generalize root.get? key = one, other.get? key = another at values
  cases values with
  | none => rfl
  | some values =>
      cases values with
      | same => rfl
      | logging => exact absurd rfl apart

theorem checkOthers_logging {entries others : Entries}
    (h : EntriesAlike LoggingAlike entries others)
    : checkOthers ["level", "ansi"] entries = checkOthers ["level", "ansi"] others := by
  refine h.checkOthers fun apart values => ?_
  cases values with
  | same => rfl
  | level => simp at apart
  | colour => simp at apart

/-- The section on logging is accepted in both documents or in none. -/
theorem sectionOf_logging (h : EntriesAlike SectionAlike root other)
    : FailTogether (EntriesAlike LoggingAlike) (sectionOf root "logging" ["level", "ansi"])
        (sectionOf other "logging" ["level", "ansi"]) := by
  have same (entries : Entries) : EntriesAlike LoggingAlike entries entries :=
    List.forall₂_same.mpr fun entry _ => ⟨rfl, .same entry.1 entry.2⟩
  have values := h.get? "logging"
  unfold sectionOf
  generalize root.get? "logging" = one, other.get? "logging" = another at values
  cases values with
  | none => exact .passed (same [])
  | some values =>
      cases values with
      | same => exact .of_refl _ same
      | logging _ _ alike =>
          refine FailTogether.bind (.passed alike) fun entries others alike => ?_
          rw [checkOthers_logging alike]
          exact .bind_same _ fun _ => .passed alike

/-- Documents that differ only in the settings for logging are accepted alike. -/
theorem ofDocument_alike (h : EntriesAlike SectionAlike root other)
    : FailTogether SameWork (ofDocument root) (ofDocument other) := by
  have others
      : checkOthers ["parser", "logging"] root = checkOthers ["parser", "logging"] other := by
    refine h.checkOthers fun apart values => ?_
    cases values with
    | same => rfl
    | logging => simp at apart
  have parser := sectionOf_eq h (by decide : "parser" ≠ "logging")
    ["message_path", "message_capacity", "answer_capacity"]
  unfold ofDocument
  rw [others, parser]
  refine .bind_same _ fun _ => .bind_same _ fun entries => ?_
  refine .bind (sectionOf_logging h) fun logging logging' alike => ?_
  -- The three settings of the parser come from the same section.
  refine .bind_same _ fun _ => .bind_same _ fun _ => .bind_same _ fun _ => ?_
  refine .bind (alike.setting? fun named values => ?_) fun _ _ _ => ?_
  · cases values with
    | same => exact .inl rfl
    | level => exact .inr ⟨rfl, rfl⟩
    | colour => simp at named
  refine .bind (alike.setting? fun named values => ?_) fun _ _ _ => ?_
  · cases values with
    | same => exact .inl rfl
    | level => simp at named
    | colour => exact .inr ⟨rfl, rfl⟩
  exact .passed ⟨rfl, rfl, rfl⟩

/-- Texts of documents that differ only in the settings for logging. -/
def DocumentsAlike (text text' : String) : Prop :=
  ∃ root root',
    Entries.parse text = .ok root ∧ Entries.parse text' = .ok root'
    ∧ EntriesAlike SectionAlike root root'

theorem read_alike {text text' : String} (h : DocumentsAlike text text')
    : FailTogether SameWork (read text) (read text') := by
  obtain ⟨root, root', document, document', alike⟩ := h
  have parsed : FailTogether SameWork (parse text) (parse text') := by
    rw [parse, document, parse, document']
    exact ofDocument_alike alike
  exact parsed.mapError Fault.message

end FileSettings

-----------------------------------------------------------------------------------------
-- Settings that differ only in how the program logs
-----------------------------------------------------------------------------------------

/-- Configuration files that are the same, or texts from which a reader takes settings that differ at
most in how the program logs, if it takes any.
-/
def PathEntry.ConfigurationsAlike (reader : Settings.Reader) (first second : PathEntry) : Prop :=
  first = second
  ∨ ∃ text text',
    first.HoldsText text ∧ second.HoldsText text'
    ∧ FailTogether FileSettings.SameWork (reader text) (reader text')

namespace Settings

/-- Settings that differ at most in how the program logs. -/
structure SameWork (first second : Settings) : Prop where
  messagePath : first.messagePath = second.messagePath
  messageCapacity : first.messageCapacity = second.messageCapacity
  answerCapacity : first.answerCapacity = second.answerCapacity

@[refl]
theorem SameWork.refl (settings : Settings) : settings.SameWork settings := ⟨rfl, rfl, rfl⟩

theorem SameWork.ofFile {first second : FileSettings} (h : first.SameWork second)
    : (ofFile first).SameWork (ofFile second) where
  messagePath := by simp only [Settings.ofFile, h.messagePath]
  messageCapacity := by simp only [Settings.ofFile, h.messageCapacity]
  answerCapacity := by simp only [Settings.ofFile, h.answerCapacity]

variable {first second : Settings}

theorem SameWork.override (h : first.SameWork second) {overrides others : Overrides}
    (path : overrides.messagePath = others.messagePath)
    : (first.override overrides).SameWork (second.override others) where
  messagePath := by simp only [Settings.override, path, h.messagePath]
  messageCapacity := h.messageCapacity
  answerCapacity := h.answerCapacity

/-- No bound is on the logging. -/
theorem SameWork.check (h : first.SameWork second)
    : FailTogether SameWork first.check second.check := by
  have bounds : first.violation? = second.violation? := by
    simp only [violation?, h.messagePath, h.messageCapacity, h.answerCapacity]
  simp only [Settings.check, bounds]
  split
  · exact .passed h
  · exact .failed _ _

variable {reader : Reader}

theorem ofEntry_alike (path : String) {entry other : PathEntry}
    (h : entry.ConfigurationsAlike reader other)
    : FailTogether SameWork (ofEntry reader path entry) (ofEntry reader path other) := by
  obtain rfl | ⟨text, text', holds, holds', alike⟩ := h
  · exact .of_refl _ .refl
  · rw [ofEntry_of_text reader path holds, ofEntry_of_text reader path holds']
    generalize reader text = file, reader text' = file' at alike
    cases alike with
    | failed => exact .failed _ _
    | passed h => exact .passed (.ofFile h)

variable {files others : String → PathEntry}

/-- The settings come from alike files, the named one or else the usual one. -/
theorem source_alike {path : Option String}
    (h
      : (files (path.getD usualPath)).ConfigurationsAlike reader
          (others (path.getD usualPath)))
    : FailTogether SameWork (source (m := Id) reader files path)
        (source (m := Id) reader others path) := by
  cases path with
  | some path => exact ofEntry_alike path h
  | none =>
      have present : (files usualPath).isPresent = (others usualPath).isPresent := by
        obtain same | ⟨_, _, file, file', _⟩ := h
        · exact congrArg PathEntry.isPresent same
        · exact file ▸ file' ▸ rfl
      have entries := ofEntry_alike usualPath h
      change FailTogether SameWork
        (if (files usualPath).isPresent then ofEntry reader usualPath (files usualPath)
          else .ok {})
        (if (others usualPath).isPresent then ofEntry reader usualPath (others usualPath)
          else .ok {})
      rw [← present]
      split
      · exact entries
      · exact .passed (.refl {})

/-- Whatever the command line says on logging, it replaces what is at work in the same way. -/
theorem load_alike {path path' : Option String} {overrides overrides' : Overrides}
    (h
      : FailTogether SameWork (source (m := Id) reader files path)
          (source (m := Id) reader others path'))
    (messagePath : overrides.messagePath = overrides'.messagePath)
    : FailTogether SameWork (load (m := Id) reader files path overrides)
        (load (m := Id) reader others path' overrides') := by
  rw [load_eq, load_eq]
  exact h.bind fun _ _ h => (h.override messagePath).check

end Settings

end InverseQuery
