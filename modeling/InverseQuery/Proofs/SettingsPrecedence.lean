import InverseQuery.Settings.Document
import InverseQuery.Settings.Load
import Mathlib.Tactic.ByContra
import Mathlib.Tactic.SplitIfs

/-! Which source each setting comes from, and which of the possible faults is reported.
The command line goes before the configuration file and that before the defaults, for each setting
on its own, whatever reads the texts of configuration files. Only settings that keep every bound are
loaded, and of several reasons why there are none the first one is reported.
-/

namespace InverseQuery

/-- The key under which the setting stands whose bound is not kept. -/
def SettingsViolation.key : SettingsViolation → String
  | messageCapacityTooSmall _ => "message_capacity"
  | answerCapacityZero => "answer_capacity"
  | messagePathEmpty => "message_path"

theorem SettingsViolation.message_tooSmall (capacity : Nat)
    : (messageCapacityTooSmall capacity).message
      = "message_capacity must be at least "
        ++ (toString Header.size ++ (" bytes, got " ++ toString capacity)) := by
  rw [← String.append_assoc, ← String.append_assoc]
  rfl

/-- What is said about a bound starts with the key of its setting. -/
theorem SettingsViolation.key_prefix_message (violation : SettingsViolation)
    : violation.key.toList <+: violation.message.toList := by
  cases violation with
  | messageCapacityTooSmall capacity =>
      have start : "message_capacity".toList <+: "message_capacity must be at least ".toList := by
        decide
      rw [message_tooSmall, String.toList_append]
      exact start.trans (List.prefix_append ..)
  | answerCapacityZero => decide +kernel
  | messagePathEmpty => decide +kernel

namespace Settings

-----------------------------------------------------------------------------------------
-- The sources of settings
-----------------------------------------------------------------------------------------

/-- The configuration file that settings are taken from: the one that is named, or else the usual
one if anything stands at its path.
-/
def configuration? (files : String → PathEntry) (path : Option String) : Option String :=
  path.or (if files usualPath = .missing then none else some usualPath)

/-- The settings that are given by the configuration file, and none if there is no such file. -/
inductive Given (reader : Reader) (files : String → PathEntry) (path : Option String)
    : FileSettings → Prop
  | absent (nowhere : configuration? files path = none) : Given reader files path {}
  | document {source text : String} {file : FileSettings}
    (taken : configuration? files path = some source) (holds : (files source).HoldsText text)
    (accepted : reader text = .ok file)
    : Given reader files path file

/-- Each setting is the one of the command line, or else that of the file, or else the default. -/
structure Preferring (settings : Settings) (overrides : Overrides) (file : FileSettings)
    : Prop where
  messagePath
    : settings.messagePath = (overrides.messagePath.or file.messagePath).getD "iquery-file"
  messageCapacity : settings.messageCapacity = file.messageCapacity.getD 10000
  answerCapacity : settings.answerCapacity = file.answerCapacity.getD 2
  logLevel : settings.logLevel = (overrides.logLevel.or file.logLevel).getD "info"
  logColour : settings.logColour = file.logColour.getD true

theorem preferring_iff {settings : Settings} {overrides : Overrides} {file : FileSettings}
    : settings.Preferring overrides file ↔ (ofFile file).override overrides = settings := by
  have either {α : Type} (first second : Option α) (default : α)
      : (first.or second).getD default = first.getD (second.getD default) := by
    cases first <;> rfl
  constructor
  · rintro ⟨path, capacity, answers, level, colour⟩
    rw [either] at path level
    cases settings
    simp_all only [override, ofFile]
    rfl
  · rintro rfl
    exact ⟨(either ..).symm, rfl, rfl, (either ..).symm, rfl⟩

-----------------------------------------------------------------------------------------
-- The bounds of settings
-----------------------------------------------------------------------------------------

structure KeepsBounds (settings : Settings) : Prop where
  messageCapacity : 12 ≤ settings.messageCapacity
  answerCapacity : 1 ≤ settings.answerCapacity
  messagePath : settings.messagePath ≠ ""

/-- A bound that settings break while they keep those before it. -/
inductive FirstBroken (settings : Settings) : SettingsViolation → Prop
  | messageCapacity (small : settings.messageCapacity < 12)
    : FirstBroken settings (.messageCapacityTooSmall settings.messageCapacity)
  | answerCapacity (room : 12 ≤ settings.messageCapacity) (zero : settings.answerCapacity = 0)
    : FirstBroken settings .answerCapacityZero
  | messagePath (room : 12 ≤ settings.messageCapacity) (answers : 1 ≤ settings.answerCapacity)
    (empty : settings.messagePath = "")
    : FirstBroken settings .messagePathEmpty

theorem check_eq_ok_iff {settings accepted : Settings}
    : settings.check = .ok accepted ↔ settings = accepted ∧ accepted.KeepsBounds := by
  have size : Header.size = 12 := rfl
  constructor
  · intro h
    unfold check violation? at h
    split at h
    next none =>
      split_ifs at none with small zero empty
      obtain rfl := Except.ok.inj h
      exact ⟨rfl, Nat.not_lt.mp small, Nat.one_le_iff_ne_zero.mpr zero, empty⟩
    next => cases h
  · rintro ⟨rfl, keeps⟩
    have zero := Nat.one_le_iff_ne_zero.mp keeps.answerCapacity
    simp only [check, violation?, size, if_neg (Nat.not_lt.mpr keeps.messageCapacity), if_neg zero,
      if_neg keeps.messagePath]

/-- Settings are rejected for the first bound that they break. -/
theorem check_eq_error_iff {settings : Settings} {fault : SettingsFault}
    : settings.check = .error fault
      ↔ ∃ violation, fault = .invalid violation ∧ settings.FirstBroken violation := by
  have size : Header.size = 12 := rfl
  constructor
  · intro h
    unfold check violation? at h
    split at h
    next => cases h
    next violation some =>
      obtain rfl := Except.error.inj h
      refine ⟨violation, rfl, ?_⟩
      split_ifs at some with small zero empty
      · obtain rfl := Option.some.inj some
        exact .messageCapacity small
      · obtain rfl := Option.some.inj some
        exact .answerCapacity (Nat.not_lt.mp small) zero
      · obtain rfl := Option.some.inj some
        exact .messagePath (Nat.not_lt.mp small) (Nat.one_le_iff_ne_zero.mpr zero) empty
  · rintro ⟨violation, rfl, broken⟩
    cases broken with
    | messageCapacity small => simp only [check, violation?, size, if_pos small]
    | answerCapacity room zero =>
        simp only [check, violation?, size, if_neg (Nat.not_lt.mpr room), if_pos zero]
    | messagePath room answers empty =>
        have zero := Nat.one_le_iff_ne_zero.mp answers
        simp only [check, violation?, size, if_neg (Nat.not_lt.mpr room), if_neg zero,
          if_pos empty]

-----------------------------------------------------------------------------------------
-- How loading ends
-----------------------------------------------------------------------------------------

/-- The settings in a configuration file, from what stands at its path. -/
def atPath (reader : Reader) (path : Option String) (entry : PathEntry)
    : Except SettingsFault Settings :=
  match path with
  | some path => ofEntry reader path entry
  | none => if entry.isPresent then ofEntry reader usualPath entry else .ok {}

/-- Loading looks at one path only, and what stands there decides. -/
theorem load_looks {m : Type → Type} [Monad m] [LawfulMonad m] (reader : Reader)
    (look : String → m PathEntry) (path : Option String) (overrides : Overrides)
    : load reader look path overrides
      = (fun entry => load (m := Id) reader (fun _ => entry) path overrides)
        <$> look (path.getD usualPath) := by
  have sources
      : source reader look path = atPath reader path <$> look (path.getD usualPath) := by
    cases path <;> exact (map_eq_pure_bind ..).symm
  have atOnce (entry : PathEntry)
      : source (m := Id) reader (fun _ => entry) path = atPath reader path entry := by
    cases path <;> rfl
  simp only [load_eq, atOnce]
  rw [load, sources, bind_map_left, map_eq_pure_bind]
  refine bind_congr fun entry => ?_
  cases atPath reader path entry <;> rfl

section

variable {reader : Reader} {files : String → PathEntry} {path : Option String}
  (overrides : Overrides)

theorem source_of_absent (nowhere : configuration? files path = none)
    : source (m := Id) reader files path = .ok ({} : Settings) := by
  cases path with
  | some path => cases nowhere
  | none =>
      have missing : files usualPath = .missing := by
        by_contra present
        simp [configuration?, present] at nowhere
      change (if (files usualPath).isPresent then _ else Except.ok ({} : Settings)) = _
      rw [missing]
      rfl

theorem source_of_taken {source : String} (taken : configuration? files path = some source)
    : Settings.source (m := Id) reader files path = ofEntry reader source (files source) := by
  cases path with
  | some path =>
      obtain rfl := Option.some.inj taken
      rfl
  | none =>
      rw [configuration?, Option.none_or, Option.ite_none_left_eq_some] at taken
      obtain ⟨present, same⟩ := taken
      obtain rfl := Option.some.inj same
      change (if (files usualPath).isPresent then _ else _) = _
      rw [if_pos]
      cases stands : files usualPath with
      | missing => exact absurd stands present
      | unreadable cause => rfl
      | file octets => rfl

theorem load_of_unread {source : String} (taken : configuration? files path = some source)
    (unread : ∀ text, ¬ (files source).HoldsText text)
    : ∃ cause,
        load (m := Id) reader files path overrides = .error (.unreadable source cause) := by
  obtain ⟨cause, read⟩ := ofEntry_of_no_text reader source unread
  rw [load_eq, source_of_taken taken, read]
  exact ⟨cause, rfl⟩

theorem load_of_malformed {source text cause : String}
    (taken : configuration? files path = some source) (holds : (files source).HoldsText text)
    (rejected : reader text = .error cause)
    : load (m := Id) reader files path overrides = .error (.malformed cause) := by
  rw [load_eq, source_of_taken taken, ofEntry_of_text reader source holds, rejected]
  rfl

/-- Once it is known what the file gives, only the bounds decide. -/
theorem load_of_given {file : FileSettings} (given : Given reader files path file)
    : load (m := Id) reader files path overrides = ((ofFile file).override overrides).check := by
  cases given with
  | absent nowhere =>
      rw [load_eq, source_of_absent nowhere]
      rfl
  | document taken holds accepted =>
      rw [load_eq, source_of_taken taken, ofEntry_of_text reader _ holds, accepted]
      rfl

/-- How loading ends. -/
inductive LoadingEnds (reader : Reader) (files : String → PathEntry) (path : Option String)
    (overrides : Overrides)
    : Except SettingsFault Settings → Prop
  | unreadable {source : String} (cause : String) (taken : configuration? files path = some source)
    (unread : ∀ text, ¬ (files source).HoldsText text)
    : LoadingEnds reader files path overrides (.error (.unreadable source cause))
  | malformed {source text cause : String} (taken : configuration? files path = some source)
    (holds : (files source).HoldsText text) (rejected : reader text = .error cause)
    : LoadingEnds reader files path overrides (.error (.malformed cause))
  | invalid {file : FileSettings} {settings : Settings} {violation : SettingsViolation}
    (given : Given reader files path file) (preferring : settings.Preferring overrides file)
    (broken : settings.FirstBroken violation)
    : LoadingEnds reader files path overrides (.error (.invalid violation))
  | loaded {file : FileSettings} {settings : Settings} (given : Given reader files path file)
    (preferring : settings.Preferring overrides file) (keeps : settings.KeepsBounds)
    : LoadingEnds reader files path overrides (.ok settings)

/-- If it is known what is given, the settings that result from it are loaded or break a bound. -/
theorem load_ends_of_given {file : FileSettings} (given : Given reader files path file)
    : LoadingEnds reader files path overrides
        (load (m := Id) reader files path overrides) := by
  have preferring := preferring_iff.mpr (Eq.refl ((ofFile file).override overrides))
  rw [load_of_given overrides given]
  cases checked : ((ofFile file).override overrides).check with
  | ok settings =>
      obtain ⟨rfl, keeps⟩ := check_eq_ok_iff.mp checked
      exact .loaded given preferring keeps
  | error fault =>
      obtain ⟨violation, rfl, broken⟩ := check_eq_error_iff.mp checked
      exact .invalid given preferring broken

/-- Loading ends in one of these ways, by cases on what stands at the path that is taken. -/
theorem load_ends (reader : Reader) (files : String → PathEntry) (path : Option String)
    (overrides : Overrides)
    : LoadingEnds reader files path overrides
        (load (m := Id) reader files path overrides) := by
  cases taken : configuration? files path with
  | none => exact load_ends_of_given overrides (.absent taken)
  | some source =>
      by_cases read : ∃ text, (files source).HoldsText text
      · obtain ⟨text, holds⟩ := read
        cases given : reader text with
        | error cause =>
            rw [load_of_malformed overrides taken holds given]
            exact .malformed taken holds given
        | ok file => exact load_ends_of_given overrides (.document taken holds given)
      · obtain ⟨cause, failed⟩ := load_of_unread overrides taken (not_exists.mp read)
        rw [failed]
        exact .unreadable cause taken (not_exists.mp read)

end

/-- Loading settings looks at one path only: the one that is named, or else the usual one. It fails
for a file that is no text, then for one whose text the reader rejects, and then for the first bound
that is not kept; what it reports names the file, or the setting. All other settings are loaded, and
each of them is the one of the command line, or else that of the file, or else the default.
-/
theorem load_byPrecedence (reader : Reader) (files : String → PathEntry) (path : Option String)
    (overrides : Overrides)
    : let loaded : Except SettingsFault Settings := load (m := Id) reader files path overrides
      (∀ {m : Type → Type} [Monad m] [LawfulMonad m] (look : String → m PathEntry),
          load reader look path overrides
          = (fun entry => load (m := Id) reader (fun _ => entry) path overrides)
            <$> look (path.getD usualPath))
      ∧ (∀ source,
          (∃ cause, loaded = .error (.unreadable source cause))
          ↔ configuration? files path = some source ∧ ∀ text, ¬ (files source).HoldsText text)
      ∧ (∀ cause,
          loaded = .error (.malformed cause)
          ↔ ∃ source text,
              configuration? files path = some source
              ∧ (files source).HoldsText text
              ∧ reader text = .error cause)
      ∧ (∀ settings : Settings,
          loaded = .ok settings
          ↔ ∃ file,
              Given reader files path file
              ∧ settings.Preferring overrides file
              ∧ settings.KeepsBounds)
      ∧ (∀ violation,
          loaded = .error (.invalid violation)
          ↔ ∃ (file : FileSettings) (settings : Settings),
              Given reader files path file
              ∧ settings.Preferring overrides file
              ∧ settings.FirstBroken violation)
      ∧ ∀ violation : SettingsViolation,
          (SettingsFault.invalid violation).message
            = "Configuration validation error: " ++ violation.message
          ∧ violation.key.toList <+: violation.message.toList := by
  intro loaded
  have ends : LoadingEnds reader files path overrides loaded :=
    load_ends reader files path overrides
  refine ⟨fun look => load_looks reader look path overrides, ?_, ?_, ?_, ?_,
    fun violation => ⟨rfl, violation.key_prefix_message⟩⟩
  · intro source
    refine ⟨?_, fun ⟨taken, unread⟩ => load_of_unread overrides taken unread⟩
    rintro ⟨cause, failed⟩
    rw [failed] at ends
    cases ends with
    | unreadable _ taken unread => exact ⟨taken, unread⟩
  · intro cause
    constructor
    · intro failed
      rw [failed] at ends
      cases ends with
      | malformed taken holds rejected => exact ⟨_, _, taken, holds, rejected⟩
    · rintro ⟨source, text, taken, holds, rejected⟩
      exact load_of_malformed overrides taken holds rejected
  · intro settings
    constructor
    · intro passed
      rw [passed] at ends
      cases ends with
      | loaded given preferring keeps => exact ⟨_, given, preferring, keeps⟩
    · rintro ⟨file, given, preferring, keeps⟩
      have made := preferring_iff.mp preferring
      exact (load_of_given overrides given).trans (check_eq_ok_iff.mpr ⟨made, keeps⟩)
  · intro violation
    constructor
    · intro failed
      rw [failed] at ends
      cases ends with
      | invalid given preferring broken => exact ⟨_, _, given, preferring, broken⟩
    · rintro ⟨file, settings, given, preferring, broken⟩
      obtain rfl := preferring_iff.mp preferring
      exact (load_of_given overrides given).trans (check_eq_error_iff.mpr ⟨_, rfl, broken⟩)

/-- A file that gives two settings, beside a directory in place of the usual one. -/
def sampleConfigurations : String → PathEntry
  | "named" =>
      .file (Text.encodeUtf8
        "[parser]\nmessage_path = \"a\"\nmessage_capacity = 12\n[logging]\nlevel = \"debug\"")
  | "iquery.toml" => .unreadable "is a directory"
  | _ => .missing

/-- A named file is read without a look at the usual one, and one of its settings is replaced. If no
file is named, the directory cannot be read.
-/
theorem load_byPrecedence_named_or_usual
    : let overrides : Overrides := { logLevel := some "warn" }
      let expected : Settings := { messagePath := "a", messageCapacity := 12, logLevel := "warn" }
      let look (path : String) : StateM (List String) PathEntry := do
        modify (· ++ [path])
        return sampleConfigurations path
      load (m := Id) FileSettings.read sampleConfigurations (some "named") overrides = .ok expected
      ∧ (load FileSettings.read look (some "named") overrides).run [] = (.ok expected, ["named"])
      ∧ ∃ cause,
          load (m := Id) FileSettings.read sampleConfigurations none overrides
          = .error (.unreadable "iquery.toml" cause) := by
  intro overrides expected look
  obtain ⟨looks, _, _, loads, _, _⟩ :=
    load_byPrecedence FileSettings.read sampleConfigurations (some "named") overrides
  obtain ⟨_, unread, _, _, _, _⟩ :=
    load_byPrecedence FileSettings.read sampleConfigurations none overrides
  let file : FileSettings :=
    { messagePath := some "a", messageCapacity := some 12, logLevel := some "debug" }
  have given : Given FileSettings.read sampleConfigurations (some "named") file :=
    .document rfl rfl (eq_ok_of_toOption (by decide +kernel))
  have loaded
      : load (m := Id) FileSettings.read sampleConfigurations (some "named") overrides
        = .ok expected :=
    (loads expected).mpr ⟨file, given, ⟨rfl, rfl, rfl, rfl, rfl⟩, ⟨by decide, by decide, by decide⟩⟩
  refine ⟨loaded, ?_, (unread "iquery.toml").mpr ⟨rfl, nofun⟩⟩
  rw [looks look]
  exact congrArg (·, ["named"]) loaded

end Settings

end InverseQuery
