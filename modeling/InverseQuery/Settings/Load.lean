import InverseQuery.File.Entry
import InverseQuery.Settings.Basic

/-! Where settings come from, whatever reads the text of a configuration file.
A configuration file that is named has to be readable. Without a name the file with the usual name
is taken if it is present, and the defaults otherwise. The command line has the last word.
-/

namespace InverseQuery

theorem eq_ok_of_toOption {ε α : Type} {result : Except ε α} {value : α}
    (h : result.toOption = some value)
    : result = .ok value := by
  cases result with
  | error fault => cases h
  | ok value' => exact congrArg Except.ok (Option.some.inj h)

namespace Settings

/-- The configuration file that is taken when none is named. -/
def usualPath : String := "iquery.toml"

def ofEntry (reader : Reader) (path : String) (entry : PathEntry)
    : Except SettingsFault Settings :=
  match entry.read with
  | .error cause => .error (.unreadable path cause)
  | .ok octets =>
      match Text.decodeUtf8? octets with
      | none => .error (.unreadable path "not UTF-8")
      | some text =>
          match reader text with
          | .error cause => .error (.malformed cause)
          | .ok file => .ok (.ofFile file)

theorem ofEntry_of_text (reader : Reader) (path : String) {entry : PathEntry} {text : String}
    (holds : entry.HoldsText text)
    : ofEntry reader path entry
      = match reader text with
        | .error cause => .error (.malformed cause)
        | .ok file => .ok (.ofFile file) := by
  obtain rfl := holds
  simp only [ofEntry, PathEntry.read, Text.decodeUtf8?_encodeUtf8]

/-- What cannot be read as text is reported with its path. -/
theorem ofEntry_of_no_text (reader : Reader) (path : String) {entry : PathEntry}
    (unread : ∀ text, ¬ entry.HoldsText text)
    : ∃ cause, ofEntry reader path entry = .error (.unreadable path cause) := by
  cases entry with
  | missing => exact ⟨_, rfl⟩
  | unreadable cause => exact ⟨_, rfl⟩
  | file octets =>
      cases decoded : Text.decodeUtf8? octets with
      | none => exact ⟨"not UTF-8", by simp only [ofEntry, PathEntry.read, decoded]⟩
      | some text =>
          have holds : (PathEntry.file octets).HoldsText text :=
            congrArg PathEntry.file (Text.decodeUtf8?_eq_some_iff.mp decoded)
          exact absurd holds (unread text)

/-- The settings before the command line has its say. -/
def source {m : Type → Type} [Monad m] (reader : Reader) (look : String → m PathEntry)
    (path : Option String)
    : m (Except SettingsFault Settings) := do
  match path with
  | some path => return ofEntry reader path (← look path)
  | none =>
      let entry ← look usualPath
      return if entry.isPresent then ofEntry reader usualPath entry else .ok {}

/-- The settings to work with, which keep every bound. -/
def load {m : Type → Type} [Monad m] (reader : Reader) (look : String → m PathEntry)
    (path : Option String) (overrides : Overrides)
    : m (Except SettingsFault Settings) := do
  match ← source reader look path with
  | .error fault => return .error fault
  | .ok settings => return (settings.override overrides).check

/-- The settings of a source, when the command line has replaced some, keep the bounds or fail. -/
theorem load_eq (reader : Reader) (files : String → PathEntry) (path : Option String)
    (overrides : Overrides)
    : load (m := Id) reader files path overrides
      = Except.bind (source (m := Id) reader files path) fun settings =>
          (settings.override overrides).check := by
  unfold load
  generalize source (m := Id) reader files path = found
  cases (found : Except SettingsFault Settings) <;> rfl

end Settings

end InverseQuery
