import InverseQuery.Answer
import InverseQuery.Message.Basic

/-! The settings of the program, and the bounds that they have to keep.
Each setting has a default, which a configuration file may replace; two of them may be replaced
again by the command line.
-/

namespace InverseQuery

/-- Where the message is read from, how much is kept, and how the program logs its work. -/
structure Settings where
  messagePath : String := "iquery-file"
  messageCapacity : Nat := Message.defaultCapacity
  answerCapacity : Nat := Answer.defaultCapacity
  logLevel : String := "info"
  logColour : Bool := true
  deriving Repr, DecidableEq

/-- The settings that a configuration file gives. -/
structure FileSettings where
  messagePath : Option String := none
  messageCapacity : Option Nat := none
  answerCapacity : Option Nat := none
  logLevel : Option String := none
  logColour : Option Bool := none
  deriving Repr, DecidableEq

/-- A reader of configuration files. It gives the settings in a text, or a complaint about it. -/
abbrev Settings.Reader := String → Except String FileSettings

/-- The settings that a command line gives. -/
structure Overrides where
  messagePath : Option String := none
  logLevel : Option String := none
  deriving Repr, DecidableEq

/-- A bound that settings do not keep. -/
inductive SettingsViolation where
  | messageCapacityTooSmall (capacity : Nat)
  | answerCapacityZero
  | messagePathEmpty
  deriving Repr, DecidableEq

def SettingsViolation.message : SettingsViolation → String
  | messageCapacityTooSmall capacity =>
      "message_capacity must be at least " ++ toString Header.size ++ " bytes, got "
        ++ toString capacity
  | answerCapacityZero => "answer_capacity cannot be 0"
  | messagePathEmpty => "message_path cannot be empty"

/-- Why there are no settings to work with. -/
inductive SettingsFault where
  | unreadable (path cause : String)
  | malformed (cause : String)
  | invalid (violation : SettingsViolation)
  deriving Repr, DecidableEq

namespace SettingsFault

/-- What is reported about settings that break a bound, given the report on the bound. -/
def invalidMessage (cause : String) : String := "Configuration validation error: " ++ cause

def message : SettingsFault → String
  | unreadable path cause => "Failed to read config file " ++ path ++ ": " ++ cause
  | malformed cause => "Failed to parse config: " ++ cause
  | invalid violation => invalidMessage violation.message

end SettingsFault

namespace Settings

/-- The given settings, with the defaults of the others. -/
def ofFile (file : FileSettings) : Settings :=
  let defaults : Settings := {}
  { messagePath := file.messagePath.getD defaults.messagePath
    messageCapacity := file.messageCapacity.getD defaults.messageCapacity
    answerCapacity := file.answerCapacity.getD defaults.answerCapacity
    logLevel := file.logLevel.getD defaults.logLevel
    logColour := file.logColour.getD defaults.logColour }

/-- Replaces what a command line gives. -/
def override (settings : Settings) (overrides : Overrides) : Settings :=
  { settings with
    messagePath := overrides.messagePath.getD settings.messagePath
    logLevel := overrides.logLevel.getD settings.logLevel }

/-- The first bound that settings do not keep, if there is one: a message has room for its header,
an answer is not empty, and the message has a path.
-/
def violation? (settings : Settings) : Option SettingsViolation :=
  if settings.messageCapacity < Header.size then
    some (.messageCapacityTooSmall settings.messageCapacity)
  else if settings.answerCapacity = 0 then some .answerCapacityZero
  else if settings.messagePath = "" then some .messagePathEmpty
  else none

/-- Accepts settings that keep every bound. -/
def check (settings : Settings) : Except SettingsFault Settings :=
  match settings.violation? with
  | none => .ok settings
  | some violation => .error (.invalid violation)

end Settings

end InverseQuery
