import InverseQuery.Settings.Basic
import InverseQuery.Toml.Document

/-! The settings in a TOML document.
They stand in two sections. A section is a table, or an array that gives the settings of the
section in order; a date in place of a section gives none. Keys that are no settings are passed
over, but the numbers under them have to be representable.
-/

namespace InverseQuery.FileSettings

open InverseQuery.Toml

def string? : Value → Option String
  | .string text => some text
  | _ => none

def boolean? : Value → Option Bool
  | .boolean value => some value
  | _ => none

/-- The largest size: sixty-four ones. -/
def largestSize : Nat := 0xFFFFFFFFFFFFFFFF

/-- The size that a value gives: an integer of at most 64 bits without a sign. -/
def size? : Value → Option Nat
  | .integer (some number) => number.toNat?.filter (· ≤ largestSize)
  | _ => none

/-- The keys and values of a section whose settings have the given names in order. -/
def sectionEntries (key : String) (names : List String) : Value → Except Fault Entries
  | .table _ entries => .ok entries
  -- Missing items leave their settings unset, and items past the last setting are not looked at.
  | .array false items => .ok (names.zip items)
  | .array true items => .ok (names.zip items.reverse)
  | .dateTime _ => .ok []
  | _ => .error (.wrongType key)

/-- Requires that the values under all keys but the given ones are representable. -/
def checkOthers (names : List String) (entries : Entries) : Except Fault Unit :=
  match entries.find? fun entry => !names.contains entry.1 && !entry.2.isRepresentable with
  | none => .ok ()
  | some entry => .error (.outOfRange entry.1)

/-- The setting under a key, if the key is there. -/
def setting? {α : Type} (entries : Entries) (key : String) (read? : Value → Option α)
    : Except Fault (Option α) :=
  match entries.get? key with
  | none => .ok none
  | some value =>
      match read? value with
      | none => .error (.wrongType key)
      | some setting => .ok (some setting)

/-- The section under a key, empty if the key is missing. -/
def sectionOf (root : Entries) (key : String) (names : List String) : Except Fault Entries := do
  match root.get? key with
  | none => return []
  | some value =>
      let entries ← sectionEntries key names value
      checkOthers names entries
      return entries

def ofDocument (root : Entries) : Except Fault FileSettings := do
  checkOthers ["parser", "logging"] root
  let parser ← sectionOf root "parser" ["message_path", "message_capacity", "answer_capacity"]
  let logging ← sectionOf root "logging" ["level", "ansi"]
  return {
    messagePath := ← setting? parser "message_path" string?
    messageCapacity := ← setting? parser "message_capacity" size?
    answerCapacity := ← setting? parser "answer_capacity" size?
    logLevel := ← setting? logging "level" string?
    logColour := ← setting? logging "ansi" boolean?
  }

def parse (text : String) : Except Fault FileSettings := do
  ofDocument (← Entries.parse text)

/-- Reads the settings in the text of a document, or says why it holds none. -/
def read : Settings.Reader := fun text => (parse text).mapError Fault.message

end InverseQuery.FileSettings
