import InverseQuery.Toml.Value

/-! Scanning the characters of a document from front to back. -/

namespace InverseQuery.Toml

/-- A step that takes characters from the front of a text, or finds a fault in it. -/
abbrev Scanner := StateT (List Char) (Except Fault)

namespace Scanner

def fail {α : Type} (what : String) : Scanner α := throw (.expected what)

def peek? : Scanner (Option Char) := return (← get).head?

/-- Takes a given text if it comes next. -/
def accept (expected : String) : Scanner Bool := fun text =>
  if expected.toList.isPrefixOf text then .ok (true, text.drop expected.length)
  else .ok (false, text)

/-- Takes a given text, which has to come next. -/
def expect (expected : String) : Scanner Unit := do
  unless ← accept expected do fail expected

/-- Takes characters as long as they are of a kind. -/
def takeWhile (ofKind : Char → Bool) : Scanner (List Char) := fun text =>
  .ok (text.takeWhile ofKind, text.dropWhile ofKind)

/-- Repeats a step until it gives nothing, but at most once for each character of `bound` and once
more. The items taken so far come first, in reverse.
-/
def repeated {α : Type} (step : Scanner (Option α)) (bound : List Char) (items : List α)
    : Scanner (List α) := fun text =>
  match step text with
  | .error fault => .error fault
  | .ok (none, rest) => .ok (items.reverse, rest)
  | .ok (some item, rest) =>
      match bound with
      | [] => .error (.expected "progress")
      | _ :: bound => repeated step bound (item :: items) rest

/-- Repeats a step until it gives nothing. The text bounds the number of rounds, since each has to
take a character of it.
-/
def many {α : Type} (step : Scanner (Option α)) : Scanner (List α) := fun text =>
  repeated step text [] text

end Scanner

/-- The characters that separate words on a line. -/
def isBlank (char : Char) : Bool := char == ' ' || char == '\t'

/-- The characters that may stand in comments and, delimiters apart, in strings: all but control
characters, of which only the tab is one of them.
-/
def isPlain (char : Char) : Bool := char == '\t' || (' ' ≤ char && char != '\x7F')

def skipBlanks : Scanner Unit := discard (Scanner.takeWhile isBlank)

def acceptLineEnd : Scanner Bool := do
  if ← Scanner.accept "\n" then return true
  Scanner.accept "\r\n"

/-- Takes a comment if one comes next; it reaches to the end of the line. -/
def skipComment : Scanner Unit := do
  if (← Scanner.peek?) == some '#' then
    discard (Scanner.takeWhile isPlain)

/-- Takes blanks, a comment and the end of the line, or of the document. -/
def endLine : Scanner Unit := do
  skipBlanks
  skipComment
  unless ← acceptLineEnd do
    unless (← get).isEmpty do Scanner.fail "the end of the line"

/-- Takes blanks, comments and line ends as far as they go. -/
def skipLines : Scanner Unit :=
  discard <| Scanner.many do
    skipBlanks
    skipComment
    return if ← acceptLineEnd then some () else none

end InverseQuery.Toml
