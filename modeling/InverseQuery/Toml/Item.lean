import InverseQuery.Toml.Calendar
import InverseQuery.Toml.Number
import InverseQuery.Toml.Quoted
import InverseQuery.Toml.Table

/-! Keys and values as they are written.
Arrays and tables in braces may be nested up to a fixed depth; blanks, comments and line ends may
stand between their parts.
-/

namespace InverseQuery.Toml

/-- The largest depth of arrays and tables in braces inside each other. -/
def depthLimit : Nat := 80

/-- The largest number of keys in a row with dots between them. -/
def keyLimit : Nat := 80

def isKeyChar (char : Char) : Bool :=
  Text.isDigit 10 char || ('a' ≤ char && char ≤ 'z') || ('A' ≤ char && char ≤ 'Z')
    || char == '_' || char == '-'

def simpleKey : Scanner String := do
  match ← quotedLine? with
  | some key => return key
  | none =>
      let chars ← Scanner.takeWhile isKeyChar
      if chars.isEmpty then Scanner.fail "a key" else return String.ofList chars

/-- Takes a row of keys with dots between them: those before the last, and the last. -/
def dottedKey : Scanner (List String × String) := do
  let first ← simpleKey
  let others ← Scanner.many do
    skipBlanks
    if ← Scanner.accept "." then
      skipBlanks
      return some (← simpleKey)
    else return none
  let keys := first :: others
  if keyLimit < keys.length then throw .tooDeep
  return (keys.dropLast, others.getLastD first)

/-- The value of a text without quotes or brackets. -/
def scalar? (text : List Char) : Option Value :=
  if text = "true".toList then some (.boolean true)
  else if text = "false".toList then some (.boolean false)
  else if isDateTime text then some (.dateTime (String.ofList text))
  else number? text

/-- The characters that end a value without quotes or brackets. -/
def endsScalar (char : Char) : Bool :=
  isBlank char || char == '\n' || char == '\r' || char == '#' || char == ',' || char == '='
    || char == '[' || char == ']' || char == '\x7b' || char == '\x7d'

/-- Whether a character after blanks goes on with a value without quotes or brackets. -/
def continuesScalar (char : Char) : Bool :=
  !endsScalar char && char != '.' && char != '"' && char != '\''

/-- Takes blanks and the word after them, if there is one. -/
def furtherWord : Scanner (Option (List Char)) := do
  let text ← get
  let blanks := text.takeWhile isBlank
  if !blanks.isEmpty && (text.drop blanks.length).head?.any continuesScalar then
    skipBlanks
    return some (blanks ++ (← Scanner.takeWhile (!endsScalar ·)))
  else return none

/-- Takes a value without quotes or brackets: a word, and those that only blanks separate from it. -/
def scalar : Scanner Value := do
  let word ← Scanner.takeWhile (!endsScalar ·)
  let others ← Scanner.many furtherWord
  match scalar? (word ++ others.flatten) with
  | some value => return value
  | none => Scanner.fail "a value"

/-- Takes items up to a closing bracket, with commas between them and perhaps after the last. -/
def separated {α : Type} (item : Scanner α) (closing : String) : Scanner (List α) :=
  Scanner.many do
    skipLines
    if ← Scanner.accept closing then return none
    let value ← item
    skipLines
    unless ← Scanner.accept "," do
      unless closing.toList.isPrefixOf (← get) do Scanner.fail "a comma"
    return some value

/-- Takes a key, an equals sign and a value between the braces of a table. -/
def inlineEntry (value : Scanner Value) : Scanner (List String × String × Value) := do
  let (path, key) ← dottedKey
  skipLines
  Scanner.expect "="
  skipLines
  return (path, key, ← value)

def inlineTable (entries : List (List String × String × Value)) : Except Fault Value := do
  let table ← entries.foldlM
    (fun table (path, key, value) => setValue path key value .inline table) []
  return .table .inline table

/-- Takes a value in which arrays and tables in braces are nested at most `depth` times. -/
def value (depth : Nat) : Scanner Value := do
  match ← quoted? with
  | some text => return .string text
  | none =>
      match depth, (← Scanner.peek?) with
      | 0, some '[' | 0, some '\x7b' => throw .tooDeep
      | depth + 1, some '[' =>
          Scanner.expect "["
          return .array false (← separated (value depth) "]")
      | depth + 1, some '\x7b' =>
          Scanner.expect "\x7b"
          inlineTable (← separated (inlineEntry (value depth)) "\x7d")
      | _, _ => scalar

end InverseQuery.Toml
