import InverseQuery.Text.Numeral
import InverseQuery.Toml.Scanner

/-! Quoted strings of TOML.
Double quotes enclose text with escapes, single quotes text as it stands, and three quotes of
either kind text that may have several lines and one or two quotes before the closing three.
-/

namespace InverseQuery.Toml

/-- What follows after a part of a text was taken: fewer characters than before. -/
abbrev Shorter (text : List Char) := { rest : List Char // rest.length < text.length }

/-- The character with a code of `count` hexadecimal digits, which has to be a Unicode scalar
value.
-/
def codedChar? (count : Nat) (text : List Char) : Option Char :=
  let digits := text.take count
  let code := Text.numeral 16 digits
  if digits.length = count ∧ digits.all (Text.isDigit 16) ∧ code.isValidChar then
    some (Char.ofNat code)
  else none

/-- The character that one letter after a backslash stands for. -/
def shortEscape? : Char → Option Char
  | 'b' => some '\x08'
  | 't' => some '\t'
  | 'n' => some '\n'
  | 'f' => some '\x0C'
  | 'r' => some '\r'
  | 'e' => some '\x1B'
  | '"' => some '"'
  | '\\' => some '\\'
  | _ => none

/-- The number of hexadecimal digits after a letter that announces a code. -/
def codeLength? : Char → Option Nat
  | 'x' => some 2
  | 'u' => some 4
  | 'U' => some 8
  | _ => none

/-- What is dropped after a letter leaves less than the letter and what followed it. -/
theorem length_drop_lt (letter : Char) (rest : List Char) (count : Nat)
    : (rest.drop count).length < (letter :: rest).length := by
  simp only [List.length_drop, List.length_cons]
  omega

/-- The character of an escape, given the text after its backslash. -/
def escape : (text : List Char) → Except Fault (Char × Shorter text)
  | [] => .error (.expected "an escape")
  | letter :: rest =>
      match codeLength? letter with
      | some count =>
          match codedChar? count rest with
          | some char => .ok (char, ⟨rest.drop count, length_drop_lt letter rest count⟩)
          | none => .error (.expected "the code of a character")
      | none =>
          match shortEscape? letter with
          | some char => .ok (char, ⟨rest, Nat.lt_succ_self _⟩)
          | none => .error (.expected "an escape")

/-- What is left of a text after blanks and line ends. -/
def skipSpace : List Char → List Char
  | '\n' :: rest => skipSpace rest
  | '\r' :: '\n' :: rest => skipSpace rest
  | char :: rest => if isBlank char then skipSpace rest else char :: rest
  | [] => []

theorem length_skipSpace_le (text : List Char) : (skipSpace text).length ≤ text.length := by
  fun_induction skipSpace text with
  | case1 rest ih => exact Nat.le_succ_of_le ih
  | case2 rest ih => exact Nat.le_succ_of_le (Nat.le_succ_of_le ih)
  | case3 char rest _ _ _ ih => exact Nat.le_succ_of_le ih
  | case4 => exact Nat.le_refl _
  | case5 => exact Nat.le_refl _

/-- The rest of a text after a line that ends in a backslash: blanks and line ends are passed over,
and there has to be a line end among the first of them.
-/
def continuation? (text : List Char) : Option (List Char) :=
  match text.dropWhile isBlank with
  | '\n' :: rest | '\r' :: '\n' :: rest => some (skipSpace rest)
  | _ => none

/-- A continuation is no longer than the text. -/
theorem length_continuation?_le {text rest : List Char} (h : continuation? text = some rest)
    : rest.length ≤ text.length := by
  have first : (text.dropWhile isBlank).length ≤ text.length :=
    (List.dropWhile_suffix isBlank).length_le
  unfold continuation? at h
  split at h
  next later hd =>
    have second := length_skipSpace_le later
    rw [hd] at first
    simp only [Option.some.injEq] at h
    subst h
    simp only [List.length_cons] at first
    omega
  next later hd =>
    have second := length_skipSpace_le later
    rw [hd] at first
    simp only [Option.some.injEq] at h
    subst h
    simp only [List.length_cons] at first
    omega
  next => contradiction

/-- A string that is closed, given its characters in reverse, and what follows it. -/
abbrev Closed := String × List Char

def close (taken rest : List Char) : Except Fault Closed := .ok (String.ofList taken.reverse, rest)

/-- Takes the rest of a string in double quotes, of which some characters are taken already. -/
def basicBody (taken : List Char) : List Char → Except Fault Closed
  | [] => .error (.expected "a closing quote")
  | '"' :: rest => close taken rest
  | '\\' :: rest =>
      match escape rest with
      | .error fault => .error fault
      | .ok (char, ⟨rest, _⟩) => basicBody (char :: taken) rest
  | char :: rest =>
      if isPlain char then basicBody (char :: taken) rest
      else .error (.expected "a character of a string")
termination_by text => text.length

/-- Takes the rest of a string in single quotes, of which some characters are taken already. -/
def literalBody (taken : List Char) : List Char → Except Fault Closed
  | [] => .error (.expected "a closing quote")
  | '\'' :: rest => close taken rest
  | char :: rest =>
      if isPlain char then literalBody (char :: taken) rest
      else .error (.expected "a character of a string")

/-- Splits a text at three quotes, which one or two quotes of the content may precede. -/
def closing? (quote : Char) (text : List Char) : Option (List Char × List Char) :=
  let quotes := ((text.take 5).takeWhile (· == quote)).length
  if 3 ≤ quotes then some (text.take (quotes - 3), text.drop quotes) else none

/-- Takes the rest of a string of several lines, of which some characters are taken already.
Escapes count where the quote is double.
-/
def multilineBody (quote : Char) (taken : List Char) : List Char → Except Fault Closed
  | [] => .error (.expected "three closing quotes")
  | char :: rest =>
      match closing? quote (char :: rest) with
      | some (quotes, rest) => close (quotes ++ taken) rest
      | none =>
          if char = '\\' ∧ quote = '"' then
            match _h : continuation? rest with
            | some later => multilineBody quote taken later
            | none =>
                match escape rest with
                | .error fault => .error fault
                | .ok (char, ⟨rest, _⟩) => multilineBody quote (char :: taken) rest
          else if isPlain char ∨ char = '\n' ∨ (char = '\r' ∧ rest.head? = some '\n') then
            multilineBody quote (char :: taken) rest
          else .error (.expected "a character of a string")
termination_by text => text.length
decreasing_by
  · have := length_continuation?_le ‹_›
    simp only [List.length_cons]
    omega
  · simp only [List.length_cons]
    omega
  · exact Nat.lt_succ_self _

/-- A line end directly after three opening quotes does not belong to the string. -/
def dropLineEnd : List Char → List Char
  | '\n' :: rest => rest
  | '\r' :: '\n' :: rest => rest
  | text => text

/-- Takes a string of one line, if a quote comes next. -/
def quotedLine? : Scanner (Option String) := fun text =>
  let result (body : Except Fault Closed) := body.map fun (text, rest) => (some text, rest)
  match text with
  | '"' :: rest => result (basicBody [] rest)
  | '\'' :: rest => result (literalBody [] rest)
  | _ => .ok (none, text)

/-- Takes a string of one or several lines, if a quote comes next. -/
def quoted? : Scanner (Option String) := fun text =>
  let result (body : Except Fault Closed) := body.map fun (text, rest) => (some text, rest)
  match text with
  | '"' :: '"' :: '"' :: rest => result (multilineBody '"' [] (dropLineEnd rest))
  | '\'' :: '\'' :: '\'' :: rest => result (multilineBody '\'' [] (dropLineEnd rest))
  | _ => quotedLine? text

end InverseQuery.Toml
