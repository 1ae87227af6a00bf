import InverseQuery.File.Entry

/-! A working directory as a value, and what the paths in it lead to. -/

namespace InverseQuery

/-- A working directory with what is known around it: the rows of names that lead from the root to
files, with their content, and to directories, with none. What was written last stands first.
-/
structure Directory where
  entries : List (List String × Option Octets)
  deriving Repr, DecidableEq

namespace Directory

/-- The row of names that leads from the root to the working directory. No path spells these names, so
that only paths without a leading slash lead there.
-/
def location : List String := ["", ""]

/-- A working directory without content. Around it there are two empty files, the null device and
the standard input of a program that is given none.
-/
def empty : Directory :=
  { entries := [(location, none), (["dev", "null"], some []), (["dev", "stdin"], some [])] }

def parts (path : String) : List String := (path.splitOn "/").filter (· != "")

/-- The row of names that the parts of a path make, from the directory at `names`. The root is its own
parent.
-/
def place (names : List String) : List String → List String
  | [] => names
  | "." :: rest => place names rest
  | ".." :: rest => place names.dropLast rest
  | name :: rest => place (names ++ [name]) rest

/-- Writes a file with some content, or makes a directory. The directories on the way are there. -/
def write (directory : Directory) (path : String) (content : Option Octets) : Directory :=
  { entries := (place location (parts path), content) :: directory.entries }

/-- What stands at a row of names below the root. -/
def entryAt (directory : Directory) (names : List String) : PathEntry :=
  let isDirectory := PathEntry.unreadable "is a directory"
  match directory.entries.lookup names with
  | some (some content) => .file content
  | some none => isDirectory
  | none =>
      if directory.entries.any fun entry => names.isPrefixOf entry.1 then isDirectory else .missing

/-- Follows the parts of a path from the directory at `names`. -/
def follow (directory : Directory) (names : List String) : List String → PathEntry
  | [] => directory.entryAt names
  | "." :: rest => directory.follow names rest
  | ".." :: rest => directory.follow names.dropLast rest
  | name :: rest =>
      let next := names ++ [name]
      -- Only a directory can be followed further.
      match directory.entryAt next, rest with
      | .unreadable _, rest => directory.follow next rest
      | .file content, [] => .file content
      | _, _ => .missing

/-- The greatest number of octets in a path. -/
def pathLimit : Nat := 4095

/-- What a path leads to. A path that is empty or too long leads nowhere, and so does one that goes on
after a file, be it with a slash.
-/
def look (directory : Directory) (path : String) : PathEntry :=
  if path.isEmpty || pathLimit < path.utf8ByteSize then .missing
  else
    match directory.follow (if path.startsWith "/" then [] else location) (parts path) with
    | .file content => if path.endsWith "/" then .missing else .file content
    | entry => entry

end Directory

end InverseQuery
