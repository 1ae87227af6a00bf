import InverseQuery.Toml.Value

/-! Putting values into tables along paths of keys.
A path makes the tables that are missing on its way. It may pass through tables that a header
opened only if it stands in a header itself, through the last table of an array of tables, and
never through a table in braces.
-/

namespace InverseQuery.Toml

/-- A change of the entries of a table, which may depend on how the table came into being. -/
abbrev TableChange := TableKind → Entries → Except Fault Entries

/-- Changes the table at the end of a path. Tables that the path makes are of kind `made`. -/
def alter (made : TableKind) (change : TableChange) : List String → TableChange
  | [], kind, entries => change kind entries
  | key :: path, _, entries =>
      match entries.get? key with
      | none => do
          let inner ← alter made change path made []
          return (key, .table made inner) :: entries
      | some (.table kind inner) =>
          if kind = .inline ∨ (kind = .opened ∧ made = .dotted) then .error (.notExtensible key)
          else do
            let inner ← alter made change path kind inner
            return entries.replace key (.table kind inner)
      -- The array of a header is extended in its last table.
      | some (.array true (.table kind inner :: earlier)) => do
          let inner ← alter made change path kind inner
          return entries.replace key (.array true (.table kind inner :: earlier))
      | some _ => .error (.notExtensible key)

/-- Adds a key that is not there yet. -/
def addEntry (key : String) (value : Value) : TableChange := fun _ entries =>
  match entries.get? key with
  | none => .ok ((key, value) :: entries)
  | some _ => .error (.duplicateKey key)

/-- Sets a value at the end of a dotted key. The last table on the way has to be one that dotted
keys made, or the table itself where the key has no dots.
-/
def setValue (path : List String) (key : String) (value : Value) : TableChange :=
  alter .dotted
    (fun kind entries =>
      if (kind == .dotted) == path.isEmpty then .error (.notExtensible key)
      else addEntry key value kind entries)
    path

/-- Opens the table of a header, which only headers of tables below it may have named before. -/
def openTable (path : List String) (key : String) : TableChange :=
  alter .implied
    (fun kind entries =>
      match entries.get? key with
      | some (.table .implied inner) => .ok (entries.replace key (.table .opened inner))
      | _ => addEntry key (.table .opened []) kind entries)
    path

/-- Adds a table to the array of a header in double brackets. -/
def appendTable (path : List String) (key : String) : TableChange :=
  alter .implied
    (fun kind entries =>
      match entries.get? key with
      | some (.array true items) =>
          .ok (entries.replace key (.array true (.table .opened [] :: items)))
      | _ => addEntry key (.array true [.table .opened []]) kind entries)
    path

end InverseQuery.Toml
