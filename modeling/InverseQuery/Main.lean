import InverseQuery.CommandLine.Run
import InverseQuery.Settings.Document

/-! The program: it looks up paths in the file system, prints what a run prints, and exits. Its
configuration files are TOML documents.
-/

namespace InverseQuery

/-- What stands at a path of the file system. -/
def PathEntry.ofFileSystem (path : String) : IO PathEntry := do
  try
    return .file (← IO.FS.readBinFile path).data.toList
  catch
    | .noFileOrDirectory .. => return .missing
    | fault => return .unreadable (toString fault)

end InverseQuery

open InverseQuery in
/-- Runs the program with the arguments of its command line. -/
def main (arguments : List String) : IO UInt32 := do
  let outcome ← RunOutcome.ofArguments FileSettings.read PathEntry.ofFileSystem arguments
  for line in outcome.output do IO.println line
  if let some complaint := outcome.complaint then IO.eprintln complaint
  return outcome.exitCode
