/-! Why the files that hold the flag and the message cannot be used. -/

namespace InverseQuery

/-- Why a file that the program depends on cannot be used. -/
inductive FileFault where
  | flagUnreadable (path cause : String)
  | flagMissing (path : String)
  | messageUnreadable (path cause : String)
  deriving Repr, DecidableEq

def FileFault.message : FileFault → String
  | flagUnreadable path cause => "Failed to read flag file " ++ path ++ ": " ++ cause
  | flagMissing path => "Flag file " ++ path ++ " does not start with a decimal integer"
  | messageUnreadable path cause => "Failed to read message file " ++ path ++ ": " ++ cause

end InverseQuery
