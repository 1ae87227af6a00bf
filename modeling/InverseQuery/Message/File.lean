import InverseQuery.File.Entry
import InverseQuery.File.Fault
import InverseQuery.Message.Source

/-! The message in a file, read up to a capacity. -/

namespace InverseQuery

def Message.ofEntry (capacity : Nat) (path : String) (entry : PathEntry)
    : Except FileFault Message :=
  match entry.read with
  | .error cause => .error (.messageUnreadable path cause)
  | .ok octets =>
      match (Message.readFrom capacity { rest := octets }).1 with
      | .error failure => .error (.messageUnreadable path failure.message)
      | .ok message => .ok message

end InverseQuery
