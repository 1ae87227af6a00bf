import InverseQuery.CommandLine.Arguments
import InverseQuery.Flag
import InverseQuery.Message.File
import InverseQuery.Report
import InverseQuery.Settings.Load

/-! A run of the program, given a reader of configuration files and a way to look up paths.
Settings, flag and message are read in this order. A run prints its whole report or, if something
cannot be read, nothing.
-/

namespace InverseQuery

/-- How a run ends: its exit code, its printed lines, and a complaint if it failed. -/
structure RunOutcome where
  exitCode : UInt32
  output : List String := []
  complaint : Option String := none
  deriving Repr, DecidableEq

/-- Why a run with acceptable arguments fails. -/
inductive RunFault where
  | settings (fault : SettingsFault)
  | file (fault : FileFault)
  deriving Repr, DecidableEq

def RunFault.message : RunFault → String
  | settings fault => fault.message
  | file fault => fault.message

namespace RunOutcome

def versionLine : String := "iquery 0.1.0"

/-- The end of a run whose arguments were accepted. -/
def ofReport : Except RunFault Report → RunOutcome
  | .ok report => { exitCode := 0, output := report.lines }
  | .error fault => { exitCode := 1, complaint := some fault.message }

end RunOutcome

/-- The report on the message that the arguments lead to. -/
def Report.ofArguments {m : Type → Type} [Monad m] (reader : Settings.Reader)
    (look : String → m PathEntry) (arguments : Arguments)
    : m (Except RunFault Report) := do
  let overrides := { messagePath := arguments.messagePath, logLevel := arguments.logLevel }
  match ← Settings.load reader look arguments.configPath overrides with
  | .error fault => return .error (.settings fault)
  | .ok settings =>
      match Flag.ofEntry arguments.flagPath (← look arguments.flagPath) with
      | .error fault => return .error (.file fault)
      | .ok flag =>
          let path := settings.messagePath
          match Message.ofEntry settings.messageCapacity path (← look path) with
          | .error fault => return .error (.file fault)
          | .ok message =>
              return .ok (Report.ofMessage message (.ofFlag flag) settings.answerCapacity)

def RunOutcome.ofArguments {m : Type → Type} [Monad m] (reader : Settings.Reader)
    (look : String → m PathEntry) (arguments : List String)
    : m RunOutcome := do
  match Arguments.parse arguments with
  | .error fault => return { exitCode := 2, complaint := some fault.message }
  | .ok .version => return { exitCode := 0, output := [versionLine] }
  | .ok (.run arguments) => return .ofReport (← Report.ofArguments reader look arguments)

end InverseQuery
