/-! The arguments of the command line.
Options may stand before and after the path of the flag file, in a short and a long form, with the
value of an option attached to it or as the next argument. Arguments are read from left to right,
and the first one that cannot be accepted, or that asks for the version, decides.
-/

namespace InverseQuery

/-- What the command line says about a run. -/
structure Arguments where
  flagPath : String
  messagePath : Option String := none
  configPath : Option String := none
  logLevel : Option String := none
  deriving Repr, DecidableEq

/-- What the command line asks for. -/
inductive Invocation where
  | version
  | run (arguments : Arguments)
  deriving Repr, DecidableEq

/-- Why a command line cannot be accepted. -/
inductive UsageFault where
  | unknownOption (argument : String)
  | missingValue (argument : String)
  | unwantedValue (argument : String)
  | repeatedOption (argument : String)
  | extraArgument (argument : String)
  | missingFlagPath
  deriving Repr, DecidableEq

def UsageFault.message : UsageFault → String
  | unknownOption argument => "unknown option " ++ argument
  | missingValue argument => "missing value for " ++ argument
  | unwantedValue argument => "unwanted value in " ++ argument
  | repeatedOption argument => "repeated option " ++ argument
  | extraArgument argument => "unexpected argument " ++ argument
  | missingFlagPath => "missing path of the flag file"

namespace Arguments

/-- The options that take a value. -/
inductive ValueOption where
  | message
  | config
  | logLevel
  deriving Repr, DecidableEq

/-- What an argument by itself says. -/
inductive Word where
  /-- The path of the flag file. -/
  | path
  /-- All arguments after this one are paths. -/
  | endOfOptions
  | version
  /-- An option, with its value where that is attached. -/
  | option (option : ValueOption) (value : Option String)
  | unacceptable (fault : UsageFault)
  deriving Repr, DecidableEq

/-- The word that a long option makes, given its name and the value attached to it. -/
def longWord (argument name : String) (value : Option String) : Word :=
  match name with
  | "message" => .option .message value
  | "config" => .option .config value
  | "log-level" => .option .logLevel value
  | "version" => if value.isSome then .unacceptable (.unwantedValue argument) else .version
  | _ => .unacceptable (.unknownOption argument)

/-- The value attached to a short option, given the characters after its letter. -/
def attachedValue? : List Char → Option String
  | [] => none
  | '=' :: value => some (String.ofList value)
  | value => some (String.ofList value)

/-- What an argument says where options are accepted. A single hyphen is a path. -/
def Word.ofArgument (argument : String) : Word :=
  match argument.toList with
  | ['-', '-'] => .endOfOptions
  | '-' :: '-' :: long =>
      let name := String.ofList (long.takeWhile (· != '='))
      match long.dropWhile (· != '=') with
      | [] => longWord argument name none
      | _ :: value => longWord argument name (some (String.ofList value))
  | '-' :: letter :: rest =>
      match letter with
      | 'm' => .option .message (attachedValue? rest)
      | 'c' => .option .config (attachedValue? rest)
      | 'V' => .version
      | _ => .unacceptable (.unknownOption argument)
  | _ => .path

/-- What is known of the arguments while they are read. -/
structure Draft where
  flagPath : Option String := none
  messagePath : Option String := none
  configPath : Option String := none
  logLevel : Option String := none

namespace Draft

/-- Takes an argument for the path of the flag file, of which there is one. -/
def addPath (draft : Draft) (argument : String) : Except UsageFault Draft :=
  match draft.flagPath with
  | none => .ok { draft with flagPath := some argument }
  | some _ => .error (.extraArgument argument)

def get? (draft : Draft) : ValueOption → Option String
  | .message => draft.messagePath
  | .config => draft.configPath
  | .logLevel => draft.logLevel

/-- Sets the value of an option, which may be given once. -/
def set (draft : Draft) (argument : String) (option : ValueOption) (value : String)
    : Except UsageFault Draft :=
  if (draft.get? option).isSome then .error (.repeatedOption argument)
  else
    match option with
    | .message => .ok { draft with messagePath := some value }
    | .config => .ok { draft with configPath := some value }
    | .logLevel => .ok { draft with logLevel := some value }

/-- The arguments of a whole command line, which has to name the flag file. -/
def finish (draft : Draft) : Except UsageFault Invocation :=
  match draft.flagPath with
  | none => .error .missingFlagPath
  | some flagPath =>
      .ok (.run
        { flagPath, messagePath := draft.messagePath, configPath := draft.configPath,
          logLevel := draft.logLevel })

/-- Reads arguments where options are accepted. -/
def read (draft : Draft) : List String → Except UsageFault Invocation
  | [] => draft.finish
  | argument :: rest =>
      match Word.ofArgument argument with
      | .path => do (← draft.addPath argument).read rest
      | .endOfOptions => do (← rest.foldlM addPath draft).finish
      | .version => .ok .version
      | .unacceptable fault => .error fault
      | .option option (some value) => do (← draft.set argument option value).read rest
      -- A value of its own may be a single hyphen, but may not look like an option.
      | .option option none =>
          match rest with
          | [] => .error (.missingValue argument)
          | value :: rest =>
              if Word.ofArgument value = .path then do
                (← draft.set argument option value).read rest
              else .error (.missingValue argument)

end Draft

def parse (arguments : List String) : Except UsageFault Invocation := Draft.read {} arguments

end Arguments

end InverseQuery
