import InverseQuery.CommandLine.Run
import InverseQuery.Proofs.FlagGrammar
import InverseQuery.Proofs.LoadedAlike
import InverseQuery.Proofs.LoggingSettings

/-! What a run of the program prints, told from its arguments and from what its paths lead to.
A run prints the whole report on its message if settings, flag and message can all be had, and
nothing otherwise. How the program logs, and by how much a flag differs from zero, changes nothing.
-/

namespace InverseQuery

-----------------------------------------------------------------------------------------
-- What files have to hold
-----------------------------------------------------------------------------------------

/-- A file of text in UTF-8 that starts with an integer of 64 bits. -/
def PathEntry.HoldsFlag (entry : PathEntry) (flag : Int) : Prop :=
  ∃ text, entry.HoldsText text ∧ Flag.Leads text.toList flag ∧ Flag.inRange flag

theorem PathEntry.read_eq_ok_iff {entry : PathEntry} {octets : Octets}
    : entry.read = .ok octets ↔ entry = .file octets := by
  cases entry <;> simp [read]

/-- A flag is read exactly from a file that holds it. -/
theorem Flag.ofEntry_eq_ok_iff (path : String) {entry : PathEntry} {flag : Int}
    : ofEntry path entry = .ok flag ↔ entry.HoldsFlag flag := by
  constructor
  · intro h
    unfold ofEntry at h
    split at h
    next => cases h
    next octets read =>
      split at h
      next => cases h
      next text decoded =>
        split at h
        next => cases h
        next value parsed =>
          obtain rfl := Except.ok.inj h
          obtain rfl := PathEntry.read_eq_ok_iff.mp read
          obtain rfl := Text.decodeUtf8?_eq_some_iff.mp decoded
          exact ⟨text, rfl, parse?_eq_some_iff.mp parsed⟩
  · intro h
    obtain ⟨text, rfl, leads⟩ := h
    simp only [ofEntry, PathEntry.read, Text.decodeUtf8?_encodeUtf8, parse?_eq_some_iff.mpr leads]

/-- A message is read exactly from a file, and keeps of it as much as the capacity admits. -/
theorem Message.ofEntry_eq_ok_iff {capacity : Nat} (path : String) {entry : PathEntry}
    {message : Message}
    : ofEntry capacity path entry = .ok message
      ↔ ∃ octets, entry = .file octets ∧ message = .ofPrefix capacity octets := by
  have filled (octets : Octets)
      : (readFrom capacity { rest := octets }).1 = .ok (ofPrefix capacity octets) :=
    readFrom_eq octets [] capacity
  cases entry with
  | missing => simp [ofEntry, PathEntry.read]
  | unreadable cause => simp [ofEntry, PathEntry.read]
  | file octets => simp [ofEntry, PathEntry.read, filled, eq_comm]

/-- The report on a message shows nothing of its storage that is not looked at. -/
theorem Message.Alike.report_eq {first second : Message} (h : first.Alike second)
    (policy : Policy) (answerCapacity : Nat)
    : Report.ofMessage first policy answerCapacity
      = Report.ofMessage second policy answerCapacity := by
  have moved : { Request.ofMessage first (.empty answerCapacity) with message := second }
      = Request.ofMessage second (.empty answerCapacity) := by
    simp only [Request.ofMessage, h.length]
  have fresh : (Request.ofMessage first (.empty answerCapacity)).Alike
      (Request.ofMessage second (.empty answerCapacity)) :=
    moved ▸ .of_message (Request.ofMessage first (.empty answerCapacity)) h
  obtain ⟨verdict, after⟩ := fresh.handle policy EncodedName.skip
  unfold Report.ofMessage
  simp only [h.header.opcode, h.header.opcodeBits, verdict, after.agrees.notices]

-----------------------------------------------------------------------------------------
-- A run has everything that it reads, or prints nothing
-----------------------------------------------------------------------------------------

/-- What the arguments give in place of settings of the configuration file. -/
def Arguments.overrides (arguments : Arguments) : Overrides :=
  { messagePath := arguments.messagePath, logLevel := arguments.logLevel }

/-- Everything that the report of a run depends on. -/
structure RunInputs where
  settings : Settings
  flag : Int
  octets : Octets
  deriving Repr, DecidableEq

namespace RunInputs

/-- The report on as much of the message file as the settings admit, under the flag's policy. -/
def report (inputs : RunInputs) : Report :=
  .ofMessage (.ofOctets (inputs.octets.take inputs.settings.messageCapacity))
    ⟨decide (inputs.flag ≠ 0)⟩ inputs.settings.answerCapacity

/-- All inputs of a run are where its arguments say. -/
structure Supplied (reader : Settings.Reader) (files : String → PathEntry)
    (arguments : Arguments) (inputs : RunInputs)
    : Prop where
  settings
    : Settings.load (m := Id) reader files arguments.configPath arguments.overrides
      = .ok inputs.settings
  flag : (files arguments.flagPath).HoldsFlag inputs.flag
  message : files inputs.settings.messagePath = .file inputs.octets

end RunInputs

variable {reader : Settings.Reader} {files : String → PathEntry} {arguments : Arguments}

/-- Settings, flag and message are read one after the other from what the paths lead to. -/
theorem Report.ofArguments_eq (reader : Settings.Reader) (files : String → PathEntry)
    (arguments : Arguments)
    : ofArguments (m := Id) reader files arguments
      = match Settings.load (m := Id) reader files arguments.configPath arguments.overrides with
        | .error fault => .error (.settings fault)
        | .ok settings =>
            match Flag.ofEntry arguments.flagPath (files arguments.flagPath) with
            | .error fault => .error (.file fault)
            | .ok flag =>
                let path := settings.messagePath
                match Message.ofEntry settings.messageCapacity path (files path) with
                | .error fault => .error (.file fault)
                | .ok message =>
                    .ok (.ofMessage message (.ofFlag flag) settings.answerCapacity) := by
  rfl

/-- There is a report exactly if all inputs are supplied, and it is the one on them. -/
theorem Report.ofArguments_eq_ok_iff {report : Report}
    : ofArguments (m := Id) reader files arguments = .ok report
      ↔ ∃ inputs : RunInputs,
          inputs.Supplied reader files arguments ∧ inputs.report = report := by
  rw [ofArguments_eq]
  constructor
  · intro h
    split at h
    next => cases h
    next settings loaded =>
      split at h
      next => cases h
      next flag read =>
        dsimp only at h
        split at h
        next => cases h
        next message filled =>
          obtain rfl := Except.ok.inj h
          obtain ⟨octets, stands, rfl⟩ := (Message.ofEntry_eq_ok_iff _).mp filled
          have holds := (Flag.ofEntry_eq_ok_iff _).mp read
          refine ⟨⟨settings, flag, octets⟩, ⟨loaded, holds, stands⟩, ?_⟩
          exact ((Message.alike_ofPrefix octets settings.messageCapacity).report_eq _ _).symm
  · intro h
    obtain ⟨inputs, supplied, rfl⟩ := h
    have read := (Flag.ofEntry_eq_ok_iff arguments.flagPath).mpr supplied.flag
    have filled
        : Message.ofEntry inputs.settings.messageCapacity inputs.settings.messagePath
            (files inputs.settings.messagePath)
          = .ok (.ofPrefix inputs.settings.messageCapacity inputs.octets) :=
      (Message.ofEntry_eq_ok_iff _).mpr ⟨inputs.octets, supplied.message, rfl⟩
    simp only [supplied.settings, read, filled]
    exact congrArg Except.ok
      ((Message.alike_ofPrefix inputs.octets inputs.settings.messageCapacity).report_eq _ _)

-----------------------------------------------------------------------------------------
-- Runs that differ only in logging, or in how far a flag is from zero
-----------------------------------------------------------------------------------------

/-- The same file, or files with flags that are both zero or both not zero. -/
def PathEntry.FlagsAlike (first second : PathEntry) : Prop :=
  first = second
  ∨ ∃ flag flag', first.HoldsFlag flag ∧ second.HoldsFlag flag' ∧ (flag = 0 ↔ flag' = 0)

/-- Runs whose settings differ at most in the logging, whose flags switch the same way, and whose
message files are the same.
-/
structure RunsAlike (reader : Settings.Reader) (files : String → PathEntry)
    (arguments : Arguments) (files' : String → PathEntry) (arguments' : Arguments)
    : Prop where
  source
    : FailTogether Settings.SameWork
        (Settings.source (m := Id) reader files arguments.configPath)
        (Settings.source (m := Id) reader files' arguments'.configPath)
  messagePath : arguments.messagePath = arguments'.messagePath
  flags : (files arguments.flagPath).FlagsAlike (files' arguments'.flagPath)
  message
    : ∀ settings,
      Settings.load (m := Id) reader files arguments.configPath arguments.overrides
        = .ok settings
      → files settings.messagePath = files' settings.messagePath

theorem PathEntry.FlagsAlike.ofEntry {first second : PathEntry} (h : first.FlagsAlike second)
    (path path' : String)
    : FailTogether (fun flag flag' => Policy.ofFlag flag = Policy.ofFlag flag')
        (Flag.ofEntry path first) (Flag.ofEntry path' second) := by
  obtain rfl | ⟨flag, flag', holds, holds', zero⟩ := h
  · -- Only what is said about a failure tells the path.
    cases read : Flag.ofEntry path first with
    | ok flag =>
        have holds := (Flag.ofEntry_eq_ok_iff path).mp read
        rw [(Flag.ofEntry_eq_ok_iff path').mpr holds]
        exact .passed rfl
    | error fault =>
        cases read' : Flag.ofEntry path' first with
        | error fault' => exact .failed _ _
        | ok flag =>
            have holds := (Flag.ofEntry_eq_ok_iff path').mp read'
            rw [(Flag.ofEntry_eq_ok_iff path).mpr holds] at read
            cases read
  · rw [(Flag.ofEntry_eq_ok_iff path).mpr holds, (Flag.ofEntry_eq_ok_iff path').mpr holds']
    exact .passed (congrArg Policy.mk (decide_eq_decide.mpr (not_congr zero)))

/-- Runs that are alike fail together, or make the same report. -/
theorem RunsAlike.report_eq {files' : String → PathEntry} {arguments' : Arguments}
    (h : RunsAlike reader files arguments files' arguments')
    : FailTogether Eq (Report.ofArguments (m := Id) reader files arguments)
        (Report.ofArguments (m := Id) reader files' arguments') := by
  have settings
      : FailTogether Settings.SameWork
          (Settings.load (m := Id) reader files arguments.configPath arguments.overrides)
          (Settings.load (m := Id) reader files' arguments'.configPath arguments'.overrides) :=
    Settings.load_alike h.source h.messagePath
  have flags := h.flags.ofEntry arguments.flagPath arguments'.flagPath
  rw [Report.ofArguments_eq, Report.ofArguments_eq]
  generalize loaded : Settings.load (m := Id) reader files _ _ = one,
    Settings.load (m := Id) reader files' _ _ = other at settings
  cases settings with
  | failed => exact .failed _ _
  | @passed first second same =>
      dsimp only
      generalize Flag.ofEntry _ (files _) = one, Flag.ofEntry _ (files' _) = other at flags
      cases flags with
      | failed => exact .failed _ _
      | passed policy =>
          have message : files second.messagePath = files' second.messagePath :=
            same.messagePath ▸ h.message first loaded
          simp only [same.messageCapacity, same.messagePath, same.answerCapacity, policy, message]
          exact .of_refl _ Eq.refl

-----------------------------------------------------------------------------------------
-- How a run ends
-----------------------------------------------------------------------------------------

namespace RunOutcome

/-- A run on an accepted command line ends with what becomes of its report. -/
theorem ofArguments_eq {words : List String}
    (parsed : Arguments.parse words = .ok (.run arguments))
    : ofArguments (m := Id) reader files words
      = .ofReport (Report.ofArguments (m := Id) reader files arguments) := by
  unfold ofArguments
  rw [parsed]
  rfl

theorem exitCode_ofReport_iff {result : Except RunFault Report}
    : (ofReport result).exitCode = 0 ↔ ∃ report, result = .ok report := by
  cases result <;> simp [ofReport]

/-- A run that fails prints nothing. -/
theorem silent_of_exitCode {result : Except RunFault Report}
    (failed : (ofReport result).exitCode ≠ 0)
    : (ofReport result).exitCode = 1 ∧ (ofReport result).output = [] := by
  cases result with
  | ok report => exact absurd rfl failed
  | error fault => exact ⟨rfl, rfl⟩

end RunOutcome

/-- On an accepted command line a run succeeds exactly if settings, flag and message can all be
had. It then prints the whole report on them, and otherwise nothing. Runs that are alike end with
the same exit code and the same lines. Their settings are alike if they come from files that give
settings which differ only in the logging, as documents do that differ only in the values of these
settings.
-/
theorem run_allOrNothing (reader : Settings.Reader) (files : String → PathEntry)
    {words : List String} (parsed : Arguments.parse words = .ok (.run arguments))
    : let outcome : RunOutcome := RunOutcome.ofArguments (m := Id) reader files words
      (outcome.exitCode = 0 ↔ ∃ inputs : RunInputs, inputs.Supplied reader files arguments)
      ∧ (∀ inputs : RunInputs,
        inputs.Supplied reader files arguments → outcome.output = inputs.report.lines)
      ∧ ((∀ inputs : RunInputs, ¬ inputs.Supplied reader files arguments)
        → outcome.exitCode = 1 ∧ outcome.output = [])
      ∧ (∀ files' words' arguments',
        Arguments.parse words' = .ok (.run arguments')
        → RunsAlike reader files arguments files' arguments'
        → let outcome' : RunOutcome := RunOutcome.ofArguments (m := Id) reader files' words'
          outcome'.exitCode = outcome.exitCode ∧ outcome'.output = outcome.output)
      ∧ (∀ files' path,
        (files (path.getD Settings.usualPath)).ConfigurationsAlike reader
          (files' (path.getD Settings.usualPath))
        → FailTogether Settings.SameWork (Settings.source (m := Id) reader files path)
            (Settings.source (m := Id) reader files' path))
      ∧ ∀ text text',
        FileSettings.DocumentsAlike text text'
        → FailTogether FileSettings.SameWork (FileSettings.read text)
            (FileSettings.read text') := by
  intro outcome
  have ends : outcome = .ofReport (Report.ofArguments (m := Id) reader files arguments) :=
    RunOutcome.ofArguments_eq parsed
  have succeeds
      : outcome.exitCode = 0
        ↔ ∃ inputs : RunInputs, inputs.Supplied reader files arguments := by
    rw [ends, RunOutcome.exitCode_ofReport_iff]
    constructor
    · rintro ⟨report, made⟩
      obtain ⟨inputs, supplied, _⟩ := Report.ofArguments_eq_ok_iff.mp made
      exact ⟨inputs, supplied⟩
    · rintro ⟨inputs, supplied⟩
      exact ⟨inputs.report, Report.ofArguments_eq_ok_iff.mpr ⟨inputs, supplied, rfl⟩⟩
  refine ⟨succeeds, ?prints, ?fails, ?alike, fun _ _ alike => Settings.source_alike alike,
    fun _ _ alike => FileSettings.read_alike alike⟩
  case prints =>
    intro inputs supplied
    rw [ends, Report.ofArguments_eq_ok_iff.mpr ⟨inputs, supplied, rfl⟩]
    rfl
  case fails =>
    intro lacking
    have failed : outcome.exitCode ≠ 0 := fun success =>
      let ⟨inputs, supplied⟩ := succeeds.mp success
      lacking inputs supplied
    rw [ends] at failed ⊢
    exact RunOutcome.silent_of_exitCode failed
  case alike =>
    intro files' words' arguments' parsed' alike outcome'
    have ends' : outcome' = .ofReport (Report.ofArguments (m := Id) reader files' arguments') :=
      RunOutcome.ofArguments_eq parsed'
    have reports := alike.report_eq
    rw [ends, ends']
    generalize Report.ofArguments (m := Id) reader files arguments = made,
      Report.ofArguments (m := Id) reader files' arguments' = made' at reports
    cases reports with
    | failed => exact ⟨rfl, rfl⟩
    | passed same => exact same ▸ ⟨rfl, rfl⟩

/-- Files in which the settings admit one octet less than the message has. -/
def sampleFiles (level flag : String) : String → PathEntry
  | "iquery.toml" =>
      .file (Text.encodeUtf8
        ("[parser]\nmessage_capacity = 23\n[logging]\nlevel = \"" ++ level ++ "\""))
  | "on" => .file (Text.encodeUtf8 flag)
  | "iquery-file" =>
      .file [0, 1, 8, 0, 0, 0, 0, 1, 0, 0, 0, 0, 0, 0, 1, 0, 1, 0, 0, 0, 0, 0, 0, 7]
  | _ => .missing

/-- Two runs that report on the message without its last octet, one with a quieter log and with a
negative flag.
-/
theorem run_allOrNothing_quieter_and_negative
    : let first : RunOutcome :=
        RunOutcome.ofArguments (m := Id) FileSettings.read (sampleFiles "debug" "1 on") ["on"]
      let second : RunOutcome :=
        RunOutcome.ofArguments (m := Id) FileSettings.read (sampleFiles "off" "-7")
          ["--log-level=warn", "on"]
      first.exitCode = 0
      ∧ first.output
        = [
          "opcode = 1",
          "req: IQuery class 1 type 1",
          "Copying 1 bytes from fname to anbuf which can store 2 bytes"
        ]
      ∧ second.exitCode = 0
      ∧ second.output = first.output := by
  intro first second
  let inputs : RunInputs :=
    { settings := { messageCapacity := 23, logLevel := "debug" }
      flag := 1
      octets := [0, 1, 8, 0, 0, 0, 0, 1, 0, 0, 0, 0, 0, 0, 1, 0, 1, 0, 0, 0, 0, 0, 0, 7] }
  have parsed : Arguments.parse ["on"] = .ok (.run { flagPath := "on" }) :=
    eq_ok_of_toOption (by decide +kernel)
  have parsed'
      : Arguments.parse ["--log-level=warn", "on"]
        = .ok (.run { flagPath := "on", logLevel := some "warn" }) :=
    eq_ok_of_toOption (by decide +kernel)
  let text (level : String) : String :=
    "[parser]\nmessage_capacity = 23\n[logging]\nlevel = \"" ++ level ++ "\""
  let file (level : String) : FileSettings :=
    { messageCapacity := some 23, logLevel := some level }
  have read : FileSettings.read (text "debug") = .ok (file "debug") :=
    eq_ok_of_toOption (by decide +kernel)
  have read' : FileSettings.read (text "off") = .ok (file "off") :=
    eq_ok_of_toOption (by decide +kernel)
  have loaded
      : Settings.load (m := Id) FileSettings.read (sampleFiles "debug" "1 on") none {}
        = .ok inputs.settings :=
    eq_ok_of_toOption (by decide +kernel)
  have flag : (sampleFiles "debug" "1 on" "on").HoldsFlag 1 :=
    (Flag.ofEntry_eq_ok_iff "on").mp (eq_ok_of_toOption (by decide +kernel))
  have flag' : (sampleFiles "off" "-7" "on").HoldsFlag (-7) :=
    (Flag.ofEntry_eq_ok_iff "on").mp (eq_ok_of_toOption (by decide +kernel))
  have supplied
      : inputs.Supplied FileSettings.read (sampleFiles "debug" "1 on") { flagPath := "on" } :=
    ⟨loaded, flag, rfl⟩
  have configurations
      : (sampleFiles "debug" "1 on" "iquery.toml").ConfigurationsAlike FileSettings.read
          (sampleFiles "off" "-7" "iquery.toml") := by
    refine .inr ⟨text "debug", text "off", rfl, rfl, ?_⟩
    rw [read, read']
    exact .passed ⟨rfl, rfl, rfl⟩
  obtain ⟨succeeds, prints, _, alikes, sources, _⟩ :=
    run_allOrNothing FileSettings.read (sampleFiles "debug" "1 on") parsed
  have alike
      : RunsAlike FileSettings.read (sampleFiles "debug" "1 on") { flagPath := "on" }
          (sampleFiles "off" "-7") { flagPath := "on", logLevel := some "warn" } := {
    source := sources _ none configurations
    messagePath := rfl
    flags := .inr ⟨1, -7, flag, flag', by decide⟩
    message := fun settings other => by
      obtain rfl := Except.ok.inj (loaded.symm.trans other)
      rfl
  }
  obtain ⟨exit, output⟩ := alikes _ _ _ parsed' alike
  have success := succeeds.mpr ⟨inputs, supplied⟩
  exact ⟨success, (prints inputs supplied).trans (by decide +kernel), exit.trans success, output⟩

end InverseQuery
