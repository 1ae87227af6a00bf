import InverseQuery.File.Directory
import InverseQuery.Main
import InverseQuery.Request.Session
import InverseQuery.Proofs.FirstHandling
import InverseQuery.Proofs.HandlingFrame
import InverseQuery.Proofs.RepeatedHandling
import InverseQuery.Proofs.LoadedAlike
import InverseQuery.Proofs.PrefixFreedom
import InverseQuery.Proofs.Noninterference
import InverseQuery.Proofs.LongRuns
import InverseQuery.Proofs.SessionInvariant
import InverseQuery.Proofs.NameWalk
import InverseQuery.Proofs.ExactBounds
import InverseQuery.Proofs.FlagGrammar
import InverseQuery.Proofs.LoggingSettings
import InverseQuery.Proofs.ProgramRun
import InverseQuery.Proofs.FaultySources
import InverseQuery.Proofs.CopyGates
import InverseQuery.Proofs.FlagParsing
import InverseQuery.Proofs.ReportLines
import InverseQuery.Proofs.AnswerRuns
import InverseQuery.Proofs.CursorRuns
import InverseQuery.Proofs.SettingsPrecedence
import InverseQuery.Proofs.Spellings
