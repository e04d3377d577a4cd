import PredicateLogic.Formula.Session
import PredicateLogic.Role.Analysis
import PredicateLogic.Text.Location

/-!
# Checking formulas

A text is checked by reading it as a formula and, unless that is not wanted, by
analyzing the roles of its identifiers. A rejected text can be highlighted at
the place the rejection is about.
-/

namespace PredicateLogic

/-- Why a text is rejected. -/
inductive Rejection where
  | malformed (error : SyntaxError)
  | inconsistent (error : AnalysisError)
deriving DecidableEq, Repr

namespace Rejection

/-- What is wrong, without the place. -/
def message : Rejection → String
  | .malformed e => e.message
  | .inconsistent e => e.message

/-- What is wrong and where. -/
def detail : Rejection → String
  | .malformed e => e.describe
  | .inconsistent e => e.describe

/-- The one-line account of a rejection. -/
def describe : Rejection → String
  | .malformed e => "Syntax Error: " ++ e.describe
  | .inconsistent e => "Analysis Error: " ++ e.describe

/-- The title of a rejection that is shown together with the text. -/
def title : Rejection → String
  | .malformed e => "Syntax error: " ++ e.message
  | .inconsistent e => "Analysis error: " ++ e.message

/-- The part of a text of `size` bytes to highlight: all that could not be read,
or the occurrence that is misused. -/
def highlight (size : Nat) : Rejection → Span
  | .malformed e => ⟨e.position, max size e.position⟩
  | .inconsistent e => e.span

end Rejection

/-- A formula that has passed the checks. -/
structure Checked where
  formula : Formula
  /-- The roles of its identifiers, if they have been analyzed. -/
  roles : Option RoleMap

/-- A check together with what happened on the way. -/
structure Examination where
  /-- The failed alternatives of reading, earliest first. -/
  failures : List Failure
  /-- The identifiers whose role has been recorded, earliest first. -/
  recorded : List (String × Role)
  verdict : Except Rejection Checked

/-- Checks a text, analyzing roles if asked to. -/
def examine (text : String) (analyzing : Bool) : Examination :=
  let (result, session) := (Session.ofText text).read
  let failures := session.failures.reverse
  match result with
  | .error e => ⟨failures, [], .error (.malformed e)⟩
  | .ok f =>
    if analyzing then
      let recorded := f.survey.recorded.reverse
      match f.analyze with
      | .error e => ⟨failures, recorded, .error (.inconsistent e)⟩
      | .ok roles => ⟨failures, recorded, .ok ⟨f, some roles⟩⟩
    else ⟨failures, [], .ok ⟨f, none⟩⟩

/-- The outcome of checking a text. -/
def check (text : String) (analyzing : Bool) : Except Rejection Checked :=
  (examine text analyzing).verdict

end PredicateLogic
