import PredicateLogic.Formula.Basic
import PredicateLogic.Text.Place

/-!
# Readings

A reading is what came of trying to read something at a place. Besides the thing
read and the place behind it, a reading lists every alternative that failed on
the way, also those that a later alternative made up for, and remembers where
nesting first went beyond the bound.

A reading does not depend on earlier ones. Readings in a row are put together
with `Reading.followedBy`, which keeps the failures of both in order.
-/

namespace PredicateLogic

/-- What was missing where reading failed. -/
inductive Complaint where
  | formula
  | endOfInput
  | rightOperand
  | operand
  | closingParenthesis
  | identifier
  | boundVariable
  | constantOrVariable
  /-- The text was not missing anything but is nested beyond the bound. -/
  | tooDeep
deriving DecidableEq, Repr

/-- The wording of a complaint. -/
def Complaint.message : Complaint → String
  | .formula => "Expected formula"
  | .endOfInput => "Expected end of input"
  | .rightOperand => "Expected right operand"
  | .operand => "Expected operand"
  | .closingParenthesis => "Expected closing parenthesis"
  | .identifier => "Expected identifier"
  | .boundVariable => "Expected variable"
  | .constantOrVariable => "Expected constant or variable"
  | .tooDeep => "Formula nested too deeply"

/-- A complaint and the offset it refers to. -/
structure Failure where
  /-- What was missing. -/
  complaint : Complaint
  /-- The offset at which it was missing. -/
  position : Nat
deriving DecidableEq, Repr

/-- What came of trying to read an `α`. -/
structure Reading (α : Type) where
  /-- The thing read and the place behind it. -/
  outcome : Option (α × Place)
  /-- The failures on the way, latest first. -/
  failures : List Failure
  /-- The offset at which nesting first went beyond the bound. -/
  tooDeep : Option Nat

/-- A way of reading an `α` at any place. -/
abbrev Reader (α : Type) := Place → Reading α

namespace Reading

variable {α β : Type}

/-- Something was read, and reading goes on at `p`. -/
def success (a : α) (p : Place) : Reading α :=
  ⟨some (a, p), [], none⟩

/-- Nothing was read at `p`. -/
def failure (complaint : Complaint) (p : Place) : Reading α :=
  ⟨none, [⟨complaint, p.offset⟩], none⟩

/-- The bound on nesting forbids to read on at an offset. -/
def refusal (offset : Nat) : Reading α :=
  ⟨none, [], some offset⟩

/-- The outcome of the second reading, with the failures of both. -/
def followedBy (first : Reading α) (second : Reading β) : Reading β :=
  ⟨second.outcome, second.failures ++ first.failures,
    first.tooDeep.or second.tooDeep⟩

@[simp] theorem success_outcome (a : α) (p : Place) :
    (success a p).outcome = some (a, p) := rfl

@[simp] theorem success_tooDeep (a : α) (p : Place) :
    (success a p).tooDeep = none := rfl

@[simp] theorem failure_outcome (complaint : Complaint) (p : Place) :
    (failure complaint p : Reading α).outcome = none := rfl

@[simp] theorem failure_tooDeep (complaint : Complaint) (p : Place) :
    (failure complaint p : Reading α).tooDeep = none := rfl

@[simp] theorem refusal_outcome (offset : Nat) :
    (refusal offset : Reading α).outcome = none := rfl

@[simp] theorem refusal_tooDeep (offset : Nat) :
    (refusal offset : Reading α).tooDeep = some offset := rfl

@[simp] theorem followedBy_outcome (first : Reading α) (second : Reading β) :
    (first.followedBy second).outcome = second.outcome := rfl

@[simp] theorem followedBy_tooDeep (first : Reading α) (second : Reading β) :
    (first.followedBy second).tooDeep = first.tooDeep.or second.tooDeep := rfl

end Reading

end PredicateLogic
