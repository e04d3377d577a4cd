import PredicateLogic.Formula.Basic

/-!
# Truth values of formulas

The atoms of a formula are its symbols and its calls. A propositional formula
has a truth value under every assignment of truth values to its atoms; a
quantifier or a call with arguments has none.
-/

namespace PredicateLogic

/-- Why a formula has no truth value under an assignment. -/
inductive EvaluationError where
  /-- There is not exactly one value for each term. -/
  | lengthMismatch (terms values : Nat)
  /-- There is a quantifier or a call with arguments. -/
  | notPropositional
  /-- An atom has no value. -/
  | unassigned (identifier : String)
deriving DecidableEq, Repr

/-- The wording of an evaluation error. -/
def EvaluationError.message : EvaluationError → String
  | .lengthMismatch _ _ => "one value per term"
  | .notPropositional => "cannot evaluate a non-propositional formula"
  | .unassigned identifier => s!"no value assigned to '{identifier}'"

namespace Formula

/-- The identifiers of the atoms, in reading order. The arguments of a call are
not looked into. -/
def atoms : Formula → List String
  | .symbol n _ => [n]
  | .negation a _ => a.atoms
  | .binary _ a b _ => a.atoms ++ b.atoms
  | .quantified _ _ a _ => a.atoms
  | .call n _ _ => [n]

/-- The identifiers of the atoms, each once, in the order of their first
atoms. -/
def terms (f : Formula) : List String :=
  f.atoms.eraseDups

/-- The truth value of an identifier, the first of several. -/
def valueOf (assignment : List (String × Bool)) (identifier : String) :
    Except EvaluationError Bool :=
  match assignment.lookup identifier with
  | some value => .ok value
  | none => .error (.unassigned identifier)

/-- The truth value under an assignment. Of several errors the first one in
reading order counts, since both sides of a connective are always evaluated. -/
def truth (assignment : List (String × Bool)) :
    Formula → Except EvaluationError Bool
  | .symbol n _ => valueOf assignment n
  | .negation a _ => do
    let value ← a.truth assignment
    pure (!value)
  | .binary op a b _ => do
    let left ← a.truth assignment
    let right ← b.truth assignment
    pure (op.apply left right)
  | .quantified _ _ _ _ => .error .notPropositional
  | .call n [] _ => valueOf assignment n
  | .call _ (_ :: _) _ => .error .notPropositional

/-- The truth value when the terms have the given values in turn. -/
def evaluate (f : Formula) (terms : List String) (values : List Bool) :
    Except EvaluationError Bool :=
  if terms.length = values.length then f.truth (terms.zip values)
  else .error (.lengthMismatch terms.length values.length)

end Formula

end PredicateLogic
