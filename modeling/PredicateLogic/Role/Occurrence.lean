import PredicateLogic.Formula.Basic
import PredicateLogic.Role.Basic

/-!
# Occurrences of identifiers

The occurrences of a formula are its symbols and the heads of its calls, in
reading order, a call before its arguments. Each occurrence has the role that
its position gives it, and knows whether it lies inside a quantifier that binds
it.
-/

namespace PredicateLogic

/-- An identifier at one place of a formula. -/
structure Occurrence where
  identifier : String
  /-- The role that the position calls for. -/
  role : Role
  /-- Whether an enclosing quantifier binds the identifier. -/
  isBound : Bool
  /-- The symbol, or the whole call. -/
  span : Span
deriving DecidableEq, Repr

/-- Where a formula stands: by itself, or directly as an argument of a call. -/
inductive Position where
  | formula
  | term
deriving DecidableEq, Repr

/-- The role of a call: a predicate makes a formula, a function makes a term. -/
def Position.callRole (arity : Nat) : Position → Role
  | .formula => .predicate arity
  | .term => .function arity

namespace Formula

mutual

/-- The occurrences in a formula at the given position, below quantifiers that
bind `binders`. -/
def occurrences (binders : List String) (position : Position) :
    Formula → List Occurrence
  | .symbol n s => [⟨n, .constant, binders.contains n, s⟩]
  | .negation a _ => a.occurrences binders .formula
  | .binary _ a b _ =>
    a.occurrences binders .formula ++ b.occurrences binders .formula
  | .quantified _ x a _ => a.occurrences (x :: binders) .formula
  | .call n as s =>
    ⟨n, position.callRole as.length, binders.contains n, s⟩ ::
      argumentOccurrences binders as

/-- The occurrences in the arguments of a call. -/
def argumentOccurrences (binders : List String) : List Formula → List Occurrence
  | [] => []
  | a :: as => a.occurrences binders .term ++ argumentOccurrences binders as

end

mutual

/-- The variables of the quantifiers in a formula, in reading order. -/
def binders : Formula → List String
  | .symbol _ _ => []
  | .negation a _ => a.binders
  | .binary _ a b _ => a.binders ++ b.binders
  | .quantified _ x a _ => x :: a.binders
  | .call _ as _ => bindersAll as

/-- The variables of the quantifiers in a list of formulas. -/
def bindersAll : List Formula → List String
  | [] => []
  | a :: as => a.binders ++ bindersAll as

end

end Formula

end PredicateLogic
