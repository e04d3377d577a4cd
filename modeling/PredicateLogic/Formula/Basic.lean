import PredicateLogic.Formula.Connective
import PredicateLogic.Text.Offset

/-!
# Formulas

A formula is a tree of symbols, applications, negations, joined and quantified
formulas. Every node knows the span of text it was read from. Two formulas are
the same when they differ at most in these spans, which `Formula.same` decides.

Height, degree and the other measures are defined by recursion on the tree, with
a companion for argument lists.
-/

namespace PredicateLogic

/-- Formulas of first-order logic, terms included: an argument may be any
formula. -/
inductive Formula where
  /-- A name that stands alone. -/
  | symbol (name : String) (span : Span)
  /-- A negated formula. -/
  | negation (operand : Formula) (span : Span)
  /-- Two formulas joined by a connective. -/
  | binary (op : Connective) (left right : Formula) (span : Span)
  /-- A formula in which a quantifier binds a variable. -/
  | quantified (quantifier : Quantifier) (binder : String) (body : Formula)
      (span : Span)
  /-- A name applied to arguments, possibly to none. -/
  | call (name : String) (arguments : List Formula) (span : Span)
deriving Repr

namespace Formula

/-- The text the formula was read from. -/
def span : Formula → Span
  | .symbol _ s | .negation _ s | .binary _ _ _ s | .quantified _ _ _ s
  | .call _ _ s => s

/-- The formulas directly below, in reading order. -/
def children : Formula → List Formula
  | .symbol _ _ => []
  | .negation a _ => [a]
  | .binary _ a b _ => [a, b]
  | .quantified _ _ a _ => [a]
  | .call _ as _ => as

/-- How tightly the formula holds together. -/
def priority : Formula → Priority
  | .symbol _ _ | .call _ _ _ => .atomic
  | .negation _ _ | .quantified _ _ _ _ => .prefixed
  | .binary op _ _ _ => op.priority

/-- Whether the formula is joined by a connective whose grouping does not
matter. -/
def isAssociative : Formula → Bool
  | .binary op _ _ _ => op.isAssociative
  | _ => false

mutual

/-- The length of the longest way down to a symbol. A call without arguments has
height one. -/
def height : Formula → Nat
  | .symbol _ _ => 0
  | .negation a _ => a.height + 1
  | .binary _ a b _ => max a.height b.height + 1
  | .quantified _ _ a _ => a.height + 1
  | .call _ as _ => heightAll as + 1

/-- The greatest height in a list. -/
def heightAll : List Formula → Nat
  | [] => 0
  | a :: as => max a.height (heightAll as)

end

mutual

/-- Whether a name stands as a symbol outside the quantifiers that bind it. -/
def occursFree (name : String) : Formula → Bool
  | .symbol n _ => n == name
  | .negation a _ => a.occursFree name
  | .binary _ a b _ => a.occursFree name || b.occursFree name
  | .quantified _ x a _ => x != name && a.occursFree name
  | .call _ as _ => occursFreeAny name as

/-- Whether a name occurs free in some formula of a list. -/
def occursFreeAny (name : String) : List Formula → Bool
  | [] => false
  | a :: as => a.occursFree name || occursFreeAny name as

end

mutual

/-- The number of quantifiers whose variable occurs free in their body. -/
def degree : Formula → Nat
  | .symbol _ _ => 0
  | .negation a _ => a.degree
  | .binary _ a b _ => a.degree + b.degree
  | .quantified _ x a _ => a.degree + (if a.occursFree x then 1 else 0)
  | .call _ as _ => degreeAll as

/-- The sum of the degrees in a list. -/
def degreeAll : List Formula → Nat
  | [] => 0
  | a :: as => a.degree + degreeAll as

end

/-- Whether the formula has neither quantifiers nor calls with arguments. -/
def isPropositional : Formula → Bool
  | .symbol _ _ => true
  | .negation a _ => a.isPropositional
  | .binary _ a b _ => a.isPropositional && b.isPropositional
  | .quantified _ _ _ _ => false
  | .call _ as _ => as.isEmpty

mutual

/-- Whether two formulas differ at most in their spans. -/
def same : Formula → Formula → Bool
  | .symbol n _, .symbol m _ => n == m
  | .negation a _, .negation b _ => same a b
  | .binary op a b _, .binary oq c d _ => op == oq && same a c && same b d
  | .quantified q x a _, .quantified r y b _ => q == r && x == y && same a b
  | .call n as _, .call m bs _ => n == m && sameAll as bs
  | _, _ => false

/-- Whether two lists agree formula by formula. -/
def sameAll : List Formula → List Formula → Bool
  | [], [] => true
  | a :: as, b :: bs => same a b && sameAll as bs
  | _, _ => false

end

mutual

/-- The formula and everything below it, each with its depth, in reading
order. -/
def preorder (depth : Nat) (f : Formula) : List (Nat × Formula) :=
  (depth, f) :: match f with
    | .symbol _ _ => []
    | .negation a _ => a.preorder (depth + 1)
    | .binary _ a b _ => a.preorder (depth + 1) ++ b.preorder (depth + 1)
    | .quantified _ _ a _ => a.preorder (depth + 1)
    | .call _ as _ => preorderAll (depth + 1) as

/-- The formulas of a list and everything below them. -/
def preorderAll (depth : Nat) (as : List Formula) : List (Nat × Formula) :=
  match as with
  | [] => []
  | a :: as => a.preorder depth ++ preorderAll depth as

end

end Formula

end PredicateLogic
