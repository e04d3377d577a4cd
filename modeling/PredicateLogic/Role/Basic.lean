/-!
# Roles of identifiers

An identifier plays one role in a formula: it stands for an individual, it is a
predicate or a function of some arity, or it is only ever bound by quantifiers.
-/

namespace PredicateLogic

/-- What an identifier stands for. -/
inductive Role where
  | constant
  | predicate (arity : Nat)
  | function (arity : Nat)
  | bound
deriving DecidableEq, Repr

namespace Role

/-- The number of arguments of an applied identifier. -/
def arity? : Role → Option Nat
  | .predicate n | .function n => some n
  | .constant | .bound => none

/-- Whether two roles are one use of an identifier. Predicates and functions of
one arity are. -/
def agrees : Role → Role → Bool
  | .constant, .constant | .bound, .bound => true
  | .constant, _ | .bound, _ => false
  | a, b => a.arity? == b.arity?

/-- The name of a role. -/
def name : Role → String
  | .constant => "individual constant"
  | .predicate n => s!"{n}-ary predicate"
  | .function n => s!"{n}-ary function"
  | .bound => "bound variable"

/-- The article that goes with a noun. -/
def article (noun : String) : String :=
  match noun.toList with
  | [] => "a"
  | c :: _ => if ['a', 'e', 'i', 'o', 'u'].contains c then "an" else "a"

/-- A sentence that says which role an identifier plays. -/
def describe (identifier : String) (role : Role) : String :=
  s!"“{identifier}” is {article role.name} {role.name}"

end Role

end PredicateLogic
