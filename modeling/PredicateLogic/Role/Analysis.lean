import PredicateLogic.Role.Occurrence

/-!
# Consistent use of identifiers

Analysis goes through the occurrences of a formula in reading order. The first
unbound occurrence of an identifier settles its role; a later one must agree
with it. A bound variable has no role of its own and cannot be applied. The
first occurrence that breaks a rule is reported.
-/

namespace PredicateLogic

/-- How an occurrence breaks the rules. -/
inductive Misuse where
  /-- A bound variable is applied to arguments. -/
  | appliedVariable
  /-- The identifier was used in another role before. -/
  | conflict (previous : Role)
deriving DecidableEq, Repr

/-- An occurrence that breaks the rules. -/
structure AnalysisError where
  identifier : String
  /-- The role it is used in. -/
  role : Role
  /-- How that breaks the rules. -/
  misuse : Misuse
  /-- Where it is used. -/
  span : Span
deriving DecidableEq, Repr

namespace AnalysisError

/-- What is wrong, without the place. -/
def message (e : AnalysisError) : String :=
  match e.misuse with
  | .appliedVariable =>
    s!"Bound variable '{e.identifier}' cannot be used as a {e.role.name}"
  | .conflict previous =>
    s!"'{e.identifier}' is used as a {e.role.name} but was previously used as a {previous.name}"

/-- What is wrong and where. -/
def describe (e : AnalysisError) : String :=
  s!"{e.message} at {e.span.start}..{e.span.stop}"

end AnalysisError

/-- Identifiers with their roles, in ascending order of the identifiers. -/
abbrev RoleMap := List (String × Role)

namespace RoleMap

/-- Gives an identifier a role, in the place of the one it has. -/
def insert (identifier : String) (role : Role) : RoleMap → RoleMap
  | [] => [(identifier, role)]
  | (other, r) :: roles =>
    if identifier < other then (identifier, role) :: (other, r) :: roles
    else if identifier = other then (identifier, role) :: roles
    else (other, r) :: insert identifier role roles

/-- Gives an identifier a role if it has none. -/
def insertIfNew (identifier : String) (role : Role) (roles : RoleMap) :
    RoleMap :=
  if (roles.lookup identifier).isSome then roles
  else roles.insert identifier role

end RoleMap

/-- The progress of an analysis. -/
structure Analysis where
  /-- The identifiers that have a role, latest first. -/
  recorded : List (String × Role)
  /-- The first occurrence that broke the rules. -/
  error : Option AnalysisError

namespace Analysis

/-- How an occurrence breaks the rules, given the roles recorded before it. -/
def misuse? (recorded : List (String × Role)) (o : Occurrence) :
    Option Misuse :=
  if o.isBound then
    if o.role.arity?.isSome then some .appliedVariable else none
  else
    match recorded.lookup o.identifier with
    | some previous =>
      if previous.agrees o.role then none else some (.conflict previous)
    | none => none

/-- The recorded roles behind an occurrence that breaks no rule. -/
def record (recorded : List (String × Role)) (o : Occurrence) :
    List (String × Role) :=
  if o.isBound || (recorded.lookup o.identifier).isSome then recorded
  else (o.identifier, o.role) :: recorded

/-- Goes through occurrences until one breaks a rule. -/
def survey : (recorded : List (String × Role)) → List Occurrence → Analysis
  | recorded, [] => ⟨recorded, none⟩
  | recorded, o :: os =>
    match misuse? recorded o with
    | some misuse => ⟨recorded, some ⟨o.identifier, o.role, misuse, o.span⟩⟩
    | none => survey (record recorded o) os

end Analysis

namespace Formula

/-- Goes through all occurrences of a formula. -/
def survey (f : Formula) : Analysis :=
  Analysis.survey [] (f.occurrences [] .formula)

/-- The roles of all identifiers of a formula, or the first misuse of one. An
identifier that is only bound is a bound variable. -/
def analyze (f : Formula) : Except AnalysisError RoleMap :=
  let analysis := f.survey
  match analysis.error with
  | some e => .error e
  | none =>
    let recorded : RoleMap :=
      analysis.recorded.foldl (fun roles (n, r) => roles.insert n r) []
    .ok (f.binders.foldl (fun roles x => roles.insertIfNew x .bound) recorded)

end Formula

end PredicateLogic
