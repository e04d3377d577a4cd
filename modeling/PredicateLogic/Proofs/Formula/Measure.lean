import PredicateLogic.Formula.Printer
import PredicateLogic.Proofs.Formula.Same
import PredicateLogic.Proofs.TruthTable.Alike

/-!
# Measures, canonical text and truth tables of the same formulas

Spans make no difference to the measures of a formula, to its canonical text and
to its truth table. Each is shown by induction on the formula. What is computed
along a list of arguments is written as a function of the results for the
arguments, and `map_bareAll` applies.
-/

namespace PredicateLogic

namespace Formula

/-!
# Degree
-/

theorem occursFreeAny_eq_any (x : String) (as : List Formula) :
    occursFreeAny x as = (as.map (occursFree x)).any id := by
  induction as with
  | nil => rfl
  | cons a as ih => rw [occursFreeAny, ih, List.map_cons, List.any_cons, id]

theorem occursFree_bare (x : String) (f : Formula) :
    f.bare.occursFree x = f.occursFree x := by
  induction f using structural with
  | symbol n s => rfl
  | negation a s ih => rw [bare, occursFree, occursFree, ih]
  | binary op a b s iha ihb => rw [bare, occursFree, occursFree, iha, ihb]
  | quantified q y a s ih => rw [bare, occursFree, occursFree, ih]
  | call n as s ih =>
      rw [bare, occursFree, occursFree, occursFreeAny_eq_any,
        occursFreeAny_eq_any, map_bareAll ih]

theorem degreeAll_eq_foldr (as : List Formula) :
    degreeAll as = (as.map degree).foldr (fun n sum => n + sum) 0 := by
  induction as with
  | nil => rfl
  | cons a as ih => rw [degreeAll, ih, List.map_cons, List.foldr_cons]

theorem degree_bare (f : Formula) : f.bare.degree = f.degree := by
  induction f using structural with
  | symbol n s => rfl
  | negation a s ih => rw [bare, degree, degree, ih]
  | binary op a b s iha ihb => rw [bare, degree, degree, iha, ihb]
  | quantified q x a s ih => rw [bare, degree, degree, ih, occursFree_bare]
  | call n as s ih =>
      rw [bare, degree, degree, degreeAll_eq_foldr, degreeAll_eq_foldr,
        map_bareAll ih]

theorem isPropositional_bare (f : Formula) :
    f.bare.isPropositional = f.isPropositional := by
  induction f using structural with
  | symbol n s => rfl
  | negation a s ih => rw [bare, isPropositional, isPropositional, ih]
  | binary op a b s iha ihb =>
      rw [bare, isPropositional, isPropositional, iha, ihb]
  | quantified q x a s _ => rfl
  | call n as s _ => cases as <;> rfl

/-!
# Canonical text
-/

theorem priority_bare (f : Formula) : f.bare.priority = f.priority := by
  cases f <;> rfl

theorem continuesChain_bare (op : Connective) (f : Formula) :
    continuesChain op f.bare = continuesChain op f := by
  cases f <;> rfl

theorem wrapsLeft_bare (op : Connective) (f : Formula) :
    wrapsLeft op f.bare = wrapsLeft op f := by
  rw [wrapsLeft, wrapsLeft, priority_bare, continuesChain_bare]

theorem printFurtherArguments_eq_flatMap (as : List Formula) :
    printFurtherArguments as = (as.map print).flatMap fun cs =>
      ',' :: ' ' :: cs := by
  induction as with
  | nil => rfl
  | cons a as ih =>
      rw [printFurtherArguments, ih, List.map_cons, List.flatMap_cons]

theorem printArguments_bareAll {as : List Formula}
    (ih : ∀ a ∈ as, a.bare.print = a.print) :
    printArguments (bareAll as) = printArguments as := by
  cases as with
  | nil => rfl
  | cons a as =>
      have hrest := map_bareAll fun b hb => ih b (List.mem_cons_of_mem a hb)
      rw [bareAll, printArguments, printArguments, ih a List.mem_cons_self,
        printFurtherArguments_eq_flatMap,
        printFurtherArguments_eq_flatMap, hrest]

theorem print_bare (f : Formula) : f.bare.print = f.print := by
  induction f using structural with
  | symbol n s => rfl
  | negation a s ih => rw [bare, print, print, ih, priority_bare]
  | binary op a b s iha ihb =>
      rw [bare, print, print, iha, ihb, wrapsLeft_bare, priority_bare]
  | quantified q x a s ih => rw [bare, print, print, ih, priority_bare]
  | call n as s ih => rw [bare, print, print, printArguments_bareAll ih]

theorem canonical_bare (f : Formula) : f.bare.canonical = f.canonical := by
  rw [canonical, canonical, print_bare]

/-!
# Truth values
-/

theorem terms_bare (f : Formula) : f.bare.terms = f.terms := by
  have hatoms : f.bare.atoms = f.atoms := by
    induction f using structural with
    | symbol n s => rfl
    | negation a s ih => rw [bare, atoms, atoms, ih]
    | binary op a b s iha ihb => rw [bare, atoms, atoms, iha, ihb]
    | quantified q x a s ih => rw [bare, atoms, atoms, ih]
    | call n as s _ => rfl
  rw [terms, terms, hatoms]

theorem truth_bare (assignment : List (String × Bool)) (f : Formula) :
    f.bare.truth assignment = f.truth assignment := by
  induction f using structural with
  | symbol n s => rfl
  | negation a s ih => rw [bare, truth, truth, ih]
  | binary op a b s iha ihb => rw [bare, truth, truth, iha, ihb]
  | quantified q x a s _ => rfl
  | call n as s _ => cases as <;> rfl

theorem evaluate_bare (terms : List String) (values : List Bool) (f : Formula) :
    f.bare.evaluate terms values = f.evaluate terms values := by
  rw [evaluate, evaluate, truth_bare]

end Formula

namespace TruthTable

/-- The table without the spans of its formula. -/
def bare (t : TruthTable) : TruthTable :=
  ⟨t.formula.bare, t.terms⟩

theorem ofFormula?_bare (f : Formula) :
    ofFormula? f.bare = (ofFormula? f).map bare := by
  rw [ofFormula?, ofFormula?, f.isPropositional_bare, f.terms_bare]
  split <;> rfl

theorem bare_alike (t : TruthTable) : t.bare.Alike t :=
  ⟨rfl, fun assignment => t.formula.truth_bare assignment⟩

/-- The tabulation of a table does not depend on spans. -/
theorem ofTable_bare (t : TruthTable) :
    Tabulation.ofTable t.bare = Tabulation.ofTable t :=
  t.bare_alike.ofTable

/-- The tabulation for a formula, if it is propositional. -/
def tabulation? (f : Formula) : Option (Except EvaluationError Tabulation) :=
  (ofFormula? f).map Tabulation.ofTable

theorem tabulation?_bare (f : Formula) :
    tabulation? f.bare = tabulation? f := by
  rw [tabulation?, tabulation?, ofFormula?_bare, Option.map_map]
  exact congrArg (fun tabulate => (ofFormula? f).map tabulate)
    (funext ofTable_bare)

end TruthTable

end PredicateLogic
