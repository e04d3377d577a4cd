import PredicateLogic.Proofs.Formula.Subformula
import PredicateLogic.TruthTable.Evaluation

/-!
# Classical truth

`Formula.Holds v` gives a propositional formula its classical meaning, where the
atoms for which `v` holds are true. A formula is propositional exactly if it has
neither quantifiers nor calls with arguments anywhere, and then its atoms are
all the identifiers in it.
-/

namespace PredicateLogic

/-- The classical meaning of a connective. -/
def Connective.Joins : Connective → Prop → Prop → Prop
  | .and, p, q => p ∧ q
  | .or, p, q => p ∨ q
  | .xor, p, q => (p ∧ ¬q) ∨ (¬p ∧ q)
  | .implies, p, q => p → q
  | .impliedBy, p, q => q → p
  | .equivalent, p, q => p ↔ q

theorem Connective.apply_eq_true_iff (op : Connective) {a b : Bool} {p q : Prop}
    (ha : a = true ↔ p) (hb : b = true ↔ q) :
    op.apply a b = true ↔ op.Joins p q := by
  obtain rfl := propext ha
  obtain rfl := propext hb
  cases op <;> cases a <;> cases b <;> simp [apply, Joins]

namespace Formula

/-- Whether a formula holds where `v` says which atoms are true. A formula that
is not propositional never does. -/
def Holds (v : String → Prop) : Formula → Prop
  | .symbol x _ => v x
  | .negation a _ => ¬a.Holds v
  | .binary op a b _ => op.Joins (a.Holds v) (b.Holds v)
  | .quantified _ _ _ _ => False
  | .call x as _ => as = [] ∧ v x

/-- Whether a formula is a quantifier or a call with arguments. -/
def IsFirstOrder : Formula → Prop
  | .quantified _ _ _ _ => True
  | .call _ as _ => as ≠ []
  | _ => False

/-- Exactly the formulas without quantifiers and calls with arguments are
propositional. -/
theorem isPropositional_iff (f : Formula) :
    f.isPropositional = true ↔ ∀ g ∈ f.subformulas, ¬g.IsFirstOrder := by
  induction f using structural with
  | symbol x s => simp [isPropositional, subformulas_eq, children, IsFirstOrder]
  | negation a s ih =>
      rw [isPropositional, ih, forall_subformulas_iff (.negation a s)]
      simp [children, IsFirstOrder]
  | binary op a b s iha ihb =>
      rw [isPropositional, Bool.and_eq_true, iha, ihb,
        forall_subformulas_iff (.binary op a b s)]
      simp [children, IsFirstOrder]
  | quantified q x a s ih =>
      rw [forall_subformulas_iff]
      simp [isPropositional, IsFirstOrder]
  | call x as s ih =>
      rw [forall_subformulas_iff]
      cases as with
      | nil => simp [isPropositional, children, IsFirstOrder]
      | cons a as => simp [isPropositional, IsFirstOrder]

/-- The identifiers of the symbols and calls in a formula, in reading order. -/
def leaves (f : Formula) : List String :=
  f.subformulas.filterMap fun
    | .symbol x _ | .call x _ _ => some x
    | _ => none

theorem atoms_eq_leaves {f : Formula} (hf : f.isPropositional = true) :
    f.atoms = f.leaves := by
  induction f using structural with
  | symbol x s => simp [atoms, leaves, subformulas_eq, children]
  | negation a s ih =>
      rw [atoms, ih hf, leaves, leaves, subformulas_eq (.negation a s)]
      simp [children]
  | binary op a b s iha ihb =>
      rw [isPropositional, Bool.and_eq_true] at hf
      rw [atoms, iha hf.1, ihb hf.2, leaves, leaves, leaves,
        subformulas_eq (.binary op a b s)]
      simp [children, List.filterMap_append]
  | quantified q x a s ih => simp [isPropositional] at hf
  | call x as s ih =>
      obtain rfl : as = [] := by simpa [isPropositional] using hf
      simp [atoms, leaves, subformulas_eq, children]

end Formula

end PredicateLogic
