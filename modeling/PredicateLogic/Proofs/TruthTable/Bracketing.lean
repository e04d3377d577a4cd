import PredicateLogic.Proofs.TruthTable.Alike
import PredicateLogic.Proofs.TruthTable.Table

/-!
# Bracketings of a chain

A connective that is associative has a neutral truth value, and it stays
associative when its operands may have a fault instead of a value. So however a
list of formulas is joined by the connective, the truth value is a fold over the
list, and the atoms are those of the list in order. Two bracketings of one list
therefore have the same truth table.
-/

namespace PredicateLogic

namespace Connective

variable {op : Connective}

/-- The truth value that makes no difference to the other operand, if the
connective is associative. -/
def neutral : Connective → Bool
  | .and | .equivalent => true
  | _ => false

theorem apply_assoc (hop : op.isAssociative = true) (a b c : Bool) :
    op.apply (op.apply a b) c = op.apply a (op.apply b c) := by
  cases op with
  | implies | impliedBy => exact Bool.noConfusion hop
  | and | or | xor | equivalent => cases a <;> cases b <;> cases c <;> rfl

theorem apply_neutral (hop : op.isAssociative = true) (a : Bool) :
    op.apply a op.neutral = a ∧ op.apply op.neutral a = a := by
  cases op with
  | implies | impliedBy => exact Bool.noConfusion hop
  | and | or | xor | equivalent => cases a <;> exact ⟨rfl, rfl⟩

/-- The truth value of a joined formula, or the first fault of its operands. -/
def join (op : Connective) (left right : Except EvaluationError Bool) :
    Except EvaluationError Bool := do
  let a ← left
  let b ← right
  pure (op.apply a b)

theorem join_assoc (hop : op.isAssociative = true)
    (x y z : Except EvaluationError Bool) :
    op.join (op.join x y) z = op.join x (op.join y z) := by
  cases x with
  | error e => rfl
  | ok a =>
      cases y with
      | error e => rfl
      | ok b =>
          cases z with
          | error e => rfl
          | ok c => exact congrArg Except.ok (apply_assoc hop a b c)

theorem join_neutral (hop : op.isAssociative = true)
    (x : Except EvaluationError Bool) :
    op.join x (.ok op.neutral) = x ∧ op.join (.ok op.neutral) x = x := by
  cases x with
  | error e => exact ⟨rfl, rfl⟩
  | ok a =>
      obtain ⟨hright, hleft⟩ := apply_neutral hop a
      exact ⟨congrArg Except.ok hright, congrArg Except.ok hleft⟩

/-- Truth values are joined one after the other. -/
def joinAll (op : Connective) (values : List (Except EvaluationError Bool)) :
    Except EvaluationError Bool :=
  values.foldr op.join (.ok op.neutral)

theorem joinAll_singleton (hop : op.isAssociative = true)
    (x : Except EvaluationError Bool) :
    op.joinAll [x] = x :=
  (join_neutral hop x).1

theorem joinAll_append (hop : op.isAssociative = true)
    (xs ys : List (Except EvaluationError Bool)) :
    op.joinAll (xs ++ ys) = op.join (op.joinAll xs) (op.joinAll ys) := by
  induction xs with
  | nil => exact (join_neutral hop _).2.symm
  | cons x xs ih =>
      have hcons : ∀ zs, op.joinAll (x :: zs) = op.join x (op.joinAll zs) :=
        fun _ => rfl
      rw [List.cons_append, hcons, hcons, ih, join_assoc hop]

end Connective

namespace Formula

/-- The formula joins the operands in the given order, with the connective alone
and any brackets. -/
inductive Brackets (op : Connective) : List Formula → Formula → Prop
  | operand {a : Formula} : Brackets op [a] a
  | join {as bs : List Formula} {f g : Formula} {s : Span} :
      Brackets op as f → Brackets op bs g →
        Brackets op (as ++ bs) (.binary op f g s)

variable {op : Connective} {as : List Formula} {f g : Formula}

theorem Brackets.atoms_eq (h : Brackets op as f) :
    f.atoms = as.flatMap atoms := by
  induction h with
  | operand => simp
  | join _ _ ihf ihg => rw [atoms, ihf, ihg, List.flatMap_append]

theorem Brackets.isPropositional_eq (h : Brackets op as f) :
    f.isPropositional = as.all isPropositional := by
  induction h with
  | operand => simp
  | join _ _ ihf ihg => rw [isPropositional, ihf, ihg, List.all_append]

theorem Brackets.truth_eq (h : Brackets op as f) (hop : op.isAssociative = true)
    (assignment : List (String × Bool)) :
    f.truth assignment = op.joinAll (as.map (truth assignment)) := by
  induction h with
  | operand => exact (Connective.joinAll_singleton hop _).symm
  | join _ _ ihf ihg =>
      rw [List.map_append, Connective.joinAll_append hop, ← ihf, ← ihg]
      rfl

/-- The brackets in a chain of an associative connective do not matter: every
two formulas that join the same propositional operands have tables with the same
terms and the same rows. -/
theorem table_of_brackets (hop : op.isAssociative = true)
    (hoperands : ∀ a ∈ as, a.isPropositional = true) (hf : Brackets op as f)
    (hg : Brackets op as g) :
    ∃ t u rows, TruthTable.ofFormula? f = some t ∧
      TruthTable.ofFormula? g = some u ∧
      t.terms = u.terms ∧ t.rows = .ok rows ∧ u.rows = .ok rows := by
  have hall : as.all isPropositional = true := List.all_eq_true.mpr hoperands
  have ht : TruthTable.ofFormula? f = some ⟨f, f.terms⟩ :=
    if_pos (hf.isPropositional_eq.trans hall)
  have hu : TruthTable.ofFormula? g = some ⟨g, g.terms⟩ :=
    if_pos (hg.isPropositional_eq.trans hall)
  have halike : TruthTable.Alike ⟨f, f.terms⟩ ⟨g, g.terms⟩ := by
    constructor
    · exact congrArg List.eraseDups (hf.atoms_eq.trans hg.atoms_eq.symm)
    · intro assignment
      exact (hf.truth_eq hop assignment).trans (hg.truth_eq hop assignment).symm
  have hrows := TruthTable.rows_eq (TruthTable.wellFormed_of_ofFormula? ht).2
  exact ⟨_, _, _, ht, hu, halike.terms, hrows, halike.rows.symm.trans hrows⟩

/-- `(¬a ⊻ P()) ⊻ a` and `¬a ⊻ (P() ⊻ a)`. -/
theorem table_of_brackets_xor :
    let a : Formula := .symbol "a" noSpan
    let p : Formula := .call "P" [] noSpan
    let n : Formula := .negation a noSpan
    let f : Formula := .binary .xor (.binary .xor n p noSpan) a noSpan
    let g : Formula := .binary .xor n (.binary .xor p a noSpan) noSpan
    Connective.xor.isAssociative = true ∧
      (∀ b ∈ [n, p, a], b.isPropositional = true) ∧
      Brackets .xor [n, p, a] f ∧ Brackets .xor [n, p, a] g ∧
      ∃ t u rows, TruthTable.ofFormula? f = some t ∧
        TruthTable.ofFormula? g = some u ∧
        t.terms = u.terms ∧ t.rows = .ok rows ∧ u.rows = .ok rows := by
  intro a p n f g
  have hoperands : ∀ b ∈ [n, p, a], b.isPropositional = true := by decide
  have hf : Brackets .xor ([n] ++ [p] ++ [a]) f :=
    .join (.join .operand .operand) .operand
  have hg : Brackets .xor ([n] ++ ([p] ++ [a])) g :=
    .join .operand (.join .operand .operand)
  exact ⟨rfl, hoperands, hf, hg, table_of_brackets rfl hoperands hf hg⟩

end Formula

end PredicateLogic
