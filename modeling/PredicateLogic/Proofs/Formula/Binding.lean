import Mathlib.Data.List.Basic
import PredicateLogic.Proofs.Formula.Path
import PredicateLogic.Proofs.Formula.Same
import PredicateLogic.Role.Occurrence

/-!
# Binders and free symbols

`Formula.occursFree` goes down into a formula and stops at a quantifier of the
name it looks for, and `Formula.binders` collects the variables on the way. Both
are said here of places: a name occurs free exactly if it stands as a symbol at
a place that no quantifier of the name encloses.
-/

namespace PredicateLogic.Formula

/-- The variable `x` is bound by a quantifier somewhere in the formula. -/
def Binds (f : Formula) (x : String) : Prop :=
  ∃ p k a s, f.at? p = some (.quantified k x a s)

variable {f : Formula} {p : List Nat} {x : String}

theorem BoundAt.binds (h : f.BoundAt p x) : f.Binds x := by
  obtain ⟨q, -, k, a, s, -, -, hq⟩ := h
  exact ⟨q, k, a, s, hq⟩

theorem occursFreeAny_eq_true_iff {as : List Formula} :
    occursFreeAny x as = true ↔ ∃ a ∈ as, a.occursFree x = true := by
  induction as with
  | nil => simp [occursFreeAny]
  | cons a as ih => simp [occursFreeAny, ih]

/-- A name that occurs free is the symbol itself, or occurs free below a formula
that does not bind it. -/
theorem occursFree_eq_true_iff :
    f.occursFree x = true ↔
      (∃ s, f = .symbol x s) ∨
        (¬∃ k a s, f = .quantified k x a s) ∧
          ∃ a ∈ f.children, a.occursFree x = true := by
  cases f <;> simp [occursFree, children, occursFreeAny_eq_true_iff]

theorem occursFree_iff (f : Formula) (x : String) :
    f.occursFree x = true ↔
      ∃ p s, f.at? p = some (.symbol x s) ∧ ¬f.BoundAt p x := by
  induction f using uniform with
  | step f ih =>
      rw [occursFree_eq_true_iff]
      constructor
      · rintro (⟨s, rfl⟩ | ⟨hbinds, a, ha, hfree⟩)
        · exact ⟨[], s, rfl, not_boundAt_nil _ x⟩
        · obtain ⟨p, s, hp, hbound⟩ := (ih a ha).mp hfree
          obtain ⟨i, hi⟩ := List.mem_iff_getElem?.mp ha
          refine ⟨i :: p, s, at?_cons_eq_some_iff.mpr ⟨a, hi, hp⟩, ?_⟩
          rw [boundAt_cons_iff]
          rintro (hf | ⟨b, hb, hboundb⟩)
          · exact hbinds hf
          · obtain rfl := Option.some.inj (hi.symm.trans hb)
            exact hbound hboundb
      · rintro ⟨p, s, hp, hbound⟩
        cases p with
        | nil => exact .inl ⟨s, Option.some.inj hp⟩
        | cons i p =>
            obtain ⟨a, ha, hp⟩ := at?_cons_eq_some_iff.mp hp
            rw [boundAt_cons_iff, not_or] at hbound
            refine .inr ⟨hbound.1, a, List.mem_of_getElem? ha, ?_⟩
            exact (ih a (List.mem_of_getElem? ha)).mpr
              ⟨p, s, hp, fun h => hbound.2 ⟨a, ha, h⟩⟩

theorem bindersAll_eq_flatMap (as : List Formula) :
    bindersAll as = as.flatMap binders := by
  induction as with
  | nil => rfl
  | cons a as ih => rw [bindersAll, ih, List.flatMap_cons]

theorem mem_binders_eq :
    x ∈ f.binders ↔ (∃ k a s, f = .quantified k x a s) ∨
      ∃ a ∈ f.children, x ∈ a.binders := by
  cases f <;> simp [binders, children, bindersAll_eq_flatMap, eq_comm]

theorem mem_binders_iff (f : Formula) (x : String) :
    x ∈ f.binders ↔ f.Binds x := by
  induction f using uniform with
  | step f ih =>
      rw [mem_binders_eq]
      constructor
      · rintro (⟨k, a, s, hf⟩ | ⟨a, ha, hx⟩)
        · exact ⟨[], k, a, s, by rw [at?, hf]⟩
        · obtain ⟨p, k, b, s, hp⟩ := (ih a ha).mp hx
          obtain ⟨i, hi⟩ := List.mem_iff_getElem?.mp ha
          exact ⟨i :: p, k, b, s, at?_cons_eq_some_iff.mpr ⟨a, hi, hp⟩⟩
      · rintro ⟨p, k, b, s, hp⟩
        cases p with
        | nil => exact .inl ⟨k, b, s, Option.some.inj hp⟩
        | cons i p =>
            obtain ⟨a, ha, hp⟩ := at?_cons_eq_some_iff.mp hp
            have hmem := List.mem_of_getElem? ha
            exact .inr ⟨a, hmem, (ih a hmem).mpr ⟨p, k, b, s, hp⟩⟩

end PredicateLogic.Formula
