import Mathlib.Data.List.Basic
import PredicateLogic.Proofs.Formula.Path
import PredicateLogic.Proofs.Formula.Same

/-!
# The parts of a formula

`Formula.subformulas` lists a formula and everything below it in reading order.
The depth at which reading begins makes no difference to it, so the list has one
equation for all kinds of formulas: the formula itself and then the lists of its
children in turn.
-/

namespace PredicateLogic.Formula

/-- The formula and everything below it, in reading order. -/
def subformulas (f : Formula) : List Formula :=
  (f.preorder 0).map Prod.snd

theorem preorderAll_eq_flatMap (d : Nat) (as : List Formula) :
    preorderAll d as = as.flatMap (preorder d) := by
  induction as with
  | nil => rfl
  | cons a as ih => rw [preorderAll, ih, List.flatMap_cons]

theorem preorder_eq (d : Nat) (f : Formula) :
    f.preorder d = (d, f) :: f.children.flatMap (preorder (d + 1)) := by
  cases f <;> simp [preorder, children, preorderAll_eq_flatMap]

theorem map_snd_flatMap_preorder {as : List Formula} {d : Nat}
    (has : ∀ a ∈ as, (a.preorder d).map Prod.snd = a.subformulas) :
    (as.flatMap (preorder d)).map Prod.snd = as.flatMap subformulas := by
  rw [List.map_flatMap]
  exact List.flatMap_congr has

theorem map_snd_preorder (f : Formula) :
    ∀ d, (f.preorder d).map Prod.snd = f.subformulas := by
  induction f using uniform with
  | step f ih =>
      have hchildren : ∀ d, (f.children.flatMap (preorder d)).map Prod.snd =
          f.children.flatMap subformulas :=
        fun d => map_snd_flatMap_preorder fun a ha => ih a ha d
      intro d
      rw [subformulas, preorder_eq, preorder_eq, List.map_cons, List.map_cons,
        hchildren, hchildren]

theorem subformulas_eq (f : Formula) :
    f.subformulas = f :: f.children.flatMap subformulas := by
  have hchildren := map_snd_flatMap_preorder fun a (_ : a ∈ f.children) =>
    map_snd_preorder a 1
  rw [subformulas, preorder_eq, List.map_cons, hchildren]

theorem forall_subformulas_iff {p : Formula → Prop} (f : Formula) :
    (∀ g ∈ f.subformulas, p g) ↔
      p f ∧ ∀ a ∈ f.children, ∀ g ∈ a.subformulas, p g := by
  rw [subformulas_eq, List.forall_mem_cons]
  constructor
  · rintro ⟨hf, hall⟩
    exact ⟨hf, fun a ha g hg => hall g (List.mem_flatMap.mpr ⟨a, ha, hg⟩)⟩
  · rintro ⟨hf, hall⟩
    refine ⟨hf, fun g hg => ?_⟩
    obtain ⟨a, ha, hga⟩ := List.mem_flatMap.mp hg
    exact hall a ha g hga

/-- Every path leads to a part of the formula. -/
theorem mem_subformulas_of_at? {f g : Formula} {p : List Nat}
    (h : f.at? p = some g) :
    g ∈ f.subformulas := by
  induction p generalizing f with
  | nil =>
      obtain rfl := Option.some.inj h
      rw [subformulas_eq]
      exact List.mem_cons_self
  | cons i p ih =>
      obtain ⟨a, ha, hg⟩ := at?_cons_eq_some_iff.mp h
      rw [subformulas_eq]
      exact List.mem_cons_of_mem _
        (List.mem_flatMap.mpr ⟨a, List.mem_of_getElem? ha, ih hg⟩)

theorem height_lt_of_mem_children {a f : Formula} (h : a ∈ f.children) :
    a.height < f.height := by
  cases f with
  | symbol n s => exact absurd h List.not_mem_nil
  | negation b s =>
      obtain rfl := List.mem_singleton.mp h
      exact Nat.lt_succ_self _
  | binary op b c s =>
      rw [height]
      rcases List.mem_pair.mp h with rfl | rfl <;> omega
  | quantified q x b s =>
      obtain rfl := List.mem_singleton.mp h
      exact Nat.lt_succ_self _
  | call n as s => exact Nat.lt_succ_of_le (height_le_heightAll h)

theorem height_le_of_mem_subformulas (f : Formula) :
    ∀ g ∈ f.subformulas, g.height ≤ f.height := by
  induction f using uniform with
  | step f ih =>
      rw [forall_subformulas_iff]
      refine ⟨Nat.le_refl _, fun a ha g hg => ?_⟩
      have hchild := height_lt_of_mem_children ha
      have hbelow := ih a ha g hg
      omega

end PredicateLogic.Formula
