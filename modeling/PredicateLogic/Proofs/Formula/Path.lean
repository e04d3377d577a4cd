import PredicateLogic.Formula.Basic

/-!
# Paths into formulas

A path lists the indices of the children on the way down from a formula. Paths
tell apart equal subformulas in different places, and their lexicographic order
is the order of reading: a formula comes before its children, and everything
below one child before everything below the next.

What lies around a place, such as the quantifiers that enclose it, is said of
the initial segments of its path. Each of these notions has an equation for a
path that first goes down to a child.
-/

namespace PredicateLogic.Formula

/-- The formula at a path, if the path does not lead out of the formula. -/
def at? (f : Formula) : List Nat → Option Formula
  | [] => some f
  | i :: p => f.children[i]?.bind fun a => a.at? p

/-- A quantifier of the variable `x` encloses the place. -/
def BoundAt (f : Formula) (p : List Nat) (x : String) : Prop :=
  ∃ q r k a s, p = q ++ r ∧ r ≠ [] ∧ f.at? q = some (.quantified k x a s)

/-- The formula at the place is directly an argument of a call. -/
def IsArgument (f : Formula) (p : List Nat) : Prop :=
  ∃ q i x as s, p = q ++ [i] ∧ f.at? q = some (.call x as s)

/-- The identifier of a symbol or a call. -/
def head? : Formula → Option String
  | .symbol x _ | .call x _ _ => some x
  | _ => none

/-- The identifier `x` occurs at the place, as a symbol or as the head of a
call. -/
def OccursAt (f : Formula) (p : List Nat) (x : String) : Prop :=
  ∃ g, f.at? p = some g ∧ g.head? = some x

variable {f a g : Formula} {i : Nat} {p : List Nat} {x : String}

theorem at?_cons_eq_some_iff :
    f.at? (i :: p) = some g ↔
      ∃ a, f.children[i]? = some a ∧ a.at? p = some g := by
  rw [at?, Option.bind_eq_some_iff]

theorem not_boundAt_nil (f : Formula) (x : String) : ¬f.BoundAt [] x := by
  rintro ⟨q, r, k, a, s, hp, hr, -⟩
  exact hr (List.append_eq_nil_iff.mp hp.symm).2

theorem boundAt_cons_iff :
    f.BoundAt (i :: p) x ↔
      (∃ k a s, f = .quantified k x a s) ∨
        ∃ a, f.children[i]? = some a ∧ a.BoundAt p x := by
  constructor
  · rintro ⟨q, r, k, b, s, hp, hr, hq⟩
    cases q with
    | nil => exact .inl ⟨k, b, s, Option.some.inj hq⟩
    | cons j q =>
        obtain ⟨rfl, rfl⟩ := List.cons.inj hp
        obtain ⟨a, ha, hq⟩ := at?_cons_eq_some_iff.mp hq
        exact .inr ⟨a, ha, q, r, k, b, s, rfl, hr, hq⟩
  · rintro (⟨k, b, s, rfl⟩ | ⟨a, ha, q, r, k, b, s, rfl, hr, hq⟩)
    · exact ⟨[], i :: p, k, b, s, rfl, by simp, rfl⟩
    · exact ⟨i :: q, r, k, b, s, rfl, hr, at?_cons_eq_some_iff.mpr ⟨a, ha, hq⟩⟩

theorem not_isArgument_nil (f : Formula) : ¬f.IsArgument [] := by
  rintro ⟨q, i, x, as, s, hp, -⟩
  exact List.cons_ne_nil i [] (List.append_eq_nil_iff.mp hp.symm).2

theorem isArgument_cons_iff :
    f.IsArgument (i :: p) ↔
      (p = [] ∧ ∃ x as s, f = .call x as s) ∨
        ∃ a, f.children[i]? = some a ∧ a.IsArgument p := by
  constructor
  · rintro ⟨q, j, x, as, s, hp, hq⟩
    cases q with
    | nil =>
        obtain ⟨rfl, rfl⟩ := List.cons.inj hp
        exact .inl ⟨rfl, x, as, s, Option.some.inj hq⟩
    | cons k q =>
        obtain ⟨rfl, rfl⟩ := List.cons.inj hp
        obtain ⟨a, ha, hq⟩ := at?_cons_eq_some_iff.mp hq
        exact .inr ⟨a, ha, q, j, x, as, s, rfl, hq⟩
  · rintro (⟨rfl, x, as, s, rfl⟩ | ⟨a, ha, q, j, x, as, s, rfl, hq⟩)
    · exact ⟨[], i, x, as, s, rfl, rfl⟩
    · exact ⟨i :: q, j, x, as, s, rfl, at?_cons_eq_some_iff.mpr ⟨a, ha, hq⟩⟩

theorem occursAt_cons_iff :
    f.OccursAt (i :: p) x ↔ ∃ a, f.children[i]? = some a ∧ a.OccursAt p x := by
  constructor
  · rintro ⟨g, hg, hx⟩
    obtain ⟨a, ha, hg⟩ := at?_cons_eq_some_iff.mp hg
    exact ⟨a, ha, g, hg, hx⟩
  · rintro ⟨a, ha, g, hg, hx⟩
    exact ⟨g, at?_cons_eq_some_iff.mpr ⟨a, ha, hg⟩, hx⟩

theorem OccursAt.unique {y : String} (hx : f.OccursAt p x)
    (hy : f.OccursAt p y) : x = y := by
  obtain ⟨g, hg, hgx⟩ := hx
  obtain ⟨k, hk, hky⟩ := hy
  obtain rfl := Option.some.inj (hg.symm.trans hk)
  exact Option.some.inj (hgx.symm.trans hky)

end PredicateLogic.Formula
