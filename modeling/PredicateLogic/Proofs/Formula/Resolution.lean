import Mathlib.Algebra.GroupWithZero.Nat
import Mathlib.Data.List.Infix
import Mathlib.Data.List.Nodup
import PredicateLogic.Proofs.Formula.Binding
import PredicateLogic.Proofs.Formula.Measure
import PredicateLogic.Proofs.Formula.Subformula

/-!
# Symbols and the quantifiers that bind them

A symbol resolves to the deepest quantifier of its identifier among those that
enclose it. This looks from a symbol up to the quantifiers around it, whereas
`Formula.degree` looks from a quantifier down for a free symbol. Both find the
same quantifiers: a symbol resolves to a quantifier exactly if the variable
occurs free in the body. So the degree is the number of the quantifiers to which
symbols resolve.

Quantifiers are counted by their places. `Formula.paths` lists the paths into a
formula, each once and in the order of `Formula.subformulas`.
-/

namespace PredicateLogic.Formula

variable {f a g : Formula} {i : Nat} {p q : List Nat} {x : String}

/-!
# Paths
-/

mutual

/-- The paths into a formula, in reading order. -/
def paths : Formula → List (List Nat)
  | .symbol _ _ => [[]]
  | .negation a _ => [] :: a.paths.map (0 :: ·)
  | .binary _ a b _ => [] :: (a.paths.map (0 :: ·) ++ b.paths.map (1 :: ·))
  | .quantified _ _ a _ => [] :: a.paths.map (0 :: ·)
  | .call _ as _ => [] :: pathsAll 0 as

/-- The paths into the formulas of a list, the first of which is the child with
the index `i`. -/
def pathsAll (i : Nat) : List Formula → List (List Nat)
  | [] => []
  | a :: as => a.paths.map (i :: ·) ++ pathsAll (i + 1) as

end

theorem paths_eq (f : Formula) : f.paths = [] :: pathsAll 0 f.children := by
  cases f <;> simp [paths, pathsAll, children]

theorem mem_pathsAll_iff {as : List Formula} {k : Nat} :
    p ∈ pathsAll k as ↔
      ∃ i a q, as[i]? = some a ∧ p = (k + i) :: q ∧ q ∈ a.paths := by
  induction as generalizing k with
  | nil => simp [pathsAll]
  | cons a as ih =>
      rw [pathsAll, List.mem_append, List.mem_map, ih]
      constructor
      · rintro (⟨q, hq, rfl⟩ | ⟨i, b, q, hb, rfl, hq⟩)
        · exact ⟨0, a, q, rfl, rfl, hq⟩
        · exact ⟨i + 1, b, q, hb, by rw [Nat.add_assoc, Nat.add_comm 1 i], hq⟩
      · rintro ⟨i, b, q, hb, rfl, hq⟩
        cases i with
        | zero =>
            obtain rfl := Option.some.inj hb
            exact .inl ⟨q, hq, rfl⟩
        | succ i =>
            exact .inr
              ⟨i, b, q, hb, by rw [Nat.add_assoc, Nat.add_comm 1 i], hq⟩

/-- The paths that are listed are those that do not lead out of the formula. -/
theorem mem_paths_iff : p ∈ f.paths ↔ ∃ g, f.at? p = some g := by
  induction p generalizing f with
  | nil => simp [paths_eq, at?]
  | cons j p ih =>
      rw [paths_eq, List.mem_cons, or_iff_right (List.cons_ne_nil j p),
        mem_pathsAll_iff]
      constructor
      · rintro ⟨i, a, q, ha, hp, hq⟩
        rw [Nat.zero_add] at hp
        obtain ⟨rfl, rfl⟩ := List.cons.inj hp
        obtain ⟨g, hg⟩ := ih.mp hq
        exact ⟨g, at?_cons_eq_some_iff.mpr ⟨a, ha, hg⟩⟩
      · rintro ⟨g, hg⟩
        obtain ⟨a, ha, hg⟩ := at?_cons_eq_some_iff.mp hg
        exact ⟨j, a, p, ha, by rw [Nat.zero_add], ih.mpr ⟨g, hg⟩⟩

theorem nodup_pathsAll {as : List Formula} (ih : ∀ a ∈ as, a.paths.Nodup)
    (k : Nat) :
    (pathsAll k as).Nodup := by
  induction as generalizing k with
  | nil => exact List.nodup_nil
  | cons a as ihas =>
      rw [pathsAll, List.nodup_append]
      refine ⟨(ih a List.mem_cons_self).map List.cons_injective,
        ihas (fun b hb => ih b (List.mem_cons_of_mem a hb)) (k + 1), ?_⟩
      rintro p hp r hr rfl
      obtain ⟨q, -, rfl⟩ := List.mem_map.mp hp
      obtain ⟨i, b, q', -, hq, -⟩ := mem_pathsAll_iff.mp hr
      have hindex := (List.cons.inj hq).1
      omega

theorem nodup_paths (f : Formula) : f.paths.Nodup := by
  induction f using uniform with
  | step f ih =>
      rw [paths_eq, List.nodup_cons]
      refine ⟨fun hmem => ?_, nodup_pathsAll ih 0⟩
      obtain ⟨i, a, q, -, hq, -⟩ := mem_pathsAll_iff.mp hmem
      exact List.cons_ne_nil _ _ hq.symm

/-- What is found along the paths to the children is found in the children. -/
theorem map_pathsAll {as : List Formula}
    (ih : ∀ a ∈ as, a.paths.map a.at? = a.subformulas.map some) {k : Nat}
    (has : ∀ i a, as[i]? = some a → f.children[k + i]? = some a) :
    (pathsAll k as).map f.at? = (as.flatMap subformulas).map some := by
  induction as generalizing k with
  | nil => rfl
  | cons a as ihas =>
      have hfirst : f.children[k]? = some a := has 0 a rfl
      have hbelow : (a.paths.map (k :: ·)).map f.at? = a.paths.map a.at? := by
        rw [List.map_map]
        refine List.map_congr_left fun p _ => ?_
        rw [Function.comp_apply, at?, hfirst, Option.bind_some]
      have hrest :=
        ihas (fun b hb => ih b (List.mem_cons_of_mem a hb)) (k := k + 1)
          fun i b hb => by
            rw [Nat.add_assoc, Nat.add_comm 1 i]
            exact has (i + 1) b hb
      rw [pathsAll, List.map_append, hbelow, ih a List.mem_cons_self, hrest,
        List.flatMap_cons, List.map_append]

/-- The paths are listed in the order of the formulas that they lead to. -/
theorem map_paths (f : Formula) :
    f.paths.map f.at? = f.subformulas.map some := by
  induction f using uniform with
  | step f ih =>
      have hchildren := map_pathsAll (f := f) ih (k := 0) fun i a ha => by
        rwa [Nat.zero_add]
      rw [paths_eq, List.map_cons, hchildren, subformulas_eq,
        List.map_cons, at?]

/-- The parts of a formula that satisfy a test are counted by their places. -/
theorem countP_subformulas (f : Formula) (test : Formula → Bool) :
    f.subformulas.countP test =
      (f.paths.filter fun p => (f.at? p).any test).length := by
  have hcount : (f.subformulas.map some).countP (Option.any test) =
      f.subformulas.countP test :=
    List.countP_map
  rw [← hcount, ← map_paths, List.countP_map, List.countP_eq_length_filter]
  rfl

/-!
# Degree
-/

/-- Whether the formula is a quantifier whose variable occurs free in its
body. -/
def bindsFree : Formula → Bool
  | .quantified _ x a _ => a.occursFree x
  | _ => false

theorem bindsFree_eq_true_iff :
    f.bindsFree = true ↔
      ∃ k x a s, f = .quantified k x a s ∧ a.occursFree x = true := by
  cases f <;> simp [bindsFree]

/-- The degree is counted at the formula itself and in each child. -/
theorem degree_eq (f : Formula) :
    f.degree = (f.children.map degree).sum + if f.bindsFree then 1 else 0 := by
  cases f with
  | quantified k x a s =>
      rw [degree, children, List.map_singleton, List.sum_singleton]; rfl
  | _ =>
      simp [degree, children, bindsFree, degreeAll_eq_foldr, List.sum_eq_foldr]

theorem degree_eq_countP (f : Formula) :
    f.degree = f.subformulas.countP bindsFree := by
  induction f using uniform with
  | step f ih =>
      have hchildren : f.children.map degree =
          f.children.map fun a => a.subformulas.countP bindsFree :=
            List.map_congr_left ih
      rw [degree_eq, subformulas_eq, List.countP_cons, List.countP_flatMap,
        hchildren]
      rfl

/-!
# Resolution
-/

/-- A quantifier of the variable `x` stands at the place. -/
def QuantifiesAt (f : Formula) (q : List Nat) (x : String) : Prop :=
  ∃ k a s, f.at? q = some (.quantified k x a s)

/-- There is a symbol at `p`, and of the quantifiers of its identifier that
enclose it, the one at `q` is the nearest. -/
def Resolves (f : Formula) (p q : List Nat) : Prop :=
  ∃ x s, f.at? p = some (.symbol x s) ∧ q <+: p ∧ f.QuantifiesAt q x ∧
    ∀ r, r <+: p → f.QuantifiesAt r x → r.length ≤ q.length

theorem children_quantified_iff {k : Quantifier} {s : Span} :
    (quantified k x a s).children[i]? = some g ↔ i = 0 ∧ a = g := by
  cases i <;> simp [children]

theorem quantifiesAt_nil_iff :
    f.QuantifiesAt [] x ↔ ∃ k a s, f = .quantified k x a s := by
  simp [QuantifiesAt, at?]

theorem quantifiesAt_cons_iff :
    f.QuantifiesAt (i :: q) x ↔
      ∃ a, f.children[i]? = some a ∧ a.QuantifiesAt q x := by
  simp only [QuantifiesAt, at?_cons_eq_some_iff]
  constructor
  · rintro ⟨k, b, s, a, ha, hq⟩
    exact ⟨a, ha, k, b, s, hq⟩
  · rintro ⟨a, ha, k, b, s, hq⟩
    exact ⟨k, b, s, a, ha, hq⟩

/-- A symbol is bound at its place exactly by the quantifiers above it. -/
theorem boundAt_iff_quantifiesAt {y : String} {s : Span}
    (hp : f.at? p = some (.symbol y s)) :
    f.BoundAt p x ↔ ∃ q, q <+: p ∧ f.QuantifiesAt q x := by
  constructor
  · rintro ⟨q, r, k, a, t, rfl, -, hq⟩
    exact ⟨q, List.prefix_append q r, k, a, t, hq⟩
  · rintro ⟨q, ⟨r, rfl⟩, k, a, t, hq⟩
    refine ⟨q, r, k, a, t, rfl, ?_, hq⟩
    rintro rfl
    rw [List.append_nil, hq] at hp
    exact absurd (Option.some.inj hp) (by simp)

/-- A symbol resolves to a quantifier below the root exactly if it does so in
the child. -/
theorem resolves_cons_cons_iff :
    f.Resolves (i :: p) (i :: q) ↔
      ∃ a, f.children[i]? = some a ∧ a.Resolves p q := by
  constructor
  · rintro ⟨x, s, hp, hprefix, hq, hnearest⟩
    obtain ⟨a, ha, hp⟩ := at?_cons_eq_some_iff.mp hp
    obtain ⟨b, hb, hq⟩ := quantifiesAt_cons_iff.mp hq
    obtain rfl := Option.some.inj (ha.symm.trans hb)
    refine ⟨a, ha, x, s, hp, (List.prefix_cons_inj i).mp hprefix, hq,
      fun r hr hrx => ?_⟩
    exact Nat.le_of_succ_le_succ
      (hnearest (i :: r) ((List.prefix_cons_inj i).mpr hr)
        (quantifiesAt_cons_iff.mpr ⟨a, ha, hrx⟩))
  · rintro ⟨a, ha, x, s, hp, hprefix, hq, hnearest⟩
    refine ⟨x, s, at?_cons_eq_some_iff.mpr ⟨a, ha, hp⟩,
      (List.prefix_cons_inj i).mpr hprefix,
      quantifiesAt_cons_iff.mpr ⟨a, ha, hq⟩, fun r hr hrx => ?_⟩
    cases r with
    | nil => exact Nat.zero_le _
    | cons j r =>
        obtain ⟨rfl, hbelow⟩ := List.cons_prefix_cons.mp hr
        obtain ⟨b, hb, hrx⟩ := quantifiesAt_cons_iff.mp hrx
        obtain rfl := Option.some.inj (ha.symm.trans hb)
        exact Nat.succ_le_succ (hnearest r hbelow hrx)

/-- A symbol resolves to the root exactly if the root is a quantifier of its
identifier and no quantifier of it stands in between. -/
theorem resolves_cons_nil_iff :
    f.Resolves (i :: p) [] ↔ ∃ k x a s t, f = .quantified k x a s ∧ i = 0 ∧
      a.at? p = some (.symbol x t) ∧ ¬a.BoundAt p x := by
  constructor
  · rintro ⟨x, t, hp, -, hroot, hnearest⟩
    obtain ⟨k, a, s, rfl⟩ := quantifiesAt_nil_iff.mp hroot
    obtain ⟨b, hb, hp⟩ := at?_cons_eq_some_iff.mp hp
    obtain ⟨rfl, rfl⟩ := children_quantified_iff.mp hb
    refine ⟨k, x, a, s, t, rfl, rfl, hp, fun hbound => ?_⟩
    obtain ⟨q, hq, hqx⟩ := (boundAt_iff_quantifiesAt hp).mp hbound
    exact absurd (hnearest (0 :: q) ((List.prefix_cons_inj 0).mpr hq)
      (quantifiesAt_cons_iff.mpr ⟨a, hb, hqx⟩)) (by simp)
  · rintro ⟨k, x, a, s, t, rfl, rfl, hp, hbound⟩
    refine ⟨x, t, at?_cons_eq_some_iff.mpr ⟨a, rfl, hp⟩, List.nil_prefix,
      quantifiesAt_nil_iff.mpr ⟨k, a, s, rfl⟩, fun r hr hrx => ?_⟩
    cases r with
    | nil => exact Nat.le_refl _
    | cons j r =>
        obtain ⟨rfl, hbelow⟩ := List.cons_prefix_cons.mp hr
        obtain ⟨b, hb, hrx⟩ := quantifiesAt_cons_iff.mp hrx
        obtain rfl := Option.some.inj hb
        exact absurd ((boundAt_iff_quantifiesAt hp).mpr ⟨r, hbelow, hrx⟩) hbound

/-- Nothing but a quantifier with a free symbol in its body is resolved to. -/
theorem exists_resolves_iff (f : Formula) (q : List Nat) :
    (∃ p, f.Resolves p q) ↔ ∃ g, f.at? q = some g ∧ g.bindsFree = true := by
  induction q generalizing f with
  | nil =>
      simp only [at?, Option.some.injEq, exists_eq_left', bindsFree_eq_true_iff]
      constructor
      · rintro ⟨_ | ⟨i, p⟩, h⟩
        · obtain ⟨x, s, hp, -, ⟨k, a, t, hq⟩, -⟩ := h
          exact absurd (Option.some.inj (hp.symm.trans hq)) (by simp)
        · obtain ⟨k, x, a, s, t, rfl, -, hp, hbound⟩ :=
            resolves_cons_nil_iff.mp h
          exact ⟨k, x, a, s, rfl, (occursFree_iff a x).mpr ⟨p, t, hp, hbound⟩⟩
      · rintro ⟨k, x, a, s, rfl, hfree⟩
        obtain ⟨p, t, hp, hbound⟩ := (occursFree_iff a x).mp hfree
        exact ⟨0 :: p,
          resolves_cons_nil_iff.mpr ⟨k, x, a, s, t, rfl, rfl, hp, hbound⟩⟩
  | cons i q ih =>
      constructor
      · rintro ⟨p, hp⟩
        obtain ⟨p, rfl⟩ : ∃ r, p = i :: r := by
          obtain ⟨-, -, -, ⟨r, rfl⟩, -⟩ := hp
          exact ⟨q ++ r, rfl⟩
        obtain ⟨a, ha, hp⟩ := resolves_cons_cons_iff.mp hp
        obtain ⟨g, hg, hfree⟩ := (ih a).mp ⟨p, hp⟩
        exact ⟨g, at?_cons_eq_some_iff.mpr ⟨a, ha, hg⟩, hfree⟩
      · rintro ⟨g, hg, hfree⟩
        obtain ⟨a, ha, hg⟩ := at?_cons_eq_some_iff.mp hg
        obtain ⟨p, hp⟩ := (ih a).mpr ⟨g, hg, hfree⟩
        exact ⟨i :: p, resolves_cons_cons_iff.mpr ⟨a, ha, hp⟩⟩

/-- A bound symbol resolves to some quantifier. -/
theorem BoundAt.exists_resolves {s : Span} (hp : f.at? p = some (.symbol x s))
    (h : f.BoundAt p x) : ∃ q, f.Resolves p q := by
  induction p generalizing f with
  | nil => exact absurd h (not_boundAt_nil f x)
  | cons i p ih =>
      obtain ⟨a, ha, hp⟩ := at?_cons_eq_some_iff.mp hp
      -- The quantifiers below the root are nearer than the root.
      by_cases hbelow : a.BoundAt p x
      · obtain ⟨q, hq⟩ := ih hp hbelow
        exact ⟨i :: q, resolves_cons_cons_iff.mpr ⟨a, ha, hq⟩⟩
      · rcases boundAt_cons_iff.mp h with ⟨k, b, t, rfl⟩ | ⟨b, hb, hbound⟩
        · obtain ⟨rfl, rfl⟩ := children_quantified_iff.mp ha
          exact ⟨[],
            resolves_cons_nil_iff.mpr ⟨k, x, b, t, s, rfl, rfl, hp, hbelow⟩⟩
        · obtain rfl := Option.some.inj (ha.symm.trans hb)
          exact absurd hbound hbelow

/-- The degree is the number of quantifiers to which symbols resolve, and the
names that occur free are the identifiers of the symbols that resolve to
none. -/
theorem degree_resolved (f : Formula) :
    (∃ places : List (List Nat), places.Nodup ∧
      (∀ q, q ∈ places ↔ ∃ p, f.Resolves p q) ∧
      f.degree = places.length) ∧
    ∀ x, f.occursFree x = true ↔
      ∃ p s, f.at? p = some (.symbol x s) ∧ ∀ q, ¬f.Resolves p q := by
  constructor
  · refine ⟨f.paths.filter fun p => (f.at? p).any bindsFree,
      f.nodup_paths.filter _, fun q => ?_, ?_⟩
    · rw [exists_resolves_iff, List.mem_filter, mem_paths_iff,
        Option.any_eq_true]
      constructor
      · rintro ⟨-, g, hg, hfree⟩
        exact ⟨g, hg, hfree⟩
      · rintro ⟨g, hg, hfree⟩
        exact ⟨⟨g, hg⟩, g, hg, hfree⟩
    · rw [degree_eq_countP, countP_subformulas]
  · intro x
    rw [occursFree_iff]
    refine exists_congr fun p => exists_congr fun s =>
      and_congr_right fun hp => ?_
    constructor
    · rintro hfree q ⟨y, t, hy, hprefix, hq, -⟩
      obtain ⟨rfl, -⟩ := Formula.symbol.inj (Option.some.inj (hy.symm.trans hp))
      exact hfree ((boundAt_iff_quantifiesAt hp).mpr ⟨q, hprefix, hq⟩)
    · intro hnone hbound
      obtain ⟨q, hq⟩ := hbound.exists_resolves hp
      exact hnone q hq

end PredicateLogic.Formula
