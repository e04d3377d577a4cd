import Mathlib.Data.List.Basic
import PredicateLogic.Proofs.Formula.Path
import PredicateLogic.Proofs.Formula.Same
import PredicateLogic.Role.Occurrence

/-!
# Places of occurrences

`Formula.Located` pairs the occurrences of a formula with the paths that lead to
them. The paths ascend, they lead to all symbols and calls, and an occurrence
says of its place what is found there: the identifier and the span, whether a
quantifier encloses the place that binds the identifier, and the role, which
depends on the parent of the place.

For the induction a formula is located within its surroundings, which consist of
the variables that are bound around it and of its position.
-/

namespace PredicateLogic

namespace Formula

/-- The role that an identifier plays at a place. -/
def RoleAt (f : Formula) (p : List Nat) (r : Role) : Prop :=
  (∃ x s, f.at? p = some (.symbol x s) ∧ r = .constant) ∨
    ∃ x as s, f.at? p = some (.call x as s) ∧
      ((f.IsArgument p ∧ r = .function as.length) ∨
        (¬f.IsArgument p ∧ r = .predicate as.length))

/-- The variables that are bound below a formula. -/
def bindersBelow (binders : List String) : Formula → List String
  | .quantified _ x _ _ => x :: binders
  | _ => binders

/-- The position of the formulas directly below a formula. -/
def positionBelow : Formula → Position
  | .call _ _ _ => .term
  | _ => .formula

/-- The role that a formula in the given position gives to the identifier that
heads it. -/
def headRole (position : Position) : Formula → Role
  | .call _ as _ => position.callRole as.length
  | _ => .constant

/-- The occurrence of the identifier that heads a formula. -/
def occurrence? (binders : List String) (position : Position) (f : Formula) :
    Option Occurrence :=
  f.head?.map fun x => ⟨x, f.headRole position, binders.contains x, f.span⟩

theorem argumentOccurrences_eq_flatMap (binders : List String)
    (as : List Formula) :
    argumentOccurrences binders as =
      as.flatMap (occurrences binders .term) := by
  induction as with
  | nil => rfl
  | cons a as ih => rw [argumentOccurrences, ih, List.flatMap_cons]

theorem occurrences_eq (binders : List String) (position : Position)
    (f : Formula) :
    f.occurrences binders position = (f.occurrence? binders position).toList ++
      f.children.flatMap
        (occurrences (f.bindersBelow binders) f.positionBelow) := by
  cases f <;>
    simp [occurrences, occurrence?, head?, headRole, span, children,
      bindersBelow, positionBelow, argumentOccurrences_eq_flatMap]

variable {binders bs : List String} {position pos : Position} {f a g : Formula}
  {i : Nat} {p : List Nat} {o : Occurrence}

/-- The variables `bs` are bound at a place, and the place is in the position
`pos`, where the whole formula is below `binders` and in the position
`position`. -/
structure Surrounds (binders : List String) (position : Position) (f : Formula)
    (p : List Nat) (bs : List String) (pos : Position) : Prop where
  bound : ∀ x, x ∈ bs ↔ x ∈ binders ∨ f.BoundAt p x
  term : pos = .term ↔ (p = [] ∧ position = .term) ∨ f.IsArgument p

theorem surrounds_nil : Surrounds binders position f [] binders position := by
  constructor
  · intro x
    simp [not_boundAt_nil]
  · simp [not_isArgument_nil]

theorem mem_bindersBelow {x : String} :
    x ∈ f.bindersBelow binders ↔
      x ∈ binders ∨ ∃ k b s, f = .quantified k x b s := by
  cases f <;> simp [bindersBelow, or_comm, eq_comm]

theorem positionBelow_eq_term :
    f.positionBelow = .term ↔ ∃ x as s, f = .call x as s := by
  cases f <;> simp [positionBelow]

theorem Surrounds.cons (ha : f.children[i]? = some a)
    (h : Surrounds (f.bindersBelow binders) f.positionBelow a p bs pos) :
    Surrounds binders position f (i :: p) bs pos := by
  have hchild :
      ∀ {r : Formula → Prop}, (∃ b, f.children[i]? = some b ∧ r b) ↔ r a := by
    intro r
    simp [ha]
  constructor
  · intro x
    rw [h.bound x, mem_bindersBelow, boundAt_cons_iff, hchild, or_assoc]
  · rw [h.term, positionBelow_eq_term, isArgument_cons_iff, hchild]
    simp

/-- The occurrence of the formula at a place, in its surroundings. -/
def IsSite (binders : List String) (position : Position) (f : Formula)
    (p : List Nat) (o : Occurrence) : Prop :=
  ∃ g bs pos, f.at? p = some g ∧ g.occurrence? bs pos = some o ∧
    Surrounds binders position f p bs pos

theorem IsSite.cons (ha : f.children[i]? = some a)
    (h : IsSite (f.bindersBelow binders) f.positionBelow a p o) :
    IsSite binders position f (i :: p) o := by
  obtain ⟨g, bs, pos, hg, ho, hsurrounds⟩ := h
  exact ⟨g, bs, pos, at?_cons_eq_some_iff.mpr ⟨a, ha, hg⟩, ho,
    hsurrounds.cons ha⟩

/-- The occurrences of a formula, each with the path to it. -/
structure Located (binders : List String) (position : Position) (f : Formula)
    (sites : List (List Nat × Occurrence)) : Prop where
  occurrences : sites.map Prod.snd = f.occurrences binders position
  ascending : sites.Pairwise fun s t => s.1 < t.1
  isSite : ∀ s ∈ sites, IsSite binders position f s.1 s.2
  complete : ∀ p x, f.OccursAt p x → ∃ o, (p, o) ∈ sites

/-- The occurrences in a list of children, the first of which has the index
`k`. -/
theorem exists_located_children {as : List Formula}
    (ih : ∀ a ∈ as, ∃ sites, Located binders position a sites) : ∀ k : Nat,
    ∃ sites : List (List Nat × Occurrence),
      sites.map Prod.snd = as.flatMap (Formula.occurrences binders position) ∧
      (sites.Pairwise fun s t => s.1 < t.1) ∧
      (∀ s ∈ sites, ∃ i a p, as[i]? = some a ∧ s.1 = (k + i) :: p ∧
        IsSite binders position a p s.2) ∧
      ∀ i a p x, as[i]? = some a → a.OccursAt p x →
        ∃ o, ((k + i) :: p, o) ∈ sites := by
  induction as with
  | nil => exact fun k => ⟨[], rfl, .nil, by simp, by simp⟩
  | cons a as ihas =>
      intro k
      obtain ⟨own, hown⟩ := ih a (by simp)
      obtain ⟨rest, hsnd, hascending, hsite, hcomplete⟩ :=
        ihas (fun b hb => ih b (by simp [hb])) (k + 1)
      refine ⟨own.map (fun s => (k :: s.1, s.2)) ++ rest, ?_, ?_, ?_, ?_⟩
      · rw [List.map_append, List.map_map, hsnd, List.flatMap_cons,
          ← hown.occurrences]
        rfl
      · rw [List.pairwise_append]
        refine ⟨?_, hascending, ?_⟩
        · rw [List.pairwise_map]
          exact hown.ascending.imp fun hlt =>
            List.cons_lt_cons_iff.mpr (.inr ⟨rfl, hlt⟩)
        · rintro s hs t ht
          obtain ⟨s, -, rfl⟩ := List.mem_map.mp hs
          obtain ⟨j, b, p, -, hp, -⟩ := hsite t ht
          rw [hp]
          exact List.cons_lt_cons_iff.mpr (.inl (by omega))
      · intro s hs
        rcases List.mem_append.mp hs with hs | hs
        · obtain ⟨s, hmem, rfl⟩ := List.mem_map.mp hs
          exact ⟨0, a, s.1, rfl, rfl, hown.isSite s hmem⟩
        · obtain ⟨j, b, p, hj, hp, hb⟩ := hsite s hs
          exact ⟨j + 1, b, p, by simpa using hj, by rw [hp]; congr 1; omega, hb⟩
      · intro j b p x hj hx
        cases j with
        | zero =>
            obtain rfl : a = b := by simpa using hj
            obtain ⟨o, ho⟩ := hown.complete p x hx
            exact ⟨o,
              List.mem_append_left _ (List.mem_map.mpr ⟨(p, o), ho, rfl⟩)⟩
        | succ j =>
            obtain ⟨o, ho⟩ := hcomplete j b p x (by simpa using hj) hx
            refine ⟨o, List.mem_append_right _ ?_⟩
            rwa [Nat.add_right_comm, Nat.add_assoc] at ho

theorem exists_located_of_children
    (ih : ∀ a ∈ f.children,
      ∀ binders position, ∃ sites, Located binders position a sites)
    (binders : List String) (position : Position) :
    ∃ sites, Located binders position f sites := by
  obtain ⟨rest, hsnd, hascending, hsite, hcomplete⟩ :=
    exists_located_children
      (fun a ha => ih a ha (f.bindersBelow binders) f.positionBelow) 0
  refine ⟨(f.occurrence? binders position).toList.map (fun o => ([], o)) ++
    rest, ?_, ?_, ?_, ?_⟩
  · rw [List.map_append, List.map_map, hsnd, occurrences_eq]
    exact congrArg (· ++ _) (List.map_id _)
  · rw [List.pairwise_append]
    refine ⟨?_, hascending, ?_⟩
    · cases f.occurrence? binders position <;> simp
    · rintro s hs t ht
      obtain ⟨o, -, rfl⟩ := List.mem_map.mp hs
      obtain ⟨i, a, p, -, hp, -⟩ := hsite t ht
      rw [hp]
      exact List.nil_lt_cons _ _
  · intro s hs
    rcases List.mem_append.mp hs with hs | hs
    · obtain ⟨o, ho, rfl⟩ := List.mem_map.mp hs
      exact ⟨f, binders, position, rfl, by simpa using ho, surrounds_nil⟩
    · obtain ⟨i, a, p, ha, hp, hisSite⟩ := hsite s hs
      rw [hp, Nat.zero_add]
      exact hisSite.cons ha
  · intro p x hx
    cases p with
    | nil =>
        obtain ⟨g, hg, hhead⟩ := hx
        obtain rfl := Option.some.inj hg
        refine ⟨⟨x, f.headRole position, binders.contains x, f.span⟩,
          List.mem_append_left _ ?_⟩
        simp [occurrence?, hhead]
    | cons i p =>
        obtain ⟨a, ha, hx⟩ := occursAt_cons_iff.mp hx
        obtain ⟨o, ho⟩ := hcomplete i a p x ha hx
        rw [Nat.zero_add] at ho
        exact ⟨o, List.mem_append_right _ ho⟩

theorem exists_located (f : Formula) : ∀ binders position,
    ∃ sites, Located binders position f sites := by
  induction f using uniform with
  | step f ih => exact exists_located_of_children ih

/-!
# What an occurrence says of its place
-/

theorem IsSite.occursAt (h : IsSite binders position f p o) :
    f.OccursAt p o.identifier := by
  obtain ⟨g, bs, pos, hg, ho, -⟩ := h
  obtain ⟨x, hx, rfl⟩ := Option.map_eq_some_iff.mp ho
  exact ⟨g, hg, hx⟩

theorem IsSite.span (h : IsSite binders position f p o) :
    ∃ g, f.at? p = some g ∧ g.span = o.span := by
  obtain ⟨g, bs, pos, hg, ho, -⟩ := h
  obtain ⟨x, -, rfl⟩ := Option.map_eq_some_iff.mp ho
  exact ⟨g, hg, rfl⟩

theorem IsSite.isBound_iff (h : IsSite [] position f p o) :
    o.isBound = true ↔ f.BoundAt p o.identifier := by
  obtain ⟨g, bs, pos, -, ho, hsurrounds⟩ := h
  obtain ⟨x, -, rfl⟩ := Option.map_eq_some_iff.mp ho
  simpa using hsurrounds.bound x

theorem IsSite.roleAt (h : IsSite binders .formula f p o) :
    f.RoleAt p o.role := by
  obtain ⟨g, bs, pos, hg, ho, hsurrounds⟩ := h
  obtain ⟨x, hx, rfl⟩ := Option.map_eq_some_iff.mp ho
  have hterm : pos = .term ↔ f.IsArgument p := by
    simpa using hsurrounds.term
  cases g with
  | symbol y s => exact .inl ⟨y, s, hg, rfl⟩
  | call y as s =>
      refine .inr ⟨y, as, s, hg, ?_⟩
      cases pos with
      | formula =>
          exact .inr ⟨fun harg => Position.noConfusion (hterm.mpr harg), rfl⟩
      | term => exact .inl ⟨hterm.mp rfl, rfl⟩
  | negation a s => exact absurd hx (by simp [head?])
  | binary op a b s => exact absurd hx (by simp [head?])
  | quantified q y a s => exact absurd hx (by simp [head?])

theorem RoleAt.ne_bound {r : Role} (h : f.RoleAt p r) : r ≠ .bound := by
  rcases h with ⟨x, s, -, rfl⟩ | ⟨x, as, s, -, ⟨-, rfl⟩ | ⟨-, rfl⟩⟩ <;> simp

theorem RoleAt.unique {r r' : Role} (h : f.RoleAt p r) (h' : f.RoleAt p r') :
    r = r' := by
  rcases h with ⟨x, s, hg, rfl⟩ | ⟨x, as, s, hg, hr⟩
  · rcases h' with ⟨y, s', -, rfl⟩ | ⟨y, as, s', hg', -⟩
    · rfl
    · exact absurd (hg.symm.trans hg') (by simp)
  · rcases h' with ⟨y, s', hg', -⟩ | ⟨y, bs, s', hg', hr'⟩
    · exact absurd (hg.symm.trans hg') (by simp)
    · obtain ⟨-, rfl, -⟩ :=
        Formula.call.inj (Option.some.inj (hg.symm.trans hg'))
      rcases hr with ⟨harg, rfl⟩ | ⟨harg, rfl⟩ <;> rcases hr' with
        ⟨harg', rfl⟩ | ⟨harg', rfl⟩
      · rfl
      · exact absurd harg harg'
      · exact absurd harg' harg
      · rfl

end Formula

end PredicateLogic
