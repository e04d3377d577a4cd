import PredicateLogic.Proofs.TruthTable.Truth

/-!
# What comes of evaluation

Evaluation goes down through negations and connectives, and both sides of a
connective are always evaluated. `Formula.visited` lists the nodes that it comes
to in reading order, and `Formula.obstacle?` is what stands in the way at one
node by itself. The first obstacle decides: if there is one, evaluation fails
with it, and otherwise the formula has its classical truth value.

When the terms are those of the formula, every atom has a value. So the only
obstacles are quantifiers and calls with arguments.
-/

namespace PredicateLogic

theorem lookup_zip {terms : List String} {values : List Bool}
    (hlength : values.length = terms.length) (x : String) :
    (terms.zip values).lookup x = values[terms.idxOf x]? := by
  induction terms generalizing values with
  | nil =>
      obtain rfl := List.length_eq_zero_iff.mp hlength
      rfl
  | cons y terms ih =>
      cases values with
      | nil => simp at hlength
      | cons b values =>
          rw [List.zip_cons_cons, List.lookup_cons, List.idxOf_cons]
          by_cases hxy : x = y
          · simp [hxy]
          · have hne : (x == y) = false := by simpa using hxy
            have hne' : (y == x) = false := by simpa using Ne.symm hxy
            simp only [hne, hne']
            exact ih (by simpa using hlength)

namespace Formula

/-- The nodes that evaluation comes to, in reading order. -/
def visited : Formula → List Formula
  | .negation a s => .negation a s :: a.visited
  | .binary op a b s => .binary op a b s :: (a.visited ++ b.visited)
  | f => [f]

/-- Why evaluation fails at a node, if it does, when the terms are those that
have values. Nothing is said of the nodes below. -/
def obstacle? (terms : List String) : Formula → Option EvaluationError
  | .symbol x _ => if x ∈ terms then none else some (.unassigned x)
  | .negation _ _ => none
  | .binary _ _ _ _ => none
  | .quantified _ _ _ _ => some .notPropositional
  | .call x [] _ => if x ∈ terms then none else some (.unassigned x)
  | .call _ (_ :: _) _ => some .notPropositional

/-- Whether a formula is an atom with the identifier `x`. -/
def IsAtom (x : String) (g : Formula) : Prop :=
  ∃ s, g = .symbol x s ∨ g = .call x [] s

/-- Whether evaluation gets past a node: it is neither a quantifier nor a call
with arguments, and if it is an atom, it is a term. -/
def IsPassable (terms : List String) (g : Formula) : Prop :=
  ¬g.IsFirstOrder ∧ ∀ x, g.IsAtom x → x ∈ terms

variable {f g : Formula} {terms : List String} {e : EvaluationError}

/-- There are two kinds of obstacles. -/
theorem obstacle?_eq_some_iff :
    g.obstacle? terms = some e ↔
      (g.IsFirstOrder ∧ e = .notPropositional) ∨
        ∃ x, g.IsAtom x ∧ x ∉ terms ∧ e = .unassigned x := by
  cases g with
  | symbol x s =>
      by_cases hx : x ∈ terms
      · simp [obstacle?, IsFirstOrder, IsAtom, hx]
      · simp [obstacle?, IsFirstOrder, IsAtom, hx, eq_comm]
  | negation a s => simp [obstacle?, IsFirstOrder, IsAtom]
  | binary op a b s => simp [obstacle?, IsFirstOrder, IsAtom]
  | quantified q x a s => simp [obstacle?, IsFirstOrder, IsAtom, eq_comm]
  | call x as s =>
      cases as with
      | nil =>
          by_cases hx : x ∈ terms
          · simp [obstacle?, IsFirstOrder, IsAtom, hx]
          · simp [obstacle?, IsFirstOrder, IsAtom, hx, eq_comm]
      | cons a as => simp [obstacle?, IsFirstOrder, IsAtom, eq_comm]

theorem obstacle?_of_isFirstOrder (terms : List String) (hg : g.IsFirstOrder) :
    g.obstacle? terms = some .notPropositional :=
  obstacle?_eq_some_iff.mpr (.inl ⟨hg, rfl⟩)

theorem obstacle?_of_isAtom {x : String} (hg : g.IsAtom x) (hx : x ∉ terms) :
    g.obstacle? terms = some (.unassigned x) :=
  obstacle?_eq_some_iff.mpr (.inr ⟨x, hg, hx, rfl⟩)

theorem obstacle?_eq_none_iff :
    g.obstacle? terms = none ↔ g.IsPassable terms := by
  constructor
  · intro hnone
    refine ⟨fun hg => ?_, fun x hg => by_contra fun hx => ?_⟩
    · rw [obstacle?_of_isFirstOrder terms hg] at hnone
      exact absurd hnone (by simp)
    · rw [obstacle?_of_isAtom hg hx] at hnone
      exact absurd hnone (by simp)
  · rintro ⟨hpropositional, hatoms⟩
    rw [Option.eq_none_iff_forall_ne_some]
    intro e he
    rcases obstacle?_eq_some_iff.mp he with ⟨hg, -⟩ | ⟨x, hg, hx, -⟩
    · exact hpropositional hg
    · exact hx (hatoms x hg)

/-- The atoms that evaluation comes to are atoms of the formula. -/
theorem mem_atoms_of_mem_visited {x : String} (hg : g ∈ f.visited)
    (hatom : g.IsAtom x) :
    x ∈ f.atoms := by
  obtain ⟨s, hatom⟩ := hatom
  induction f using structural with
  | symbol y t =>
      obtain rfl := List.mem_singleton.mp hg
      rcases hatom with h | h <;> simp_all [atoms]
  | negation a t ih =>
      rcases List.mem_cons.mp hg with rfl | hg
      · simp at hatom
      · exact ih hg
  | binary op a b t iha ihb =>
      rcases List.mem_cons.mp hg with rfl | hg
      · simp at hatom
      · rcases List.mem_append.mp hg with hg | hg
        · exact List.mem_append_left _ (iha hg)
        · exact List.mem_append_right _ (ihb hg)
  | quantified q y a t ih =>
      obtain rfl := List.mem_singleton.mp hg
      simp at hatom
  | call y as t ih =>
      obtain rfl := List.mem_singleton.mp hg
      rcases hatom with h | h <;> simp_all [atoms]

/-- Evaluation comes to a quantifier or a call with arguments unless the formula
is propositional. -/
theorem isPropositional_iff_visited :
    f.isPropositional = true ↔ ∀ g ∈ f.visited, ¬g.IsFirstOrder := by
  induction f using structural with
  | symbol x s => simp [isPropositional, visited, IsFirstOrder]
  | negation a s ih => simp [isPropositional, visited, IsFirstOrder, ih]
  | binary op a b s iha ihb =>
      rw [isPropositional, Bool.and_eq_true, iha, ihb, visited,
        List.forall_mem_cons, List.forall_mem_append]
      simp [IsFirstOrder]
  | quantified q x a s ih => simp [isPropositional, visited, IsFirstOrder]
  | call x as s ih => simp [isPropositional, visited, IsFirstOrder]

/-- The first obstacle in reading order decides, and without one the value is
the classical one. -/
theorem truth_spec {assignment : List (String × Bool)} {v : String → Prop}
    (hmem : ∀ x ∈ terms, ∃ b, assignment.lookup x = some b ∧ (b = true ↔ v x))
    (hnone : ∀ x, x ∉ terms → assignment.lookup x = none) (f : Formula) :
    match f.visited.findSome? (obstacle? terms) with
    | some e => f.truth assignment = .error e
    | none => ∃ b, f.truth assignment = .ok b ∧ (b = true ↔ f.Holds v) := by
  have hatom : ∀ x,
      match
        (if x ∈ terms then none else some (EvaluationError.unassigned x)) with
      | some e => valueOf assignment x = .error e
      | none => ∃ b, valueOf assignment x = .ok b ∧ (b = true ↔ v x) := by
    intro x
    by_cases hx : x ∈ terms
    · obtain ⟨b, hb, hvb⟩ := hmem x hx
      simp only [hx, if_true]
      exact ⟨b, by rw [valueOf, hb], hvb⟩
    · simp only [hx, if_false]
      rw [valueOf, hnone x hx]
  induction f using structural with
  | symbol x s => simpa [visited, obstacle?, truth, Holds] using hatom x
  | negation a s ih =>
      rw [visited, List.findSome?_cons, obstacle?]
      cases hfirst : a.visited.findSome? (obstacle? terms) with
      | some e =>
          rw [hfirst] at ih
          simp only [truth, ih]
          rfl
      | none =>
          rw [hfirst] at ih
          obtain ⟨b, hb, hholds⟩ := ih
          refine ⟨!b, ?_, ?_⟩
          · rw [truth, hb]
            rfl
          · rw [Holds, ← hholds]
            cases b <;> simp
  | binary op a b s iha ihb =>
      rw [visited, List.findSome?_cons, obstacle?, List.findSome?_append]
      cases hleft : a.visited.findSome? (obstacle? terms) with
      | some e =>
          rw [hleft] at iha
          simp only [Option.some_or, truth, iha]
          rfl
      | none =>
          rw [hleft] at iha
          obtain ⟨p, hp, hpholds⟩ := iha
          cases hright : b.visited.findSome? (obstacle? terms) with
          | some e =>
              rw [hright] at ihb
              simp only [Option.none_or, truth, hp, ihb]
              rfl
          | none =>
              rw [hright] at ihb
              obtain ⟨q, hq, hqholds⟩ := ihb
              refine ⟨op.apply p q, ?_, op.apply_eq_true_iff hpholds hqholds⟩
              rw [truth, hp, hq]
              rfl
  | quantified q x a s ih => rfl
  | call x as s ih =>
      cases as with
      | nil => simpa [visited, obstacle?, truth, Holds] using hatom x
      | cons a as => rfl

variable {values : List Bool}

/-- Evaluation is decided by the nodes that it comes to, if each term has one
value. -/
theorem evaluate_spec (f : Formula) (hlength : terms.length = values.length) :
    match f.visited.findSome? (obstacle? terms) with
    | some e => f.evaluate terms values = .error e
    | none => ∃ b, f.evaluate terms values = .ok b ∧
        (b = true ↔ f.Holds fun x => values[terms.idxOf x]? = some true) := by
  rw [evaluate, if_pos hlength]
  refine truth_spec (fun x hx => ?_) (fun x hx => ?_) f
  · have hlt : terms.idxOf x < values.length := by
      rw [← hlength]
      exact List.idxOf_lt_length_of_mem hx
    refine ⟨values[terms.idxOf x], ?_, ?_⟩
    · rw [lookup_zip hlength.symm, List.getElem?_eq_getElem hlt]
    · rw [List.getElem?_eq_getElem hlt, Option.some.injEq]
  · have hend : terms.idxOf x = values.length := by
      rw [← hlength]
      exact List.idxOf_eq_length hx
    rw [lookup_zip hlength.symm, hend, List.getElem?_eq_none (Nat.le_refl _)]

/-- Where evaluation gets past every node, it returns the classical truth
value. -/
theorem evaluate_eq_ok (hlength : terms.length = values.length)
    (hvisited : ∀ g ∈ f.visited, g.IsPassable terms) :
    ∃ b, f.evaluate terms values = .ok b ∧
      (b = true ↔ f.Holds fun x => values[terms.idxOf x]? = some true) := by
  have hspec := f.evaluate_spec hlength
  rwa [List.findSome?_eq_none_iff.mpr fun g hg =>
    obstacle?_eq_none_iff.mpr (hvisited g hg)] at hspec

/-- The terms of a propositional formula are all that evaluation asks for. -/
theorem isPassable_terms (hf : f.isPropositional = true) :
    ∀ g ∈ f.visited, g.IsPassable f.terms := fun g hg =>
  ⟨isPropositional_iff_visited.mp hf g hg,
    fun _ hatom => List.mem_eraseDups.mpr (mem_atoms_of_mem_visited hg hatom)⟩

/-- With its own terms, no other formula has a truth value. -/
theorem evaluate_eq_error (hlength : f.terms.length = values.length)
    (hf : f.isPropositional = false) :
    f.evaluate f.terms values = .error .notPropositional := by
  have hspec := f.evaluate_spec hlength
  cases hfirst : f.visited.findSome? (obstacle? f.terms) with
  | some e =>
      rw [hfirst] at hspec
      obtain ⟨g, hg, hobstacle⟩ := List.exists_of_findSome?_eq_some hfirst
      -- An atom would be one of the terms.
      obtain ⟨-, rfl⟩ := (obstacle?_eq_some_iff.mp hobstacle).resolve_right
        fun ⟨x, hatom, hx, _⟩ =>
          hx (List.mem_eraseDups.mpr (mem_atoms_of_mem_visited hg hatom))
      exact hspec
  | none =>
      have hpropositional : f.isPropositional = true :=
        isPropositional_iff_visited.mpr fun g hg =>
          have hnone := List.findSome?_eq_none_iff.mp hfirst g hg
          (obstacle?_eq_none_iff.mp hnone).1
      rw [hf] at hpropositional
      exact Bool.noConfusion hpropositional

/-- Evaluation fails if there is not one value for each term. Otherwise it fails
at the first node in reading order, of those below negations and connectives
only, that is a quantifier, a call with arguments or an atom that is no term. If
there is none, it returns the classical truth value where an atom has the value
at the first place of its identifier. With the terms of the formula it succeeds
exactly if the formula is propositional. -/
theorem evaluate_outcome (f : Formula) (terms : List String)
    (values : List Bool) :
    (terms.length ≠ values.length →
      ∃ e, f.evaluate terms values = .error e ∧
        e.message = "one value per term") ∧
    (terms.length = values.length →
      (∀ before g after, f.visited = before ++ g :: after →
        (∀ h ∈ before, h.IsPassable terms) →
        (g.IsFirstOrder → ∃ e, f.evaluate terms values = .error e ∧
          e.message = "cannot evaluate a non-propositional formula") ∧
        ∀ x, g.IsAtom x → x ∉ terms → ∃ e, f.evaluate terms values = .error e ∧
          e.message = s!"no value assigned to '{x}'") ∧
      ((∀ g ∈ f.visited, g.IsPassable terms) →
        ∃ b, f.evaluate terms values = .ok b ∧
          (b = true ↔ f.Holds fun x => values[terms.idxOf x]? = some true))) ∧
    (terms = f.terms → terms.length = values.length →
      ((∃ b, f.evaluate terms values = .ok b) ↔ f.isPropositional = true) ∧
      (f.isPropositional = false → ∃ e, f.evaluate terms values = .error e ∧
        e.message = "cannot evaluate a non-propositional formula")) := by
  refine ⟨fun hlength => ⟨_, if_neg hlength, rfl⟩,
    fun hlength => ⟨?_, fun hvisited => ?_⟩, ?_⟩
  · intro before g after hvisited hbefore
    have herror : ∀ {e}, g.obstacle? terms = some e →
        f.evaluate terms values = .error e := by
      intro e hg
      have hspec := f.evaluate_spec hlength
      rwa [List.findSome?_eq_some_iff.mpr ⟨before, g, after, hvisited, hg,
        fun h hh => obstacle?_eq_none_iff.mpr (hbefore h hh)⟩] at hspec
    exact ⟨fun hg => ⟨_, herror (obstacle?_of_isFirstOrder terms hg), rfl⟩,
      fun x hg hx => ⟨_, herror (obstacle?_of_isAtom hg hx), rfl⟩⟩
  · exact evaluate_eq_ok hlength hvisited
  · rintro rfl hlength
    cases hf : f.isPropositional with
    | true =>
        obtain ⟨b, hb, -⟩ := evaluate_eq_ok hlength (isPassable_terms hf)
        simp [hb]
    | false =>
        have herror := evaluate_eq_error hlength hf
        exact ⟨by simp [herror], fun _ => ⟨_, herror, rfl⟩⟩

/-- In `(a ∧ b) ∨ ∀x a`, the atom without a value stands in front of the
quantifier. -/
theorem evaluate_outcome_unassigned :
    let a : Formula := .symbol "a" noSpan
    let f : Formula := .binary .or (.binary .and a (.symbol "b" noSpan) noSpan)
      (.quantified .universal "x" a noSpan) noSpan
    (∃ e, f.evaluate ["a"] [] = .error e ∧ e.message = "one value per term") ∧
      (∃ e, f.evaluate ["a"] [true] = .error e ∧
        e.message = "no value assigned to 'b'") ∧
      (∃ e, f.evaluate ["b", "a"] [true, true] = .error e ∧
        e.message = "cannot evaluate a non-propositional formula") ∧
      (∃ b,
        (Formula.negation a noSpan).evaluate ["a", "a"] [true, false] = .ok b ∧
        (b = true ↔ (Formula.negation a noSpan).Holds
          fun x => [true, false][["a", "a"].idxOf x]? = some true)) ∧
      f.isPropositional = false ∧
      ∃ e, f.evaluate f.terms [false, true] = .error e ∧
        e.message = "cannot evaluate a non-propositional formula" := by
  intro a f
  have hpassable : ∀ {terms : List String} {g : Formula},
      g.obstacle? terms = none → g.IsPassable terms :=
    obstacle?_eq_none_iff.mp
  refine ⟨(evaluate_outcome f ["a"] []).1 (by decide), ?_, ?_, ?_, rfl, ?_⟩
  · refine (((evaluate_outcome f ["a"] [true]).2.1 rfl).1
      [f, .binary .and a (.symbol "b" noSpan) noSpan, a] (.symbol "b" noSpan)
      [.quantified .universal "x" a noSpan] rfl ?_).2 "b" ⟨noSpan, .inl rfl⟩
      (by decide)
    simpa using ⟨hpassable rfl, hpassable rfl, hpassable rfl⟩
  · refine (((evaluate_outcome f ["b", "a"] [true, true]).2.1 rfl).1
      [f, .binary .and a (.symbol "b" noSpan) noSpan, a, .symbol "b" noSpan]
      (.quantified .universal "x" a noSpan) [] rfl ?_).1 trivial
    simpa using ⟨hpassable rfl, hpassable rfl, hpassable rfl, hpassable rfl⟩
  · refine ((evaluate_outcome (.negation a noSpan) ["a", "a"]
      [true, false]).2.1 rfl).2 ?_
    intro g hg
    rcases List.mem_pair.mp hg with rfl | rfl
    · exact hpassable rfl
    · exact hpassable rfl
  · exact ((evaluate_outcome f f.terms [false, true]).2.2 rfl rfl).2 rfl

end Formula

end PredicateLogic
