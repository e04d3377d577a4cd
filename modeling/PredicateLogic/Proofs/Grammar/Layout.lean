import Mathlib.Data.List.Basic
import PredicateLogic.Proofs.Grammar.Extent

/-!
# How the text of a formula is laid out

The text that one formula was read from consists of its own signs and names and,
in between, of the stretches that its children were read from, one after
another. `Place.Lays` says the latter of a list of formulas and `Place.Composes`
the former of one formula. As each child lies within its stretch, children lie
within the span of the formula, in order and apart from one another, and none of
them takes up all of it: the text begins with a sign or a name, or there are two
children.
-/

namespace PredicateLogic

/-- The outer span contains the inner one and is not equal to it. -/
def Span.Encloses (outer inner : Span) : Prop :=
  outer.start ≤ inner.start ∧ inner.stop ≤ outer.stop ∧ outer ≠ inner

namespace Place

/-- The formulas were read one after another between two places. -/
inductive Lays : (p : Place) → (as : List Formula) → (q : Place) → Prop
  | nil {p q : Place} : p.Passes q → Lays p [] q
  | cons {p r s q : Place} {a : Formula} {as : List Formula} :
      p.Passes r → r.Wraps a s → Lays s as q → Lays p (a :: as) q

/-- The formula was put together from what was read between two places. -/
inductive Composes : (p : Place) → (f : Formula) → (q : Place) → Prop
  | symbol {p q : Place} {x : String} :
      p.Leads x.toList q → Composes p (.symbol x ⟨p.offset, q.offset⟩) q
  | negation {p r q : Place} {a : Formula} :
      p.Reaches r → r.Lays [a] q →
        Composes p (.negation a ⟨p.offset, q.offset⟩) q
  | binary {p q : Place} {op : Connective} {a b : Formula} :
      p.Lays [a, b] q → Composes p (.binary op a b ⟨p.offset, q.offset⟩) q
  | quantified {p r q : Place} {k : Quantifier} {x : String} {a : Formula} :
      p.Reaches r → r.Lays [a] q →
        Composes p (.quantified k x a ⟨p.offset, q.offset⟩) q
  | call {p r s q : Place} {x : String} {as : List Formula} :
      p.Leads x.toList r → p.Reaches r → r.Lays as s → s.Leads [')'] q →
      Composes p (.call x as ⟨p.offset, q.offset⟩) q

variable {p q r s : Place} {part : List Char} {a f : Formula}
  {as : List Formula}

/-- The span of a formula lies within what it was read from, and it is not
empty. -/
theorem Wraps.span_within (h : p.Wraps f q) :
    p.offset ≤ f.span.start ∧ f.span.start < f.span.stop ∧
      f.span.stop ≤ q.offset := by
  induction h with
  | bare hcovers hspan =>
      rw [hspan]
      exact ⟨Nat.le_refl _, hcovers.reaches.offset_lt, Nat.le_refl _⟩
  | @group p q f _ _ _ ih =>
      have hfirst := (passes_sign p 1).offset_le
      have hlast := ((passes_skipBlanks q).trans (passes_advance _ 1)).offset_le
      omega

theorem Passes.trans_lays (h : p.Passes q) (hlays : q.Lays as r) :
    p.Lays as r := by
  cases hlays with
  | nil hpasses => exact .nil (h.trans hpasses)
  | cons hpasses hwraps hrest => exact .cons (h.trans hpasses) hwraps hrest

theorem Lays.concat (h : p.Lays as q) (hwraps : q.Wraps a r) :
    p.Lays (as ++ [a]) r := by
  induction h with
  | nil hpasses => exact .cons hpasses hwraps (.nil (passes_refl r))
  | cons hpasses hfirst _ ih => exact .cons hpasses hfirst (ih hwraps)

theorem Lays.trans_passes (h : p.Lays as q) (hpasses : q.Passes r) :
    p.Lays as r := by
  induction h with
  | nil hfirst => exact .nil (hfirst.trans hpasses)
  | cons hbefore hfirst _ ih => exact .cons hbefore hfirst (ih hpasses)

theorem Lays.passes (h : p.Lays as q) : p.Passes q := by
  induction h with
  | nil hpasses => exact hpasses
  | cons hbefore hwraps _ ih =>
      exact hbefore.trans (hwraps.covers.reaches.passes.trans ih)

theorem Wraps.lays (h : p.Wraps a q) : p.Lays [a] q :=
  .cons (passes_refl p) h (.nil (passes_refl q))

/-- Every formula of the list lies between the two places. -/
theorem Lays.within (h : p.Lays as q) :
    p.offset ≤ q.offset ∧ ∀ a ∈ as,
      p.offset ≤ a.span.start ∧ a.span.start < a.span.stop ∧
        a.span.stop ≤ q.offset := by
  induction h with
  | nil hpasses => exact ⟨hpasses.offset_le, by simp⟩
  | cons hpasses hwraps _ ih =>
      have hbefore := hpasses.offset_le
      have hfirst := hwraps.span_within
      obtain ⟨hrest, hall⟩ := ih
      refine ⟨by omega, fun b hb => ?_⟩
      rcases List.mem_cons.mp hb with rfl | hb
      · omega
      · have := hall b hb
        omega

/-- Each formula of the list ends before the next ones start. -/
theorem Lays.ordered (h : p.Lays as q) :
    as.Pairwise fun a b => a.span.stop ≤ b.span.start := by
  induction h with
  | nil _ => exact .nil
  | cons _ hwraps hrest ih =>
      refine .cons (fun b hb => ?_) ih
      have hfirst := hwraps.span_within
      have := hrest.within.2 b hb
      omega

theorem Composes.span_eq (h : p.Composes f q) :
    f.span = ⟨p.offset, q.offset⟩ := by
  cases h <;> rfl

/-- The children do not overlap and are in order. -/
theorem Composes.ordered (h : p.Composes f q) :
    f.children.Pairwise fun a b => a.span.stop ≤ b.span.start := by
  cases h with
  | symbol _ => exact .nil
  | negation _ hlays | quantified _ hlays | binary hlays | call _ _ hlays _ =>
      exact hlays.ordered

/-- Behind a sign or a name, every child takes up less than the whole. -/
theorem Lays.enclosed (h : r.Lays as s) (hfirst : p.Reaches r)
    (hlast : s.Passes q) :
    ∀ a ∈ as, Span.Encloses ⟨p.offset, q.offset⟩ a.span := by
  intro a ha
  have hlt := hfirst.offset_lt
  have hle := hlast.offset_le
  obtain ⟨hstart, -, hstop⟩ := h.within.2 a ha
  refine ⟨by dsimp only; omega, by dsimp only; omega, fun heq => ?_⟩
  have hspan : p.offset = a.span.start := congrArg Span.start heq
  omega

theorem Composes.enclosed (h : p.Composes f q) :
    ∀ a ∈ f.children, f.span.Encloses a.span := by
  cases h with
  | symbol _ => simp [Formula.children]
  | negation hfirst hlays | quantified hfirst hlays =>
      exact hlays.enclosed hfirst (passes_refl q)
  | call _ hfirst hlays hlast => exact hlays.enclosed hfirst ⟨_, hlast⟩
  | @binary _ op a b hlays =>
      -- Each operand leaves room for the other one.
      have hall := hlays.within.2
      have hleft := hall a (by simp)
      have hright := hall b (by simp)
      have hordered : a.span.stop ≤ b.span.start :=
        List.rel_of_pairwise_cons hlays.ordered List.mem_cons_self
      intro c hc
      rcases List.mem_pair.mp hc with rfl | rfl
      · refine ⟨hleft.1, hleft.2.2, fun heq => ?_⟩
        have hspan : q.offset = c.span.stop := congrArg Span.stop heq
        omega
      · refine ⟨hright.1, hright.2.2, fun heq => ?_⟩
        have hspan : p.offset = c.span.start := congrArg Span.start heq
        omega

end Place

/-- What a text has to do with the names in the formula that was read from it: a
symbol is its name, and a call begins with its name and ends with a
parenthesis. -/
def Formula.Shows (part : List Char) : Formula → Prop
  | .symbol x _ => part = x.toList
  | .call x _ _ => x.toList <+: part ∧ part.getLast? = some ')'
  | _ => True

theorem Place.Composes.shows {p q : Place} {f : Formula} {part : List Char}
    (h : p.Composes f q) (hpart : p.Leads part q) : f.Shows part := by
  have hunique : ∀ {other}, p.Leads other q → part = other := fun hother =>
    List.append_cancel_right (hpart.rest.symm.trans hother.rest)
  cases h with
  | symbol hname => exact hunique hname
  | call hname _ hlays hlast =>
      obtain ⟨middle, hmiddle⟩ := hlays.passes
      obtain rfl := hunique ((hname.trans hmiddle).trans hlast)
      refine ⟨?_, List.getLast?_concat⟩
      rw [List.append_assoc]
      exact List.prefix_append _ _
  | negation | quantified | binary => trivial

namespace Reader

variable {inner : Option (Reader Formula)} {p p₀ q r s : Place}
  {f : Formula} {x : String}

theorem identifier_leads (h : (identifier p).outcome = some (x, q)) :
    p.Leads x.toList q := by
  obtain ⟨hrest, rfl, -, -⟩ := identifier_inv h
  exact Place.leads_advance hrest

/-!
# Arguments
-/

/-- The arguments lie one after another in front of the closing parenthesis. -/
theorem furtherArguments_lays (hinner : ExtendsBelow inner)
    {as : List Formula} :
    ∀ {fuel : Nat} {reversed : List Formula} {p : Place},
      p₀.Lays reversed.reverse p →
      (furtherArguments inner fuel reversed p).outcome = some (as, q) →
      ∃ s, p₀.Lays as s ∧ s.Leads [')'] q := by
  have hclose :
      ∀ {reversed : List Formula} {p : Place}, p₀.Lays reversed.reverse p →
      (closeArguments reversed p).outcome = some (as, q) →
      ∃ s, p₀.Lays as s ∧ s.Leads [')'] q := by
    intro reversed p hlays h
    obtain ⟨-, rfl, hclosing, rfl⟩ := closeArguments_inv h
    exact ⟨p, hlays, Place.leads_of_startsWith hclosing⟩
  intro fuel
  induction fuel with
  | zero =>
      intro reversed p hlays h
      exact hclose hlays h
  | succ fuel ih =>
      intro reversed p hlays h
      rcases furtherArguments_inv h with heq | ⟨a, r, -, ha, heq⟩
      · rw [heq] at h
        exact hclose hlays h
      · rw [heq, Reading.followedBy_outcome] at h
        have hnext := hlays.trans_passes (Place.passes_sign p 1)
        refine ih ?_ h
        rw [List.reverse_cons]
        exact (hnext.concat (formula_extends hinner _ a r ha)).trans_passes
          (Place.passes_skipBlanks r)

theorem arguments_lays (hinner : ExtendsBelow inner) {as : List Formula}
    (h : (arguments inner p).outcome = some (as, q)) :
    ∃ s, p.Lays as s ∧ s.Leads [')'] q := by
  rcases arguments_inv inner p with heq | ⟨a, r, ha, heq⟩
  · rw [heq, Reading.followedBy_outcome] at h
    obtain ⟨-, rfl, hclosing, rfl⟩ := closeArguments_inv h
    exact ⟨p, .nil (Place.passes_refl p), Place.leads_of_startsWith hclosing⟩
  · rw [heq, Reading.followedBy_outcome] at h
    have hfirst : p.Lays [a].reverse r.skipBlanks :=
      (formula_extends hinner p a r ha).lays.trans_passes
        (Place.passes_skipBlanks r)
    exact furtherArguments_lays hinner hfirst h

/-!
# What is made
-/

/-- An operand and what is joined to it behind a sign. -/
theorem joined_composes (op : Connective) {a b : Formula} (hleft : p.Wraps a q)
    (hbetween : q.Passes r) (hright : r.Wraps b s) :
    p.Composes (.binary op a b ⟨p.offset, s.offset⟩) s :=
  .binary (.cons (Place.passes_refl p) hleft (hbetween.trans_lays hright.lays))

theorem call_composes (hinner : ExtendsBelow inner)
    (h : (call inner p).outcome = some (f, q)) :
    p.Composes f q := by
  obtain ⟨x, r, hx, ⟨rfl, rfl⟩ | ⟨as, -, has, rfl, -, -⟩⟩ := call_inv h
  · exact .symbol (identifier_leads hx)
  · obtain ⟨s, hlays, hclosing⟩ := arguments_lays hinner has
    have hbetween := (Place.passes_skipBlanks r).trans (Place.passes_sign _ 1)
    exact .call (identifier_leads hx) (identifier_covers hx).reaches
      (hbetween.trans_lays hlays) hclosing

theorem negation_composes (hinner : ExtendsBelow inner) {s ds : List Char}
    (hs : s ∈ negationSpellings) (hp : p.rest = s ++ ds)
    (h : (negation inner p).outcome = some (f, q)) : p.Composes f q := by
  have hsign := Place.reaches_of_spells (t := .negation) hs hp
  rw [length_of_mem_negationSpellings s hs] at hsign
  obtain ⟨a, ha, rfl, -, -⟩ := negation_inv h
  exact .negation hsign
    ((Place.passes_skipBlanks _).trans_lays
      (nested_extends hinner _ a q ha).lays)

theorem quantified_composes (hinner : ExtendsBelow inner)
    {quantifier : Quantifier} {s ds : List Char} (hs : s ∈ Quantifier.spellings)
    (hq : Quantifier.ofSpelling? s = some quantifier) (hp : p.rest = s ++ ds)
    (h : (quantified inner quantifier s.length p).outcome = some (f, q)) :
    p.Composes f q := by
  have hsign :=
    Place.reaches_of_spells (t := .quantifier quantifier) ⟨hs, hq⟩ hp
  obtain ⟨x, r, a, hx, ha, rfl, -, -⟩ := quantified_inv h
  exact .quantified hsign
    ((passes_identifier hx).trans_lays (nested_extends hinner _ a q ha).lays)

end Reader

end PredicateLogic
