import PredicateLogic.Formula.Basic

/-!
# Formulas up to their spans

`Formula.bare` forgets where the parts of a formula were read. Two formulas are
the same exactly when their bare forms are equal, so `Formula.same` is an
equivalence relation, and what depends on the bare form alone agrees on formulas
that are the same.

Formulas nest through lists of arguments. The induction principle
`Formula.structural` offers the hypothesis for every argument of a call, so that
no proof has to speak of the lists on the side, and `Formula.uniform` is for
what does not depend on the kind of formula at all.
-/

namespace PredicateLogic

namespace Formula

/-- Induction on formulas, with the hypothesis for each argument of a call. -/
@[elab_as_elim]
theorem structural {motive : Formula → Prop}
    (symbol : ∀ n s, motive (.symbol n s))
    (negation : ∀ a s, motive a → motive (.negation a s))
    (binary : ∀ op a b s, motive a → motive b → motive (.binary op a b s))
    (quantified : ∀ q x a s, motive a → motive (.quantified q x a s))
    (call : ∀ n as s, (∀ a ∈ as, motive a) → motive (.call n as s)) :
    ∀ f, motive f
  | .symbol n s => symbol n s
  | .negation a s =>
    negation a s (structural symbol negation binary quantified call a)
  | .binary op a b s =>
      binary op a b s (structural symbol negation binary quantified call a)
        (structural symbol negation binary quantified call b)
  | .quantified q x a s =>
      quantified q x a s (structural symbol negation binary quantified call a)
  | .call n as s =>
      call n as s fun a _ => structural symbol negation binary quantified call a

/-- Induction on formulas of all kinds alike, with the hypothesis for each
child. -/
@[elab_as_elim]
theorem uniform {motive : Formula → Prop}
    (step : ∀ f, (∀ a ∈ f.children, motive a) → motive f) (f : Formula) :
    motive f := by
  induction f using structural with
  | symbol n s => exact step _ (by simp [children])
  | negation a s ih => exact step _ (by simpa [children] using ih)
  | binary op a b s iha ihb =>
      exact step _ (by simpa [children] using ⟨iha, ihb⟩)
  | quantified q x a s ih => exact step _ (by simpa [children] using ih)
  | call n as s ih => exact step _ ih

def noSpan : Span :=
  ⟨0, 0⟩

mutual

/-- The formula without the spans it was read from. -/
def bare : Formula → Formula
  | .symbol n _ => .symbol n noSpan
  | .negation a _ => .negation a.bare noSpan
  | .binary op a b _ => .binary op a.bare b.bare noSpan
  | .quantified q x a _ => .quantified q x a.bare noSpan
  | .call n as _ => .call n (bareAll as) noSpan

def bareAll : List Formula → List Formula
  | [] => []
  | a :: as => a.bare :: bareAll as

end

theorem bareAll_eq_map (as : List Formula) : bareAll as = as.map bare := by
  induction as with
  | nil => rfl
  | cons a as ih => rw [bareAll, ih, List.map_cons]

theorem sameAll_iff {as : List Formula}
    (ih : ∀ a ∈ as, ∀ b, a.same b = true ↔ a.bare = b.bare)
    (bs : List Formula) :
    sameAll as bs = true ↔ bareAll as = bareAll bs := by
  induction as generalizing bs with
  | nil => cases bs <;> simp [sameAll, bareAll]
  | cons a as ihas =>
      have ha := ih a (by simp)
      have has := ihas fun b hb => ih b (by simp [hb])
      cases bs with
      | nil => simp [sameAll, bareAll]
      | cons b bs => simp [sameAll, bareAll, ha, has]

/-- Two formulas are the same exactly when they are equal but for their
spans. -/
theorem same_iff_bare (f g : Formula) : f.same g = true ↔ f.bare = g.bare := by
  induction f using structural generalizing g with
  | symbol n s => cases g <;> simp [same, bare]
  | negation a s ih => cases g <;> simp [same, bare, ih]
  | binary op a b s iha ihb =>
      cases g <;> simp [same, bare, iha, ihb, and_assoc]
  | quantified q x a s ih => cases g <;> simp [same, bare, ih, and_assoc]
  | call n as s ih => cases g <;> simp [same, bare, sameAll_iff ih]

theorem same_refl (f : Formula) : f.same f = true :=
  (same_iff_bare f f).mpr rfl

theorem same_symm {f g : Formula} (h : f.same g = true) : g.same f = true :=
  (same_iff_bare g f).mpr ((same_iff_bare f g).mp h).symm

theorem same_trans {f g k : Formula} (hfg : f.same g = true)
    (hgk : g.same k = true) :
    f.same k = true :=
  (same_iff_bare f k).mpr
    (((same_iff_bare f g).mp hfg).trans ((same_iff_bare g k).mp hgk))

/-- What does not depend on spans is the same for formulas that are the same. -/
theorem eq_of_same {α : Type} {measure : Formula → α}
    (hbare : ∀ f, measure f.bare = measure f) {f g : Formula}
    (h : f.same g = true) : measure f = measure g := by
  rw [← hbare f, ← hbare g, (same_iff_bare f g).mp h]

theorem map_bareAll {α : Type} {measure : Formula → α} {as : List Formula}
    (ih : ∀ a ∈ as, measure a.bare = measure a) :
    (bareAll as).map measure = as.map measure := by
  rw [bareAll_eq_map, List.map_map]
  exact List.map_congr_left ih

theorem heightAll_eq_foldr (as : List Formula) :
    heightAll as = (as.map height).foldr max 0 := by
  induction as with
  | nil => rfl
  | cons a as ih => rw [heightAll, ih, List.map_cons, List.foldr_cons]

theorem height_bare (f : Formula) : f.bare.height = f.height := by
  induction f using structural with
  | symbol n s => rfl
  | negation a s ih => rw [bare, height, height, ih]
  | binary op a b s iha ihb => rw [bare, height, height, iha, ihb]
  | quantified q x a s ih => rw [bare, height, height, ih]
  | call n as s ih =>
      rw [bare, height, height, heightAll_eq_foldr, heightAll_eq_foldr,
        map_bareAll ih]

theorem height_eq_of_same {f g : Formula} (h : f.same g = true) :
    f.height = g.height :=
  eq_of_same height_bare h

theorem height_le_heightAll {a : Formula} {as : List Formula} (h : a ∈ as) :
    a.height ≤ heightAll as := by
  induction as with
  | nil => simp at h
  | cons b bs ih =>
      rw [heightAll]
      rcases List.mem_cons.mp h with rfl | h
      · exact Nat.le_max_left _ _
      · exact Nat.le_trans (ih h) (Nat.le_max_right _ _)

end Formula

end PredicateLogic
