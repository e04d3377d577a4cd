import Mathlib.Algebra.Order.BigOperators.Group.List
import Mathlib.Algebra.Order.Ring.Nat
import PredicateLogic.Proofs.Canonical.Names

/-!
# Canonical text has the fewest parentheses

No text that denotes a formula has fewer opening parentheses than its canonical
text. Wherever the canonical text puts parentheses around an operand, the
grammar has no derivation for the operand at that place without a group. So each
level adds the parentheses that a formula needs there, and what has a derivation
has at least as many parentheses as the canonical tokens and those together.

Characters are counted only once, in `Scan.count_opening`: no spelling of
another token holds a parenthesis, and neither does white space.
-/

namespace PredicateLogic

open Unicode

/-!
# Characters and tokens
-/

theorem not_mem_of_isIdentifier {cs : List Char} (h : IsIdentifier cs) :
    '(' ∉ cs := by
  obtain ⟨c, ds, rfl, hstart, hcontinue⟩ := h
  intro hmem
  have hsign := isIdentifierContinue_of_mem_signs '(' (by decide)
  have hname : isIdentifierContinue '(' = true := by
    rcases List.mem_cons.mp hmem with rfl | hmem
    · exact isIdentifierContinue_of_isIdentifierStart hstart
    · exact hcontinue _ hmem
  rw [hsign] at hname
  exact Bool.noConfusion hname

/-- Only the token of an opening parenthesis is spelled with one. -/
theorem Token.Spells.count_opening {t : Token} {s : Spelling} (h : t.Spells s) :
    s.count '(' = [t].count .opening := by
  by_cases ht : ∃ x, t = .identifier x
  · obtain ⟨x, rfl⟩ := ht
    rw [List.count_eq_zero.mpr (not_mem_of_isIdentifier h.2)]
    rfl
  · have hall : (signTable.all fun e => e.1.count '(' == [e.2].count .opening) =
        true := by
      decide
    exact beq_iff_eq.mp
      (List.all_eq_true.mp hall _ (h.mem_signTable fun x hx => ht ⟨x, hx⟩))

/-- A text has as many opening parentheses as there are among its tokens. -/
theorem Scan.count_opening {cs rest : List Char} {ts : List Token}
    (h : Scan cs ts rest) :
    cs.count '(' = ts.count .opening + rest.count '(' := by
  induction h with
  | here => exact (Nat.zero_add _).symm
  | @blank c cs ts rest hc _ ih =>
      have hne : c ≠ '(' := by
        rintro rfl
        rw [isWhiteSpace_of_mem_signs '(' (by decide)] at hc
        exact Bool.noConfusion hc
      rw [List.count_cons_of_ne hne, ih]
  | @token t s cs ts rest hs _ _ ih =>
      have hts : (t :: ts).count .opening =
          [t].count .opening + ts.count .opening := by
        rw [← List.count_append, List.singleton_append]
      rw [List.count_append, hs.count_opening, ih, hts, Nat.add_assoc]

/-!
# The parentheses of a derivation
-/

/-- The number of opening parentheses. -/
def openings (ts : List Token) : Nat :=
  ts.count .opening

@[simp] theorem openings_opening (ts : List Token) :
    openings (.opening :: ts) = openings ts + 1 :=
  List.count_cons_self

theorem openings_cons_of_ne {t : Token} (ht : t ≠ .opening) (ts : List Token) :
    openings (t :: ts) = openings ts :=
  List.count_cons_of_ne ht

@[simp] theorem openings_append (ts us : List Token) :
    openings (ts ++ us) = openings ts + openings us :=
  List.count_append

theorem openings_enclosed (ts : List Token) :
    openings (.opening :: ts ++ [.closing]) = openings ts + 1 := by
  rw [List.cons_append, openings_opening, openings_append,
    openings_cons_of_ne (by simp)]
  rfl

theorem openings_wrapTokens (needed : Bool) (ts : List Token) :
    openings (wrapTokens needed ts) = openings ts + needed.toNat := by
  cases needed with
  | false => rfl
  | true => exact openings_enclosed ts

theorem openings_intercalate (tss : List (List Token)) :
    openings ([.comma].intercalate tss) = (tss.map openings).sum := by
  cases tss with
  | nil => rfl
  | cons ts tss =>
      have hrest : openings (tss.flatMap fun us => .comma :: us) =
          (tss.map openings).sum := by
        induction tss with
        | nil => rfl
        | cons us tss ih =>
            rw [List.flatMap_cons, openings_append,
              openings_cons_of_ne (by simp), ih, List.map_cons, List.sum_cons]
      rw [intercalate_cons, openings_append, hrest, List.map_cons,
        List.sum_cons]

theorem openings_call (x : String) (tss : List (List Token)) :
    openings
      (.identifier x :: .opening :: [.comma].intercalate tss ++ [.closing]) =
      (tss.map openings).sum + 1 := by
  rw [List.cons_append, openings_cons_of_ne (by simp), openings_enclosed,
    openings_intercalate]

/-- The parentheses that a formula needs at a level. -/
def Level.parentheses : Level → Formula → Nat
  | .formula, _ => 0
  | l, f => l.surcharge f

theorem Level.parentheses_below (op : Connective) (f : Formula) :
    (below op).parentheses f = (below op).surcharge f := by
  cases op <;> rfl

namespace Derives

open Formula

variable {l : Level} {n : Nat} {ts : List Token} {f : Formula}

/-- Whatever derives has the parentheses of the canonical text, and those that
the formula needs at its level. -/
theorem openings_le (h : Derives l n ts f) :
    openings f.tokens + l.parentheses f ≤ openings ts := by
  induction h with
  | symbol => exact Nat.le_refl _
  | emptyCall => exact Nat.le_refl _
  | @call n x args s _ _ ih =>
      have hargs : (args.map fun a => openings a.2.tokens).sum ≤
          (args.map fun a => openings a.1).sum :=
        List.sum_le_sum fun a ha => ih a ha
      rw [tokens, tokensAll_eq_map, openings_call, openings_call, List.map_map,
        List.map_map, List.map_map]
      exact Nat.succ_le_succ hargs
  | @group n ts f _ ih =>
      rw [openings_enclosed]
      exact Nat.add_le_add ih (Level.surcharge_operand_le f)
  | @negation n ts f s _ ih =>
      rw [tokens, openings_cons_of_ne (by simp), openings_cons_of_ne (by simp),
        openings_wrapTokens]
      exact ih
  | @quantified n q x ts f s _ ih =>
      rw [tokens, openings_cons_of_ne (by simp), openings_cons_of_ne (by simp),
        openings_cons_of_ne (by simp), openings_cons_of_ne (by simp),
        openings_wrapTokens]
      exact ih
  | @first op n ts f _ ih =>
      rw [Level.parentheses_below] at ih
      exact Nat.le_trans
        (Nat.add_le_add_left (Level.surcharge_chain_le op f) _) ih
  | @next op n ts us f g s _ _ ihf ihg =>
      rw [Level.parentheses_below, Level.surcharge_below] at ihg
      have hchain : (Level.chain op).parentheses (.binary op f g s) = 0 := by
        cases op <;> rfl
      rw [tokens, hchain, Nat.add_zero, openings_append, openings_append,
        openings_cons_of_ne (by simp), openings_cons_of_ne (by simp),
        openings_wrapTokens,
        openings_wrapTokens]
      exact Nat.add_le_add ihf ihg
  | @junction op n ts f hop _ ih =>
      exact Nat.le_trans
        (Nat.add_le_add_left (Level.surcharge_junction_le hop f) _) ih
  | implication _ _ ih => exact Nat.le_trans (Nat.le_add_right _ _) ih
  | formula _ ih => exact ih

end Derives

namespace Formula

variable {text : String} {f : Formula}

/-- Canonical text and its normalized form have the parentheses of the canonical
tokens. -/
theorem count_canonical (h : ∀ x ∈ f.names, IsName x) :
    f.canonical.toList.count '(' = openings f.tokens ∧
      (nfc f.canonical.toList).count '(' = openings f.tokens := by
  have hspelled := spelled_print fun x hx => (h x hx).1
  have hnfc := hspelled.scan_nfc fun x hx =>
    (h x (mem_names_of_mem_tokens hx)).2
  rw [canonical, String.toList_ofList]
  exact ⟨hspelled.scan.count_opening, hnfc.count_opening⟩

theorem count_canonical_le {other : String} {g : Formula}
    (h : parse text = .ok f) (hother : parse other = .ok g)
    (hsame : g.same f = true) :
    f.canonical.toList.count '(' ≤ (nfc other.toList).count '(' := by
  obtain ⟨ts, hscan, hts, -⟩ := accepts_of_parse hother
  rw [(count_canonical (isName_of_parse h)).1, hscan.count_opening]
  exact (hts.of_same hsame).openings_le

/-- The canonical text of a formula that has been read has no more opening
parentheses than the text it was read from, nor than any other text that denotes
the formula; and it is such a text itself. -/
theorem parentheses_minimal (h : parse text = .ok f) :
    f.canonical.toList.count '(' ≤ (nfc text.toList).count '(' ∧
      (∃ g, parse f.canonical = .ok g ∧ g.same f = true) ∧
      (nfc f.canonical.toList).count '(' = f.canonical.toList.count '(' ∧
      ∀ other g, parse other = .ok g → g.same f = true →
        f.canonical.toList.count '(' ≤ (nfc other.toList).count '(' := by
  obtain ⟨hcanonical, hnfc⟩ := count_canonical (isName_of_parse h)
  exact ⟨count_canonical_le h h (same_refl f), exists_parse_canonical h,
    hnfc.trans hcanonical.symm, fun other g => count_canonical_le h⟩

theorem parentheses_minimal_negated_group :
    let text := "¬((a)∧b)"
    ∃ f, parse text = .ok f ∧ f.canonical = "¬(a ∧ b)" ∧
      (nfc text.toList).count '(' = 2 ∧
      f.canonical.toList.count '(' ≤ (nfc text.toList).count '(' ∧
      (∃ g, parse f.canonical = .ok g ∧ g.same f = true) ∧
      (nfc f.canonical.toList).count '(' = f.canonical.toList.count '(' ∧
      ∀ other g, parse other = .ok g → g.same f = true →
        f.canonical.toList.count '(' ≤ (nfc other.toList).count '(' := by
  intro text
  have hread : (match parse text with
      | .ok f => f.canonical == "¬(a ∧ b)"
      | .error _ => false) = true := by decide +kernel
  cases hparse : parse text with
  | error e =>
      rw [hparse] at hread
      exact Bool.noConfusion hread
  | ok f =>
      rw [hparse] at hread
      exact ⟨f, rfl, beq_iff_eq.mp hread, by decide +kernel,
        parentheses_minimal hparse⟩

end Formula

end PredicateLogic
