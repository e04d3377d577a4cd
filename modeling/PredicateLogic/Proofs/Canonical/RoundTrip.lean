import PredicateLogic.Proofs.Canonical.Nesting
import PredicateLogic.Proofs.Grammar.Acceptance

/-!
# Canonical text is read back

The canonical text of a formula belongs to the grammar, with the formula as its
tree, as long as it stays within the bound on nesting. It does so for all
formulas that are not too high, and for all that have been read from some text.
-/

namespace PredicateLogic.Formula

theorem accepts_canonical {f : Formula} (hnames : ∀ x ∈ f.names, IsName x)
    (hnesting : f.nesting < maxNesting) (hheight : f.height ≤ maxNesting) :
    Accepts f.canonical f := by
  have hspelled := spelled_print fun x hx => (hnames x hx).1
  refine ⟨f.tokens, ?_, ?_, hheight⟩
  · rw [canonical, String.toList_ofList]
    exact hspelled.scan_nfc fun x hx =>
      (hnames x (mem_names_of_mem_tokens hx)).2
  · exact .formula_of_level
      (f.derives_tokens (maxNesting - 1) (Nat.le_pred_of_lt hnesting))

theorem nesting_lt_of_parse {text : String} {f : Formula}
    (h : parse text = .ok f) :
    f.nesting < maxNesting := by
  obtain ⟨ts, -, hts, -⟩ := accepts_of_parse h
  exact hts.nesting_le

/-- Whatever has names for its identifiers, and either is not too high or has
been read, is read back from its canonical text. -/
theorem parse_canonical (f : Formula) (hnames : ∀ x ∈ f.names, IsName x)
    (hf : f.height ≤ maxNesting - 1 ∨ ∃ text, parse text = .ok f) :
    ∃ g, parse f.canonical = .ok g ∧ g.same f = true := by
  have hbounds : f.nesting < maxNesting ∧ f.height ≤ maxNesting := by
    rcases hf with hheight | ⟨text, htext⟩
    · have hle : f.nesting ≤ f.height :=
        Nat.le_trans (Nat.le_add_right _ _) f.nesting_le_height
      exact ⟨Nat.lt_of_le_of_lt (Nat.le_trans hle hheight) (by decide),
        Nat.le_succ_of_le hheight⟩
    · obtain ⟨ts, -, -, hheight⟩ := accepts_of_parse htext
      exact ⟨nesting_lt_of_parse htext, hheight⟩
  exact parse_of_accepts (accepts_canonical hnames hbounds.1 hbounds.2)

theorem parse_canonical_mixed_chains :
    let f : Formula :=
      .binary .or (.quantified .universal "é" (.binary .and (.symbol "a" noSpan)
          (.binary .and (.symbol "é" noSpan) (.call "f" [] noSpan) noSpan)
            noSpan) noSpan)
        (.binary .impliedBy (.symbol "b" noSpan)
          (.negation (.symbol "a" noSpan) noSpan) noSpan)
        noSpan
    ((∀ x ∈ f.names, IsName x) ∧ f.height ≤ maxNesting - 1) ∧
      ∃ g, parse f.canonical = .ok g ∧ g.same f = true := by
  intro f
  have hnames : ∀ x ∈ f.names, IsName x := by decide +kernel
  have hheight : f.height ≤ maxNesting - 1 := by decide
  exact ⟨⟨hnames, hheight⟩, parse_canonical f hnames (.inl hheight)⟩

end PredicateLogic.Formula
