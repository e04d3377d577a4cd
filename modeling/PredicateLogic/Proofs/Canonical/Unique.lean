import PredicateLogic.Proofs.Canonical.Nesting
import PredicateLogic.Proofs.Formula.Measure
import PredicateLogic.Proofs.Grammar.Lexing
import PredicateLogic.Proofs.Grammar.Unambiguity

/-!
# Canonical text is unique

Two formulas have one canonical text only if they are the same, however high
they are. The text consists of only one list of tokens, those of either formula,
and the tokens denote only one formula. No bound on nesting matters here, since
canonical tokens have a derivation within some bound.
-/

namespace PredicateLogic.Formula

variable {f g : Formula}

theorem same_of_tokens (h : f.tokens = g.tokens) : f.same g = true := by
  have hf : Derives .formula (f.nesting + 1) f.tokens f :=
    .formula_of_level (f.derives_tokens _ (Nat.le_refl _))
  have hg : Derives .formula (g.nesting + 1) g.tokens g :=
    .formula_of_level (g.derives_tokens _ (Nat.le_refl _))
  rw [h] at hf
  exact hf.unique hg

theorem tokens_of_print (hf : ∀ x ∈ f.names, IsIdentifier x.toList)
    (hg : ∀ x ∈ g.names, IsIdentifier x.toList) (h : f.print = g.print) :
    f.tokens = g.tokens := by
  have hscan := (spelled_print hf).scan
  rw [h] at hscan
  exact hscan.unique (spelled_print hg).scan

/-- Formulas are the same exactly if their canonical texts are. -/
theorem same_iff_canonical (hf : ∀ x ∈ f.names, IsIdentifier x.toList)
    (hg : ∀ x ∈ g.names, IsIdentifier x.toList) :
    f.same g = true ↔ f.canonical = g.canonical := by
  constructor
  · exact eq_of_same canonical_bare
  · intro h
    exact same_of_tokens (tokens_of_print hf hg (String.ofList_injective h))

end PredicateLogic.Formula
