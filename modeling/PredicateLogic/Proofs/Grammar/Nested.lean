import PredicateLogic.Proofs.Grammar.Span

/-!
# The spans of a formula are nested

The span of a formula that was read covers a part of the text. The spans of its
children lie in it, each of them smaller than it, one behind the other. Only
names and parentheses of calls are told from the text of a span; for the rest of
what a span covers see `Formula.parse_spans`.
-/

namespace PredicateLogic.Formula

open Unicode

/-- The spans of a formula and of its children within a text. -/
structure Nested (source : List Char) (g : Formula) : Prop where
  /-- The span covers a part of the text that is not empty and shows the
  name. -/
  covers : ∃ before part after, source = before ++ (part ++ after) ∧
    g.span = ⟨Text.size before, Text.size before + Text.size part⟩ ∧
      part ≠ [] ∧ g.Shows part
  /-- No child takes up the whole span. -/
  encloses : ∀ a ∈ g.children, g.span.Encloses a.span
  /-- Every child ends before the next one begins. -/
  ordered : g.children.Pairwise fun a b => a.span.stop ≤ b.span.start

theorem nested_of_readIn {source : List Char} {g : Formula}
    (h : Reader.ReadIn source g) :
    g.Nested source := by
  obtain ⟨p, q, hp, ⟨part, hpart, ⟨hne, -⟩, -⟩, hcomposes, -⟩ := h
  obtain ⟨before, hsource, hoffset⟩ := hp.cut
  refine ⟨⟨before, part, q.rest, ?_, ?_, hne, hcomposes.shows hpart⟩,
    hcomposes.enclosed, hcomposes.ordered⟩
  · rw [hsource, hpart.rest]
  · rw [hcomposes.span_eq, hpart.offset, hoffset]

/-- Every formula in a formula that was read is nested in the text. -/
theorem parse_nested {text : String} {f : Formula} (h : parse text = .ok f) :
    ∀ g ∈ f.subformulas, g.Nested (nfc text.toList) :=
  fun _ hg => nested_of_readIn (readIn_of_parse h hg)

theorem parse_nested_call :
    let f : Formula := .call "P" [.symbol "a" ⟨2, 3⟩, .symbol "b" ⟨4, 5⟩] ⟨0, 6⟩
    parse "P(a,b)" = .ok f ∧
      ∀ g ∈ f.subformulas, g.Nested (nfc "P(a,b)".toList) := by
  intro f
  have hnfc : nfc "P(a,b)".toList = "P(a,b)".toList := by decide +kernel
  have hparse : parse "P(a,b)" = .ok f := by
    rw [parse, Session.ofText, hnfc]
    rfl
  exact ⟨hparse, parse_nested hparse⟩

end PredicateLogic.Formula
