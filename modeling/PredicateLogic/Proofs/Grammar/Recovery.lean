import PredicateLogic.Proofs.Grammar.Span
import PredicateLogic.Proofs.Unicode.Stability

/-!
# Formulas are read again from their spans

The text that a span covers is taken out of its surroundings. What has been read
from it in its place is also read from it alone, since no token reaches beyond
it, and since it is still normalized: it begins with a sign or a name, and it
ends with a closing parenthesis or where no mark follows.
-/

namespace PredicateLogic

open Unicode

theorem combiningClass_of_not_continue {c : Char}
    (h : isIdentifierContinue c = false) :
    combiningClass c = 0 := by
  by_contra hmark
  rw [isIdentifierContinue_of_mark hmark] at h
  exact Bool.noConfusion h

/-- No text of tokens begins with a mark. -/
theorem Scan.combiningClass_head {cs : List Char} {ts : List Token}
    (h : Scan cs ts []) :
    ∀ c ∈ cs.head?, combiningClass c = 0 := by
  intro c hc
  rcases h.head c hc with hblank | hsign | hstart
  · apply combiningClass_of_not_continue
    rw [← Bool.not_eq_true]
    intro hcontinue
    rw [isWhiteSpace_of_isIdentifierContinue hcontinue] at hblank
    exact Bool.noConfusion hblank
  · exact combiningClass_of_not_continue
      (isIdentifierContinue_of_mem_signs c hsign)
  · exact combiningClass_of_isIdentifierStart hstart

/-- A part of a normalized text that consists of tokens is a text of its own. -/
theorem accepts_of_part (before : List Char) {part after : List Char}
    {ts : List Token} {f : Formula}
    (h : nfc (before ++ (part ++ after)) = before ++ (part ++ after))
    (hsettled : Place.Settled part after) (hscan : Scan part ts [])
    (hts : Derives .formula maxNesting ts f) (hheight : f.height ≤ maxNesting) :
    Accepts (String.ofList part) f := by
  have hlast := hsettled.imp_right fun hends c hc =>
    combiningClass_of_not_continue (hends c hc)
  refine ⟨ts, ?_, hts, hheight⟩
  rw [String.toList_ofList, nfc_of_part h hscan.combiningClass_head hlast]
  exact hscan

namespace Formula

/-- The span of every formula in a formula that was read covers a text without
white space at its ends, from which the same formula is read. -/
theorem parse_spans {text : String} {f : Formula} (h : parse text = .ok f) :
    ∀ g ∈ f.subformulas,
      ∃ part, Text.slice? g.span (nfc text.toList) = some part ∧
      Trimmed part ∧ ∃ k, parse (String.ofList part) = .ok k ∧
        k.same g = true := by
  intro g hg
  rw [parse, Session.ofText, Session.read_eq_ok_iff] at h
  obtain ⟨q, hq, -⟩ := h
  have hstart :=
    (Place.in_start (nfc text.toList)).passes (Place.passes_skipBlanks _)
  obtain ⟨p, r, hp, ⟨part, hpart, htrimmed, hsettled⟩, hspan, hheight, ts,
    hts, hscan⟩ :=
    Reader.formula_writtenIn hstart hq g hg
  obtain ⟨before, hbefore⟩ := hp
  have hwhole : nfc text.toList = before ++ (part ++ r.rest) := by
    rw [← hpart.rest, ← hbefore.rest, Place.start_rest]
  have hnfc := nfc_nfc text.toList
  rw [hwhole] at hnfc
  refine ⟨part, ?_, htrimmed, parse_of_accepts ?_⟩
  · rw [hspan]
    exact Place.In.slice?_eq ⟨before, hbefore⟩ hpart
  · exact accepts_of_part before hnfc hsettled (hscan.of_append hpart.rest)
      hts hheight

theorem parse_spans_negated_group :
    let f : Formula := .negation (.symbol "a" ⟨4, 5⟩) ⟨0, 7⟩
    parse "¬( a )" = .ok f ∧
      ∀ g ∈ f.subformulas,
        ∃ part, Text.slice? g.span (nfc "¬( a )".toList) = some part ∧
        Trimmed part ∧ ∃ k, parse (String.ofList part) = .ok k ∧
          k.same g = true := by
  intro f
  have hnfc : nfc "¬( a )".toList = "¬( a )".toList := by decide +kernel
  have hparse : parse "¬( a )" = .ok f := by
    rw [parse, Session.ofText, hnfc]
    rfl
  exact ⟨hparse, parse_spans hparse⟩

end Formula

end PredicateLogic
