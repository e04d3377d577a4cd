import PredicateLogic.Proofs.Grammar.Recovery

/-!
# The prefix that is reported as valid

When a formula has been read but the text goes on, the error says where the text
should have ended and up to where it is a formula. The latter is the end of the
formula's span. This is right unless the whole formula stands in parentheses:
then the closing ones are left out, and what is reported is no formula.
-/

namespace PredicateLogic

open Unicode

/-- What is said of a formula followed by more text: the text up to the end of
the valid prefix is the formula, and nothing but white space lies between there
and the position of the error. -/
structure SyntaxError.MarksPrefix (e : SyntaxError) (source : List Char)
    (f : Formula) : Prop where
  valid : ∃ part, Text.slice? ⟨0, e.consumed⟩ source = some part ∧
    ∃ k, Formula.parse (String.ofList part) = .ok k ∧ k.same f = true
  blank : ∃ gap, Text.slice? ⟨e.consumed, e.position⟩ source = some gap ∧
    ∀ c ∈ gap, isWhiteSpace c = true

/-- Parentheses around a whole formula close behind its span. -/
theorem Place.Wraps.span_or_closing {p q : Place} {f : Formula}
    (h : p.Wraps f q) :
    f.span = ⟨p.offset, q.offset⟩ ∨
      ∃ r part, p.Passes r ∧ f.span.stop = r.offset ∧ r.Leads part q ∧
        ')' ∈ part := by
  induction h with
  | bare _ hspan => exact .inl hspan
  | @group p q f hopening hwraps hclosing ih =>
      have hinner : p.Passes (p.advance 1).skipBlanks :=
        (passes_advance p 1).trans (passes_skipBlanks _)
      have hend := q.leads_skipBlanks.trans (leads_of_startsWith hclosing)
      right
      rcases ih with hspan | ⟨r, part, hr, hstop, hpart, -⟩
      · exact ⟨q, _, hinner.trans hwraps.covers.reaches.passes, by rw [hspan],
          hend, by simp⟩
      · exact ⟨r, _, hinner.trans hr, hstop, hpart.trans hend, by simp⟩

namespace Session

variable {source : List Char} {e : SyntaxError}

theorem read_eq_endOfInput (h : (start source).read.1 = .error e)
    (he : e.complaint = .endOfInput) :
    ∃ f q, (Reader.formula (Reader.operandBelow maxNesting)
        (Place.start source).skipBlanks).Yields f q ∧
      e = ⟨.endOfInput, q.skipBlanks.offset, f.span.stop⟩ := by
  rw [read] at h
  split at h
  · obtain rfl := Except.error.inj h
    exact absurd he (by simp)
  · obtain rfl := Except.error.inj h
    exact absurd he (by simp)
  · next f q hdeep houtcome =>
    split at h
    · exact absurd h (by simp)
    · obtain rfl := Except.error.inj h
      exact ⟨f, q, ⟨houtcome, hdeep⟩, rfl⟩

/-- The text up to the end of what was read is the formula. -/
theorem accepts_prefix {f : Formula} {q : Place} (hsource : nfc source = source)
    (hq : (Reader.formula (Reader.operandBelow maxNesting)
      (Place.start source).skipBlanks).Yields f q) :
    ∃ part, (Place.start source).Leads part q ∧
      Accepts (String.ofList part) f := by
  have hwraps := Reader.formula_extends (Reader.operandBelow_extends maxNesting)
    _ f q hq.outcome
  obtain ⟨part, hpart, htrimmed, hsettled⟩ := hwraps.covers
  obtain ⟨hheight, ts, hts, hscan⟩ :=
    Reader.formula_sound (Reader.operandBelow_sound maxNesting) _ f q hq
  obtain ⟨blanks, hblanks⟩ := Place.passes_skipBlanks (Place.start source)
  have hread := hblanks.trans hpart
  have hwhole : source = blanks ++ part ++ q.rest := hread.rest
  have hlast : Place.Settled (blanks ++ part) q.rest := by
    refine hsettled.imp_left fun hlast => ?_
    rw [List.getLast?_append, hlast]
    rfl
  rw [hwhole] at hsource
  exact ⟨_, hread, accepts_of_part [] hsource hlast
    (hscan.of_dropWhile.of_append hread.rest) hts hheight⟩

theorem marksPrefix_iff (hsource : nfc source = source)
    (h : (start source).read.1 = .error e) (he : e.complaint = .endOfInput) :
    ∃ f q, (Reader.formula (Reader.operandBelow maxNesting)
        (Place.start source).skipBlanks).Yields f q ∧
      { e with consumed := q.offset }.MarksPrefix source f ∧
      (e.MarksPrefix source f ↔
        f.span = ⟨(Place.start source).skipBlanks.offset, q.offset⟩) := by
  obtain ⟨f, q, hq, rfl⟩ := read_eq_endOfInput h he
  obtain ⟨part, hpart, haccepts⟩ := accepts_prefix hsource hq
  have hin : (Place.start source).Passes q := ⟨part, hpart⟩
  have hwraps := Reader.formula_extends (Reader.operandBelow_extends maxNesting)
    _ f q hq.outcome
  have hmarks : SyntaxError.MarksPrefix
      ⟨.endOfInput, q.skipBlanks.offset, q.offset⟩ source f :=
    ⟨⟨part, (Place.in_start source).slice?_eq hpart,
      Formula.parse_of_accepts haccepts⟩,
      ⟨_, Place.In.slice?_eq hin q.leads_skipBlanks,
        fun c hc => List.all_eq_true.mp List.all_takeWhile c hc⟩⟩
  refine ⟨f, q, hq, hmarks, fun hreported => ?_, fun hspan => ?_⟩
  · refine hwraps.span_or_closing.resolve_right ?_
    rintro ⟨r, before, hr, hstop, hbefore, hclosing⟩
    obtain ⟨gap, hgap, hblank⟩ := hreported.blank
    have hslice := Place.In.slice?_eq ((Place.passes_skipBlanks _).trans hr)
      (hbefore.trans q.leads_skipBlanks)
    rw [hstop, hslice] at hgap
    obtain rfl := Option.some.inj hgap
    have hfalse := isWhiteSpace_of_mem_signs ')' (by decide)
    rw [hblank ')' (List.mem_append_left _ hclosing)] at hfalse
    exact Bool.noConfusion hfalse
  · rw [hspan]
    exact hmarks

end Session

namespace Formula

/-- The text up to the end of what was read is the formula that was read. What
is reported instead is right exactly if the span of the formula is all that was
read, so that no parentheses stand around the whole formula. -/
theorem marksPrefix_iff_span {text : String} {e : SyntaxError}
    (h : parse text = .error e) (he : e.complaint = .endOfInput) :
    ∃ f q, (Reader.formula (Reader.operandBelow maxNesting)
        (Place.start (nfc text.toList)).skipBlanks).Yields f q ∧
      { e with consumed := q.offset }.MarksPrefix (nfc text.toList) f ∧
      (e.MarksPrefix (nfc text.toList) f ↔
        f.span = ⟨(Place.start (nfc text.toList)).skipBlanks.offset,
          q.offset⟩) :=
  Session.marksPrefix_iff (nfc_nfc _) h he

theorem marksPrefix_iff_span_symbol :
    parse "a )" = .error ⟨.endOfInput, 2, 1⟩ ∧
      ∃ f q, (Reader.formula (Reader.operandBelow maxNesting)
          (Place.start (nfc "a )".toList)).skipBlanks).Yields f q ∧
        SyntaxError.MarksPrefix ⟨.endOfInput, 2, q.offset⟩
          (nfc "a )".toList) f ∧
        (SyntaxError.MarksPrefix ⟨.endOfInput, 2, 1⟩ (nfc "a )".toList) f ↔
          f.span = ⟨(Place.start (nfc "a )".toList)).skipBlanks.offset,
            q.offset⟩) := by
  have hnfc : nfc "a )".toList = "a )".toList := by decide +kernel
  have hparse : parse "a )" = .error ⟨.endOfInput, 2, 1⟩ := by
    rw [parse, Session.ofText, hnfc]
    rfl
  exact ⟨hparse, marksPrefix_iff_span hparse rfl⟩

/-- Behind a formula in parentheses neither half of what is reported is
right. -/
theorem not_marksPrefix_group :
    parse "(a) b" = .error ⟨.endOfInput, 4, 2⟩ ∧
      parse "(a" = .error ⟨.formula, 0, 0⟩ ∧
      ∀ f, ¬SyntaxError.MarksPrefix ⟨.endOfInput, 4, 2⟩
        (nfc "(a) b".toList) f := by
  have hnfc : nfc "(a) b".toList = "(a) b".toList := by decide +kernel
  have hnfc' : nfc "(a".toList = "(a".toList := by decide +kernel
  refine ⟨?_, ?_, ?_⟩
  · rw [parse, Session.ofText, hnfc]
    rfl
  · rw [parse, Session.ofText, hnfc']
    rfl
  · rintro f ⟨-, gap, hgap, hblank⟩
    have hslice : Text.slice? ⟨2, 4⟩ "(a) b".toList = some [')', ' '] := by
      decide +kernel
    rw [hnfc, hslice] at hgap
    obtain rfl := Option.some.inj hgap
    exact absurd (hblank ')' (by simp)) (by decide +kernel)

end Formula

end PredicateLogic
