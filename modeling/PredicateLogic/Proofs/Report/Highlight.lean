import PredicateLogic.Proofs.Grammar.Recovery
import PredicateLogic.Proofs.Grammar.Refusal
import PredicateLogic.Proofs.Report.Verdict
import PredicateLogic.Proofs.Role.Rejection
import PredicateLogic.Proofs.Text.Location

/-!
# Rejections can be shown

What is highlighted of a rejected text lies between two of its places, and it
does not begin with white space: a syntax error points at a place where reading
went wrong and is shown up to the end, and an analysis error is about an
occurrence, whose span covers what it was read from. So the highlighted part has
a location.
-/

namespace PredicateLogic

open Unicode

/-- The span covers a part of the text, possibly an empty one, and no white
space follows where it begins. -/
def Highlights (source : List Char) (span : Span) : Prop :=
  ∃ before marked after, source = before ++ (marked ++ after) ∧
    span = ⟨Text.size before, Text.size before + Text.size marked⟩ ∧
      Unblanked (marked ++ after)

/-- A syntax error points at the end of the text or at a character that is no
white space. -/
theorem Session.read_error_pointable {source : List Char} {e : SyntaxError}
    (h : (start source).read.1 = .error e) :
    Place.Pointable source e.position := by
  have hin := Place.in_start source
  have hmarks : (start source).reading.Marks source :=
    (Reader.formula_marks (Reader.operandBelow_marks source maxNesting)).behind
      hin
  have hblanks :
      ∀ {p : Place}, p.In source → Place.Pointable source p.skipBlanks.offset :=
    fun {p} hp =>
      (hp.passes p.passes_skipBlanks).pointable (unblanked_dropWhile p.rest)
  rw [read_eq] at h
  split at h
  · next offset hdeep =>
    obtain rfl := Except.error.inj h
    exact hmarks offset hdeep
  · obtain rfl := Except.error.inj h
    exact hblanks hin
  · next f q hdeep houtcome =>
    split at h
    · exact absurd h (by simp)
    · obtain rfl := Except.error.inj h
      have hextends :=
        Reader.formula_extends (Reader.operandBelow_extends maxNesting)
      exact hblanks ((hin.passes (Place.passes_skipBlanks _)).passes
        (hextends.passes houtcome))

/-- From a place that an error points at, the text is highlighted up to its
end. -/
theorem highlights_of_pointable {source : List Char} {offset : Nat}
    (h : Place.Pointable source offset) :
    Highlights source ⟨offset, max (Text.size source) offset⟩ := by
  obtain ⟨p, hp, hrest, rfl⟩ := h
  obtain ⟨before, hsource, hoffset⟩ := hp.cut
  refine ⟨before, p.rest, [], by rw [List.append_nil]; exact hsource, ?_, ?_⟩
  · rw [hoffset, hsource, Text.size_append,
      Nat.max_eq_left (Nat.le_add_right _ _)]
  · rwa [List.append_nil]

/-- The span of a part of a formula that was read is not empty. -/
theorem highlights_of_parse {text : String} {f g : Formula}
    (h : Formula.parse text = .ok f) (hg : g ∈ f.subformulas) :
    Highlights (nfc text.toList) g.span ∧ g.span.start < g.span.stop := by
  obtain ⟨p, q, hp, hcovers, hcomposes, -⟩ := Formula.readIn_of_parse h hg
  have hlt := hcovers.reaches.offset_lt
  obtain ⟨part, hpart, ⟨hne, hunblanked, -⟩, -⟩ := hcovers
  obtain ⟨c, cs, rfl⟩ := List.exists_cons_of_ne_nil hne
  obtain ⟨before, hsource, hoffset⟩ := hp.cut
  rw [hcomposes.span_eq]
  refine ⟨⟨before, c :: cs, q.rest, by rw [hsource, hpart.rest], ?_,
    hunblanked⟩, hlt⟩
  rw [hpart.offset, hoffset]

/-- What is highlighted of a rejected text. -/
theorem highlights_of_check {text : String} {analyzing : Bool} {e : Rejection}
    (h : check text analyzing = .error e) :
    Highlights (nfc text.toList) (e.highlight (Text.size (nfc text.toList))) ∧
      ∀ a, e = .inconsistent a → a.span.start < a.span.stop := by
  rw [check_eq] at h
  cases hparse : Formula.parse text with
  | error s =>
      rw [hparse] at h
      obtain rfl := Except.error.inj h
      exact ⟨highlights_of_pointable (Session.read_error_pointable hparse),
        by simp⟩
  | ok f =>
      simp only [hparse] at h
      split at h
      · cases hanalyze : f.analyze with
        | ok roles => rw [hanalyze] at h; exact absurd h (by simp)
        | error a =>
            rw [hanalyze] at h
            obtain rfl := Except.error.inj h
            obtain ⟨before, p, o, after, m, recorded, hlocated, -, -, -, rfl⟩ :=
              Formula.exists_offender hanalyze
            obtain ⟨g, hg, hspan⟩ := (hlocated.isSite (p, o) (by simp)).span
            have hgspan :=
              highlights_of_parse hparse (Formula.mem_subformulas_of_at? hg)
            rw [hspan] at hgspan
            refine ⟨hgspan.1, fun a ha => ?_⟩
            obtain rfl := Rejection.inconsistent.inj ha
            exact hgspan.2
      · exact absurd h (by simp)

/-- Of every rejected text, a part can be highlighted: the span lies in the text
with both ends between characters, and begins at the end of the text or with a
character that is no white space. If an occurrence is misused, it is not empty.
Its location is the line and the column in which it begins. -/
theorem check_highlight {text : String} {analyzing : Bool} {e : Rejection}
    (h : check (normalize text) analyzing = .error e) :
    let source := (normalize text).toList
    let span := e.highlight (Text.size source)
    span.start ≤ span.stop ∧ span.stop ≤ Text.size source ∧
      (∀ a, e = .inconsistent a → span.start < span.stop) ∧
      ∃ before marked after, source = before ++ (marked ++ after) ∧
        span.start = Text.size before ∧
        span.stop = Text.size (before ++ marked) ∧
        (span.start = Text.size source ∨
          ∃ c ∈ (marked ++ after).head?, isWhiteSpace c = false) ∧
        ∃ loc, Location.ofSpan? source span = some loc ∧
          loc.LiesBehind before := by
  intro source span
  have hsource : nfc source = source := by
    rw [show source = nfc text.toList from String.toList_ofList]
    exact nfc_nfc _
  obtain ⟨⟨before, marked, after, hsplit, hspan, hunblanked⟩, hmisused⟩ :=
    highlights_of_check h
  rw [hsource] at hsplit hspan
  have hsize : Text.size source =
      Text.size before + (Text.size marked + Text.size after) := by
    rw [hsplit, Text.size_append, Text.size_append]
  have hspan' :
      span = ⟨Text.size before, Text.size before + Text.size marked⟩ := hspan
  refine ⟨?_, ?_, fun a ha => ?_, before, marked, after, hsplit, ?_, ?_, ?_, ?_⟩
  · rw [hspan']
    exact Nat.le_add_right _ _
  · rw [hspan', hsize, ← Nat.add_assoc]
    exact Nat.le_add_right _ _
  · have hlt := hmisused a ha
    rwa [show a.span = span by rw [show span = e.highlight _ from rfl, ha]; rfl]
      at hlt
  · rw [hspan']
  · rw [hspan', Text.size_append]
  · cases hrest : marked ++ after with
    | nil =>
        obtain ⟨rfl, rfl⟩ := List.append_eq_nil_iff.mp hrest
        left
        rw [hspan', hsize]
        rfl
    | cons c cs => exact .inr ⟨c, rfl, hunblanked c (by rw [hrest]; rfl)⟩
  · rw [hspan', hsplit]
    exact Location.exists_ofSpan? before marked after

theorem check_highlight_second_line :
    let text := "P(é)\n∧ P"
    let e : Rejection :=
      .inconsistent ⟨"P", .constant, .conflict (.predicate 1), ⟨10, 11⟩⟩
    let source := (normalize text).toList
    let span := e.highlight (Text.size source)
    check (normalize text) true = .error e ∧
      span.start ≤ span.stop ∧ span.stop ≤ Text.size source ∧
      (∀ a, e = .inconsistent a → span.start < span.stop) ∧
      ∃ before marked after, source = before ++ (marked ++ after) ∧
        span.start = Text.size before ∧
        span.stop = Text.size (before ++ marked) ∧
        (span.start = Text.size source ∨
          ∃ c ∈ (marked ++ after).head?, isWhiteSpace c = false) ∧
        ∃ loc, Location.ofSpan? source span = some loc ∧
          loc.LiesBehind before := by
  intro text e source span
  have hrejected : (match check (normalize text) true with
      | .error r => r == e
      | .ok _ => false) = true := by decide +kernel
  have hcheck : check (normalize text) true = .error e := by
    cases hresult : check (normalize text) true with
    | ok c =>
        rw [hresult] at hrejected
        exact Bool.noConfusion hrejected
    | error r =>
        rw [hresult] at hrejected
        rw [beq_iff_eq.mp hrejected]
  exact ⟨hcheck, check_highlight hcheck⟩

end PredicateLogic
