import PredicateLogic.Formula.Session
import PredicateLogic.Proofs.Grammar.Completeness

/-!
# The texts of the grammar

A text is read if and only if its normalized form has a derivation within the
bound, and what is read is the tree of that derivation. Nothing that a reader
falls back to makes a difference: whatever is read derives, and whatever derives
is read before any alternative is tried.
-/

namespace PredicateLogic

/-- The normalized text consists of tokens that denote the formula, neither of
which goes beyond the bound. -/
def Accepts (text : String) (f : Formula) : Prop :=
  ∃ ts, Scan (Unicode.nfc text.toList) ts [] ∧
    Derives .formula maxNesting ts f ∧
    f.height ≤ maxNesting

namespace Session

/-- What comes of reading a formula at the current place. -/
def reading (s : Session) : Reading Formula :=
  Reader.formula (Reader.operandBelow maxNesting) s.place.skipBlanks

/-- The session with the failures of a reading recorded. -/
def recording {α : Type} (s : Session) (r : Reading α) : Session :=
  { s with failures := r.failures ++ s.failures }

variable {s : Session} {f : Formula}

/-- A call comes out as the reading says, except that nothing may stand behind
the formula. -/
theorem read_eq (s : Session) :
    s.read =
      match s.reading.tooDeep, s.reading.outcome with
      | some offset, _ =>
        (s.recording s.reading).fail .tooDeep offset s.place.offset
      | none, none =>
        (s.recording s.reading).fail .formula s.place.skipBlanks.offset
          s.place.offset
      | none, some (f, q) =>
        if q.skipBlanks.atEnd then
          (.ok f, { s.recording s.reading with place := q.skipBlanks })
        else (s.recording s.reading).fail .endOfInput q.skipBlanks.offset
          f.span.stop := rfl

theorem fail_ne_ok (s : Session) (complaint : Complaint)
    (position consumed : Nat) (f : Formula) :
    (s.fail complaint position consumed).1 ≠ .ok f := by
  simp [fail]

/-- A text is read up to its end, within the bound, or there is an error. -/
theorem read_eq_ok_iff :
    s.read.1 = .ok f ↔ ∃ q, s.reading.Yields f q ∧ q.skipBlanks.rest = [] := by
  rw [read_eq]
  constructor
  · intro h
    split at h
    · exact absurd h (fail_ne_ok _ _ _ _ f)
    · exact absurd h (fail_ne_ok _ _ _ _ f)
    · next g q hdeep houtcome =>
      split at h
      · next hend =>
        obtain rfl := Except.ok.inj h
        exact ⟨q, ⟨houtcome, hdeep⟩, by simpa [Place.atEnd] using hend⟩
      · exact absurd h (fail_ne_ok _ _ _ _ f)
  · rintro ⟨q, hq, hend⟩
    have hatEnd : q.skipBlanks.atEnd = true := by
      rw [Place.atEnd, hend]
      rfl
    simp only [hq.tooDeep, hq.outcome, hatEnd, if_true]

end Session

namespace Formula

theorem accepts_of_parse {text : String} {f : Formula}
    (h : parse text = .ok f) :
    Accepts text f := by
  rw [parse, Session.ofText, Session.read_eq_ok_iff] at h
  obtain ⟨q, hq, hend⟩ := h
  have hsound := Reader.formula_sound (Reader.operandBelow_sound maxNesting)
  obtain ⟨hheight, ts, hts, hscan⟩ := hsound (Place.start _).skipBlanks f q hq
  refine ⟨ts, ?_, hts, hheight⟩
  have hrest := hscan.skip
  rw [← Place.skipBlanks_rest, hend, Place.skipBlanks_rest, Place.start_rest]
    at hrest
  exact hrest.of_dropWhile

theorem parse_of_accepts {text : String} {f : Formula} (h : Accepts text f) :
    ∃ g, parse text = .ok g ∧ g.same f = true := by
  obtain ⟨ts, hscan, hts, hheight⟩ := h
  have hbefore :
      (Place.start (Unicode.nfc text.toList)).skipBlanks.Before (ts ++ []) := by
    rw [List.append_nil]
    apply Place.skipBlanks_before
    rw [Place.start_rest]
    exact hscan
  have hreads := (Reader.reads_of_derives hts hheight hbefore).1
    (by simp [Level.StopsBefore])
  obtain ⟨g, q, hq, hsame, hend⟩ := hreads
  have hrest : q.skipBlanks.rest = [] :=
    (Place.skipBlanks_before hend).rest_eq_nil
  refine ⟨g, ?_, hsame⟩
  rw [parse, Session.ofText, Session.read_eq_ok_iff]
  exact ⟨q, hq, hrest⟩

/-- Exactly the texts of the grammar are read, as the formulas they denote, and
no text denotes two formulas. -/
theorem parse_iff_accepts (text : String) :
    (∀ f, (∃ g, parse text = .ok g ∧ g.same f = true) ↔ Accepts text f) ∧
      ∀ f g, Accepts text f → Accepts text g → f.same g = true := by
  constructor
  · intro f
    constructor
    · rintro ⟨g, hg, hsame⟩
      obtain ⟨ts, hscan, hts, hheight⟩ := accepts_of_parse hg
      rw [height_eq_of_same hsame] at hheight
      exact ⟨ts, hscan, hts.of_same hsame, hheight⟩
    · exact parse_of_accepts
  · intro f g hf hg
    obtain ⟨f', hf', hsamef⟩ := parse_of_accepts hf
    obtain ⟨g', hg', hsameg⟩ := parse_of_accepts hg
    obtain rfl := Except.ok.inj (hf'.symm.trans hg')
    exact same_trans (same_symm hsamef) hsameg

theorem parse_iff_accepts_negation :
    let f : Formula := .negation (.symbol "a" noSpan) noSpan
    Accepts "~ a" f ∧ (∃ g, parse "~ a" = .ok g ∧ g.same f = true) ∧
      ∀ g, Accepts "~ a" g → g.same f = true := by
  intro f
  have hnfc : Unicode.nfc "~ a".toList = "~ a".toList := by decide +kernel
  have hname : (Token.identifier "a").Spells ['a'] :=
    ⟨rfl, 'a', [], rfl, by decide +kernel, by simp⟩
  have hends : (Token.identifier "a").EndsBefore [] := by
    simp [Token.EndsBefore, EndsIdentifier]
  have hnegation : Token.negation.Spells ['~'] := by
    rw [Token.Spells]
    decide
  have hscan : Scan "~ a".toList [.negation, .identifier "a"] [] :=
    .token hnegation trivial
      (.blank (by decide +kernel) (.token hname hends .here))
  have hjunction :
      Derives .junction (maxNesting - 1) [.negation, .identifier "a"] f :=
    @Derives.junction .and _ _ _ rfl (.first (.negation .symbol))
  have hderives : Derives .formula maxNesting [.negation, .identifier "a"] f :=
    .formula (@Derives.implication .implies _ _ _ rfl (.first hjunction))
  have haccepts : Accepts "~ a" f :=
    ⟨_, by rw [hnfc]; exact hscan, hderives, by decide⟩
  have h := parse_iff_accepts "~ a"
  exact ⟨haccepts, (h.1 f).mpr haccepts, fun g hg => h.2 g f hg haccepts⟩

end Formula

end PredicateLogic
