import PredicateLogic.CommandLine.Reply
import PredicateLogic.Proofs.Canonical.Names
import PredicateLogic.Proofs.Canonical.Unique
import PredicateLogic.Proofs.Report.Verdict
import PredicateLogic.Proofs.Role.Bare

/-!
# Nothing but error locations depends on spans

Formulas that are the same have the same canonical text, and only they do.
Whatever is found out about them is the same too, except where in a text an
identifier is misused. So it makes no difference to a report whether a text has
been checked or the canonical text of its formula.
-/

namespace PredicateLogic

/-- Two formulas that give the same answers to everything that does not ask for
spans. -/
structure Formula.Indistinguishable (f g : Formula) : Prop where
  height : f.height = g.height
  degree : f.degree = g.degree
  isPropositional : f.isPropositional = g.isPropositional
  terms : f.terms = g.terms
  evaluate : ∀ terms values, f.evaluate terms values = g.evaluate terms values
  /-- Either formula has the same truth table, or neither has one. -/
  tabulation : TruthTable.tabulation? f = TruthTable.tabulation? g
  /-- The identifiers have the same roles, or the same message says what is
  wrong. -/
  analysis : (∃ roles, f.analyze = .ok roles ∧ g.analyze = .ok roles) ∨
    ∃ e e', f.analyze = .error e ∧ g.analyze = .error e' ∧
      e.message = e'.message

theorem Formula.indistinguishable_of_same {f g : Formula}
    (h : f.same g = true) :
    f.Indistinguishable g where
  height := eq_of_same height_bare h
  degree := eq_of_same degree_bare h
  isPropositional := eq_of_same isPropositional_bare h
  terms := eq_of_same terms_bare h
  evaluate terms values := by
    rw [← evaluate_bare, (same_iff_bare f g).mp h, evaluate_bare]
  tabulation := eq_of_same TruthTable.tabulation?_bare h
  analysis := analyze_of_same h

namespace Checked

/-- What has been checked, without spans. -/
def bare (c : Checked) : Checked :=
  ⟨c.formula.bare, c.roles⟩

theorem ofChecked_bare (c : Checked) :
    Report.ofChecked c.bare = Report.ofChecked c := by
  rw [Report.ofChecked, Report.ofChecked, bare, c.formula.canonical_bare,
    c.formula.height_bare, c.formula.degree_bare,
    c.formula.isPropositional_bare]

theorem checkReply_bare (m : Manner) (c : Checked) :
    Command.checkReply m c.bare = Command.checkReply m c := by
  rw [Command.checkReply, Command.checkReply, ofChecked_bare]

theorem tableReply_bare (m : Manner) (c : Checked) :
    Command.tableReply m c.bare = Command.tableReply m c := by
  rw [Command.tableReply, Command.tableReply, ofChecked_bare, bare,
    TruthTable.ofFormula?_bare]
  cases TruthTable.ofFormula? c.formula with
  | none => rfl
  | some t =>
      simp only [Option.map_some, TruthTable.ofTable_bare]
      rfl

end Checked

/-- The canonical text of a checked formula passes the same checks, with the
same formula and the same roles. -/
theorem check_canonical {text : String} {analyzing : Bool} {c : Checked}
    (h : check text analyzing = .ok c) :
    ∃ c', check c.formula.canonical analyzing = .ok c' ∧ c'.bare = c.bare := by
  obtain ⟨hparse, hroles⟩ := check_eq_ok_iff.mp h
  obtain ⟨g, hg, hsame⟩ := Formula.exists_parse_canonical hparse
  refine ⟨⟨g, c.roles⟩, check_eq_ok_iff.mpr ⟨hg, hroles.imp_right ?_⟩, ?_⟩
  · rintro ⟨hanalyzing, roles, hanalyze, hc⟩
    refine ⟨hanalyzing, roles, ?_, hc⟩
    rcases Formula.analyze_of_same hsame with
      ⟨roles', hg', hf'⟩ | ⟨e, e', -, hf', -⟩
    · rw [hg', ← hf', hanalyze]
    · rw [hanalyze] at hf'
      exact absurd hf' (by simp)
  · rw [Checked.bare, Checked.bare,
      (Formula.same_iff_bare g c.formula).mp hsame]

/-- Formulas with names for their identifiers are the same exactly if they have
one canonical text. Formulas that are the same cannot be told apart, and the
canonical text of a formula that passes the checks leads to the same report. -/
theorem sameness_respected :
    (∀ f g : Formula, (∀ x ∈ f.names, IsIdentifier x.toList) →
        (∀ x ∈ g.names, IsIdentifier x.toList) →
        (f.same g = true ↔ f.canonical = g.canonical)) ∧
      (∀ f g : Formula, f.same g = true → f.Indistinguishable g) ∧
      ∀ text analyzing c, check text analyzing = .ok c →
        ∃ c', check c.formula.canonical analyzing = .ok c' ∧
          Report.ofChecked c' = Report.ofChecked c ∧
          ∀ m, Command.checkReply m c' = Command.checkReply m c ∧
            Command.tableReply m c' = Command.tableReply m c := by
  refine ⟨fun f g hf hg => Formula.same_iff_canonical hf hg,
    fun f g => Formula.indistinguishable_of_same, fun text analyzing c h => ?_⟩
  obtain ⟨c', hc', hbare⟩ := check_canonical h
  refine ⟨c', hc', ?_, fun m => ⟨?_, ?_⟩⟩
  · rw [← c'.ofChecked_bare, hbare, c.ofChecked_bare]
  · rw [← c'.checkReply_bare, hbare, c.checkReply_bare]
  · rw [← c'.tableReply_bare, hbare, c.tableReply_bare]

theorem sameness_respected_negated_group :
    let f : Formula := .negation (.symbol "a" ⟨4, 5⟩) ⟨0, 7⟩
    let g : Formula := .negation (.symbol "a" Formula.noSpan) Formula.noSpan
    let c : Checked := ⟨f, some [("a", .constant)]⟩
    (f.same g = true ∧ f.canonical = g.canonical ∧ f.Indistinguishable g) ∧
      check "¬( a )" true = .ok c ∧
      ∃ c', check f.canonical true = .ok c' ∧
        Report.ofChecked c' = Report.ofChecked c ∧
        ∀ m, Command.checkReply m c' = Command.checkReply m c ∧
          Command.tableReply m c' = Command.tableReply m c := by
  intro f g c
  have hnfc : Unicode.nfc "¬( a )".toList = "¬( a )".toList := by decide +kernel
  have hparse : Formula.parse "¬( a )" = .ok f := by
    rw [Formula.parse, Session.ofText, hnfc]
    rfl
  have hcheck : check "¬( a )" true = .ok c :=
    check_eq_ok_iff.mpr ⟨hparse, .inr ⟨rfl, _, rfl, rfl⟩⟩
  have hnames : ∀ x ∈ f.names, IsIdentifier x.toList := by decide +kernel
  have hnames' : ∀ x ∈ g.names, IsIdentifier x.toList := by decide +kernel
  have hsame : f.same g = true := rfl
  obtain ⟨hcanonical, hindistinguishable, hreport⟩ := sameness_respected
  exact ⟨⟨hsame, (hcanonical f g hnames hnames').mp hsame,
    hindistinguishable f g hsame⟩, hcheck, hreport _ _ c hcheck⟩

end PredicateLogic
