import PredicateLogic.CommandLine.Reply
import PredicateLogic.Proofs.Report.Verdict
import PredicateLogic.Proofs.TruthTable.Table

/-!
# What a reply reports

A reply has a report exactly if the text passes the checks and its truth table,
where one is drawn up, is not too large. The text of the report is settled by
the checked formula, the format and the glyphs; neither the messages nor the way
they are shown count for it.
-/

namespace PredicateLogic

/-- A report in one of the two formats. -/
def Report.text (json : Bool) (glyphs : Glyphs) (r : Report) : String :=
  if json then r.toJson.pretty else r.render glyphs

/-- A truth table stands behind the rest of a report. -/
theorem Report.render_table (r : Report) (table : Tabulation)
    (glyphs : Glyphs) :
    Report.render { r with table := some table } glyphs =
      Report.render { r with table := none } glyphs ++
        ("\n" ++ table.render r.canonical glyphs) := by
  unfold Report.render
  simp only [String.append_empty]

namespace TruthTable

theorem ofTable_eq {t : TruthTable} (ht : t.WellFormed) :
    Tabulation.ofTable t = .ok ⟨t.terms, t.allRows⟩ := by
  rw [Tabulation.ofTable, rows_eq ht]
  rfl

/-- All of the truth table of a formula, if the formula is propositional. -/
def drawnUp? (f : Formula) : Option Tabulation :=
  (ofFormula? f).map fun t => ⟨t.terms, t.allRows⟩

end TruthTable

namespace Command

/-- Whether a subcommand can do with a number of terms. Only tables have a
limit. -/
def Manages (command : Command) (limit : Nat) (f : Formula) : Prop :=
  command = .table → f.isPropositional = true → f.terms.length ≤ limit

/-- The text of what a subcommand reports about a checked formula. -/
def reportText (json : Bool) (glyphs : Glyphs) (c : Checked) : Command → String
  | .check => (Report.ofChecked c).text json glyphs
  | .table =>
    Report.text json glyphs
      { Report.ofChecked c with table := TruthTable.drawnUp? c.formula }
  | .ast =>
    if json then c.formula.outline.toJson.pretty else c.formula.outline.render

variable {command : Command} {m : Manner} {c : Checked} {report : String}

theorem tableReply_report_eq_some_iff :
    (tableReply m c).report = some report ↔
      Command.table.Manages m.maxTableTerms c.formula ∧
        report = reportText m.json m.glyphs c .table := by
  rw [tableReply, Manages, reportText, TruthTable.drawnUp?]
  have hpresent : ∀ r, m.present r = Report.text m.json m.glyphs r :=
    fun _ => rfl
  cases htable : TruthTable.ofFormula? c.formula with
  | none =>
      have hplain : c.formula.isPropositional = false := by
        simpa [TruthTable.ofFormula?] using htable
      simp only [hplain, hpresent, Option.map_none, Option.some.injEq,
        Bool.false_eq_true, false_implies, implies_true, true_and]
      exact eq_comm
  | some grid =>
      obtain ⟨hformula, hgrid⟩ := TruthTable.wellFormed_of_ofFormula? htable
      have hterms : c.formula.terms = grid.terms := by rw [← hformula, hgrid.2]
      have hproper : c.formula.isPropositional = true := by
        rw [← hformula, hgrid.1]
      simp only [TruthTable.ofTable_eq hgrid, hpresent, hterms, hproper,
        Option.map_some, forall_const]
      split
      · next hmany => simp [Nat.not_le.mpr hmany]
      · next hfew => simp [Nat.not_lt.mp hfew, eq_comm]

theorem replyChecked_report_eq_some_iff :
    (command.replyChecked m c).report = some report ↔
      command.Manages m.maxTableTerms c.formula ∧
        report = command.reportText m.json m.glyphs c := by
  cases command with
  | check =>
      simp [replyChecked, checkReply, Manages, reportText, Manner.present,
        Report.text, eq_comm (a := report)]
  | table => exact tableReply_report_eq_some_iff
  | ast =>
      simp [replyChecked, outlineReply, Manages, reportText,
        Manner.presentOutline, eq_comm (a := report)]

/-- A reply has a report if the text passes the checks and has not too many
terms. -/
theorem reply_report_eq_some_iff {source : Source} :
    (command.reply m source).report = some report ↔
      ∃ c, PredicateLogic.check source.text (!m.noAnalysis) = .ok c ∧
        command.Manages m.maxTableTerms c.formula ∧
        report = command.reportText m.json m.glyphs c := by
  unfold reply PredicateLogic.check
  generalize examine source.text (!m.noAnalysis) = examination
  obtain ⟨failures, recorded, verdict⟩ := examination
  cases verdict with
  | error r => simp
  | ok c => simp [replyChecked_report_eq_some_iff]

variable {json : Bool} {glyphs : Glyphs}

/-- Without a truth table there is nothing to add to a report. -/
theorem reportText_table_of_not_propositional
    (h : c.formula.isPropositional = false) :
    reportText json glyphs c .table = reportText json glyphs c .check := by
  rw [reportText, reportText, TruthTable.drawnUp?, TruthTable.ofFormula?, h]
  rfl

/-- A truth table is all there is to add to a report. -/
theorem reportText_table_of_propositional
    (h : c.formula.isPropositional = true) :
    ∃ table : Tabulation, reportText false glyphs c .table =
      reportText false glyphs c .check ++
        ("\n" ++ table.render c.formula.canonical glyphs) := by
  have hdrawn : TruthTable.drawnUp? c.formula =
      some ⟨c.formula.terms,
        (TruthTable.mk c.formula c.formula.terms).allRows⟩ := by
    rw [TruthTable.drawnUp?, TruthTable.ofFormula?, h]
    rfl
  rw [reportText, reportText, hdrawn]
  exact ⟨_, (Report.ofChecked c).render_table _ glyphs⟩

end Command

end PredicateLogic
