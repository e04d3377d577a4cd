import PredicateLogic.CommandLine.Arguments
import PredicateLogic.Report.Diagnostic
import PredicateLogic.Report.Source
import PredicateLogic.Report.Summary
import PredicateLogic.Settings

/-!
# Replies

What a subcommand has to say about a source: messages for people, and the
report, unless the source is rejected. No files are involved here.
-/

namespace PredicateLogic

/-- How a subcommand is to answer. -/
structure Manner where
  /-- Whether to show rejections in the text. -/
  prettyErrors : Bool
  /-- Whether to leave roles unanalyzed. -/
  noAnalysis : Bool
  json : Bool
  /-- Whether messages are coloured. -/
  colored : Bool
  /-- Whether to tell how the answer came about. -/
  debugging : Bool
  /-- The largest number of terms for which a truth table is drawn up. -/
  maxTableTerms : Nat
  /-- The texts for the truth values in tables. -/
  glyphs : Glyphs
deriving DecidableEq, Repr

/-- The answer of a subcommand. -/
structure Reply where
  messages : String
  /-- The report, unless there is none to give. -/
  report : Option String
deriving DecidableEq, Repr

namespace CommandLine

/-- A line about the course of the work, if it is wanted. -/
def traceLine (debugging : Bool) (text : String) : String :=
  if debugging then s!"[folcheck] {text}\n" else ""

end CommandLine

namespace Manner

/-- Lines about the course of the work, if they are wanted. -/
def trace (m : Manner) (texts : List String) : String :=
  String.join (texts.map (CommandLine.traceLine m.debugging))

/-- A message that does not stop the work. -/
def note (m : Manner) (text : String) : String :=
  Text.paint m.colored (.bold .yellow) "note:" ++ s!" {text}\n"

/-- A message about what stops the work. -/
def complaint (m : Manner) (text : String) : String :=
  Text.paint m.colored (.plain .brightRed) "error:" ++ s!" {text}\n"

/-- The message about a rejected source. -/
def rejection (m : Manner) (source : Source) (r : Rejection) : String :=
  let cs := source.text.toList
  match m.prettyErrors, Location.ofSpan? cs (r.highlight (Text.size cs)) with
  | true, some loc =>
    renderDiagnostic m.colored source.origin source.text r.title loc ++ "\n"
  | _, _ => m.complaint r.describe

/-- A report in the wanted format. -/
def present (m : Manner) (r : Report) : String :=
  if m.json then r.toJson.pretty else r.render m.glyphs

/-- An outline in the wanted format. -/
def presentOutline (m : Manner) (o : Outline) : String :=
  if m.json then o.toJson.pretty else o.render

end Manner

namespace Examination

/-- What happened during an examination, in order: the alternatives that failed,
then the roles that were recorded. -/
def events (e : Examination) : List String :=
  e.failures.map (fun f => s!"parse: {f.complaint.message} at {f.position}") ++
    e.recorded.map fun (identifier, role) =>
      s!"sema: '{identifier}' is a {role.name}"

end Examination

namespace Command

/-- The answer of `check` about a formula that has passed the checks. -/
def checkReply (m : Manner) (c : Checked) : Reply :=
  { messages :=
      if m.noAnalysis && !m.json then
        m.note "semantic analysis skipped (--no-sema)"
      else ""
    report := some (m.present (.ofChecked c)) }

/-- The answer of `table` about a formula that has passed the checks. -/
def tableReply (m : Manner) (c : Checked) : Reply :=
  let report := Report.ofChecked c
  match TruthTable.ofFormula? c.formula with
  | none =>
    { messages :=
        m.note
          "not propositional (quantifiers or applied identifiers), no truth table"
      report := some (m.present report) }
  | some grid =>
    let count := grid.terms.length
    let traced := m.trace [s!"table: {count} terms, 2^{count} rows"]
    if m.maxTableTerms < count then
      let text :=
        s!"{count} distinct terms exceed max_table_terms = {m.maxTableTerms}"
      { messages := traced ++ m.complaint text, report := none }
    else
      match Tabulation.ofTable grid with
      | .ok t =>
        { messages := traced,
          report := some (m.present { report with table := some t }) }
      | .error e =>
        { messages := traced ++ m.complaint e.message, report := none }

/-- The answer of `ast` about a formula that has passed the checks. -/
def outlineReply (m : Manner) (c : Checked) : Reply :=
  { messages := "", report := some (m.presentOutline c.formula.outline) }

/-- The answer of a subcommand about a formula that has passed the checks. -/
def replyChecked (m : Manner) (c : Checked) : Command → Reply
  | .check => checkReply m c
  | .table => tableReply m c
  | .ast => outlineReply m c

/-- The answer of a subcommand about a source. -/
def reply (command : Command) (m : Manner) (source : Source) : Reply :=
  let examination := examine source.text (!m.noAnalysis)
  let traced := m.trace examination.events
  match examination.verdict with
  | .error r => { messages := traced ++ m.rejection source r, report := none }
  | .ok c =>
    let answer := command.replyChecked m c
    { answer with messages := traced ++ answer.messages }

end Command

end PredicateLogic
