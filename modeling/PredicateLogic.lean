import PredicateLogic.Files.Tree
import PredicateLogic.Main
import PredicateLogic.Text.Cursor
import PredicateLogic.Formula.Machine
import PredicateLogic.Proofs.Formula.Same
import PredicateLogic.Proofs.Formula.Subformula
import PredicateLogic.Proofs.Formula.Path
import PredicateLogic.Proofs.Formula.Binding
import PredicateLogic.Proofs.Text.Separated
import PredicateLogic.Proofs.Grammar.Derivation
import PredicateLogic.Proofs.Grammar.Lookahead
import PredicateLogic.Proofs.Grammar.Outcome
import PredicateLogic.Proofs.Grammar.Soundness
import PredicateLogic.Proofs.Grammar.Completeness
import PredicateLogic.Proofs.Grammar.Acceptance
import PredicateLogic.Proofs.Text.Offset
import PredicateLogic.Proofs.Grammar.Stretch
import PredicateLogic.Proofs.Grammar.Extent
import PredicateLogic.Proofs.Machine.Cursor
import PredicateLogic.Proofs.Machine.Run
import PredicateLogic.Proofs.Machine.Levels
import PredicateLogic.Proofs.Unicode.Boundary
import PredicateLogic.Proofs.Unicode.Separator
import PredicateLogic.Proofs.Unicode.Index
import PredicateLogic.Proofs.Unicode.Decomposition
import PredicateLogic.Proofs.Unicode.Order
import PredicateLogic.Proofs.Unicode.Stability
import PredicateLogic.Proofs.Canonical.Nesting
import PredicateLogic.Proofs.Canonical.RoundTrip
import PredicateLogic.Proofs.Grammar.Span
import PredicateLogic.Proofs.Grammar.Recovery
import PredicateLogic.Proofs.Grammar.Prefix
import PredicateLogic.Proofs.Machine.Guard
import PredicateLogic.Proofs.TruthTable.Counter
import PredicateLogic.Proofs.TruthTable.Counting
import PredicateLogic.Proofs.TruthTable.Truth
import PredicateLogic.Proofs.TruthTable.Outcome
import PredicateLogic.Proofs.TruthTable.Table
import PredicateLogic.Proofs.Role.Survey
import PredicateLogic.Proofs.Role.Site
import PredicateLogic.Proofs.Role.Rejection
import PredicateLogic.Proofs.Role.Map
import PredicateLogic.Proofs.Role.Usage
import PredicateLogic.Proofs.Formula.Measure
import PredicateLogic.Proofs.Grammar.Spelled
import PredicateLogic.Proofs.Grammar.Agreement
import PredicateLogic.Proofs.Grammar.Unambiguity
import PredicateLogic.Proofs.Grammar.Lexing
import PredicateLogic.Proofs.Grammar.Refusal
import PredicateLogic.Proofs.Machine.Repetition
import PredicateLogic.Proofs.Text.Line
import PredicateLogic.Proofs.Text.Location
import PredicateLogic.Proofs.Role.Bare
import PredicateLogic.Proofs.Canonical.Unique
import PredicateLogic.Proofs.Canonical.Names
import PredicateLogic.Proofs.Canonical.Parentheses
import PredicateLogic.Proofs.Report.Verdict
import PredicateLogic.Proofs.Report.Highlight
import PredicateLogic.Proofs.Report.Sameness
import PredicateLogic.Proofs.Report.Caret
import PredicateLogic.Proofs.CommandLine.Delivery
import PredicateLogic.Proofs.Formula.Resolution
import PredicateLogic.Proofs.TruthTable.Bracketing
import PredicateLogic.Proofs.Text.Column
import PredicateLogic.Proofs.Grammar.Layout
import PredicateLogic.Proofs.Grammar.Nested
import PredicateLogic.Proofs.Formula.Outline
import PredicateLogic.Proofs.TruthTable.Layout
import PredicateLogic.Proofs.Machine.Backtracking
