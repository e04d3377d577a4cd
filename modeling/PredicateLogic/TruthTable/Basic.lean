import PredicateLogic.TruthTable.Counter
import PredicateLogic.TruthTable.Evaluation

/-!
# Truth tables

The table of a propositional formula has a column for each term and a row for
each list of truth values, from all false to all true. Rows are computed one at
a time, so the first rows of a large table can be looked at without the rest.
-/

namespace PredicateLogic

/-- A row of a truth table. -/
structure Row where
  values : List Bool
  result : Bool
deriving DecidableEq, Repr

/-- A formula and the terms that head the columns of its table. -/
structure TruthTable where
  formula : Formula
  /-- The terms, the most significant first. -/
  terms : List String

namespace TruthTable

/-- The table of a formula, if the formula is propositional. -/
def ofFormula? (f : Formula) : Option TruthTable :=
  if f.isPropositional then some ⟨f, f.terms⟩ else none

/-- The row with the given values. -/
def row (t : TruthTable) (values : List Bool) : Except EvaluationError Row := do
  let result ← t.formula.evaluate t.terms values
  pure ⟨values, result⟩

/-- The values of the first row. -/
def firstValues (t : TruthTable) : List Bool :=
  t.terms.map fun _ => false

/-- The next row and the values of the row behind it, given the values of the
next row. Where no values are left, there is no row, and none are left behind it
either. -/
def nextRow (t : TruthTable) :
    Option (List Bool) →
      Except EvaluationError (Option Row × Option (List Bool))
  | none => .ok (none, none)
  | some values => do
    let r ← t.row values
    pure (some r, nextAssignment? values)

/-- At most `limit` rows, from the row with the given values on. The accumulator
holds the rows before, latest first. -/
def collectRows (t : TruthTable) :
    (limit : Nat) → (values : Option (List Bool)) → List Row →
      Except EvaluationError (List Row)
  | 0, _, done => .ok done.reverse
  | limit + 1, values, done => do
    match ← t.nextRow values with
    | (none, _) => .ok done.reverse
    | (some r, rest) => t.collectRows limit rest (r :: done)

/-- The first `limit` rows, or all of them if there are fewer. -/
def firstRows (t : TruthTable) (limit : Nat) :
    Except EvaluationError (List Row) :=
  t.collectRows limit (some t.firstValues) []

/-- All rows. -/
def rows (t : TruthTable) : Except EvaluationError (List Row) :=
  t.firstRows (Nat.pow 2 t.terms.length)

end TruthTable

end PredicateLogic
