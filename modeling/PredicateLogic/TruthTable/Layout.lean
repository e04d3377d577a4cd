import PredicateLogic.TruthTable.Basic

/-!
# Layout of truth tables

A table is laid out with one line for its head and one for each row. The columns
of the terms are as wide as the widest text in them, and a bar separates them
from the column of the formula.
-/

namespace PredicateLogic

/-- The texts for the two truth values. -/
structure Glyphs where
  yes : String
  no : String
deriving DecidableEq, Repr

/-- The text for a truth value. -/
def Glyphs.of (g : Glyphs) (value : Bool) : String :=
  if value then g.yes else g.no

/-- A table with all its rows. -/
structure Tabulation where
  /-- The terms that head the columns. -/
  terms : List String
  rows : List Row
deriving DecidableEq, Repr

namespace Tabulation

/-- The tabulation of a truth table. -/
def ofTable (t : TruthTable) : Except EvaluationError Tabulation := do
  let rows ← t.rows
  pure ⟨t.terms, rows⟩

/-- The text with spaces behind it, up to the given number of characters. -/
def pad (width : Nat) (text : String) : String :=
  text ++ String.ofList (List.replicate (width - text.length) ' ')

/-- The width of the column of a term. -/
def columnWidth (glyphs : Glyphs) (term : String) : Nat :=
  max (max term.length glyphs.yes.length) glyphs.no.length

/-- A line of a table, given the texts of its columns and their widths. Columns
without a width are left out. -/
def line (widths : List Nat) (cells : List String) (last : String) : String :=
  " ".intercalate ((cells.zip widths).map fun (cell, width) =>
    pad width cell) ++ " │ " ++ last ++ "\n"

/-- The text of a table with the given heading above the results. -/
def render (t : Tabulation) (heading : String) (glyphs : Glyphs) : String :=
  let widths := t.terms.map (columnWidth glyphs)
  let rowLine (r : Row) :=
    line widths (r.values.map glyphs.of) (glyphs.of r.result)
  line widths t.terms heading ++ String.join (t.rows.map rowLine)

end Tabulation

end PredicateLogic
