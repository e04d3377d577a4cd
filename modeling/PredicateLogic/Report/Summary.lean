import PredicateLogic.Formula.Outline
import PredicateLogic.Formula.Printer
import PredicateLogic.Report.Check
import PredicateLogic.Text.Json
import PredicateLogic.TruthTable.Layout

/-!
# Reports

A report sums up a checked formula: its canonical text, its measures, the roles
of its identifiers and its truth table, as far as these are wanted. It is
rendered as text or as JSON.
-/

namespace PredicateLogic

/-- What there is to say about a formula. -/
structure Report where
  canonical : String
  height : Nat
  degree : Nat
  isPropositional : Bool
  /-- The roles, if they have been analyzed. -/
  roles : Option RoleMap
  /-- The truth table, if it has been drawn up. -/
  table : Option Tabulation
deriving DecidableEq, Repr

namespace Report

/-- The report on a checked formula, without a truth table. -/
def ofChecked (c : Checked) : Report :=
  { canonical := c.formula.canonical
    height := c.formula.height
    degree := c.formula.degree
    isPropositional := c.formula.isPropositional
    roles := c.roles
    table := none }

/-- The report as text. A truth table follows behind an empty line. -/
def render (r : Report) (glyphs : Glyphs) : String :=
  let roleLine := fun (identifier, role) =>
    "  " ++ Role.describe identifier role ++ "\n"
  s!"formula: {r.canonical}\nheight: {r.height}\ndegree: {r.degree}\n" ++
    "propositional: " ++ (if r.isPropositional then "yes" else "no") ++ "\n" ++
    (match r.roles with
      | none => ""
      | some roles =>
        "interpretation:\n" ++ String.join (roles.map roleLine)) ++
    (match r.table with
      | none => ""
      | some table => "\n" ++ table.render r.canonical glyphs)

end Report

/-- A truth table as JSON. -/
def Tabulation.toJson (t : Tabulation) : Json :=
  .object
    [("terms", .array (t.terms.map .text)),
      ("rows", .array (t.rows.map fun r =>
        .object
          [("values", .array (r.values.map .truth)),
            ("result", .truth r.result)]))]

/-- A report as JSON. Parts that are not wanted are left out. -/
def Report.toJson (r : Report) : Json :=
  .object <|
    [("formula", .text r.canonical),
      ("height", .number r.height),
      ("degree", .number r.degree),
      ("propositional", .truth r.isPropositional)] ++
    (match r.roles with
      | none => []
      | some roles => [("roles", .object (roles.map fun (identifier, role) =>
          (identifier, .text role.name)))]) ++
    (match r.table with
      | none => []
      | some table => [("truth_table", table.toJson)])

namespace Outline

mutual

/-- An outline as JSON. Nodes without children say nothing about them. -/
def toJson : Outline → Json
  | .node kind label span children =>
    .object <|
      [("kind", .text kind), ("label", .text label),
        ("start", .number span.start), ("end", .number span.stop)] ++
      (if children.isEmpty then []
      else [("children", .array (toJsonAll children))])

/-- The outlines of a list as JSON. -/
def toJsonAll : List Outline → List Json
  | [] => []
  | o :: os => o.toJson :: toJsonAll os

end

end Outline

end PredicateLogic
