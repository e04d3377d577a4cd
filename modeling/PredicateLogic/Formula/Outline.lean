import PredicateLogic.Formula.Basic

/-!
# Outlines

An outline shows a formula as a tree, one node a line, indented by two spaces
for each level: what the node is, its label, and its span.
-/

namespace PredicateLogic

/-- A node of an outline. -/
inductive Outline where
  | node (kind : String) (label : String) (span : Span)
      (children : List Outline)
deriving Repr

namespace Formula

/-- What a node is called in an outline. -/
def kind : Formula → String
  | .symbol _ _ => "Symbol"
  | .negation _ _ => "UnaryFormula"
  | .binary _ _ _ _ => "BinaryFormula"
  | .quantified _ _ _ _ => "QuantifiedFormula"
  | .call _ _ _ => "Call"

/-- The name or the operator of a node; a quantifier comes with its variable. -/
def label : Formula → String
  | .symbol n _ => n
  | .negation _ _ => negationGlyph.toString
  | .binary op _ _ _ => op.glyph.toString
  | .quantified q x _ _ => q.glyph.toString ++ x
  | .call n _ _ => n

mutual

/-- The outline of a formula. -/
def outline (f : Formula) : Outline :=
  .node f.kind f.label f.span <| match f with
    | .symbol _ _ => []
    | .negation a _ => [a.outline]
    | .binary _ a b _ => [a.outline, b.outline]
    | .quantified _ _ a _ => [a.outline]
    | .call _ as _ => outlineAll as

/-- The outlines of a list of formulas. -/
def outlineAll : List Formula → List Outline
  | [] => []
  | a :: as => a.outline :: outlineAll as

end

end Formula

namespace Outline

/-- The line of a node at the given depth, with its line feed. -/
def line (depth : Nat) (kind label : String) (span : Span) : String :=
  String.ofList (List.replicate (2 * depth) ' ') ++ kind ++ " " ++ label ++
    s!" [{span.start}..{span.stop}]\n"

mutual

/-- The lines of an outline, each with its line feed. -/
def lines (depth : Nat) : Outline → List String
  | .node kind label span children =>
    line depth kind label span :: linesAll (depth + 1) children

/-- The lines of several outlines at one depth. -/
def linesAll (depth : Nat) : List Outline → List String
  | [] => []
  | o :: os => lines depth o ++ linesAll depth os

end

/-- The text of an outline. -/
def render (o : Outline) : String :=
  String.join (o.lines 0)

end Outline

end PredicateLogic
