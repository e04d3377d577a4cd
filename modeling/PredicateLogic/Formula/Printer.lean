import PredicateLogic.Formula.Basic

/-!
# Canonical text

Every formula has one canonical text. Operators appear as their glyphs, and
parentheses only where reading the text back needs them: around an operand that
holds together more loosely than its operator, around a left operand of the same
priority that does not continue the chain, and around every right operand of the
same priority.
-/

namespace PredicateLogic.Formula

/-- Encloses a text in parentheses if asked to. -/
def wrap (needed : Bool) (cs : List Char) : List Char :=
  if needed then '(' :: cs ++ [')'] else cs

/-- Whether the left operand of a connective continues a chain of the same
connective. -/
def continuesChain (op : Connective) : Formula → Bool
  | .binary inner _ _ _ => inner == op
  | _ => false

/-- Whether a left operand of a connective is put in parentheses. -/
def wrapsLeft (op : Connective) (left : Formula) : Bool :=
  left.priority < op.priority ||
    (left.priority == op.priority && !continuesChain op left)

mutual

/-- The characters of the canonical text. -/
def print : Formula → List Char
  | .symbol n _ => n.toList
  | .negation a _ => negationGlyph :: wrap (a.priority < .prefixed) a.print
  | .binary op a b _ =>
    wrap (wrapsLeft op a) a.print ++ ' ' :: op.glyph :: ' ' ::
      wrap (b.priority ≤ op.priority) b.print
  | .quantified q x a _ =>
    q.glyph :: x.toList ++
      (if a.priority < .prefixed then wrap true a.print else ' ' :: a.print)
  | .call n as _ => n.toList ++ '(' :: printArguments as ++ [')']

/-- The canonical texts of a list, with a comma and a space between them. -/
def printArguments : List Formula → List Char
  | [] => []
  | a :: as => a.print ++ printFurtherArguments as

/-- The canonical texts of the arguments behind the first, each behind a comma
and a space. -/
def printFurtherArguments : List Formula → List Char
  | [] => []
  | a :: as => ',' :: ' ' :: a.print ++ printFurtherArguments as

end

/-- The canonical text of a formula. -/
def canonical (f : Formula) : String :=
  String.ofList f.print

end PredicateLogic.Formula
