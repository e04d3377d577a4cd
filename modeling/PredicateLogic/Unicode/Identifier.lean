import PredicateLogic.Unicode.IdentifierContinue

/-!
# Characters of identifiers

Identifiers follow the Unicode rules, with the low line and three tie-like signs
as further starting characters.
-/

namespace PredicateLogic

/-- Whether an identifier may start with the character. -/
def isIdentifierStart (c : Char) : Bool :=
  ['_', '‿', '⁀', '⁔'].contains c || Unicode.isXidStart c

/-- Whether an identifier may go on with the character. -/
def isIdentifierContinue (c : Char) : Bool :=
  c == '_' || Unicode.isXidContinue c

end PredicateLogic
