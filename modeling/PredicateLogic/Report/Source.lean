import PredicateLogic.Unicode.Normalization

/-!
# Sources

A source is a text to be read as a formula together with the name under which it
is shown to people.
-/

namespace PredicateLogic

/-- A text and where it came from. -/
structure Source where
  origin : String
  /-- The text, normalized. -/
  text : String
deriving DecidableEq, Repr

namespace Source

/-- The text without the line ends behind it. -/
def trimLineEnds (cs : List Char) : List Char :=
  (cs.reverse.dropWhile fun c => c == '\n' || c == '\r').reverse

/-- The source for a text as it was found. -/
def ofRaw (origin raw : String) : Source :=
  ⟨origin, String.ofList (Unicode.nfc (trimLineEnds raw.toList))⟩

end Source

end PredicateLogic
