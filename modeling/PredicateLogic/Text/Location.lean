import PredicateLogic.Text.Offset

/-!
# Lines and columns

A location says for people where a span of bytes lies: its line, its column, and
how many characters of that line it covers.
-/

namespace PredicateLogic

/-- A place in a text as people count: lines and columns from one, lengths in
characters. -/
structure Location where
  /-- The line, counted from one. -/
  line : Nat
  /-- The column in characters, counted from one. -/
  column : Nat
  /-- The number of characters to underline. -/
  length : Nat
deriving DecidableEq, Repr

namespace Location

/-- The location of a span, whose ends are first moved into the text. The length
stops at the end of the line and is at least one. A span with an end inside a
character has no location. -/
def ofSpan? (source : List Char) (span : Span) : Option Location := do
  let total := Text.size source
  let start := min span.start total
  let stop := max start (min span.stop total)
  let (before, after) ← Text.splitAtByte? start source
  let (marked, _) ← Text.splitAtByte? (stop - start) after
  pure
    { line := before.count '\n' + 1
      column := (before.reverse.takeWhile (· != '\n')).length + 1
      length := max 1 (marked.takeWhile (· != '\n')).length }

end Location

end PredicateLogic
