/-!
# Lines of a text

A line ends before a line feed, or before a carriage return and a line feed. The
text behind the last line feed is a line of its own.
-/

namespace PredicateLogic.Text

/-- The text behind the first line feed, if there is one. -/
def afterLineFeed? (cs : List Char) : Option (List Char) :=
  match cs.dropWhile (· != '\n') with
  | [] => none
  | _ :: rest => some rest

/-- The first line of a text. The carriage return of a line end does not belong
to the line. -/
def firstLine (cs : List Char) : List Char :=
  let line := cs.takeWhile (· != '\n')
  if (afterLineFeed? cs).isSome && line.getLast? == some '\r' then line.dropLast
  else line

/-- The line with the given index, counted from zero, and the empty text if
there is none. -/
def lineAt : Nat → List Char → List Char
  | 0, cs => firstLine cs
  | n + 1, cs =>
    match afterLineFeed? cs with
    | none => []
    | some rest => lineAt n rest

end PredicateLogic.Text
