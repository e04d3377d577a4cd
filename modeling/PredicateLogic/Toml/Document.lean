import PredicateLogic.Toml.Reader

/-!
# Reading TOML documents

A document is read line by line. A line holds a header in brackets, which opens
a table for the keys that follow, or a key with its value, or neither; a comment
may stand at its end. Values may extend over several lines.
-/

namespace PredicateLogic.Toml

/-- A document that has been read in part. -/
structure Document where
  /-- What has been read. -/
  entries : Entries
  /-- The path of the table that is open. -/
  opened : List String

namespace Document

/-- Gives a key in the open table a value. -/
def assign (d : Document) (key : Key) (value : Value) : Option Document := do
  let add := fun (_ : Origin) (inner : Entries) =>
    inner.assign key.path key.last value
  let entries ← Entries.within false add d.opened .header d.entries
  pure { d with entries := entries }

/-- Opens a table of its own. -/
def openTable (d : Document) (key : Key) : Option Document := do
  let entries ← d.entries.openTable key.path key.last
  pure ⟨entries, key.path ++ [key.last]⟩

/-- Opens the next table of an array. -/
def openSeries (d : Document) (key : Key) : Option Document := do
  let entries ← d.entries.openSeries key.path key.last
  pure ⟨entries, key.path ++ [key.last]⟩

/-- The document after the header or the value that comes next, and the text
behind it. -/
def item? (d : Document) : List Char → Option (Document × List Char)
  | '[' :: '[' :: cs => do
    let (key, cs) ← key? cs
    let cs ← mark? ']' (← mark? ']' cs)
    pure (← d.openSeries key, cs)
  | '[' :: cs => do
    let (key, cs) ← key? cs
    let cs ← mark? ']' cs
    pure (← d.openTable key, cs)
  | cs => do
    let (key, value, cs) ← member? (value? (depthLimit - 1)) cs
    pure (← d.assign key value, cs)

/-- The text behind a comment, if one comes next. -/
def skipComment : List Char → List Char
  | '#' :: cs => cs.dropWhile isPlain
  | cs => cs

/-- The text behind the rest of a line, which may hold blanks and a comment. -/
def endLine? (cs : List Char) : Option (List Char) :=
  match skipComment (skipBlanks cs) with
  | [] => some []
  | '\n' :: cs => some cs
  | '\r' :: '\n' :: cs => some cs
  | _ => none

/-- Reads lines to the end of the text. -/
def lines? : (fuel : Nat) → Document → List Char → Option Document
  | 0, _, _ => none
  | fuel + 1, d, cs =>
    match skipBlanks cs with
    | [] => some d
    | c :: cs =>
      if c == '#' || c == '\n' || c == '\r' then
        endLine? (c :: cs) >>= lines? fuel d
      else do
        let (d, cs) ← d.item? (c :: cs)
        lines? fuel d (← endLine? cs)

end Document

/-- Reads a document, which may start with a byte order mark. -/
def parse? (text : String) : Option Entries :=
  let cs := match text.toList with
    | '\uFEFF' :: cs => cs
    | cs => cs
  (Document.lines? (cs.length + 1) ⟨[], []⟩ cs).map (·.entries)

end PredicateLogic.Toml
