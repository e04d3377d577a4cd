import PredicateLogic.Text.Place
import PredicateLogic.Unicode.Normalization

/-!
# Cursors

A cursor is a position in a normalized text together with the message recorded
last. Its position can be set to any number, so looking at the text from there
is partial: the operations that do are `none` when the position lies inside a
character or beyond the end.
-/

namespace PredicateLogic

/-- A position in a text and the last recorded message. -/
structure Cursor where
  /-- The normalized text. -/
  source : List Char
  /-- The offset in bytes, in the text or not. -/
  position : Nat
  /-- The message recorded last. -/
  error : Option String
  /-- The position at which it was recorded, zero before the first. -/
  errorPosition : Nat
deriving DecidableEq, Repr

namespace Cursor

/-- A cursor before the first character of the normalized text. -/
def ofText (text : String) : Cursor :=
  ⟨Unicode.nfc text.toList, 0, none, 0⟩

/-- The place the cursor stands at. -/
def place? (c : Cursor) : Option Place :=
  Place.at? c.source c.position

/-- Up to `n` characters from the cursor on. -/
def peek? (c : Cursor) (n : Nat) : Option (List Char) :=
  c.place?.map fun p => p.peek n

/-- Moves the cursor by `n` characters, at most to the end. -/
def advance? (c : Cursor) (n : Nat) : Option Cursor :=
  c.place?.map fun p => { c with position := (p.advance n).offset }

/-- Moves the cursor behind the white space it stands before. -/
def skipBlanks? (c : Cursor) : Option Cursor :=
  c.place?.map fun p => { c with position := p.skipBlanks.offset }

/-- Whether the cursor stands exactly at the end. -/
def atEnd (c : Cursor) : Bool :=
  c.position == Text.size c.source

/-- Records a message at the cursor. -/
def fail (c : Cursor) (message : String) : Cursor :=
  { c with error := some message, errorPosition := c.position }

/-- Sets the position, which is not checked. -/
def seek (c : Cursor) (position : Nat) : Cursor :=
  { c with position := position }

end Cursor

end PredicateLogic
