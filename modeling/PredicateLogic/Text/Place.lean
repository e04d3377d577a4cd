import PredicateLogic.Text.Offset
import PredicateLogic.Unicode.WhiteSpace

/-!
# Places in a text

A place is an offset together with the text that remains from there on. The
reader of formulas moves from place to place; since a place carries its
remaining text, every place reached this way lies between two characters.
-/

namespace PredicateLogic

/-- An offset and the text from there on. -/
structure Place where
  /-- The offset in bytes. -/
  offset : Nat
  /-- The text that has not been read. -/
  rest : List Char
deriving DecidableEq, Repr

namespace Place

/-- The place before the first character of a text. -/
def start (source : List Char) : Place :=
  ⟨0, source⟩

/-- The place at an offset of a text, if the offset lies between two
characters. -/
def at? (source : List Char) (offset : Nat) : Option Place :=
  (Text.splitAtByte? offset source).map fun (_, rest) => ⟨offset, rest⟩

/-- The first `n` characters from here on, or all of them if there are fewer. -/
def peek (p : Place) (n : Nat) : List Char :=
  p.rest.take n

/-- The place `n` characters later, or the end of the text if there are
fewer. -/
def advance (p : Place) (n : Nat) : Place :=
  ⟨p.offset + Text.size (p.rest.take n), p.rest.drop n⟩

/-- The place behind the characters that satisfy a test. -/
def skipWhile (p : Place) (test : Char → Bool) : Place :=
  ⟨p.offset + Text.size (p.rest.takeWhile test), p.rest.dropWhile test⟩

/-- The place behind the white space from here on. -/
def skipBlanks (p : Place) : Place :=
  p.skipWhile Unicode.isWhiteSpace

/-- Whether a character comes next. -/
def startsWith (p : Place) (c : Char) : Bool :=
  match p.rest with
  | [] => false
  | d :: _ => c == d

/-- Whether the text has been read to its end. -/
def atEnd (p : Place) : Bool :=
  p.rest.isEmpty

@[simp] theorem start_rest (source : List Char) :
    (start source).rest = source := rfl

@[simp] theorem advance_rest (p : Place) (n : Nat) :
    (p.advance n).rest = p.rest.drop n := rfl

theorem advance_rest_of_append {p : Place} {s ds : List Char}
    (h : p.rest = s ++ ds) :
    (p.advance s.length).rest = ds := by
  rw [advance_rest, h, List.drop_left]

@[simp] theorem skipBlanks_rest (p : Place) :
    p.skipBlanks.rest = p.rest.dropWhile Unicode.isWhiteSpace := rfl

end Place

/-- A text without the white space at its ends. -/
def Text.trimBlanks (cs : List Char) : List Char :=
  ((cs.dropWhile Unicode.isWhiteSpace).reverse.dropWhile
    Unicode.isWhiteSpace).reverse

end PredicateLogic
