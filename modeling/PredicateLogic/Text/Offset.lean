/-!
# Byte offsets

Places in a text are counted in bytes of its UTF-8 form, although the text
itself is a list of characters. `Text.size` measures a text, and `splitAtByte?`
cuts it at an offset, which fails when the offset lies inside a character or
beyond the end.
-/

namespace PredicateLogic

/-- A half-open range of byte offsets. -/
structure Span where
  /-- The offset of the first byte. -/
  start : Nat
  /-- The offset behind the last byte. -/
  stop : Nat
deriving DecidableEq, Repr

namespace Text

/-- The number of bytes of a text in UTF-8. -/
def size (cs : List Char) : Nat :=
  cs.foldr (fun c bytes => c.utf8Size + bytes) 0

@[simp] theorem size_nil : size [] = 0 := rfl

@[simp] theorem size_cons (c : Char) (cs : List Char) :
    size (c :: cs) = c.utf8Size + size cs := rfl

@[simp] theorem size_append (cs ds : List Char) :
    size (cs ++ ds) = size cs + size ds := by
  induction cs with
  | nil => simp
  | cons c cs ih =>
      rw [List.cons_append, size_cons, size_cons, ih, Nat.add_assoc]

/-- Moves characters from the second text to the end of the first, which is kept
latest first, until `n` bytes have been moved. -/
def moveBytes? : Nat → List Char → List Char → Option (List Char × List Char)
  | 0, before, after => some (before.reverse, after)
  | _ + 1, _, [] => none
  | n + 1, before, c :: after =>
    if c.utf8Size ≤ n + 1 then
      moveBytes? (n + 1 - c.utf8Size) (c :: before) after
    else none

/-- Cuts a text behind its first `n` bytes. There is no cut inside a character
or beyond the end. -/
def splitAtByte? (n : Nat) (cs : List Char) : Option (List Char × List Char) :=
  moveBytes? n [] cs

/-- The part of a text that a span covers. -/
def slice? (span : Span) (cs : List Char) : Option (List Char) := do
  if span.stop < span.start then none
  let (_, after) ← splitAtByte? span.start cs
  let (part, _) ← splitAtByte? (span.stop - span.start) after
  pure part

end Text

end PredicateLogic
