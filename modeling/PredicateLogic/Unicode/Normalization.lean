import PredicateLogic.Unicode.CombiningClass
import PredicateLogic.Unicode.Composition

/-!
# Normalization form C

`nfc` brings a text to Unicode normalization form C in three steps: decompose
every character, bring the marks after each starter into canonical order, and
compose what has a primary composite. Texts that look the same then have the
same characters, so identifiers can be compared as they stand.
-/

namespace PredicateLogic.Unicode

/-- A text whose characters are brought into canonical order, from its end
on. -/
structure Reordering where
  /-- The marks before the first starter, in ascending classes. Those of one
  class keep their order. -/
  marks : List (Nat × List Char)
  /-- The text from the first starter on, which nothing can change any more. -/
  rest : List Char

namespace Reordering

/-- Puts a mark of the class `k` before the marks of its class. -/
def insertMark (k : Nat) (c : Char) :
    List (Nat × List Char) → List (Nat × List Char)
  | [] => [(k, [c])]
  | (j, ds) :: classes =>
    if j < k then (j, ds) :: insertMark k c classes
    else if j = k then (k, c :: ds) :: classes
    else (k, [c]) :: (j, ds) :: classes

/-- The ordered text. -/
def text (s : Reordering) : List Char :=
  s.marks.flatMap (·.2) ++ s.rest

/-- Puts a character before the text. A mark moves behind the marks of smaller
class that follow it, never past a starter or a mark of its own class. -/
def add (c : Char) (s : Reordering) : Reordering :=
  match combiningClass c with
  | 0 => ⟨[], c :: s.text⟩
  | k + 1 => { s with marks := insertMark (k + 1) c s.marks }

end Reordering

/-- The text with the marks after each starter in ascending order of their
classes. -/
def canonicalOrder (cs : List Char) : List Char :=
  (cs.foldr Reordering.add ⟨[], []⟩).text

/-- A text that is being composed. The lists hold the latest character first. -/
structure Composing where
  /-- The characters that nothing can change any more. -/
  done : List Char
  /-- The last starter, which may still take up what follows. -/
  starter : Option Char
  /-- The marks behind the last starter that it did not take up. -/
  held : List Char

namespace Composing

/-- Whether a held mark keeps `c` from the last starter. -/
def blocks (held : List Char) (c : Char) : Bool :=
  match held with
  | [] => false
  | d :: _ => combiningClass c ≤ combiningClass d

/-- Reads the next character of a canonically ordered text. -/
def step (s : Composing) (c : Char) : Composing :=
  match s.starter with
  | none =>
    if combiningClass c = 0 then { s with starter := some c }
    else { s with done := c :: s.done }
  | some k =>
    match if blocks s.held c then none else compose? k c with
    | some r => { s with starter := some r }
    | none =>
      if combiningClass c = 0 then ⟨s.held ++ k :: s.done, some c, []⟩
      else { s with held := c :: s.held }

/-- The composed text. -/
def finish (s : Composing) : List Char :=
  (s.held ++ s.starter.toList ++ s.done).reverse

end Composing

/-- Normalization form C of a text. -/
def nfc (cs : List Char) : List Char :=
  ((canonicalOrder (cs.flatMap decompose)).foldl
    Composing.step ⟨[], none, []⟩).finish

end PredicateLogic.Unicode

namespace PredicateLogic

/-- Normalization form C of a string. Every offset into a formula counts from
the start of this form. -/
def normalize (text : String) : String :=
  String.ofList (Unicode.nfc text.toList)

end PredicateLogic
