import PredicateLogic.Unicode.CodeRange

/-!
# White space

The code points with the Unicode property `White_Space`. There are twenty-five
of them.
-/

namespace PredicateLogic.Unicode

/-- The code points with the property `White_Space`. -/
def whiteSpaceRanges : List (Nat × Nat) := [
  (0x9, 0xD), (0x20, 0x20), (0x85, 0x85), (0xA0, 0xA0), (0x1680, 0x1680),
  (0x2000, 0x200A),
  (0x2028, 0x2029), (0x202F, 0x202F), (0x205F, 0x205F), (0x3000, 0x3000)]

/-- Whether a character has the Unicode property `White_Space`. -/
def isWhiteSpace (c : Char) : Bool :=
  inRanges c.toNat whiteSpaceRanges

end PredicateLogic.Unicode
