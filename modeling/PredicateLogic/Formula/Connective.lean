/-!
# Connectives and quantifiers

Every operator has one glyph, which is printed, and several spellings, which are
read. Where one spelling begins another, the longer one is listed first, so that
the first match in a list is the longest.
-/

namespace PredicateLogic

/-- The way an operator is written. -/
abbrev Spelling := List Char

/-- The first spelling in a list that the text begins with. -/
def Spelling.firstStarting? (spellings : List Spelling) (text : List Char) :
    Option Spelling :=
  spellings.find? fun s => s.isPrefixOf text

/-- How tightly a formula holds together, loosest first. -/
inductive Priority where
  | implication
  | junction
  | prefixed
  | atomic
deriving DecidableEq, Repr

namespace Priority

/-- The number of looser priorities. -/
def rank : Priority → Nat
  | .implication => 0
  | .junction => 1
  | .prefixed => 2
  | .atomic => 3

instance : LT Priority := ⟨fun a b => a.rank < b.rank⟩

instance : LE Priority := ⟨fun a b => a.rank ≤ b.rank⟩

instance (a b : Priority) : Decidable (a < b) :=
  inferInstanceAs (Decidable (a.rank < b.rank))

instance (a b : Priority) : Decidable (a ≤ b) :=
  inferInstanceAs (Decidable (a.rank ≤ b.rank))

end Priority

/-- The operators that join two formulas. -/
inductive Connective where
  | and
  | or
  | xor
  | implies
  | impliedBy
  | equivalent
deriving DecidableEq, Repr

namespace Connective

/-- All connectives. -/
def all : List Connective :=
  [.and, .or, .xor, .implies, .impliedBy, .equivalent]

/-- The sign that is printed. -/
def glyph : Connective → Char
  | .and => '∧'
  | .or => '∨'
  | .xor => '⊻'
  | .implies => '→'
  | .impliedBy => '←'
  | .equivalent => '↔'

/-- The spellings that continue a chain of the connective. -/
def spellings : Connective → List Spelling
  | .and => [['∧'], ['&']]
  | .or => [['∨'], ['|']]
  | .xor => [['⊻'], ['^']]
  | .implies => [['-', '>'], ['→']]
  | .impliedBy => [['<', '-'], ['←']]
  | .equivalent => [['<', '-', '>'], ['↔']]

/-- The connective with the given spelling. -/
def ofSpelling? (s : Spelling) : Option Connective :=
  all.find? fun op => op.spellings.contains s

/-- The priority of a formula joined by the connective. -/
def priority : Connective → Priority
  | .and | .or | .xor => .junction
  | .implies | .impliedBy | .equivalent => .implication

theorem priority_eq (op : Connective) :
    op.priority = .junction ∨ op.priority = .implication := by
  cases op <;> decide

theorem priority_lt_prefixed (op : Connective) : op.priority < .prefixed := by
  cases op <;> decide

/-- Whether the grouping of a chain does not matter. -/
def isAssociative : Connective → Bool
  | .implies | .impliedBy => false
  | .and | .or | .xor | .equivalent => true

/-- The truth value of the joined formula. -/
def apply : Connective → Bool → Bool → Bool
  | .and, a, b => a && b
  | .or, a, b => a || b
  | .xor, a, b => a != b
  | .implies, a, b => !a || b
  | .impliedBy, a, b => a || !b
  | .equivalent, a, b => a == b

/-- The spellings of the implication family. -/
def implicationSpellings : List Spelling :=
  [['<', '-', '>'], ['<', '-'], ['-', '>'], ['→'], ['←'], ['↔']]

/-- The spellings of conjunction and both disjunctions. -/
def junctionSpellings : List Spelling :=
  [['∧'], ['&'], ['∨'], ['|'], ['⊻'], ['^']]

end Connective

/-- The printed sign of negation. -/
def negationGlyph : Char := '¬'

/-- The spellings of negation. -/
def negationSpellings : List Spelling :=
  [['¬'], ['!'], ['~']]

/-- The operators that bind a variable. -/
inductive Quantifier where
  | universal
  | existential
deriving DecidableEq, Repr

namespace Quantifier

/-- The sign that is printed. -/
def glyph : Quantifier → Char
  | .universal => '∀'
  | .existential => '∃'

/-- The quantifier with the given spelling. A backslash and a letter stand for
the sign. -/
def ofSpelling? : Spelling → Option Quantifier
  | ['∀'] | ['\x5c', 'A'] | ['\x5c', 'a'] => some .universal
  | ['∃'] | ['\x5c', 'E'] | ['\x5c', 'e'] => some .existential
  | _ => none

/-- The spellings of both quantifiers. -/
def spellings : List Spelling :=
  [['∀'], ['∃'], ['\x5c', 'A'], ['\x5c', 'a'], ['\x5c', 'E'], ['\x5c', 'e']]

end Quantifier

end PredicateLogic
