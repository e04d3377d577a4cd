import PredicateLogic.Toml.Document
import PredicateLogic.TruthTable.Layout

/-!
# Settings

Settings are kept in a TOML document. Each of them may be missing there and then
has its default value; keys that are no settings are ignored.
-/

namespace PredicateLogic

/-- The settings of a user. -/
structure Settings where
  /-- The largest number of terms for which a truth table is drawn up. -/
  maxTableTerms : Nat
  /-- The texts for the truth values in tables. -/
  glyphs : Glyphs
  color : Bool
deriving DecidableEq, Repr

namespace Settings

/-- The settings of a user who has not made any. -/
def default : Settings :=
  { maxTableTerms := 12, glyphs := ⟨"𝕋", "𝔽"⟩, color := true }

/-- The setting under a key, converted from its value, or the default if the key
is missing. -/
def get? {α : Type} (entries : Toml.Entries) (key : String) (default : α)
    (convert : Toml.Value → Option α) : Option α :=
  match entries.lookup key with
  | none => some default
  | some value => convert value

/-- The number that a value holds. -/
def number? : Toml.Value → Option Nat
  | .integer (.ofNat n) => some n
  | _ => none

/-- The text that a value holds. -/
def text? : Toml.Value → Option String
  | .text s => some s
  | _ => none

/-- The truth value that a value holds. -/
def truth? : Toml.Value → Option Bool
  | .truth b => some b
  | _ => none

/-- The settings in the entries of a document. A setting with a value of the
wrong kind is refused. -/
def ofEntries? (entries : Toml.Entries) : Option Settings := do
  let maxTableTerms ← get? entries "max_table_terms"
    default.maxTableTerms number?
  let yes ← get? entries "true_glyph" default.glyphs.yes text?
  let no ← get? entries "false_glyph" default.glyphs.no text?
  let color ← get? entries "color" default.color truth?
  pure { maxTableTerms, glyphs := ⟨yes, no⟩, color }

/-- The settings in the text of a document. -/
def parse? (text : String) : Option Settings :=
  Toml.parse? text >>= ofEntries?

end Settings

end PredicateLogic
