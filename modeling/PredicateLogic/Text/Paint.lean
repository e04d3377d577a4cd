/-!
# Coloured text

Terminals switch styles with escape sequences. A painted text is wrapped in the
sequence of its style and the reset sequence; where the text itself contains a
reset, the style is switched on again behind it.
-/

namespace PredicateLogic.Text

/-- The foreground colours in use. -/
inductive Tint where
  | brightRed
  | brightBlue
  | brightWhite
  | green
  | yellow
deriving DecidableEq, Repr

/-- The number that selects a colour. -/
def Tint.code : Tint → String
  | .brightRed => "91"
  | .brightBlue => "94"
  | .brightWhite => "97"
  | .green => "32"
  | .yellow => "33"

/-- The look of a piece of text. -/
inductive Style where
  | plain (tint : Tint)
  | bold (tint : Tint)
  | dimmed
deriving DecidableEq, Repr

/-- The sequence that switches a style on. -/
def Style.opening : Style → String
  | .plain tint => "\x1b[" ++ tint.code ++ "m"
  | .bold tint => "\x1b[1;" ++ tint.code ++ "m"
  | .dimmed => "\x1b[2m"

/-- The sequence that switches all styles off. -/
def resetSequence : String := "\x1b[0m"

/-- The text in the given style, or as it stands when colours are off. -/
def paint (colored : Bool) (style : Style) (text : String) : String :=
  if colored then
    style.opening ++ text.replace resetSequence (resetSequence ++
      style.opening) ++ resetSequence
  else text

end PredicateLogic.Text
