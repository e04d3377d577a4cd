import PredicateLogic.Report.Check
import PredicateLogic.Text.Line
import PredicateLogic.Text.Paint

/-!
# Diagnostics

A diagnostic shows a line of the source with the rejected part underlined, below
a title and the place in the source.
-/

namespace PredicateLogic

/-- `n` copies of a character. -/
def Text.copies (n : Nat) (c : Char) : String :=
  String.ofList (List.replicate n c)

namespace Location

/-- The number of the line, in at least four columns. -/
def lineNumber (loc : Location) : String :=
  let digits := toString loc.line
  Text.copies (4 - digits.length) ' ' ++ digits

/-- The underline of the located part, behind spaces for the text before it. -/
def underline (loc : Location) : String :=
  Text.copies (loc.column - 1) ' ' ++ Text.copies loc.length '^'

end Location

/-- The diagnostic for a part of a source that came from `origin`. -/
def renderDiagnostic (colored : Bool) (origin source title : String)
    (loc : Location) : String :=
  let paint := Text.paint colored
  let gutter := Text.copies loc.lineNumber.length ' '
  let bar := paint .dimmed "|"
  let shown := String.ofList (Text.lineAt (loc.line - 1) source.toList)
  paint (.bold .brightRed) "error:" ++ " " ++
    paint (.plain .brightWhite) title ++ "\n" ++
    paint (.plain .brightBlue) "-->" ++ " " ++
      paint (.plain .brightWhite) s!"{origin}:{loc.line}:{loc.column}" ++
        "\n" ++
    " " ++ paint .dimmed gutter ++ " " ++ bar ++ "\n" ++
    paint .dimmed loc.lineNumber ++ " " ++ bar ++ " " ++ shown ++ "\n" ++
    " " ++ paint .dimmed gutter ++ " " ++ bar ++ " " ++
      paint (.plain .brightRed) loc.underline ++ "\n"

end PredicateLogic
