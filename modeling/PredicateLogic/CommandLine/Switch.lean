/-!
# Switches and subcommands

An argument that starts with a hyphen is a switch, unless it is a lone hyphen. A
switch has a long form behind two hyphens, to which a value may be joined with
an equals sign, or a form of one letter, to which a value may be joined
directly. Two hyphens alone end the switches.
-/

namespace PredicateLogic

/-- What to do with a formula. -/
inductive Command where
  /-- Report on it. -/
  | check
  /-- Report on it with its truth table. -/
  | table
  /-- Outline it. -/
  | ast
deriving DecidableEq, Repr

/-- All subcommands. -/
def Command.all : List Command := [.check, .table, .ast]

/-- The word that selects a subcommand. -/
def Command.name : Command → String
  | .check => "check"
  | .table => "table"
  | .ast => "ast"

/-- The subcommand that a word selects. -/
def Command.ofName? (word : String) : Option Command :=
  Command.all.find? (·.name == word)

namespace CommandLine

/-- A switch that is on or off. -/
inductive Flag where
  | prettyErrors
  | noAnalysis
  | json
deriving DecidableEq, Repr

/-- A switch that takes a value. -/
inductive Setting where
  | config
  | out
  | file
deriving DecidableEq, Repr

/-- What a switch is for. -/
inductive Switch where
  | flag (f : Flag)
  | setting (s : Setting)
  | help
  | version
deriving DecidableEq, Repr

/-- The switch with a long form. The formula file belongs to the subcommands. -/
def Switch.ofWord? (inCommand : Bool) : String → Option Switch
  | "pretty-errors" => some (.flag .prettyErrors)
  | "no-sema" => some (.flag .noAnalysis)
  | "json" => some (.flag .json)
  | "config" => some (.setting .config)
  | "out" => some (.setting .out)
  | "file" => if inCommand then some (.setting .file) else none
  | "help" => some .help
  | "version" => some .version
  | _ => none

/-- The switch with a form of one letter. -/
def Switch.ofLetter? (inCommand : Bool) : Char → Option Switch
  | 'f' => if inCommand then some (.setting .file) else none
  | 'h' => some .help
  | 'V' => some .version
  | _ => none

/-- The form of an argument. -/
inductive Form where
  /-- The argument stands for itself. -/
  | plain
  /-- The end of the switches. -/
  | separator
  /-- A long switch, with the value joined to it. -/
  | long (word : String) (value : Option String)
  /-- A switch of one letter, with the value joined to it. -/
  | short (letter : Char) (value : Option String)
deriving DecidableEq, Repr

/-- The text behind the equals sign that it starts with. -/
def behindEquals? : List Char → Option String
  | '=' :: cs => some (String.ofList cs)
  | _ => none

/-- The value joined to a letter, possibly with an equals sign. -/
def joinedToLetter? (cs : List Char) : Option String :=
  if cs.isEmpty then none else some ((behindEquals? cs).getD (String.ofList cs))

/-- The form of an argument. -/
def Form.ofArgument (argument : String) : Form :=
  match argument.toList with
  | ['-', '-'] => .separator
  | '-' :: '-' :: cs =>
    .long (String.ofList (cs.takeWhile (· != '=')))
      (behindEquals? (cs.dropWhile (· != '=')))
  | '-' :: letter :: cs => .short letter (joinedToLetter? cs)
  | _ => .plain

end CommandLine

end PredicateLogic
