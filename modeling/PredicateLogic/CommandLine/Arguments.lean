import PredicateLogic.CommandLine.Switch

/-!
# Arguments

The arguments are a subcommand with switches before and behind it, and behind it
the formula or the file that holds it. A switch may be given once on each side
of the subcommand; the value behind it wins.

A switch that waits for its value takes the next argument, if that is no switch.
It is settled only when the next argument needs it to be, or at the end of its
side; so a mistake in its value comes to light after a switch that is unknown or
has a value it cannot take, and behind the subcommand before in front of it.
-/

namespace PredicateLogic

/-- Where a formula comes from. -/
inductive Input where
  | formula (text : String)
  | file (path : String)
deriving DecidableEq, Repr

/-- What the arguments ask for. -/
structure Request where
  command : Command
  input : Input
  /-- Whether to show rejections in the text. -/
  prettyErrors : Bool
  /-- Whether to leave roles unanalyzed. -/
  noAnalysis : Bool
  json : Bool
  /-- The file that holds the settings. -/
  config : Option String
  /-- The file that takes the report. -/
  out : Option String
deriving DecidableEq, Repr

/-- A mistake in the arguments. -/
inductive UsageError where
  | nothingGiven
  /-- There are switches but no subcommand. -/
  | missingCommand
  /-- An argument stands in the place of a subcommand. -/
  | unknownCommand (argument : String)
  /-- A switch is unknown, or an argument has no place. -/
  | unknownArgument (argument : String)
  /-- A switch is given twice, or a formula and a file are both given. -/
  | conflict
  /-- A switch has no value or an empty one. -/
  | missingValue
  /-- A switch has a value but takes none. -/
  | needlessValue
  /-- There is neither a formula nor a file. -/
  | missingFormula
deriving DecidableEq, Repr

/-- The wording of a mistake in the arguments. -/
def UsageError.message : UsageError → String
  | .nothingGiven => "no subcommand given"
  | .missingCommand => "no subcommand given"
  | .unknownCommand argument => s!"unrecognized subcommand '{argument}'"
  | .unknownArgument argument => s!"unexpected argument '{argument}'"
  | .conflict => "conflicting or repeated arguments"
  | .missingValue => "a value is required"
  | .needlessValue => "unexpected value for a flag"
  | .missingFormula => "no formula given (pass FORMULA or --file)"

namespace CommandLine

/-- Why the arguments ask for no work. -/
inductive Stop where
  /-- They ask for help, possibly on a subcommand. -/
  | help (command : Option Command)
  | version (command : Option Command)
  | misuse (error : UsageError)
deriving DecidableEq, Repr

/-- What has been given on one side of the subcommand. -/
structure Side where
  flags : List Flag
  settings : List (Setting × String)
  formula : Option String
  /-- The switch that is not settled, with its value unless it waits for it. -/
  pending : Option (Setting × Option String)
deriving DecidableEq, Repr

namespace Side

/-- A side without arguments. -/
def empty : Side := ⟨[], [], none, none⟩

/-- Whether neither flags nor switches with values have been given. -/
def isEmpty (side : Side) : Bool :=
  side.flags.isEmpty && side.settings.isEmpty

/-- Adds a flag. -/
def addFlag (side : Side) (f : Flag) : Except UsageError Side :=
  if f ∈ side.flags then .error .conflict
  else .ok { side with flags := f :: side.flags }

/-- Adds a switch with its value. -/
def addSetting (side : Side) (s : Setting) (value : String) :
    Except UsageError Side :=
  if (side.settings.lookup s).isSome then .error .conflict
  else if value.isEmpty then .error .missingValue
  else .ok { side with settings := (s, value) :: side.settings }

/-- Settles the pending switch. -/
def settle (side : Side) : Except UsageError Side :=
  match side.pending with
  | none => .ok side
  | some (_, none) => .error .missingValue
  | some (s, some value) => { side with pending := none }.addSetting s value

/-- The switch that waits for its value. -/
def waiting? (side : Side) : Option Setting :=
  match side.pending with
  | some (s, none) => some s
  | _ => none

/-- Takes a switch, with the value joined to it. -/
def takeSwitch (side : Side) (command : Option Command) :
    Switch → Option String → Except Stop Side
  | .setting s, some value => do
    let side ← side.settle.mapError .misuse
    (side.addSetting s value).mapError .misuse
  | .setting s, none => do
    let side ← side.settle.mapError .misuse
    pure { side with pending := some (s, none) }
  | _, some _ => .error (.misuse .needlessValue)
  | .flag f, none => do
    let side ← side.settle.mapError .misuse
    (side.addFlag f).mapError .misuse
  | .help, none => do
    let _ ← side.settle.mapError .misuse
    throw (.help command)
  | .version, none => do
    let _ ← side.settle.mapError .misuse
    throw (.version command)

/-- Takes an argument in the form of a long switch. -/
def takeLong (side : Side) (command : Option Command) (argument word : String)
    (value : Option String) : Except Stop Side :=
  match Switch.ofWord? command.isSome word with
  | some switch => side.takeSwitch command switch value
  | none => .error (.misuse (.unknownArgument argument))

/-- Takes an argument in the form of a switch of one letter. Switches without
value are acted upon before what is joined to them is looked at. -/
def takeShort (side : Side) (command : Option Command) (argument : String)
    (letter : Char) (value : Option String) : Except Stop Side :=
  match Switch.ofLetter? command.isSome letter with
  | some (.setting s) => side.takeSwitch command (.setting s) value
  | some switch => side.takeSwitch command switch none
  | none => .error (.misuse (.unknownArgument argument))

/-- Takes an argument as the formula. -/
def takeFormula (side : Side) (argument : String) : Except Stop Side :=
  if side.formula.isSome then .error (.misuse (.unknownArgument argument))
  else do
    let side ← side.settle.mapError .misuse
    pure { side with formula := some argument }

/-- Takes the arguments behind the subcommand. -/
def ofArguments (command : Command) :
    (trailing : Bool) → Side → List String → Except Stop Side
  | _, side, [] => side.settle.mapError .misuse
  | true, side, argument :: arguments => do
    ofArguments command true (← side.takeFormula argument) arguments
  | false, side, argument :: arguments =>
    match Form.ofArgument argument, side.waiting? with
    | .separator, _ => ofArguments command true side arguments
    | .long word value, _ => do
      ofArguments command false
        (← side.takeLong command argument word value) arguments
    | .short letter value, _ => do
      ofArguments command false
        (← side.takeShort command argument letter value) arguments
    | .plain, some s =>
      ofArguments command false
        { side with pending := some (s, some argument) } arguments
    | .plain, none => do
      ofArguments command false (← side.takeFormula argument) arguments

/-- Where the formula comes from. -/
def input (side : Side) : Except UsageError Input :=
  match side.formula, side.settings.lookup .file with
  | some text, none => .ok (.formula text)
  | none, some path => .ok (.file path)
  | some _, some _ => .error .conflict
  | none, none => .error .missingFormula

end Side

/-- The request of the arguments on both sides of a subcommand. -/
def requestOf (command : Command) (input : Input) (front behind : Side) :
    Request :=
  let flag := fun f => decide (f ∈ front.flags ∨ f ∈ behind.flags)
  let setting := fun s =>
    (behind.settings.lookup s).or (front.settings.lookup s)
  { command, input
    prettyErrors := flag .prettyErrors
    noAnalysis := flag .noAnalysis
    json := flag .json
    config := setting .config
    out := setting .out }

/-- Takes the arguments from a place in front of the subcommand on. -/
def takeFront :
    (trailing : Bool) → (front : Side) → List String → Except Stop Request
  | _, front, [] => do
    let front ← front.settle.mapError .misuse
    throw (.misuse (if front.isEmpty then .nothingGiven else .missingCommand))
  | true, _, argument :: _ =>
    if (Command.ofName? argument).isSome then
      .error (.misuse (.unknownArgument argument))
    else .error (.misuse (.unknownCommand argument))
  | false, front, argument :: arguments =>
    match Form.ofArgument argument, front.waiting? with
    | .separator, _ => takeFront true front arguments
    | .long word value, _ => do
      takeFront false (← front.takeLong none argument word value) arguments
    | .short letter value, _ => do
      takeFront false (← front.takeShort none argument letter value) arguments
    | .plain, some s =>
      takeFront false { front with pending := some (s, some argument) }
        arguments
    | .plain, none =>
      match Command.ofName? argument with
      | none => .error (.misuse (.unknownCommand argument))
      | some command => do
        let behind ← Side.ofArguments command false .empty arguments
        let input ← behind.input.mapError .misuse
        let front ← front.settle.mapError .misuse
        pure (requestOf command input front behind)

/-- The request of the arguments. -/
def parseArguments (arguments : List String) : Except Stop Request :=
  takeFront false .empty arguments

end CommandLine

end PredicateLogic
