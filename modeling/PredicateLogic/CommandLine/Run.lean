import PredicateLogic.CommandLine.Reply
import PredicateLogic.Files.Access

/-!
# Running the program

A run goes from the arguments to an exit code and two texts. The settings are
read first, then the formula; the report goes to the output or into a file, and
a run that fails leaves both alone.
-/

namespace PredicateLogic.CommandLine

/-- What a run depends on besides arguments and files. -/
structure Surroundings where
  home : Option String
  /-- Whether to tell how the work goes. -/
  debugging : Bool
  /-- Whether messages are coloured, unless the settings say otherwise. -/
  colored : Bool

/-- The result of a run. -/
structure Outcome where
  code : Nat
  output : String
  errors : String
deriving DecidableEq, Repr

/-- What can go wrong with the files of a run. -/
inductive Breakdown where
  | readSettings (path : String) (fault : Fault)
  | refusedSettings (path : String)
  | readFormula (path : String) (fault : Fault)
  | writeReport (path : String) (fault : Fault)
deriving DecidableEq, Repr

namespace Breakdown

/-- What could not be done. -/
def task : Breakdown → String
  | .readSettings path _ => s!"Read config {path}"
  | .refusedSettings path => s!"Parse config {path}"
  | .readFormula path _ => s!"Read formula {path}"
  | .writeReport path _ => s!"Write output {path}"

/-- Why it could not be done. -/
def cause : Breakdown → String
  | .readSettings _ fault => fault.message
  | .refusedSettings _ => "invalid TOML, or a setting of the wrong type"
  | .readFormula _ fault => fault.message
  | .writeReport _ fault => fault.message

/-- The message about a breakdown. -/
def message (b : Breakdown) : String :=
  s!"Error: {b.task}\n\nCaused by:\n    {b.cause}\n"

/-- The result of a run that breaks down after some messages. -/
def outcome (messages : String) (b : Breakdown) : Outcome :=
  ⟨1, "", messages ++ b.message⟩

end Breakdown

/-- How the program is used. -/
def usage : String :=
  "Usage: folcheck [OPTIONS] <check|table|ast> <FORMULA|--file FILE>\n\n" ++
  "Commands:\n" ++
  "  check  Parse and analyze; print canonical form, height, degree and roles\n" ++
  "  table  As check, then print the truth table of a propositional formula\n" ++
  "  ast    Print the tree with source offsets\n\n" ++
  "Options:\n" ++
  "      --pretty-errors  Show rejections in the text\n" ++
  "      --no-sema        Leave roles unanalyzed\n" ++
  "      --config <FILE>  Read settings from FILE\n" ++
  "      --json           Report as JSON\n" ++
  "      --out <FILE>     Write the report to FILE\n" ++
  "  -f, --file <FILE>    Read the formula from FILE\n" ++
  "  -h, --help           Print help\n" ++
  "  -V, --version        Print version\n"

/-- The text that tells the version. -/
def versionText (command : Option Command) : String :=
  match command with
  | none => "folcheck 0.1.0\n"
  | some c => s!"folcheck-{c.name} 0.1.0\n"

/-- The result of a run whose arguments ask for no work. -/
def Stop.outcome : Stop → Outcome
  | .help _ => ⟨0, usage, ""⟩
  | .version command => ⟨0, versionText command, ""⟩
  | .misuse .nothingGiven => ⟨2, "", usage⟩
  | .misuse error => ⟨2, "", s!"error: {error.message}\n\n{usage}"⟩

/-- The path of the settings. -/
def settingsPath? (s : Surroundings) (given : Option String) : Option String :=
  given.or (s.home.map fun home =>
    (((Path.ofText home).join (.ofText ".folcheck")).join
      (.ofText "config.toml")).text)

variable {m : Type → Type} [Monad m]

/-- Reads the settings, with the messages about it. Settings that are not there
have their default values. -/
def loadSettings (files : FileAccess m) (debugging : Bool)
    (path? : Option String) :
    m (Except Breakdown (Settings × String)) := do
  match path? with
  | none => pure (.ok (.default, ""))
  | some path =>
    if ← files.isPresent path then
      match ← files.readText path with
      | .error fault => pure (.error (.readSettings path fault))
      | .ok text =>
        match Settings.parse? text with
        | none => pure (.error (.refusedSettings path))
        | some settings =>
          pure (.ok (settings, traceLine debugging s!"config: loaded {path}"))
    else
      let message :=
        traceLine debugging s!"config: {path} not found, using defaults"
      pure (.ok (.default, message))

/-- Finds the source. -/
def loadSource (files : FileAccess m) : Input → m (Except Breakdown Source)
  | .formula text => pure (.ok (.ofRaw "<formula>" text))
  | .file path => do
    match ← files.readText path with
    | .error fault => pure (.error (.readFormula path fault))
    | .ok text => pure (.ok (.ofRaw path text))

/-- The manner in which a request is to be answered. -/
def mannerOf (s : Surroundings) (settings : Settings) (r : Request) : Manner :=
  { prettyErrors := r.prettyErrors
    noAnalysis := r.noAnalysis
    json := r.json
    colored := s.colored && settings.color
    debugging := s.debugging
    maxTableTerms := settings.maxTableTerms
    glyphs := settings.glyphs }

/-- Sends a report to the output, or writes it into a file. -/
def deliver (files : FileAccess m) (colored : Bool) (out : Option String)
    (messages report : String) : m Outcome := do
  match out with
  | none => pure ⟨0, report, messages⟩
  | some path =>
    match ← files.writeText path report with
    | .ok () =>
      pure ⟨0, Text.paint colored (.bold .green) "ok:" ++ s!" wrote {path}\n",
        messages⟩
    | .error fault =>
      pure (Breakdown.outcome messages (.writeReport path fault))

/-- Answers a request. -/
def respond (files : FileAccess m) (s : Surroundings) (r : Request) :
    m Outcome := do
  match ← loadSettings files s.debugging (settingsPath? s r.config) with
  | .error b => pure (b.outcome "")
  | .ok (settings, loaded) =>
    match ← loadSource files r.input with
    | .error b => pure (b.outcome loaded)
    | .ok source =>
      let manner := mannerOf s settings r
      let reply := r.command.reply manner source
      let messages := loaded ++ reply.messages
      match reply.report with
      | none => pure ⟨1, "", messages⟩
      | some report => deliver files manner.colored r.out messages report

/-- Runs the program with the given arguments. -/
def run (files : FileAccess m) (s : Surroundings) (arguments : List String) :
    m Outcome :=
  match parseArguments arguments with
  | .error stop => pure stop.outcome
  | .ok request => respond files s request

end PredicateLogic.CommandLine
