import PredicateLogic.CommandLine.Run

/-!
# The program

The outer layer: arguments, environment, real files and the standard streams.
-/

namespace PredicateLogic

/-- The number and the wording of an error, if the system gives one. -/
def systemError? : IO.Error → Option (UInt32 × String)
  | .alreadyExists _ number text | .interrupted _ number text
  | .inappropriateType _ number text | .invalidArgument _ number text
  | .noFileOrDirectory _ number text | .noSuchThing _ number text
  | .permissionDenied _ number text | .resourceExhausted _ number text
  | .hardwareFault number text | .illegalOperation number text
  | .otherError number text | .protocolError number text
  | .resourceBusy number text | .resourceVanished number text
  | .timeExpired number text | .unsatisfiedConstraints number text
  | .unsupportedOperation number text => some (number, text)
  | .unexpectedEof | .userError _ => none

/-- The fault that an error of the system amounts to. -/
def Fault.ofError (e : IO.Error) : Fault :=
  match systemError? e with
  | none => .other (toString e)
  | some (number, text) =>
    match number.toNat with
    | 2 => .notFound
    | 16 => .busy
    | 17 => .alreadyPresent
    | 20 => .notFolder
    | 21 => .isFolder
    | 36 => .nameTooLong
    | number => .other s!"{text} (os error {number})"

namespace SystemFiles

/-- Runs an action on the files at a path. Errors become faults. -/
def attempt {α : Type} (p : Path) (action : IO α) : ExceptT Fault IO α :=
  match p.fault? with
  | some fault => throw fault
  | none => ExceptT.mk do
    try .ok <$> action
    catch e => pure (.error (.ofError e))

/-- Whether there is a file or a folder. -/
def isPresent (p : Path) : IO Bool := do
  pure (← (attempt p (IO.FS.realPath p.text)).run).isOk

/-- Whether there is a folder. -/
def isFolder (p : Path) : IO Bool := do
  pure (← (attempt p (IO.FS.realPath (p.join (.ofText ".")).text)).run).isOk

/-- The content of a file. -/
def readText (p : Path) : ExceptT Fault IO String := do
  let content ← attempt p do (← IO.FS.Handle.mk p.text .read).readBinToEnd
  match String.fromUTF8? content with
  | some text => pure text
  | none => throw .notText

/-- Makes an empty file for its owner alone. If there is one, another number is
taken, up to the given number of times. -/
def makeDraft (p : Path) (attempts : Nat) : ExceptT Fault IO Path := do
  let draft :=
    p.draft (.ofText (toString (← IO.currentDir))) (← IO.monoNanosNow)
  try
    attempt draft do
      let _ ← IO.FS.Handle.mk draft.text .writeNew
      IO.setAccessRights draft.text ⟨⟨true, true, false⟩, ⟨false, false, false⟩,
        ⟨false, false, false⟩⟩
    pure draft
  catch fault =>
    match fault, attempts with
    | .alreadyPresent, attempts + 1 => makeDraft p attempts
    | _, _ => throw (fault.withPath draft.text)

/-- Puts a new file where a path leads to. If that fails, the file is
removed. -/
def replace (p : Path) (content : ByteArray) : ExceptT Fault IO Unit := do
  let draft ← makeDraft p 1000
  try
    try attempt draft (IO.FS.writeBinFile draft.text content)
    catch fault => throw (fault.withPath draft.text)
    attempt p (IO.FS.rename draft.text p.text)
  catch fault =>
    attempt draft (IO.FS.removeFile draft.text)
    throw fault

/-- How files and folders of the system come about. -/
def construction : Construction IO where
  isFolder := isFolder
  makeFolder p := attempt p (IO.FS.createDir p.text)
  replace := replace

/-- Access to the files of the system. -/
def access : FileAccess IO where
  isPresent path := isPresent (.ofText path)
  readText path := (readText (.ofText path)).run
  writeText path text := (construction.write (.ofText path) text.toUTF8).run

end SystemFiles

/-- Whether a variable of the environment is set to anything but zero, if it is
set. -/
def environmentFlag? (name : String) : IO (Option Bool) := do
  pure ((← IO.getEnv name).map (· != "0"))

/-- Whether messages are coloured, unless the settings say otherwise. -/
def wantsColor : IO Bool := do
  if (← environmentFlag? "CLICOLOR_FORCE") == some true then pure true
  else if (← environmentFlag? "NO_COLOR").isSome then pure false
  else if (← environmentFlag? "CLICOLOR") == some false then pure false
  else (← IO.getStdout).isTty

/-- The surroundings of this run. -/
def currentSurroundings : IO CommandLine.Surroundings := do
  let home := (← IO.getEnv "HOME").filter (!·.isEmpty)
  let debugging := (← IO.getEnv "FOLCHECK_DEBUG") == some "1"
  pure { home, debugging, colored := ← wantsColor }

end PredicateLogic

/-- Runs the program. -/
def main (arguments : List String) : IO UInt32 := do
  let surroundings ← PredicateLogic.currentSurroundings
  let outcome ←
    PredicateLogic.CommandLine.run PredicateLogic.SystemFiles.access
      surroundings arguments
  IO.eprint outcome.errors
  IO.print outcome.output
  pure outcome.code.toUInt32
