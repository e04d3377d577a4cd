import PredicateLogic.Files.Path

/-!
# Access to files

What the program does with files is written once, for any monad that offers the
operations it needs.
-/

namespace PredicateLogic

/-- Operations on files, given the texts of their paths. -/
structure FileAccess (m : Type → Type) where
  /-- Whether there is a file or a folder. -/
  isPresent : String → m Bool
  readText : String → m (Except Fault String)
  /-- Replaces the content of a file at once. Folders that are missing on the
  way are made. -/
  writeText : (path text : String) → m (Except Fault Unit)

/-- Operations that put files and folders where there were none. -/
structure Construction (m : Type → Type) where
  isFolder : Path → m Bool
  /-- Makes a folder where nothing is. -/
  makeFolder : Path → ExceptT Fault m Unit
  /-- Writes a new file beside the one at a path, and lets it take the place of
  that one. -/
  replace : Path → ByteArray → ExceptT Fault m Unit

namespace Construction

variable {m : Type → Type} [Monad m]

/-- Makes a folder unless there is one. -/
def ensureFolder (c : Construction m) (p : Path) : ExceptT Fault m Unit := do
  try c.makeFolder p
  catch fault => do
    unless ← c.isFolder p do throw fault

/-- Makes the folder with the given parts, the last one first, and those that
are missing on the way to it. The longest path is tried first, so nothing is
made if it is too long. -/
def makeFolders (c : Construction m) (isAbsolute : Bool) :
    (parts : List String) →
    ExceptT Fault m Unit
  | [] => pure ()
  | part :: above => do
    if Path.isBlank part && (isAbsolute || !above.isEmpty) then
      makeFolders c isAbsolute above
    else
      let p : Path := ⟨isAbsolute, (part :: above).reverse⟩
      try c.ensureFolder p
      catch
        | .notFound => do
          makeFolders c isAbsolute above
          c.ensureFolder p
        | fault => throw fault

/-- Writes a file at once, making the folders that are missing on the way. -/
def write (c : Construction m) (p : Path) (content : ByteArray) :
    ExceptT Fault m Unit := do
  c.makeFolders p.folder.isAbsolute p.folder.parts.reverse
  c.replace p content

end Construction

end PredicateLogic
