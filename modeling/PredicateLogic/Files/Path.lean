import PredicateLogic.Files.Fault

/-!
# Paths

A path is a series of names with slashes between them. Two of the names are
special: a dot stands for the folder it is in, two dots for the folder above.
Slashes may be doubled, so what stands between two of them may be empty. A path
keeps such parts, because they count for its length.
-/

namespace PredicateLogic

/-- A path to a file or a folder. -/
structure Path where
  isAbsolute : Bool
  /-- What stands between the slashes, behind the first slash if the path starts
  at the root. -/
  parts : List String
deriving DecidableEq, Repr

namespace Path

/-- The parts of a text between slashes. -/
def partsOf (cs : List Char) : List String :=
  (cs.splitOn '/').map String.ofList

/-- The path that a text denotes. -/
def ofText (text : String) : Path :=
  match text.toList with
  | '/' :: cs => ⟨true, partsOf cs⟩
  | cs => ⟨false, partsOf cs⟩

/-- The text of a path. -/
def text (p : Path) : String :=
  (if p.isAbsolute then "/" else "") ++ "/".intercalate p.parts

theorem intercalate_partsOf (cs : List Char) :
    ['/'].intercalate ((partsOf cs).map String.toList) = cs := by
  have hmap : (partsOf cs).map String.toList = cs.splitOn '/' := by
    simp [partsOf, Function.comp_def]
  rw [hmap]
  exact List.intercalate_splitOn '/'

/-- A path loses nothing of its text. -/
theorem text_ofText (s : String) : (ofText s).text = s := by
  rw [← String.toList_inj, ofText]
  split
  · next cs h => simp [text, intercalate_partsOf, h]
  · simp [text, intercalate_partsOf]

/-- The number of bytes of a path. -/
def size (p : Path) : Nat :=
  p.text.utf8ByteSize

/-- The largest number of bytes of a path. -/
def sizeLimit : Nat := 4095

/-- The largest number of bytes of a name. -/
def nameLimit : Nat := 255

/-- The names that lead to the end of a path. Empty parts lead nowhere. -/
def names (p : Path) : List String :=
  p.parts.filter (!·.isEmpty)

/-- Whether a path denotes nothing. -/
def isEmpty (p : Path) : Bool :=
  p.names.isEmpty && !p.isAbsolute

/-- Whether the last part is empty. If there is a name in front of it, that must
be a folder. -/
def endsInSlash (p : Path) : Bool :=
  p.parts.getLast? == some ""

/-- Whether a path ends in a name that only a folder has. -/
def endsInDots (p : Path) : Bool :=
  p.names.getLast?.all fun name => name == "." || name == ".."

/-- Whether a path holds the character that ends texts of the system. -/
def hasNul (p : Path) : Bool :=
  p.text.contains '\x00'

/-- Why a path leads nowhere, whatever files there are. -/
def fault? (p : Path) : Option Fault :=
  if p.hasNul then some .nulInPath
  else if p.isEmpty then some .notFound
  else if sizeLimit < p.size then some .nameTooLong
  else none

/-- The path in which relative paths start. -/
def here : Path := ⟨false, ["."]⟩

/-- The path that goes along `p` and then along `q`, with one slash between them
if `p` does not end in slashes. -/
def join (p q : Path) : Path :=
  if q.isAbsolute then q
  else if p.endsInSlash then ⟨p.isAbsolute, p.parts.dropLast ++ q.parts⟩
  else ⟨p.isAbsolute, p.parts ++ q.parts⟩

/-- Whether a part leads nowhere. -/
def isBlank (part : String) : Bool :=
  part.isEmpty || part == "."

/-- Drops what leads nowhere from the end of a path, whose parts are given last
one first. A relative path keeps its first part. -/
def trimEnd (isAbsolute : Bool) : (parts : List String) → List String
  | [] => []
  | part :: above =>
    if isBlank part && (isAbsolute || !above.isEmpty) then
      trimEnd isAbsolute above
    else part :: above

/-- The path of the folder that a path lies in. The root lies in no folder, and
is taken to lie where relative paths start. -/
def folder (p : Path) : Path :=
  match trimEnd p.isAbsolute p.parts.reverse with
  | [] => here
  | _ :: above =>
    match trimEnd p.isAbsolute above, p.isAbsolute with
    | [], false => here
    | above, isAbsolute => ⟨isAbsolute, above.reverse⟩

/-- The name of a new file that is to take the place of another one. -/
def draftName (number : Nat) : String :=
  ".tmp" ++
    String.ofList ((Nat.toDigits 10 (1000000 + number % 1000000)).drop 1)

/-- The path of the new file that is to take the place of the file at a path. If
relative paths start at a path from the root, so does this one. -/
def draft (p start : Path) (number : Nat) : Path :=
  (start.join p.folder).join ⟨false, [draftName number]⟩

end Path

end PredicateLogic
