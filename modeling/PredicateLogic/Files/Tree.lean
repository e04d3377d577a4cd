import PredicateLogic.Files.Access

/-!
# Trees of files

A tree says what stands below a root folder. Walking along a path keeps the
folders that were entered, so that two dots lead back. The root is the folder
above itself.

Operations that change a tree keep what they have done so far when they fail.
-/

namespace PredicateLogic

/-- A file, or a folder with what it holds. -/
inductive Node where
  | file (content : ByteArray)
  | folder (entries : List (String × Node))

namespace Node

/-- Whether it is a folder. -/
def isFolder : Node → Bool
  | .folder _ => true
  | .file _ => false

/-- Puts a node where names lead to, in the place of what stands there. Folders
that are missing on the way come with it. -/
def put (new : Node) : (names : List String) → Node → Node
  | [], _ => new
  | _ :: _, .file content => .file content
  | name :: names, .folder entries =>
    let old := (entries.lookup name).getD (.folder [])
    .folder ((name, put new names old) :: entries.filter (·.1 != name))

end Node

/-- Files and folders below a root, and the folder in which relative paths
start. -/
structure FileTree where
  root : Node
  /-- The folder in which relative paths start. -/
  home : Path

/-- The way from the root that a path leads along, last step first: names, each
with what stands there. -/
abbrev FileTree.Way := List (String × Option Node)

/-- An operation that may change a tree. -/
abbrev FileTree.Action := ExceptT Fault (StateM FileTree)

namespace FileTree

/-- A tree with nothing but a folder in which relative paths start. -/
def ofFolder (home : Path) : FileTree :=
  ⟨Node.put (.folder []) home.names (.folder []), home⟩

/-- What stands where a way ends. -/
def node? (t : FileTree) : Way → Option Node
  | [] => some t.root
  | (_, node) :: _ => node

/-- Follows a name. It must lead on from a folder, but nothing need stand where
it leads to. -/
def step (t : FileTree) (way : Way) (name : String) : Except Fault Way :=
  match t.node? way with
  | none => .error .notFound
  | some (.file _) => .error .notFolder
  | some (.folder entries) =>
    if name == "." then .ok way
    else if name == ".." then .ok way.tail
    else if Path.nameLimit < name.utf8ByteSize then .error .nameTooLong
    else .ok ((name, entries.lookup name) :: way)

/-- The way that a path leads along. -/
def walk (t : FileTree) (p : Path) : Except Fault Way :=
  match p.fault? with
  | some fault => .error fault
  | none => (t.home.join p).names.foldlM t.step []

/-- What stands where a path leads to. -/
def find (t : FileTree) (p : Path) : Except Fault Node := do
  match t.node? (← t.walk p), p.endsInSlash with
  | none, _ => throw .notFound
  | some (.file _), true => throw .notFolder
  | some node, _ => pure node

/-- The content of a file. -/
def read (t : FileTree) (p : Path) : Except Fault String := do
  match ← t.find p with
  | .folder _ => throw .isFolder
  | .file content =>
    match String.fromUTF8? content with
    | some text => pure text
    | none => throw .notText

/-- The number of files and folders in a folder. -/
def count? (t : FileTree) (p : Path) : Option Nat :=
  match t.find p with
  | .ok (.folder entries) => some entries.length
  | _ => none

/-- Whether there is a folder. -/
def hasFolder (t : FileTree) (p : Path) : Bool :=
  match t.find p with
  | .ok node => node.isFolder
  | .error _ => false

/-- Puts a node where a way ends, in the place of what stands there. -/
def put (t : FileTree) (way : Way) (node : Node) : FileTree :=
  { t with root := Node.put node (way.map (·.1)).reverse t.root }

/-- Makes a folder where nothing is. -/
def makeFolder (p : Path) : Action Unit := do
  let t ← get
  let way ← t.walk p
  if (t.node? way).isSome then throw .alreadyPresent
  set (t.put way (.folder []))

/-- Puts a new file where a path leads to. The path that the file has before it
takes its place must be possible as well. -/
def replace (p : Path) (content : ByteArray) : Action Unit := do
  let t ← get
  let draft := p.draft t.home 0
  if let .error fault := t.walk draft then throw (fault.withPath draft.text)
  let way ← t.walk p
  if p.endsInDots then throw .busy
  if p.endsInSlash then throw .notFolder
  if (t.node? way).any Node.isFolder then throw .isFolder
  set (t.put way (.file content))

/-- How a tree grows. -/
def construction : Construction (StateM FileTree) where
  isFolder p := do pure ((← get).hasFolder p)
  makeFolder := makeFolder
  replace := replace

/-- Writes a file at once, making the folders that are missing on the way. -/
def write (p : Path) (content : ByteArray) : Action Unit :=
  construction.write p content

/-- Access to the files of a tree. -/
def access : FileAccess (StateM FileTree) where
  isPresent path := do pure ((← get).find (.ofText path)).isOk
  readText path := do pure ((← get).read (.ofText path))
  writeText path text := (write (.ofText path) text.toUTF8).run

end FileTree

end PredicateLogic
