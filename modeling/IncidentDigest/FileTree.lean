import IncidentDigest.FilePath

/-!
A tree of files and directories.

Nodes are kept by location, the list of names on the way from the root.  Paths are resolved step by step
as an operating system does it: every name on the way must be a directory, a single point stays and two
points go up.  Changing a node changes nothing at any other location (`node?_set_of_ne`).

There are no links, everything may be read and written, there is always room for more, and what a file
holds is text.
-/

namespace IncidentDigest

/-- The names on the way from the root to a node. -/
abbrev Location := List String

inductive FileNode where
  | directory
  | file (content : String)
  deriving DecidableEq, Repr

inductive FileError where
  | notFound
  | notDirectory
  | isDirectory
  | alreadyExists
  | nameTooLong
  | invalidName
  deriving DecidableEq, Repr

def FileError.message : FileError → String
  | .notFound => "No such file or directory"
  | .notDirectory => "Not a directory"
  | .isDirectory => "Is a directory"
  | .alreadyExists => "File exists"
  | .nameTooLong => "File name too long"
  | .invalidName => "file name contained an unexpected NUL byte"

structure FileTree where
  nodes : List (Location × FileNode)
  workingDirectory : Location
  deriving Repr

namespace FileTree

/-- The node at a location.  The root and the working directory are always there. -/
def node? (t : FileTree) (l : Location) : Option FileNode :=
  match t.nodes.find? fun n => n.1 == l with
  | some n => some n.2
  | none => if l.isPrefixOf t.workingDirectory then some .directory else none

def set (t : FileTree) (l : Location) (node : FileNode) : FileTree :=
  { t with nodes := (l, node) :: t.nodes.filter fun n => n.1 != l }

theorem node?_set_self (t : FileTree) (l : Location) (node : FileNode) :
    (t.set l node).node? l = some node := by
  simp [node?, set]

theorem node?_set_of_ne (t : FileTree) {l m : Location} (node : FileNode) (h : m ≠ l) :
    (t.set l node).node? m = t.node? m := by
  have hl : (l == m) = false := by simpa using Ne.symm h
  have hf : (t.nodes.filter fun n => n.1 != l).find? (fun n => n.1 == m)
      = t.nodes.find? fun n => n.1 == m := by
    rw [List.find?_filter]
    congr 1
    funext n
    by_cases hn : n.1 = m
    · subst hn; simp [h]
    · simp [hn]
  simp [node?, set, hl, hf]

/-! ### Resolving paths -/

def maxNameBytes : Nat := 255

/-- A path of this many bytes or more is refused. -/
def maxPathBytes : Nat := 4096

/-- Where a path leads: to a directory by its steps, or to a name in a directory.  A slash after the name
demands that it be a directory. -/
inductive Target where
  | directory (location : Location)
  | entry (parent : Location) (name : String) (slash : Bool)
  deriving DecidableEq, Repr

/-- One step down to an existing directory, or up. -/
def step (t : FileTree) (l : Location) (piece : String) : Except FileError Location :=
  if piece == "" || piece == "." then .ok l
  else if piece == ".." then .ok l.dropLast
  else if maxNameBytes < piece.utf8ByteSize then .error .nameTooLong
  else match t.node? (l ++ [piece]) with
    | some .directory => .ok (l ++ [piece])
    | some (.file _) => .error .notDirectory
    | none => .error .notFound

/-- Resolves a path up to its last name. -/
def resolve (t : FileTree) (path : String) : Except FileError Target :=
  if path.isEmpty then .error .notFound
  else if path.toList.contains '\x00' then .error .invalidName
  else if maxPathBytes ≤ path.utf8ByteSize then .error .nameTooLong
  else
    let pieces := (FilePath.pieces path.toList).map String.ofList
    let start := if path.toList.head? == some '/' then [] else t.workingDirectory
    let steps := pieces.filter fun p => !p.isEmpty
    let slash := path.toList.getLast? == some '/'
    match steps.getLast? with
    | none => .ok (.directory start)
    | some name => do
      let parent ← steps.dropLast.foldlM t.step start
      if name == "." || name == ".." then return .directory (← t.step parent name)
      else if maxNameBytes < name.utf8ByteSize then throw .nameTooLong
      else return .entry parent name slash

/-! ### Operations -/

def lookup (t : FileTree) (path : String) : Except FileError FileNode := do
  match ← t.resolve path with
  | .directory _ => return .directory
  | .entry parent name slash =>
    match t.node? (parent ++ [name]) with
    | some (.file content) => if slash then throw .notDirectory else return .file content
    | some .directory => return .directory
    | none => throw .notFound

def pathExists (t : FileTree) (path : String) : Bool :=
  match t.lookup path with
  | .ok _ => true
  | .error _ => false

def isDirectory (t : FileTree) (path : String) : Bool :=
  match t.lookup path with
  | .ok .directory => true
  | _ => false

def read (t : FileTree) (path : String) : Except FileError String := do
  match ← t.lookup path with
  | .file content => return content
  | .directory => throw .isDirectory

/-- Makes one directory in an existing one. -/
def makeDirectory (t : FileTree) (path : String) : Except FileError FileTree := do
  match ← t.resolve path with
  | .directory _ => throw .alreadyExists
  | .entry parent name _ =>
    match t.node? (parent ++ [name]) with
    | some _ => throw .alreadyExists
    | none => return t.set (parent ++ [name]) .directory

/-- Makes the first of the given paths a directory, and before that, where needed, the paths above it.
What has been made stays, also when a later step fails. -/
def makeAncestors (t : FileTree) : List String → FileTree × Except FileError Unit
  | [] => (t, .error .notFound)
  | path :: above =>
    let settle (t : FileTree) (e : FileError) : FileTree × Except FileError Unit :=
      (t, if t.isDirectory path then .ok () else .error e)
    if path.isEmpty then (t, .ok ())
    else match t.makeDirectory path with
      | .ok t => (t, .ok ())
      | .error .notFound =>
        match t.makeAncestors above with
        | (t, .error e) => (t, .error e)
        | (t, .ok ()) =>
          match t.makeDirectory path with
          | .ok t => (t, .ok ())
          | .error e => settle t e
      | .error e => settle t e

def makeDirectories (t : FileTree) (path : String) : FileTree × Except FileError Unit :=
  t.makeAncestors (FilePath.ancestors path)

/-- Writes a file in an existing directory; an existing file is overwritten. -/
def write (t : FileTree) (path content : String) : Except FileError FileTree := do
  match ← t.resolve path with
  | .directory _ => throw .isDirectory
  | .entry parent name slash =>
    match t.node? (parent ++ [name]) with
    | some .directory => throw .isDirectory
    | _ => if slash then throw .isDirectory else return t.set (parent ++ [name]) (.file content)

end FileTree
end IncidentDigest
