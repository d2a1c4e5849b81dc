/-!
Path texts.

A path is kept as text, because messages repeat it as it was given.  Its pieces are what stands between
slashes; empty pieces and pieces that are a single point carry no meaning, except a point at the very
beginning, which names the working directory.
-/

namespace IncidentDigest.FilePath

/-- The pieces of a path between its slashes; a path that starts with a slash has an empty first piece. -/
def pieces : List Char → List (List Char)
  | [] => [[]]
  | c :: cs =>
    if c = '/' then [] :: pieces cs
    else match pieces cs with
      | p :: ps => (c :: p) :: ps
      | [] => [[c]]

def join : List (List Char) → List Char
  | [] => []
  | [p] => p
  | p :: ps => p ++ '/' :: join ps

/-- Whether a piece names no step: it is empty or a single point. -/
def isIdle (piece : List Char) : Bool := piece == [] || piece == ['.']

/-- Pieces without the idle ones at their end.  The first piece of a relative path stays if it is a
point. -/
def trimEnd (ps : List (List Char)) : List (List Char) :=
  match (ps.reverse.dropWhile isIdle).reverse with
  | [] => if ps.head? == some ['.'] then [['.']] else []
  | kept => kept

/-- The path one step up, as text; `none` for the root and for the empty path. -/
def parent? (path : String) : Option String :=
  match pieces path.toList with
  | [] :: rest =>
    match (rest.reverse.dropWhile isIdle).reverse with
    | [] => none
    | kept =>
      let up := (kept.dropLast.reverse.dropWhile isIdle).reverse
      some (String.ofList ('/' :: join up))
  | ps =>
    match trimEnd ps with
    | [] => none
    | kept => some (String.ofList (join (trimEnd kept.dropLast)))

/-- At most `fuel` paths: the path itself, the path one step up, and so on. -/
def ancestorsWithin : (fuel : Nat) → String → List String
  | 0, _ => []
  | fuel + 1, path =>
    path :: match parent? path with
      | some up => ancestorsWithin fuel up
      | none => []

/-- The path itself and all paths above it, the nearest first. -/
def ancestors (path : String) : List String := ancestorsWithin (path.length + 2) path

/-- A file name in a directory.  A name that starts with a slash stands alone. -/
def append (directory name : String) : String :=
  if name.toList.head? == some '/' then name
  else if directory.isEmpty || directory.toList.getLast? == some '/' then directory ++ name
  else directory ++ "/" ++ name

end IncidentDigest.FilePath
