import IncidentDigest.Program.Run

/-!
How far a run has come.

A run depends on what comes of its requests.  While only some of them have been made, the run is followed
on what has happened so far: the first request beyond that is the one to be made next, and a warning
is certain if it is given whatever comes of that request.
-/

namespace IncidentDigest

/-- A request that has been made, and what has come of it. -/
structure Exchange where
  request : Http.Request
  reaction : Http.Reaction
  deriving DecidableEq, Repr

namespace Exchange

/-- The script of what has happened; one reaction stands for all that has not. -/
def script (done : List Exchange) (other : Http.Reaction) : Http.Script := fun route n =>
  match (done.filter fun e => e.request.route = route)[n]? with
  | some e => e.reaction
  | none => other

def hasArrived (e : Exchange) : Bool :=
  match e.reaction with
  | .reply _ | .closed => true
  | .silence | .refusal => false

end Exchange

structure Progress where
  ending : Ending
  world : World
  /-- The request to be made next; without one, the run has come to its end. -/
  next : Option Http.Request
  /-- What the user is told until then. -/
  warnings : List Warning

namespace Progress

/-- What two lists have in common at their start. -/
def commonStart : List Warning → List Warning → List Warning
  | v :: vs, w :: ws => if v = w then v :: commonStart vs ws else []
  | _, _ => []

/-- Follows a run on what has happened so far. -/
def follow (run : World → Ending × World) (files : FileTree) (done : List Exchange) : Progress :=
  let (ending, world) := run (.start (Exchange.script done .closed) files)
  let (_, other) := run (.start (Exchange.script done .silence) files)
  let network := world.session.network
  { ending
    world
    next :=
      if network.asked.length ≤ done.length then none
      else network.received[(done.filter Exchange.hasArrived).length]?
    warnings := commonStart world.session.warnings other.session.warnings }

end Progress

/-! ### Files -/

namespace FileTree

/-- The locations that a path leads through, the last one included. -/
def trail (t : FileTree) (path : String) : List Location :=
  let start := if path.toList.head? == some '/' then [] else t.workingDirectory
  let go (l : Location) (piece : String) : Location :=
    if piece == "" || piece == "." then l else if piece == ".." then l.dropLast else l ++ [piece]
  ((FilePath.pieces path.toList).map String.ofList).foldl
    (fun (passed : List Location) piece => passed ++ [go (passed.getLast?.getD start) piece]) [start]

def absolutePath (l : Location) : String := "/" ++ "/".intercalate l

/-- The nodes that differ from those of another tree, those that were set first in front. -/
def changes (before after : FileTree) : List (Location × FileNode) :=
  after.nodes.reverse.filter fun (l, node) => before.node? l ≠ some node

end FileTree

/-- The local file that stands in for records that cannot be had. -/
def CommandLine.Arguments.localRecords? (a : Arguments) (s : Settings) : Option String :=
  match a.command with
  | .analyse c => some (c.mockFile.getD s.analysis.mockFile)
  | _ => none

end IncidentDigest
