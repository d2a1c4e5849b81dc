import IncidentDigest.CommandLine.Help
import IncidentDigest.Http.Message
import IncidentDigest.Program.Progress
import Std.Async.DNS
import Std.Async.TCP
import Std.Async.Timer
import Std.Time.DateTime.Timestamp

/-!
The program at work.

Everything that is decided is decided by `Program.execute`.  Here the clock, the environment and the files are
read for it, its requests are sent one after the other, and in the end its output is printed and its
changes to the files are made.

Only plain connections are made, no encrypted ones and none through a proxy.  The time limit is counted for
each request on the wire.  Files are looked up by their names alone: a link is taken for what it leads to,
and what may not be read or written shows when it is tried.
-/

namespace IncidentDigest.Main

open Std.Async

/-! ### Clock and environment -/

def clock : IO Instant := do
  let passed := (← Std.Time.Timestamp.now).toDurationSinceUnixEpoch
  return ⟨passed.second.val, passed.nano.val.toNat⟩

/-- The variables that may stand in for options. -/
def environment : IO (List (String × String)) := do
  let names := (CommandLine.common ++ CommandLine.commands.flatMap (·.2.1)).filterMap (·.envName)
  names.filterMapM fun name => return (← IO.getEnv name).map fun value => (name, value)

/-! ### Files -/

/-- The number of the error that a directory is no file. -/
def directoryCode : UInt32 := 21

/-- The node at a location.  One that cannot be opened counts as a directory; `foreign` stands for a file
that holds no text. -/
def nodeAt (foreign : FileNode) (l : Location) : IO (Option FileNode) := do
  try
    let content ← IO.FS.readBinFile (FileTree.absolutePath l)
    return some ((Text.Utf8.strict? content.toList).elim foreign FileNode.file)
  catch
    | .noFileOrDirectory _ _ _ => return none
    | .inappropriateType _ code _ => return if code = directoryCode then some .directory else none
    | _ => return some .directory

/-- Adds what is found at some locations to a tree. -/
def explore (foreign : FileNode) (t : FileTree) (locations : List Location) : IO FileTree :=
  locations.foldlM (fun t l => do
    match ← nodeAt foreign l with
    | some node => return t.set l node
    | none => return t) t

/-- Adds what is found where a path leads that is to be read.  What holds no text cannot be read, as little
as a directory can. -/
def exploreToRead (t : FileTree) (path : String) : IO FileTree := explore .directory t (t.trail path)

/-- Adds what is found at locations that are to be written.  What it holds does not matter. -/
def exploreToWrite (t : FileTree) (locations : List Location) : IO FileTree := explore (.file "") t locations

/-- Makes a change to the files. -/
def applyChange (change : Location × FileNode) : IO Unit :=
  let path := FileTree.absolutePath change.1
  match change.2 with
  | .directory => IO.FS.createDirAll path
  | .file content => IO.FS.writeFile path content

/-! ### Network -/

/-- The longest time that is waited for anything, in milliseconds. -/
def longestWait : Nat := 0x80000000

def wait (milliseconds : Nat) : IO Unit := IO.sleep (min milliseconds longestWait).toUInt32

/-- Everything that comes until the connection is closed. -/
partial def receive (socket : TCP.Socket.Client) (sofar : ByteArray) : Async ByteArray := do
  match ← socket.recv? 65536 with
  | some part => receive socket (sofar ++ part)
  | none => return sofar

def socketAddress (port : UInt16) : Std.Net.IPAddr → Std.Net.SocketAddress
  | .v4 address => .v4 ⟨address, port⟩
  | .v6 address => .v6 ⟨address, port⟩

/-- Sends a request and takes what comes of it. -/
def converse (r : Http.Request) : Async Http.Reaction := do
  let port := r.url.port.getD 80
  let socket ← TCP.Socket.Client.mk
  try
    let addresses ← DNS.getAddrInfo r.url.host (toString port)
    match addresses[0]? with
    | some address => socket.connect (socketAddress port.toUInt16 address)
    | none => return .refusal
  catch _ => return .refusal
  try
    socket.send ⟨r.encode.toArray⟩
    let reply := Http.Reply.ofBytes? (← receive socket .empty).toList
    return (reply.map Http.Reaction.reply).getD .closed
  catch _ => return .closed

/-- Makes a request, which counts as unanswered after the given time. -/
def perform (r : Http.Request) (timeoutSeconds : Nat) : IO Http.Reaction := do
  if r.url.protocol ≠ "http" then return .refusal
  let time := Std.Time.Millisecond.Offset.ofNat (min (timeoutSeconds * 1000) longestWait)
  let _ : Inhabited Http.Reaction := ⟨.silence⟩
  (Async.race (converse r) (do sleep time; return .silence)).block

/-! ### Runs -/

/-- Tells the user a warning, and waits where it announces a delay. -/
def tell (quiet : Bool) (w : Warning) : IO Unit := do
  unless quiet do IO.eprintln ("WARN " ++ w.message)
  match w with
  | .retry _ _ _ _ delay => wait (delay.seconds * 1000 + delay.nanos / 1000000)
  | _ => return ()

/-- Carries a run on to its end, request after request. -/
partial def carryOn (follow : List Exchange → Progress) (quiet : Bool) (timeoutSeconds : Nat)
    (done : List Exchange) (told : Nat) : IO (List Exchange) := do
  let progress := follow done
  (progress.warnings.drop told).forM (tell quiet)
  match progress.next with
  | none => return done
  | some request =>
    let reaction ← perform request timeoutSeconds
    carryOn follow quiet timeoutSeconds (done ++ [⟨request, reaction⟩]) progress.warnings.length

/-- Runs the program on arguments that have been understood.  Files that stand where the program writes are
looked up once the run has shown where that is. -/
def runOn (a : CommandLine.Arguments) (words : List String) (environment : List (String × String)) :
    IO Progress := do
  let directory := (FilePath.pieces (← IO.currentDir).toString.toList).map String.ofList
  let files : FileTree := ⟨[], directory.filter fun name => !name.isEmpty⟩
  let files ← exploreToRead files (a.settingsFile.getD Settings.fileName)
  let (found, _) := Program.settings a (.start (Exchange.script [] .closed) files)
  let settings := match found with
    | .ok s => s
    | .error _ => .default
  let files ← match a.localRecords? settings with
    | some path => exploreToRead files path
    | none => pure files
  let run := Program.execute words environment (← clock)
  let done ← carryOn (Progress.follow run files) a.quiet settings.api.timeoutSeconds [] 0
  let files ← exploreToWrite files (files.changes (Progress.follow run files done).world.files |>.map (·.1))
  let progress := Progress.follow run files done
  (files.changes progress.world.files).forM applyChange
  return progress

end IncidentDigest.Main

open IncidentDigest in
def main (words : List String) : IO UInt32 := do
  let environment ← Main.environment
  match CommandLine.parse words environment with
  | .error e =>
    if (Ending.usage e).exitCode = 0 then IO.println e.text else IO.eprintln e.text
    return (Ending.usage e).exitCode.toUInt32
  | .ok a =>
    let progress ← Main.runOn a words environment
    IO.print progress.world.printed
    if progress.ending.isSetApart then IO.eprintln ""
    if let some closing := progress.ending.closing then IO.eprintln closing
    return progress.ending.exitCode.toUInt32
