import IncidentDigest.FileTree
import IncidentDigest.Scenario

/-!
Reading and writing the files of the program: reports, scenario payloads, and the local stand-in for the
monitoring records.
-/

namespace IncidentDigest

inductive StorageError where
  | createDirectory (path : String) (cause : FileError)
  | writeOutput (path : String) (cause : FileError)
  | writeFile (path : String) (cause : FileError)
  | mockMissing (path : String)
  | mockUnreadable (path : String) (cause : FileError)
  | mockMalformed (path : String)
  deriving DecidableEq, Repr

namespace StorageError

def message : StorageError → String
  | .createDirectory path _ => "Failed to create directory " ++ path
  | .writeOutput path _ => "Failed to write output to " ++ path
  | .writeFile path _ => "Failed to write " ++ path
  | .mockMissing path => "Mock file not found: " ++ path
  | .mockUnreadable path _ => "Failed to read mock file: " ++ path
  | .mockMalformed path => "Failed to parse mock file: " ++ path

/-- Why it failed, where there is more to say. -/
def cause? : StorageError → Option String
  | .createDirectory _ cause => some cause.message
  | .writeOutput _ cause => some cause.message
  | .writeFile _ cause => some cause.message
  | .mockMissing _ => none
  | .mockUnreadable _ cause => some cause.message
  | .mockMalformed _ => some "the text does not hold monitoring records"

end StorageError

namespace FileTree

def ensureDirectory (t : FileTree) (path : String) : FileTree × Except StorageError Unit :=
  match t.makeDirectories path with
  | (t, .ok ()) => (t, .ok ())
  | (t, .error e) => (t, .error (.createDirectory path e))

/-- Writes an output file and makes the directories above it. -/
def writeOutput (t : FileTree) (path content : String) : FileTree × Except StorageError Unit :=
  let prepared : FileTree × Except StorageError Unit :=
    match FilePath.parent? path with
    | some up => if up.isEmpty then (t, .ok ()) else t.ensureDirectory up
    | none => (t, .ok ())
  match prepared with
  | (t, .error e) => (t, .error e)
  | (t, .ok ()) =>
    match t.write path content with
    | .ok t => (t, .ok ())
    | .error e => (t, .error (.writeOutput path e))

/-- Writes one file for each payload until one cannot be written. -/
def writePayloads (t : FileTree) (directory : String) (indented : Bool) :
    List ScenarioPayload → FileTree × Except StorageError Unit
  | [] => (t, .ok ())
  | p :: rest =>
    let path := FilePath.append directory p.fileName
    match t.write path (p.body.render indented) with
    | .ok t => t.writePayloads directory indented rest
    | .error e => (t, .error (.writeFile path e))

/-- Writes every payload to a file of its own in a directory, which is made if it is not there.  The
result is the number of payloads. -/
def writeScenarios (t : FileTree) (directory : String) (payloads : List ScenarioPayload)
    (indented : Bool) : FileTree × Except StorageError Nat :=
  match t.ensureDirectory directory with
  | (t, .error e) => (t, .error e)
  | (t, .ok ()) =>
    match t.writePayloads directory indented payloads with
    | (t, .ok ()) => (t, .ok payloads.length)
    | (t, .error e) => (t, .error e)

def readMockRecords (t : FileTree) (path : String) : Except StorageError (List MonitoringRecord) :=
  if !t.pathExists path then .error (.mockMissing path)
  else match t.read path with
    | .error e => .error (.mockUnreadable path e)
    | .ok content =>
      match recordsEnvelope.readText? content with
      | some records => .ok (records.getD [])
      | none => .error (.mockMalformed path)

end FileTree
end IncidentDigest
