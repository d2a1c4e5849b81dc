import IncidentDigest.CommandLine.Arguments

/-!
What the program says about its command line.
-/

namespace IncidentDigest.CommandLine

def programName : String := "incident-rca"

def version : String := programName ++ " 1.0.0"

/-- What is wrong with a command line; `none` for a question that has been asked. -/
def UsageError.message : UsageError → Option String
  | .unknownArgument => some "unexpected argument"
  | .unknownCommand => some "unrecognized command"
  | .missingCommand => some "a command is required"
  | .missingArgument => some "a required argument is not given"
  | .missingValue => some "an option has no value, or one that is not allowed"
  | .unwantedValue => some "an option that takes no value has one"
  | .malformedValue => some "a value cannot be read"
  | .repeatedArgument => some "an option is given twice"
  | .nothingGiven | .helpWanted | .versionWanted => none

def Parameter.usage (p : Parameter) : String :=
  let letter := match p.letter with
    | some c => "-" ++ String.ofList [c] ++ ", "
    | none => ""
  let value := match p.kind with
    | .choice names => " <" ++ "|".intercalate names ++ ">"
    | kind => if kind.takesValue then " <VALUE>" else ""
  let standIn := match p.envName with
    | some v => " [env: " ++ v ++ "]"
    | none => ""
  letter ++ "--" ++ p.name ++ value ++ standIn

/-- The options of a level, one in a line. -/
def optionLines (options : List Parameter) : List String := options.map fun p => "      " ++ p.usage

def commandLines (name : String) (options places : List Parameter) : List String :=
  ("  " ++ " ".intercalate (name :: places.map fun p => "<" ++ p.name ++ ">")) :: optionLines options

def help : String :=
  "\n".intercalate
    (["Usage: " ++ programName ++ " [OPTIONS] <COMMAND>", "", "Commands:"] ++
      commands.flatMap (fun (name, options, places) => commandLines name options places) ++
      ["", "Options:"] ++ optionLines (common ++ standing))

/-- What is said about a command line that is not carried out. -/
def UsageError.text (e : UsageError) : String :=
  match e with
  | .versionWanted => version
  | e => match e.message with
    | some m => "error: " ++ m ++ "\n\n" ++ help
    | none => help

end IncidentDigest.CommandLine
