import IncidentDigest.Numeral

/-!
The grammar of a command line.

A command line is a list of words: options, a command, and the command's own options and arguments.  A
level of the command line is scanned word by word (`Level.scan`).  An option's value is only looked at when
the next thing begins, so the first fault on the way decides which error is reported.
-/

namespace IncidentDigest.CommandLine

/-- Why a command line is not carried out.  Asking for help or for the version counts as a reason too. -/
inductive UsageError where
  | unknownArgument
  | unknownCommand
  | missingCommand
  | missingArgument
  | missingValue
  | unwantedValue
  | malformedValue
  | repeatedArgument
  | nothingGiven
  | helpWanted
  | versionWanted
  deriving DecidableEq, Repr

inductive Kind where
  /-- Nothing: the parameter is only named. -/
  | flag
  | help
  | version
  | text
  | path
  | natural
  | integer
  | choice (names : List String)
  deriving DecidableEq, Repr

def Kind.takesValue : Kind → Bool
  | .flag | .help | .version => false
  | _ => true

/-- A parameter: an option with a long name and perhaps a letter, or an argument known by its place. -/
structure Parameter where
  name : String
  letter : Option Char
  kind : Kind
  /-- The environment variable that stands in where the option is not given. -/
  envName : Option String
  required : Bool
  deriving DecidableEq, Repr

/-- The value of the variable that stands in for an option. -/
def Parameter.standIn? (p : Parameter) (environment : List (String × String)) : Option String := do
  let v ← p.envName
  (environment.find? fun e => e.1 == v).map (·.2)

/-! ### Values -/

/-- A number of 64 bits without sign; a plus may stand in front. -/
def natural? (s : String) : Option Nat :=
  let ds := match s.toList with
    | '+' :: rest => rest
    | cs => cs
  let n := Numeral.value ds
  if !ds.isEmpty && ds.all Char.isDigit && n < Numeral.unsignedBound then some n else none

def integer? (s : String) : Option Int :=
  let (negative, ds) : Bool × List Char := match s.toList with
    | '-' :: rest => (true, rest)
    | '+' :: rest => (false, rest)
    | cs => (false, cs)
  let n : Int := if negative then -(Numeral.value ds : Int) else Numeral.value ds
  if !ds.isEmpty && ds.all Char.isDigit && -Numeral.signedBound ≤ n && n < Numeral.signedBound then some n
  else none

def Kind.check (kind : Kind) (value : String) : Except UsageError Unit :=
  match kind with
  | .path => if value.isEmpty then .error .missingValue else .ok ()
  | .natural => if (natural? value).isSome then .ok () else .error .malformedValue
  | .integer => if (integer? value).isSome then .ok () else .error .malformedValue
  | .choice names => if names.contains value then .ok () else .error .missingValue
  | _ => .ok ()

/-! ### Scanning -/

/-- A level of the command line: its options, its arguments by place, and the commands below it. -/
structure Level where
  options : List Parameter
  places : List Parameter
  commands : List String
  deriving Repr

structure Scan where
  /-- Values by the name of their parameter. -/
  given : List (String × String)
  /-- The parameter that came last, with its value if it has come. -/
  pending : Option (Parameter × Option String)
  /-- How many arguments have taken their place. -/
  placed : Nat
  /-- Whether the word has been seen after which no option is recognised. -/
  trailing : Bool
  deriving Repr

namespace Scan

def start : Scan := ⟨[], none, 0, false⟩

def value? (s : Scan) (name : String) : Option String :=
  (s.given.find? fun g => g.1 == name).map (·.2)

/-- Records a value.  A parameter is given once at most. -/
def record (s : Scan) (p : Parameter) (value : String) : Except UsageError Scan :=
  if (s.value? p.name).isSome then .error .repeatedArgument
  else (p.kind.check value).map fun _ => { s with given := s.given ++ [(p.name, value)] }

/-- Records the parameter that came last. -/
def settle (s : Scan) : Except UsageError Scan :=
  match s.pending with
  | none => .ok s
  | some (_, none) => .error .missingValue
  | some (p, some value) => { s with pending := none }.record p value

/-- Whether the next word is the value of an option. -/
def awaits (s : Scan) : Bool :=
  match s.pending with
  | some (_, none) => !s.trailing
  | _ => false

/-- Names a parameter that takes no value. -/
def name (s : Scan) (p : Parameter) : Except UsageError Scan := do
  let s ← s.settle
  match p.kind with
  | .help => throw .helpWanted
  | .version => throw .versionWanted
  | _ => s.record p ""

/-- Names a parameter that takes a value, which may be attached. -/
def open? (s : Scan) (p : Parameter) (attached : Option String) : Except UsageError Scan := do
  let s ← s.settle
  match attached with
  | some value => s.record p value
  | none => return { s with pending := some (p, none) }

end Scan

namespace Level

def splitAtEquals (cs : List Char) : List Char × Option (List Char) :=
  match cs.dropWhile (· != '=') with
  | [] => (cs, none)
  | _ :: value => (cs.takeWhile (· != '='), some value)

/-- An option by its long name, perhaps with a value after an equals sign. -/
def scanLong (l : Level) (s : Scan) (word : List Char) : Except UsageError Scan :=
  let (name, value) := splitAtEquals word
  match l.options.find? fun p => p.name.toList == name with
  | none => .error .unknownArgument
  | some p =>
    if p.kind.takesValue then s.open? p (value.map String.ofList)
    else if value.isSome then .error .unwantedValue
    else s.name p

/-- Options by their letters.  The first one that takes a value takes the rest of the word, perhaps after an
equals sign. -/
def scanLetters (l : Level) (s : Scan) : List Char → Except UsageError Scan
  | [] => .ok s
  | c :: rest =>
    match l.options.find? fun p => p.letter == some c with
    | none => .error .unknownArgument
    | some p =>
      if p.kind.takesValue then
        s.open? p (match rest with
          | [] => none
          | '=' :: value => some (String.ofList value)
          | value => some (String.ofList value))
      else match s.name p with
        | .ok s => l.scanLetters s rest
        | .error e => .error e

def scanPlace (l : Level) (s : Scan) (word : String) : Except UsageError Scan :=
  match l.places[s.placed]? with
  | some p => s.settle.map fun s => { s with pending := some (p, some word), placed := s.placed + 1 }
  | none =>
    if s.trailing && l.commands.contains word then .error .unknownArgument
    else if l.commands.isEmpty then .error .unknownArgument
    else .error .unknownCommand

def scanWord (l : Level) (s : Scan) (word : String) : Except UsageError Scan :=
  if s.trailing then l.scanPlace s word
  else match word.toList with
    | ['-', '-'] => .ok { s with trailing := true }
    | '-' :: '-' :: rest => l.scanLong s rest
    | '-' :: c :: rest => l.scanLetters s (c :: rest)
    | _ =>
      match s.pending with
      | some (p, none) => .ok { s with pending := some (p, some word) }
      | _ => l.scanPlace s word

/-- The words of a level up to a command, which comes with the words after it. -/
def scan (l : Level) (s : Scan) : List String → Except UsageError (Scan × Option (String × List String))
  | [] => .ok (s, none)
  | word :: rest =>
    if !s.trailing && !s.awaits && l.commands.contains word then .ok (s, some (word, rest))
    else match l.scanWord s word with
      | .ok s => l.scan s rest
      | .error e => .error e

def complete (l : Level) (s : Scan) : Bool :=
  (l.options ++ l.places).all fun p => !p.required || (s.value? p.name).isSome

end Level
end IncidentDigest.CommandLine
