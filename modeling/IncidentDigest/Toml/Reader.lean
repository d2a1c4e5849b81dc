import IncidentDigest.Toml.Scalar
import IncidentDigest.Toml.Table

/-!
Reading a TOML document.

A document is a sequence of lines: blank lines, comments, assignments, and headers that open a section.
Lists and inline tables nest up to `maxDepth` levels, and a dotted key has at most as many parts.
-/

namespace IncidentDigest.Toml

/-- The most levels of lists and inline tables, and the most parts of a key. -/
def maxDepth : Nat := 79

def skipBlanks (cs : List Char) : List Char := cs.dropWhile isBlank

/-! ### Keys -/

/-- Whether a character may stand in a key without quotes. -/
def isKeyChar (c : Char) : Bool :=
  c.isAlphanum || c = '-' || c = '_'

/-- One part of a key: quoted on one line, or bare. -/
def readKeyPart? : List Char → Option (String × List Char)
  | '"' :: rest => (readLine? '"' true (rest.length + 1) rest).map fun p => (String.ofList p.1, p.2)
  | '\'' :: rest => (readLine? '\'' false (rest.length + 1) rest).map fun p => (String.ofList p.1, p.2)
  | cs =>
    let word := cs.takeWhile isKeyChar
    if word.isEmpty then none else some (String.ofList word, cs.dropWhile isKeyChar)

/-- A key of several parts with points between them; blanks may stand around each part. -/
def readKeyParts? : (fuel : Nat) → List Char → Option (List String × List Char)
  | 0, _ => none
  | fuel + 1, cs => do
    let (part, rest) ← readKeyPart? (skipBlanks cs)
    match skipBlanks rest with
    | '.' :: rest =>
      let (parts, rest) ← readKeyParts? fuel rest
      return (part :: parts, rest)
    | rest => return ([part], rest)

/-- A key as a path of tables and the last part. -/
def readKey? (cs : List Char) : Option (List String × String × List Char) := do
  let (parts, rest) ← readKeyParts? maxDepth cs
  match parts.getLast? with
  | some key => return (parts.dropLast, key, rest)
  | none => none

/-! ### Values -/

/-- Drops a comment, up to the end of its line. -/
def skipComment : List Char → List Char
  | '#' :: rest => rest.dropWhile isShown
  | cs => cs

/-- Drops blanks, comments and line breaks. -/
def skipLines : (fuel : Nat) → List Char → List Char
  | 0, cs => cs
  | fuel + 1, cs =>
    match dropNewline? (skipComment (skipBlanks cs)) with
    | some rest => skipLines fuel rest
    | none => skipBlanks cs

/-- Drops blanks, comments and line breaks. -/
def skipSpace (cs : List Char) : List Char := skipLines cs.length cs

mutual
/-- The value at the head of a text, with room for some more levels.  Each step of the reader takes a
character, so the length of the text is fuel enough. -/
def readValue? (room : Nat) : (fuel : Nat) → List Char → Option (Value × List Char)
  | 0, _ => none
  | _, [] => none
  | fuel + 1, c :: rest =>
    match c with
    | '"' => (readQuoted? '"' (c :: rest)).map fun p => (.text p.1, p.2)
    | '\'' => (readQuoted? '\'' (c :: rest)).map fun p => (.text p.1, p.2)
    | '[' =>
      if room = 0 then none
      else (readItems? (room - 1) fuel rest).map fun p => (.list p.1, p.2)
    | '\x7b' =>
      if room = 0 then none
      else match skipBlanks rest with
        | '\x7d' :: rest => some (.table [], rest)
        | rest => (readPairs? (room - 1) fuel [] rest).map fun p => (.table (toMembers p.1), p.2)
    | 't' =>
      match rest with
      | 'r' :: 'u' :: 'e' :: rest => some (.flag true, rest)
      | _ => none
    | 'f' =>
      match rest with
      | 'a' :: 'l' :: 's' :: 'e' :: rest => some (.flag false, rest)
      | _ => none
    | c => (readMoment? (c :: rest)).or (readNumber? (c :: rest))

/-- The items of a list up to the closing bracket; a comma may stand after the last one. -/
def readItems? (room : Nat) : (fuel : Nat) → List Char → Option (List Value × List Char)
  | 0, _ => none
  | fuel + 1, cs =>
    match skipSpace cs with
    | ']' :: rest => some ([], rest)
    | cs =>
      match readValue? room fuel cs with
      | none => none
      | some (v, rest) =>
        match skipSpace rest with
        | ',' :: rest => (readItems? room fuel rest).map fun p => (v :: p.1, p.2)
        | ']' :: rest => some ([v], rest)
        | _ => none

/-- The assignments of an inline table up to the closing brace, all on one line. -/
def readPairs? (room : Nat) : (fuel : Nat) → Branch → List Char → Option (Branch × List Char)
  | 0, _, _ => none
  | fuel + 1, b, cs =>
    match readKey? cs with
    | some (path, key, '=' :: rest) =>
      match readValue? room fuel (skipBlanks rest) with
      | none => none
      | some (v, rest) =>
        match assign b ⟨path, key, v⟩ with
        | none => none
        | some b =>
          match skipBlanks rest with
          | ',' :: rest => readPairs? room fuel b rest
          | '\x7d' :: rest => some (b, rest)
          | _ => none
    | _ => none
end

/-! ### Lines -/

/-- A line that says something. -/
inductive Statement where
  | assignment (a : Assignment)
  | header (h : Header)
  deriving Repr

/-- The end of a line: blanks, perhaps a comment, and a line break or the end of the text. -/
def endLine? (cs : List Char) : Option (List Char) :=
  match skipComment (skipBlanks cs) with
  | [] => some []
  | cs => dropNewline? cs

/-- An assignment or a header. -/
def readStatement? : List Char → Option (Statement × List Char)
  | '[' :: '[' :: rest => do
    let (path, key, rest) ← readKey? rest
    match rest with
    | ']' :: ']' :: rest => return (.header ⟨path, key, true⟩, rest)
    | _ => none
  | '[' :: rest => do
    let (path, key, rest) ← readKey? rest
    match rest with
    | ']' :: rest => return (.header ⟨path, key, false⟩, rest)
    | _ => none
  | cs => do
    let (path, key, rest) ← readKey? cs
    match rest with
    | '=' :: rest =>
      let (v, rest) ← readValue? maxDepth (rest.length + 1) (skipBlanks rest)
      return (.assignment ⟨path, key, v⟩, rest)
    | _ => none

def readStatements? : (fuel : Nat) → List Char → Option (List Statement)
  | 0, _ => none
  | fuel + 1, cs =>
    match skipComment (skipBlanks cs) with
    | [] => some []
    | rest =>
      match dropNewline? rest with
      | some rest => readStatements? fuel rest
      | none =>
        if (skipBlanks cs).head? == some '#' then none
        else do
          let (s, rest) ← readStatement? (skipBlanks cs)
          let ss ← readStatements? fuel (← endLine? rest)
          return s :: ss

/-- Parts statements into the assignments before any header and the sections. -/
def sections : List Statement → List Assignment × List (Header × List Assignment)
  | [] => ([], [])
  | .assignment a :: rest =>
    let (own, others) := sections rest
    (a :: own, others)
  | .header h :: rest =>
    let (own, others) := sections rest
    ([], (h, own) :: others)

/-- The table that statements describe. -/
def ofStatements? (ss : List Statement) : Option Members := do
  let (own, others) := sections ss
  let root ← own.foldlM assign []
  let root ← others.foldlM (fun root s => openSection root s.1 s.2) root
  return toMembers root

/-- Reads a document.  A byte order mark may stand in front. -/
def read? (text : String) : Option Members := do
  let cs := match text.toList with
    | '\uFEFF' :: cs => cs
    | cs => cs
  ofStatements? (← readStatements? (cs.length + 1) cs)

end IncidentDigest.Toml
