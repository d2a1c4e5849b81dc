import IncidentDigest.Numeral

/-!
JSON as it stands in a text.

`Written` keeps what the grammar of JSON sees: members in the order of the text with repetitions,
numerals as digits, and strings before their escapes are known to be well formed.  Nothing here limits
the nesting or the size of numbers; that is decided where a value is taken out of the written form, so
a part that nobody asks for only has to be grammatical.
-/

namespace IncidentDigest.Json

structure Numeral where
  negative : Bool
  whole : List Char
  fraction : List Char
  /-- Whether the exponent is positive, and its digits; `none` where no exponent is written. -/
  scale : Option (Bool × List Char)
  deriving DecidableEq, Repr

/-- A piece of a written string: a character, or a 16-bit unit given by its number. -/
inductive Piece where
  | char (c : Char)
  | unit (n : Nat)
  deriving DecidableEq, Repr

inductive Written where
  | null
  | bool (b : Bool)
  | number (n : Numeral)
  | str (pieces : List Piece)
  | arr (items : List Written)
  | obj (members : List (List Piece × Written))
  deriving Repr, Inhabited

/-! ### Characters -/

/-- The four characters that may stand between the parts of a text. -/
def isBlank (c : Char) : Bool := c == ' ' || c == '\n' || c == '\t' || c == '\r'

def skipBlanks (cs : List Char) : List Char := cs.dropWhile isBlank

def hexValue? (c : Char) : Option Nat :=
  if '0' ≤ c && c ≤ '9' then some (c.toNat - '0'.toNat)
  else if 'a' ≤ c && c ≤ 'f' then some (c.toNat - 'a'.toNat + 10)
  else if 'A' ≤ c && c ≤ 'F' then some (c.toNat - 'A'.toNat + 10)
  else none

/-- The character that a one-letter escape stands for. -/
def unescape? : Char → Option Char
  | '"' => some '"'
  | '\\' => some '\\'
  | '/' => some '/'
  | 'b' => some '\x08'
  | 'f' => some '\x0c'
  | 'n' => some '\n'
  | 'r' => some '\r'
  | 't' => some '\t'
  | _ => none

/-! ### Strings -/

/-- The pieces of a string whose opening quote has been read, and the text after its closing quote. -/
def readPieces : List Char → Option (List Piece × List Char)
  | [] => none
  | '"' :: rest => some ([], rest)
  | '\\' :: 'u' :: a :: b :: c :: d :: rest => do
    let n := (← hexValue? a) * 4096 + (← hexValue? b) * 256 + (← hexValue? c) * 16 + (← hexValue? d)
    let (pieces, rest) ← readPieces rest
    return (.unit n :: pieces, rest)
  | '\\' :: c :: rest => do
    let u ← unescape? c
    let (pieces, rest) ← readPieces rest
    return (.char u :: pieces, rest)
  | c :: rest =>
    if c.toNat < 0x20 || c == '\\' then none
    else do
      let (pieces, rest) ← readPieces rest
      return (.char c :: pieces, rest)

/-- The text that the pieces stand for.  A 16-bit unit stands for itself, two surrogate units for one
character; a surrogate without its partner stands for nothing. -/
def textOfPieces? : List Piece → Option (List Char)
  | [] => some []
  | .char c :: rest => (textOfPieces? rest).map (c :: ·)
  | .unit n :: .unit m :: rest =>
    if 0xD800 ≤ n && n < 0xDC00 then
      if 0xDC00 ≤ m && m < 0xE000 then
        (textOfPieces? rest).map (Char.ofNat (0x10000 + (n - 0xD800) * 0x400 + (m - 0xDC00)) :: ·)
      else none
    else if 0xDC00 ≤ n && n < 0xE000 then none
    else (textOfPieces? (.unit m :: rest)).map (Char.ofNat n :: ·)
  | .unit n :: rest =>
    if 0xD800 ≤ n && n < 0xE000 then none
    else (textOfPieces? rest).map (Char.ofNat n :: ·)

/-! ### Numerals -/

/-- Digits at the head of a text, at least one. -/
def readDigits? (cs : List Char) : Option (List Char × List Char) :=
  let ds := cs.takeWhile Char.isDigit
  if ds.isEmpty then none else some (ds, cs.dropWhile Char.isDigit)

def readScale? : List Char → Option (Option (Bool × List Char) × List Char)
  | c :: rest =>
    if c == 'e' || c == 'E' then
      match rest with
      | '+' :: rest => (readDigits? rest).map fun p => (some (true, p.1), p.2)
      | '-' :: rest => (readDigits? rest).map fun p => (some (false, p.1), p.2)
      | rest => (readDigits? rest).map fun p => (some (true, p.1), p.2)
    else some (none, c :: rest)
  | [] => some (none, [])

def readFraction? : List Char → Option (List Char × List Char)
  | '.' :: rest => readDigits? rest
  | cs => some ([], cs)

/-- A numeral after its sign.  A zero in front stands alone before the point. -/
def readNumeral? (negative : Bool) (cs : List Char) : Option (Numeral × List Char) := do
  let (whole, rest) ← readDigits? cs
  if whole.head? == some '0' && whole.length != 1 then none
  else
    let (fraction, rest) ← readFraction? rest
    let (scale, rest) ← readScale? rest
    return (⟨negative, whole, fraction, scale⟩, rest)

/-! ### Values -/

/-- Drops a fixed word from the head of a text. -/
def dropWord? : List Char → List Char → Option (List Char)
  | [], cs => some cs
  | _ :: _, [] => none
  | w :: ws, c :: cs => if w == c then dropWord? ws cs else none

mutual
/-- The value at the head of a text without blanks in front, and the text after it.  Each step of the
reader takes a character, so the length of the text is fuel enough. -/
def readValue : Nat → List Char → Option (Written × List Char)
  | 0, _ => none
  | _, [] => none
  | fuel + 1, c :: rest =>
    match c with
    | 'n' => (dropWord? ['u', 'l', 'l'] rest).map fun rest => (.null, rest)
    | 't' => (dropWord? ['r', 'u', 'e'] rest).map fun rest => (.bool true, rest)
    | 'f' => (dropWord? ['a', 'l', 's', 'e'] rest).map fun rest => (.bool false, rest)
    | '"' => (readPieces rest).map fun p => (.str p.1, p.2)
    | '-' => (readNumeral? true rest).map fun p => (.number p.1, p.2)
    | '[' =>
      match skipBlanks rest with
      | ']' :: rest => some (.arr [], rest)
      | rest => (readItems fuel rest).map fun p => (.arr p.1, p.2)
    | '{' =>
      match skipBlanks rest with
      | '}' :: rest => some (.obj [], rest)
      | rest => (readMembers fuel rest).map fun p => (.obj p.1, p.2)
    | c => (readNumeral? false (c :: rest)).map fun p => (.number p.1, p.2)

/-- The items of a list from the first one to the closing bracket. -/
def readItems : Nat → List Char → Option (List Written × List Char)
  | 0, _ => none
  | fuel + 1, cs =>
    match readValue fuel cs with
    | none => none
    | some (v, rest) =>
      match skipBlanks rest with
      | ']' :: rest => some ([v], rest)
      | ',' :: rest => (readItems fuel (skipBlanks rest)).map fun p => (v :: p.1, p.2)
      | _ => none

/-- The members of an object from the first key to the closing brace. -/
def readMembers : Nat → List Char → Option (List (List Piece × Written) × List Char)
  | 0, _ => none
  | fuel + 1, '"' :: cs =>
    match readPieces cs with
    | none => none
    | some (key, rest) =>
      match skipBlanks rest with
      | ':' :: rest =>
        match readValue fuel (skipBlanks rest) with
        | none => none
        | some (v, rest) =>
          match skipBlanks rest with
          | '}' :: rest => some ([(key, v)], rest)
          | ',' :: rest => (readMembers fuel (skipBlanks rest)).map fun p => ((key, v) :: p.1, p.2)
          | _ => none
      | _ => none
  | _ + 1, _ => none
end

/-- A whole text: one value with blanks around it. -/
def Written.ofChars? (cs : List Char) : Option Written :=
  match readValue (cs.length + 1) (skipBlanks cs) with
  | some (v, rest) => if (skipBlanks rest).isEmpty then some v else none
  | none => none

/-- A whole text: one value with blanks around it. -/
def Written.ofText? (text : String) : Option Written := Written.ofChars? text.toList

end IncidentDigest.Json
