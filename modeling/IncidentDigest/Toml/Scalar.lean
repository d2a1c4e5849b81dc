import IncidentDigest.Calendar
import IncidentDigest.Numeral
import IncidentDigest.Toml.Table

/-!
Scalars of TOML: numbers, dates and times, and strings.

Every reader takes a value from the head of a text and gives the text after it.  A number extends as far
as its grammar goes; what may not stand behind it is left to the reader of the line.
-/

namespace IncidentDigest.Toml

/-! ### Numbers -/

/-- Whether a character is a digit of a base up to sixteen. -/
def isDigitOf (base : Nat) (c : Char) : Bool :=
  let n := c.toNat
  (48 ≤ n && n < 48 + min base 10) || (base == 16 && ((97 ≤ n && n ≤ 102) || (65 ≤ n && n ≤ 70)))

def digitOf (c : Char) : Nat :=
  let n := c.toNat
  if n < 58 then n - 48 else if n < 97 then n - 55 else n - 87

/-- The rest of a group of digits.  Single underscores may stand between digits. -/
def moreDigits (isDigit : Char → Bool) : List Char → Option (List Char × List Char)
  | [] => some ([], [])
  | '_' :: c :: rest =>
    if isDigit c then (moreDigits isDigit rest).map fun p => (c :: p.1, p.2) else none
  | c :: rest =>
    if isDigit c then (moreDigits isDigit rest).map fun p => (c :: p.1, p.2)
    else if c = '_' then none
    else some ([], c :: rest)

/-- A group of digits, at least one. -/
def readDigits? (isDigit : Char → Bool) : List Char → Option (List Char × List Char)
  | [] => none
  | c :: rest => if isDigit c then (moreDigits isDigit rest).map fun p => (c :: p.1, p.2) else none

/-- The whole part of a number: a zero stands alone. -/
def readWhole? : List Char → Option (List Char × List Char)
  | '0' :: rest => some (['0'], rest)
  | cs => readDigits? Char.isDigit cs

/-- An exponent, if one follows. -/
def readExponent? : List Char → Option (Option Int × List Char)
  | c :: rest =>
    if c = 'e' || c = 'E' then
      let (negative, rest) : Bool × List Char := match rest with
        | '+' :: rest => (false, rest)
        | '-' :: rest => (true, rest)
        | rest => (false, rest)
      (readDigits? Char.isDigit rest).map fun p =>
        let e : Int := Numeral.value p.1
        (some (if negative then -e else e), p.2)
    else some (none, c :: rest)
  | [] => some (none, [])

/-- A sign, if one stands in front: whether it is a minus, and whether there is one. -/
def readSign : List Char → Bool × Bool × List Char
  | '+' :: rest => (false, true, rest)
  | '-' :: rest => (true, true, rest)
  | cs => (false, false, cs)

def integer? (n : Int) : Option Value :=
  if -Numeral.signedBound ≤ n && n < Numeral.signedBound then some (.integer n) else none

/-- A decimal number with fraction or exponent.  A positive one must not be beyond the finite numbers. -/
def float? (negative : Bool) (whole fraction : List Char) (exponent : Int) : Option Value :=
  match Binary64.Extended.ofDecimal negative
      ⟨Numeral.value (whole ++ fraction), exponent - fraction.length⟩ with
  | .infinite false => none
  | x => some (.float x)

/-- A number in another base, after its two-letter mark. -/
def readBased? (base : Nat) (cs : List Char) : Option (Value × List Char) := do
  let (ds, rest) ← readDigits? (isDigitOf base) cs
  let v ← integer? (ds.foldl (fun acc c => acc * base + digitOf c) 0 : Nat)
  return (v, rest)

def readNumber? (cs : List Char) : Option (Value × List Char) :=
  let (negative, signed, body) := readSign cs
  match signed, body with
  | _, 'i' :: 'n' :: 'f' :: rest => some (.float (.infinite negative), rest)
  | _, 'n' :: 'a' :: 'n' :: rest => some (.float .undefined, rest)
  | false, '0' :: 'x' :: rest => readBased? 16 rest
  | false, '0' :: 'o' :: rest => readBased? 8 rest
  | false, '0' :: 'b' :: rest => readBased? 2 rest
  | _, body => do
    let (whole, rest) ← readWhole? body
    let (fraction, rest) ← match rest with
      | '.' :: rest => (readDigits? Char.isDigit rest).map fun p => (some p.1, p.2)
      | rest => some (none, rest)
    let (exponent, rest) ← readExponent? rest
    let v ←
      if fraction.isNone && exponent.isNone then
        let n : Int := Numeral.value whole
        integer? (if negative then -n else n)
      else float? negative whole (fraction.getD []) (exponent.getD 0)
    return (v, rest)

/-! ### Dates and times -/

/-- A number of exactly `count` digits, at most `limit`. -/
def readFixed? (count limit : Nat) (cs : List Char) : Option (Nat × List Char) :=
  let ds := cs.take count
  if ds.length = count && ds.all Char.isDigit && Numeral.value ds ≤ limit then
    some (Numeral.value ds, cs.drop count)
  else none

def dropChar? (c : Char) : List Char → Option (List Char)
  | d :: rest => if c = d then some rest else none
  | [] => none

/-- Reads past a date that exists. -/
def skipDate? (cs : List Char) : Option (List Char) := do
  let (year, rest) ← readFixed? 4 9999 cs
  let (month, rest) ← readFixed? 2 12 (← dropChar? '-' rest)
  let (day, rest) ← readFixed? 2 31 (← dropChar? '-' rest)
  if Date.isValid ⟨year, month, day⟩ then some rest else none

/-- Reads past a time of day, with seconds and perhaps a fraction of them. -/
def skipTime? (cs : List Char) : Option (List Char) := do
  let (_, rest) ← readFixed? 2 23 cs
  let (_, rest) ← readFixed? 2 59 (← dropChar? ':' rest)
  let (_, rest) ← readFixed? 2 60 (← dropChar? ':' rest)
  match rest with
  | '.' :: c :: more => if c.isDigit then some (more.dropWhile Char.isDigit) else some rest
  | rest => some rest

/-- Reads past an offset from universal time, if there is one. -/
def skipOffset (cs : List Char) : List Char :=
  match cs with
  | 'Z' :: rest => rest
  | 'z' :: rest => rest
  | c :: rest =>
    if c = '+' || c = '-' then
      let after? : Option (List Char) := do
        let (_, rest) ← readFixed? 2 23 rest
        let (_, rest) ← readFixed? 2 59 (← dropChar? ':' rest)
        return rest
      after?.getD cs
    else cs
  | [] => []

/-- Reads past a date, a time, or both. -/
def skipMoment? (cs : List Char) : Option (List Char) :=
  match skipDate? cs with
  | some rest =>
    match rest with
    | c :: more =>
      if c = 'T' || c = 't' || c = ' ' then
        match skipTime? more with
        | some rest => some (skipOffset rest)
        | none => some (c :: more)
      else some (c :: more)
    | [] => some []
  | none => skipTime? cs

/-- A date, a time, or both. -/
def readMoment? (cs : List Char) : Option (Value × List Char) :=
  (skipMoment? cs).map fun rest =>
    (.moment (String.ofList (cs.take (cs.length - rest.length))), rest)

/-! ### Strings -/

/-- A character that may stand in a comment or a string: the tab, and everything but control
characters. -/
def isShown (c : Char) : Bool := c = '\t' || (0x20 ≤ c.toNat && c.toNat ≠ 0x7F)

def isBlank (c : Char) : Bool := c = ' ' || c = '\t'

/-- Drops a line break: a line feed, perhaps after a carriage return. -/
def dropNewline? : List Char → Option (List Char)
  | '\n' :: rest => some rest
  | '\r' :: '\n' :: rest => some rest
  | _ => none

/-- A character given by hexadecimal digits. -/
def charOfHex? (ds : List Char) : Option Char :=
  let n := ds.foldl (fun acc c => acc * 16 + digitOf c) 0
  if ds.all (isDigitOf 16) && n.isValidChar then some (Char.ofNat n) else none

/-- The character of an escape, after the backslash. -/
def readEscape? : List Char → Option (Char × List Char)
  | 'b' :: rest => some ('\x08', rest)
  | 't' :: rest => some ('\t', rest)
  | 'n' :: rest => some ('\n', rest)
  | 'f' :: rest => some ('\x0c', rest)
  | 'r' :: rest => some ('\r', rest)
  | '"' :: rest => some ('"', rest)
  | '\\' :: rest => some ('\\', rest)
  | 'u' :: rest =>
    if rest.length < 4 then none else (charOfHex? (rest.take 4)).map fun c => (c, rest.drop 4)
  | 'U' :: rest =>
    if rest.length < 8 then none else (charOfHex? (rest.take 8)).map fun c => (c, rest.drop 8)
  | _ => none

/-- The rest of a string on one line.  With escapes if `escapes`; it ends at `quote`. -/
def readLine? (quote : Char) (escapes : Bool) : (fuel : Nat) → List Char → Option (List Char × List Char)
  | 0, _ => none
  | _, [] => none
  | fuel + 1, c :: rest =>
    if c = quote then some ([], rest)
    else if escapes && c = '\\' then do
      let (c, rest) ← readEscape? rest
      let (cs, rest) ← readLine? quote escapes fuel rest
      return (c :: cs, rest)
    else if isShown c then do
      let (cs, rest) ← readLine? quote escapes fuel rest
      return (c :: cs, rest)
    else none

/-- Drops the blanks and line breaks after a backslash that ends a line. -/
def dropContinuation? (cs : List Char) : Option (List Char) := do
  let rest ← dropNewline? (cs.dropWhile isBlank)
  return skipSpace rest.length rest
where
  /-- Drops blanks and line breaks. -/
  skipSpace : Nat → List Char → List Char
    | 0, cs => cs
    | fuel + 1, cs =>
      match cs with
      | [] => []
      | c :: rest =>
        if isBlank c then skipSpace fuel rest
        else match dropNewline? (c :: rest) with
          | some rest => skipSpace fuel rest
          | none => c :: rest

/-- The rest of a string over several lines.  It ends at three quotes; up to two more quotes just before
them belong to the string.  A line break counts as a line feed. -/
def readLines? (quote : Char) (escapes : Bool) : (fuel : Nat) → List Char → Option (List Char × List Char)
  | 0, _ => none
  | _, [] => none
  | fuel + 1, c :: rest =>
    if c = quote then
      let run := (c :: rest).takeWhile (· = quote)
      let after := (c :: rest).dropWhile (· = quote)
      if run.length < 3 then do
        let (cs, rest) ← readLines? quote escapes fuel after
        return (run ++ cs, rest)
      else if run.length < 6 then some (run.drop 3, after)
      else none
    else if escapes && c = '\\' then
      match dropContinuation? rest with
      | some rest => readLines? quote escapes fuel rest
      | none => do
        let (c, rest) ← readEscape? rest
        let (cs, rest) ← readLines? quote escapes fuel rest
        return (c :: cs, rest)
    else match dropNewline? (c :: rest) with
      | some rest => do
        let (cs, rest) ← readLines? quote escapes fuel rest
        return ('\n' :: cs, rest)
      | none =>
        if isShown c then do
          let (cs, rest) ← readLines? quote escapes fuel rest
          return (c :: cs, rest)
        else none

/-- A string that starts with `quote`: over several lines if three of them stand in front. -/
def readQuoted? (quote : Char) (cs : List Char) : Option (String × List Char) :=
  let escapes := quote = '"'
  let found := match cs with
    | a :: b :: c :: rest =>
      if a = quote && b = quote && c = quote then
        readLines? quote escapes (cs.length + 1) ((dropNewline? rest).getD rest)
      else if a = quote then readLine? quote escapes (cs.length + 1) (b :: c :: rest)
      else none
    | a :: rest => if a = quote then readLine? quote escapes (cs.length + 1) rest else none
    | [] => none
  found.map fun p => (String.ofList p.1, p.2)

end IncidentDigest.Toml
