import IncidentDigest.Instant
import IncidentDigest.Text.Character

/-!
Layouts of written dates and times.

A `Layout` lists what a text consists of.  Numbers in it may have blanks in front and fewer digits than
usual; the strict form `readStrict?` allows neither.  Both collect a `Reading`, and only then is it
decided whether such a moment exists.
-/

namespace IncidentDigest.Instant

structure Reading where
  year : Int := 0
  month : Nat := 1
  day : Nat := 1
  hour : Nat := 0
  minute : Nat := 0
  second : Nat := 0
  nanos : Nat := 0
  /-- How many seconds the written time is ahead of universal time. -/
  offset : Int := 0
  deriving DecidableEq, Repr

inductive Part where
  | year
  | month
  | day
  | hour
  | minute
  | second
  /-- A point and digits, or nothing. -/
  | fraction
  | offset
  /-- Any number of blanks. -/
  | blanks
  | char (c : Char)
  deriving DecidableEq, Repr

abbrev Layout := List Part

/-! ### Numbers -/

/-- Between `least` and `most` digits from the head of a text, as many as there are. -/
def takeNumber? (least most : Nat) (cs : List Char) : Option (Nat × List Char) :=
  let ds := (cs.take most).takeWhile Char.isDigit
  if ds.length < least then none else some (Numeral.value ds, cs.drop ds.length)

def takeLongNumber? (cs : List Char) : Option (Nat × List Char) := takeNumber? 1 cs.length cs

/-- A year: any number of digits after a sign, at most four without one. -/
def takeYear? : List Char → Option (Int × List Char)
  | '-' :: rest => (takeLongNumber? rest).map fun p => (-(p.1 : Int), p.2)
  | '+' :: rest => (takeLongNumber? rest).map fun p => ((p.1 : Int), p.2)
  | cs => (takeNumber? 1 4 cs).map fun p => ((p.1 : Int), p.2)

/-- The digits of a fraction in nanoseconds.  Digits after the ninth are dropped. -/
def takeFraction? (cs : List Char) : Option (Nat × List Char) :=
  let ds := cs.takeWhile Char.isDigit
  if ds.isEmpty then none
  else
    let kept := ds.take 9
    some (Numeral.value kept * Nat.pow 10 (9 - kept.length), cs.drop ds.length)

def takeOffset? (separator : List Char → Option (List Char)) :
    List Char → Option (Int × List Char)
  | [] => none
  | sign :: rest =>
    if sign == '+' || sign == '-' || sign == '\u2212' then do
      let (hours, rest) ← takeNumber? 2 2 rest
      let rest ← separator rest
      let (minutes, rest) ← takeNumber? 2 2 rest
      if 60 ≤ minutes then none
      else
        let seconds : Int := (hours * 3600 + minutes * 60 : Nat)
        return (if sign == '+' then seconds else -seconds, rest)
    else none

def takeChar? (c : Char) : List Char → Option (List Char)
  | d :: rest => if c == d then some rest else none
  | [] => none

/-- Colons and blanks, any number of them. -/
def dropColons (cs : List Char) : List Char := cs.dropWhile fun c => c == ':' || Text.isBlank c

/-! ### Reading by a layout -/

def Part.read? (part : Part) (r : Reading) (cs : List Char) : Option (Reading × List Char) :=
  let number (set : Nat → Reading) : Option (Reading × List Char) :=
    (takeNumber? 1 2 (Text.trimStart cs)).map fun p => (set p.1, p.2)
  match part with
  | .year => (takeYear? (Text.trimStart cs)).map fun p => ({ r with year := p.1 }, p.2)
  | .month => number fun n => { r with month := n }
  | .day => number fun n => { r with day := n }
  | .hour => number fun n => { r with hour := n }
  | .minute => number fun n => { r with minute := n }
  | .second => number fun n => { r with second := n }
  | .fraction =>
    match cs with
    | '.' :: rest => (takeFraction? rest).map fun p => ({ r with nanos := p.1 }, p.2)
    | _ => some (r, cs)
  | .offset =>
    (takeOffset? (fun cs => some (dropColons cs)) (Text.trimStart cs)).map fun p =>
      ({ r with offset := p.1 }, p.2)
  | .blanks => some (r, Text.trimStart cs)
  | .char c => (takeChar? c cs).map fun rest => (r, rest)

/-- Reads the parts of a layout one after the other. -/
def readParts? : Layout → Reading → List Char → Option (Reading × List Char)
  | [], r, cs => some (r, cs)
  | part :: rest, r, cs => do
    let (r, cs) ← part.read? r cs
    readParts? rest r cs

/-- The moment that the numbers name, if there is one within the range of instants.  Second 60 is the
leap second after second 59. -/
def Reading.instant? (r : Reading) : Option Instant :=
  let date : Date := ⟨r.year, r.month, r.day⟩
  if Date.minYear ≤ r.year && r.year ≤ Date.maxYear && date.isValid && r.hour ≤ 23 && r.minute ≤ 59
      && r.second ≤ 60 && -86400 < r.offset && r.offset < 86400 then
    let inDay : Nat := r.hour * 3600 + r.minute * 60 + min r.second 59
    let seconds := date.toDays * daySeconds + inDay - r.offset
    if inRange seconds then
      some ⟨seconds, if r.second = 60 then Instant.second + r.nanos else r.nanos⟩
    else none
  else none

def Layout.read? (layout : Layout) (cs : List Char) : Option Instant :=
  match readParts? layout {} cs with
  | some (r, []) => r.instant?
  | _ => none

/-! ### The strict form -/

/-- Fixed widths, `T`, `t` or one space between date and time, seconds, and an offset that is `Z`, `z`
or hours and minutes with a colon. -/
def readStrict? (cs : List Char) : Option Instant := do
  let (year, cs) ← takeNumber? 4 4 cs
  let cs ← takeChar? '-' cs
  let (month, cs) ← takeNumber? 2 2 cs
  let cs ← takeChar? '-' cs
  let (day, cs) ← takeNumber? 2 2 cs
  let cs ← match cs with
    | c :: rest => if c == 'T' || c == 't' || c == ' ' then some rest else none
    | [] => none
  let (hour, cs) ← takeNumber? 2 2 cs
  let cs ← takeChar? ':' cs
  let (minute, cs) ← takeNumber? 2 2 cs
  let cs ← takeChar? ':' cs
  let (second, cs) ← takeNumber? 2 2 cs
  let (nanos, cs) ← match cs with
    | '.' :: rest => takeFraction? rest
    | _ => some (0, cs)
  let (offset, cs) ← match cs with
    | 'Z' :: rest => some (0, rest)
    | 'z' :: rest => some (0, rest)
    | _ => takeOffset? (takeChar? ':') cs
  if cs.isEmpty then
    Reading.instant? { year, month, day, hour, minute, second, nanos, offset }
  else none

end IncidentDigest.Instant
