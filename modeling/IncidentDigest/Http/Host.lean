import IncidentDigest.Text.Character
import IncidentDigest.Text.Plain

/-!
Hosts of web addresses.

A host is a name, an address of four bytes, or an address of eight groups in brackets.  `Host.ofChars?` gives
each of them its one form: names in lower case and plain letters, four decimal bytes, and groups without
leading zeros, the longest run of zero groups left out.  A name whose last part is a number has to
be an address of four bytes.

Names of other scripts are mapped character by character.  The capitals of Latin, Greek, Cyrillic and
Armenian become small letters, wide forms become plain ones, and what does not count is dropped.  Left out
are the capitals of other scripts, forms that stand for several letters, the joining of marks with the
letter before them, and the rules for text that runs from right to left.
-/

namespace IncidentDigest.Http.Host

def split (separator : Char) (cs : List Char) : List (List Char) :=
  cs.foldr (fun c parts =>
    if c = separator then [] :: parts
    else match parts with
      | part :: parts => (c :: part) :: parts
      | [] => [[c]]) [[]]

/-- The number that digits of a base stand for. -/
def valueIn? (base : Nat) (cs : List Char) : Option Nat :=
  cs.foldlM (fun n c => do
    let d ← Json.hexValue? c
    if d < base then some (n * base + d) else none) 0

/-! ### Names -/

def isNameChar (c : Char) : Bool :=
  0x20 < c.toNat && !(0x7F ≤ c.toNat && c.toNat ≤ 0x9F) && !(("#/:<>?@[\\]^|%".toList).contains c)

/-- The ranges in which small letters follow their capitals, and the remainder by two of the capitals. -/
def casePairs : List (Nat × Nat × Nat) :=
  [(0x100, 0x12F, 0), (0x134, 0x137, 0), (0x139, 0x13E, 1), (0x141, 0x148, 1), (0x14A, 0x177, 0),
   (0x179, 0x17E, 1), (0x460, 0x481, 0), (0x48A, 0x4BF, 0), (0x4C1, 0x4CE, 1), (0x4D0, 0x52F, 0),
   (0x1E00, 0x1E95, 0), (0x1EA0, 0x1EFF, 0)]

/-- A letter in lower case, for Latin, Greek, Cyrillic and Armenian. -/
def lowerCase (c : Char) : Char :=
  let n := c.toNat
  if (0xC0 ≤ n && n ≤ 0xDE && n ≠ 0xD7) || (0x391 ≤ n && n ≤ 0x3A9 && n ≠ 0x3A2)
      || (0x410 ≤ n && n ≤ 0x42F) then Char.ofNat (n + 0x20)
  else if 0x400 ≤ n && n ≤ 0x40F then Char.ofNat (n + 0x50)
  else if 0x531 ≤ n && n ≤ 0x556 then Char.ofNat (n + 0x30)
  else if n = 0x178 then Char.ofNat 0xFF
  else if casePairs.any fun r => r.1 ≤ n && n ≤ r.2.1 && n % 2 = r.2.2 then Char.ofNat (n + 1)
  else c.toLower

/-- The full stops of other scripts. -/
def isStop (c : Char) : Bool := [0x3002, 0xFF0E, 0xFF61].contains c.toNat

/-- Whether a character of a name does not count: soft hyphens, marks of no width, and selectors of forms. -/
def isIgnored (c : Char) : Bool :=
  Text.inRanges [(0xAD, 0xAD), (0x34F, 0x34F), (0x180B, 0x180D), (0x200B, 0x200B), (0x2060, 0x2060),
    (0x2064, 0x2064), (0xFE00, 0xFE0F), (0xFEFF, 0xFEFF), (0xE0100, 0xE01EF)] c.toNat

/-- What a character of a name counts as. -/
def mapped (c : Char) : List Char :=
  if isIgnored c then []
  else if isStop c then ['.']
  else if 0xFF01 ≤ c.toNat && c.toNat ≤ 0xFF5E then [lowerCase (Char.ofNat (c.toNat - 0xFEE0))]
  else [lowerCase c]

/-- Whether a part of a name that says that it is in plain letters is what these letters are written for. -/
def isProper (part : List Char) : Bool :=
  if "xn--".toList.isPrefixOf part then
    match Text.Punycode.decode? (part.drop 4) with
    | some cs => cs.all (fun c => isNameChar c && mapped c == [c]) && Text.Punycode.encode cs == part
    | none => false
  else true

/-! ### Four bytes -/

/-- A number in an address of four bytes: octal after a zero, hexadecimal after `0x`. -/
def addressNumber? : List Char → Option Nat
  | [] => none
  | '0' :: 'x' :: ds => valueIn? 16 ds
  | '0' :: d :: ds => valueIn? 8 (d :: ds)
  | ds => valueIn? 10 ds

/-- The parts of a name; a point at its end is no part. -/
def labels (cs : List Char) : List (List Char) :=
  let parts := split '.' cs
  if 1 < parts.length && parts.getLast? = some [] then parts.dropLast else parts

/-- Whether the last part of a name is a number. -/
def endsInNumber (cs : List Char) : Bool :=
  match (labels cs).getLast? with
  | some part => !part.isEmpty && (part.all Char.isDigit || (addressNumber? part).isSome)
  | none => false

def bytesOf (count n : Nat) : List Nat := (List.range count).reverse.map fun i => n / Nat.pow 256 i % 256

/-- An address of four bytes.  The last of its numbers stands for all bytes that are left. -/
def fourBytes? (cs : List Char) : Option (List Nat) := do
  let numbers ← (labels cs).mapM addressNumber?
  let last ← numbers.getLast?
  let front := numbers.dropLast
  let count := 4 - front.length
  if 3 < front.length || front.any (255 < ·) || Nat.pow 256 count ≤ last then none
  else return front ++ bytesOf count last

def pointed (numbers : List Nat) : List Char := ['.'].intercalate (numbers.map Numeral.digits)

/-! ### Eight groups -/

/-- A group: up to four hexadecimal digits. -/
def group? (cs : List Char) : Option Nat :=
  if 1 ≤ cs.length && cs.length ≤ 4 then valueIn? 16 cs else none

/-- Four decimal bytes without leading zeros, as two groups. -/
def pointedGroups? (cs : List Char) : Option (List Nat) := do
  let bytes ← (split '.' cs).mapM fun part =>
    if part.all Char.isDigit && 1 ≤ part.length && part.length ≤ 3
        && (part.length = 1 || part.head? ≠ some '0') && Numeral.value part ≤ 255 then
      some (Numeral.value part)
    else none
  match bytes with
  | [a, b, c, d] => return [a * 256 + b, c * 256 + d]
  | _ => none

/-- Groups with colons between them; four bytes may stand at the end of an address. -/
def groups? (atEnd : Bool) (cs : List Char) : Option (List Nat) :=
  if cs.isEmpty then some []
  else do
    let parts := split ':' cs
    let last ← parts.getLast?
    let front ← parts.dropLast.mapM group?
    if atEnd && last.contains '.' then return front ++ (← pointedGroups? last)
    else return front ++ [← group? last]

/-- What stands in front of two colons, and what comes after them. -/
def breakAtGap : List Char → Option (List Char × List Char)
  | [] => none
  | ':' :: ':' :: rest => some ([], rest)
  | c :: rest => (breakAtGap rest).map fun p => (c :: p.1, p.2)

/-- An address of eight groups.  Two colons stand for the zero groups that are missing. -/
def eightGroups? (cs : List Char) : Option (List Nat) := do
  match breakAtGap cs with
  | none =>
    let groups ← groups? true cs
    if groups.length = 8 then return groups else none
  | some (front, back) =>
    let front ← groups? false front
    let back ← groups? true back
    let count := front.length + back.length
    if count ≤ 7 then return front ++ List.replicate (8 - count) 0 ++ back else none

def groupDigits (n : Nat) : List Char :=
  if n < 16 then [(Text.Percent.upperHexDigit n).toLower]
  else groupDigits (n / 16) ++ [(Text.Percent.upperHexDigit (n % 16)).toLower]
termination_by n
decreasing_by omega

/-- The longest run of zeros: where it starts, and its length. -/
def longestZeros (groups : List Nat) : Nat × Nat :=
  (List.range groups.length).foldl (fun best start =>
    let length := ((groups.drop start).takeWhile (· == 0)).length
    if best.2 < length then (start, length) else best) (0, 0)

/-- Eight groups as they are written; a gap stands for the longest run of two zeros or more. -/
def grouped (groups : List Nat) : List Char :=
  let join (gs : List Nat) : List Char := [':'].intercalate (gs.map groupDigits)
  let (start, length) := longestZeros groups
  if length < 2 then join groups
  else join (groups.take start) ++ [':', ':'] ++ join (groups.drop (start + length))

/-! ### Hosts -/

def ofChars? (cs : List Char) : Option String := do
  match cs with
  | '[' :: rest =>
    if rest.getLast? = some ']' then
      return String.ofList ('[' :: (grouped (← eightGroups? (rest.dropLast.map Char.toLower)) ++ [']']))
    else none
  | cs =>
    let name := (← Text.Percent.decodeText? cs).toList.flatMap mapped
    let parts := (split '.' name).map Text.Punycode.encode
    if name.isEmpty || !name.all isNameChar || !parts.all isProper then none
    else
      let plain := ['.'].intercalate parts
      if endsInNumber plain then return String.ofList (pointed (← fourBytes? plain))
      else return String.ofList plain

end IncidentDigest.Http.Host
