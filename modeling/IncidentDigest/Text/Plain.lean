import IncidentDigest.Json.Written
import IncidentDigest.Text.Utf8

/-!
Texts and bytes in plain characters.

Where only some characters of ASCII may stand, others are given by numbers: the bytes of a text each by a
percent sign and two hexadecimal digits, three bytes by four letters, and the characters of a name of any
script by letters behind the name.
-/

namespace IncidentDigest.Text

/-! ### Bytes by their numbers -/

namespace Percent

def upperHexDigit (d : Nat) : Char :=
  if d < 10 then Char.ofNat ('0'.toNat + d) else Char.ofNat ('A'.toNat + (d - 10))

def escape (b : UInt8) : List Char :=
  ['%', upperHexDigit (b.toNat / 16), upperHexDigit (b.toNat % 16)]

/-- Writes the foreign characters of a text by their bytes. -/
def encode (isForeign : Char → Bool) (cs : List Char) : List Char :=
  cs.flatMap fun c =>
    if isForeign c then (Utf8.encode (String.ofList [c])).flatMap escape else [c]

/-- The bytes of a text, those given by their numbers included. -/
def decode : List Char → List UInt8
  | [] => []
  | '%' :: a :: b :: rest =>
    match Json.hexValue? a, Json.hexValue? b with
    | some high, some low => UInt8.ofNat (high * 16 + low) :: decode rest
    | _, _ => UInt8.ofNat '%'.toNat :: decode (a :: b :: rest)
  | c :: rest => Utf8.encode (String.ofList [c]) ++ decode rest
termination_by cs => cs.length

/-- The text of the bytes, if they are one. -/
def decodeText? (cs : List Char) : Option String := Utf8.strict? (decode cs)

end Percent

/-! ### Three bytes in four letters

The alphabet is the usual one with `+` and `/`; the last group is filled up with `=`.
-/

namespace Base64

def digitChar (d : Nat) : Char :=
  if d < 26 then Char.ofNat ('A'.toNat + d)
  else if d < 52 then Char.ofNat ('a'.toNat + (d - 26))
  else if d < 62 then Char.ofNat ('0'.toNat + (d - 52))
  else if d = 62 then '+'
  else '/'

def encode : List UInt8 → List Char
  | [] => []
  | [a] =>
    let n := a.toNat * 16
    [digitChar (n / 64), digitChar (n % 64), '=', '=']
  | [a, b] =>
    let n := (a.toNat * 256 + b.toNat) * 4
    [digitChar (n / 4096), digitChar (n / 64 % 64), digitChar (n % 64), '=']
  | a :: b :: c :: rest =>
    let n := (a.toNat * 256 + b.toNat) * 256 + c.toNat
    digitChar (n / 262144) :: digitChar (n / 4096 % 64) :: digitChar (n / 64 % 64) :: digitChar (n % 64) ::
      encode rest

end Base64

/-! ### Names of any script

A name keeps its ASCII characters in front.  The others follow in the order of their code points: for each of
them stands how many places have been passed since the last one, a place being a code point together with
a position in the name.  These numbers have digits of base 36 whose limits adapt to the numbers written
so far, so that each number ends by itself.
-/

namespace Punycode

/-- The character of a digit of base 36. -/
def digitChar (d : Nat) : Char :=
  if d < 26 then Char.ofNat ('a'.toNat + d) else Char.ofNat ('0'.toNat + (d - 26))

/-- A digit below this limit is the last one of its number. -/
def limit (bias place : Nat) : Nat := max 1 (min 26 (place - bias))

/-- A number from a place on; places count in steps of 36. -/
def digits (bias place n : Nat) : List Char :=
  let t := limit bias place
  if n < t then [digitChar n]
  else digitChar (t + (n - t) % (36 - t)) :: digits bias (place + 36) ((n - t) / (36 - t))
termination_by n
decreasing_by
  rename_i h
  have ht : 1 ≤ limit bias place := Nat.le_max_left _ _
  exact Nat.lt_of_le_of_lt (Nat.div_le_self _ _) (by omega)

/-- The bias that fits numbers of some size. -/
def biasFor (bias size : Nat) : Nat :=
  if 455 < size then biasFor (bias + 36) (size / 35) else bias + 36 * size / (size + 38)
termination_by size
decreasing_by omega

/-- The bias after a number, when so many characters have been written; the first number counts less. -/
def nextBias (n written : Nat) (isFirst : Bool) : Nat :=
  let share := if isFirst then n / 700 else n / 2
  biasFor 0 (share + share / written)

/-- What has been written of a name. -/
structure Progress where
  out : List Char
  /-- The places that have been passed since the last number. -/
  passed : Nat
  bias : Nat
  /-- How many characters of the name have been written. -/
  written : Nat

namespace Progress

/-- Goes past one position of the name at a code point.  `plain` characters had been written before the
first number. -/
def step (plain code : Nat) (p : Progress) (c : Char) : Progress :=
  if c.toNat < code then { p with passed := p.passed + 1 }
  else if c.toNat = code then
    { out := p.out ++ digits p.bias 36 p.passed
      passed := 0
      bias := nextBias p.passed (p.written + 1) (p.written = plain)
      written := p.written + 1 }
  else p

/-- Goes through the code points from `next` up to the given ones, in ascending order. -/
def through (cs : List Char) (plain : Nat) : (codes : List Nat) → (next : Nat) → Progress → Progress
  | [], _, p => p
  | code :: codes, next, p =>
    let p := { p with passed := p.passed + (code - next) * (p.written + 1) }
    let p := cs.foldl (step plain code) p
    through cs plain codes (code + 1) { p with passed := p.passed + 1 }

end Progress

def isPlain (c : Char) : Bool := c.toNat < 0x80

/-- What follows the ASCII characters of a name. -/
def tail (cs : List Char) : List Char :=
  let plain := (cs.filter isPlain).length
  let codes := ((cs.filter fun c => !isPlain c).map Char.toNat).mergeSort.eraseDups
  (Progress.through cs plain codes 0x80 ⟨[], 0, 72, plain⟩).out

/-- A name in plain letters.  A name of ASCII characters stands for itself. -/
def encode (cs : List Char) : List Char :=
  if cs.all isPlain then cs
  else
    let plain := cs.filter isPlain
    "xn--".toList ++ plain ++ (if plain.isEmpty then [] else ['-']) ++ tail cs

/-! #### Reading them back -/

/-- What a character of base 36 stands for; capitals count as small letters. -/
def digitValue? (c : Char) : Option Nat :=
  if 'a' ≤ c && c ≤ 'z' then some (c.toNat - 'a'.toNat)
  else if 'A' ≤ c && c ≤ 'Z' then some (c.toNat - 'A'.toNat)
  else if '0' ≤ c && c ≤ '9' then some (c.toNat - '0'.toNat + 26)
  else none

/-- The number that some digits begin with, from a place and its weight on, and what comes after it. -/
def takeNumber? (bias : Nat) : (place weight : Nat) → List Char → Option (Nat × List Char)
  | _, _, [] => none
  | place, weight, c :: cs => do
    let d ← digitValue? c
    let t := limit bias place
    if d < t then return (d * weight, cs)
    else
      let (n, rest) ← takeNumber? bias (place + 36) (weight * (36 - t)) cs
      return (d * weight + n, rest)

/-- Puts characters into a name where the numbers, at most `fuel` of them, say. -/
def insertAll? : (fuel : Nat) → (name : List Char) → (code position bias : Nat) → (isFirst : Bool) →
    List Char → Option (List Char)
  | _, name, _, _, _, _, [] => some name
  | 0, _, _, _, _, _, _ :: _ => none
  | fuel + 1, name, code, position, bias, isFirst, c :: cs => do
    let (passed, rest) ← takeNumber? bias 36 1 (c :: cs)
    let size := name.length + 1
    let code := code + (position + passed) / size
    let position := (position + passed) % size
    if code.isValidChar then
      insertAll? fuel (name.take position ++ Char.ofNat code :: name.drop position) code (position + 1)
        (nextBias passed size isFirst) false rest
    else none

/-- The name that stands behind `xn--` in plain letters, if one does. -/
def decode? (cs : List Char) : Option (List Char) :=
  let digits := (cs.reverse.takeWhile (· != '-')).reverse
  insertAll? digits.length (cs.take (cs.length - digits.length - 1)) 0x80 0 72 true digits

end Punycode
end IncidentDigest.Text
