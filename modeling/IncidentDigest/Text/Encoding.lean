import IncidentDigest.Text.Character
import IncidentDigest.Text.Utf8

/-!
Encodings of text.

The bytes of a text are read in a named encoding, unless they begin with a mark that tells another one.
Bytes that stand for nothing are read as the replacement character.
-/

namespace IncidentDigest.Text

inductive Encoding where
  | utf8
  /-- Two bytes for a unit, the higher one first or last. -/
  | utf16 (highFirst : Bool)
  /-- One byte for a character of western scripts. -/
  | western
  deriving DecidableEq, Repr

namespace Encoding

def labels : List (Encoding × List String) :=
  [(.utf8, ["unicode-1-1-utf-8", "unicode11utf8", "unicode20utf8", "utf-8", "utf8", "x-unicode20utf8"]),
    (.utf16 true, ["unicodefffe", "utf-16be"]),
    (.utf16 false,
      ["csunicode", "iso-10646-ucs-2", "ucs-2", "unicode", "unicodefeff", "utf-16", "utf-16le"]),
    (.western,
      ["ansi_x3.4-1968", "ascii", "cp1252", "cp819", "csisolatin1", "ibm819", "iso-8859-1", "iso-ir-100",
        "iso8859-1", "iso88591", "iso_8859-1", "iso_8859-1:1987", "l1", "latin1", "us-ascii", "windows-1252",
        "x-cp1252"])]

def ofLabel? (label : String) : Option Encoding :=
  let name := String.ofList ((trim label.toList).map Char.toLower)
  (labels.find? fun e => e.2.contains name).map (·.1)

/-- The characters of the bytes `0x80` to `0x9F` in western scripts. -/
def westernSigns : List Nat :=
  [0x20AC, 0x81, 0x201A, 0x192, 0x201E, 0x2026, 0x2020, 0x2021, 0x2C6, 0x2030, 0x160, 0x2039, 0x152, 0x8D,
    0x17D, 0x8F, 0x90, 0x2018, 0x2019, 0x201C, 0x201D, 0x2022, 0x2013, 0x2014, 0x2DC, 0x2122, 0x161, 0x203A,
    0x153, 0x9D, 0x17E, 0x178]

/-- The character of a byte in western scripts. -/
def westernChar (b : UInt8) : Char :=
  if 0x80 ≤ b.toNat && b.toNat ≤ 0x9F then Char.ofNat ((westernSigns[b.toNat - 0x80]?).getD b.toNat)
  else Char.ofNat b.toNat

/-- The units of two bytes each, `none` standing for a byte that is left at the end. -/
def units (highFirst : Bool) : List UInt8 → List (Option Nat)
  | [] => []
  | [_] => [none]
  | a :: b :: rest =>
    some (if highFirst then a.toNat * 256 + b.toNat else b.toNat * 256 + a.toNat) :: units highFirst rest

/-- The characters of units.  A surrogate without its partner and a byte that is left are one fault each;
together at the end they are one fault. -/
def charsOfUnits : List (Option Nat) → List Char
  | [] => []
  | none :: rest => Utf8.replacement :: charsOfUnits rest
  | some n :: rest =>
    if 0xD800 ≤ n && n < 0xDC00 then
      match rest with
      | [none] => [Utf8.replacement]
      | some m :: more =>
        if 0xDC00 ≤ m && m < 0xE000 then
          Char.ofNat (0x10000 + (n - 0xD800) * 0x400 + (m - 0xDC00)) :: charsOfUnits more
        else Utf8.replacement :: charsOfUnits (some m :: more)
      | rest => Utf8.replacement :: charsOfUnits rest
    else if 0xDC00 ≤ n && n < 0xE000 then Utf8.replacement :: charsOfUnits rest
    else Char.ofNat n :: charsOfUnits rest
termination_by us => us.length

/-- The text of bytes without a mark. -/
def decodePlain (e : Encoding) (bs : List UInt8) : String :=
  match e with
  | .utf8 => String.ofList ((Utf8.decode bs).map fun c => c.getD Utf8.replacement)
  | .utf16 highFirst => String.ofList (charsOfUnits (units highFirst bs))
  | .western => String.ofList (bs.map westernChar)

/-- The text of bytes.  A mark in front tells the encoding and is dropped. -/
def decode (e : Encoding) (bs : List UInt8) : String :=
  match bs with
  | 0xEF :: 0xBB :: 0xBF :: rest => decodePlain .utf8 rest
  | 0xFF :: 0xFE :: rest => decodePlain (.utf16 false) rest
  | 0xFE :: 0xFF :: rest => decodePlain (.utf16 true) rest
  | bs => decodePlain e bs

end Encoding
end IncidentDigest.Text
