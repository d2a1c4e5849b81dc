import IncidentDigest.Binary64.Layout
import IncidentDigest.Json.Basic

/-!
Writing JSON, on one line or indented by two spaces a level.

In a string only the quote, the backslash and the control characters below a space are escaped; all
other characters stand for themselves.  Numbers with a fraction part have the fewest digits that
identify them, and a point or an exponent, so that they read back as such numbers.
-/

namespace IncidentDigest.Json

/-- Numbers in JSON: positional from `10 ^ -5` up to below `10 ^ 16`, always with a point there. -/
def numberStyle : NumberStyle where
  positional := some (-5, 16)
  pointZero := true
  tie := .toEven

/-- A digit of a hexadecimal number, in lower case. -/
def hexDigit (d : Nat) : Char :=
  if d < 10 then Char.ofNat ('0'.toNat + d) else Char.ofNat ('a'.toNat + (d - 10))

/-- A character as it stands inside a written string. -/
def escapeChar (c : Char) : List Char :=
  match c with
  | '"' => ['\\', '"']
  | '\\' => ['\\', '\\']
  | '\x08' => ['\\', 'b']
  | '\x0c' => ['\\', 'f']
  | '\n' => ['\\', 'n']
  | '\r' => ['\\', 'r']
  | '\t' => ['\\', 't']
  | c =>
    if c.toNat < 0x20 then ['\\', 'u', '0', '0', hexDigit (c.toNat / 16), hexDigit (c.toNat % 16)]
    else [c]

def quoted (s : String) : List Char := '"' :: (s.toList.flatMap escapeChar ++ ['"'])

mutual
def compactChars : Json → List Char
  | .null => ['n', 'u', 'l', 'l']
  | .bool true => ['t', 'r', 'u', 'e']
  | .bool false => ['f', 'a', 'l', 's', 'e']
  | .int n => Numeral.signed n
  | .float x => x.format numberStyle
  | .str s => quoted s
  | .arr items => '[' :: (compactItems items ++ [']'])
  | .obj members => '{' :: (compactMembers members ++ ['}'])

def compactItems : List Json → List Char
  | [] => []
  | [v] => compactChars v
  | v :: rest => compactChars v ++ ',' :: compactItems rest

def compactMembers : List (String × Json) → List Char
  | [] => []
  | [(k, v)] => quoted k ++ ':' :: compactChars v
  | (k, v) :: rest => quoted k ++ ':' :: (compactChars v ++ ',' :: compactMembers rest)
end

/-- A new line, indented by `level` levels. -/
def newline (level : Nat) : List Char := '\n' :: List.replicate (2 * level) ' '

mutual
/-- A value over several lines, its own first line already indented. -/
def prettyChars (level : Nat) : Json → List Char
  | .arr [] => ['[', ']']
  | .arr items =>
    '[' :: (newline (level + 1) ++ prettyItems (level + 1) items ++ newline level ++ [']'])
  | .obj [] => ['{', '}']
  | .obj members =>
    '{' :: (newline (level + 1) ++ prettyMembers (level + 1) members ++ newline level ++ ['}'])
  | v => compactChars v

def prettyItems (level : Nat) : List Json → List Char
  | [] => []
  | [v] => prettyChars level v
  | v :: rest => prettyChars level v ++ ',' :: (newline level ++ prettyItems level rest)

def prettyMembers (level : Nat) : List (String × Json) → List Char
  | [] => []
  | [(k, v)] => quoted k ++ ':' :: ' ' :: prettyChars level v
  | (k, v) :: rest =>
    quoted k ++ ':' :: ' ' ::
      (prettyChars level v ++ ',' :: (newline level ++ prettyMembers level rest))
end

def compact (v : Json) : String := String.ofList v.compactChars

/-- The text of a value over several lines, without a final line feed. -/
def pretty (v : Json) : String := String.ofList (v.prettyChars 0)

/-- The text of a value, over several lines if `indented`. -/
def render (indented : Bool) (v : Json) : String := if indented then v.pretty else v.compact

/-- A label given as a string or as a number; a number is labelled by its text. -/
def label? : Json → Option String
  | .str s => some s
  | .int n => some (Json.int n).compact
  | .float x => some (Json.float x).compact
  | _ => none

end IncidentDigest.Json
