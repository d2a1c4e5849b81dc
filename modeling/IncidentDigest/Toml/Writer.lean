import IncidentDigest.Json.Writer
import IncidentDigest.Toml.Table

/-!
Writing a TOML document of sections with plain values.

Sections are set apart by an empty line.  Numbers with a fraction always bear a point.
-/

namespace IncidentDigest.Toml

/-- A character as it stands inside a written string. -/
def escapeChar (c : Char) : List Char :=
  match c with
  | '"' => ['\\', '"']
  | '\\' => ['\\', '\\']
  | '\x08' => ['\\', 'b']
  | '\t' => ['\\', 't']
  | '\n' => ['\\', 'n']
  | '\x0c' => ['\\', 'f']
  | '\r' => ['\\', 'r']
  | c =>
    if c.toNat < 0x20 || c.toNat = 0x7F then
      ['\\', 'u', '0', '0', Json.hexDigit (c.toNat / 16), Json.hexDigit (c.toNat % 16)]
    else [c]

def quoted (s : String) : String := String.ofList ('"' :: (s.toList.flatMap escapeChar ++ ['"']))

/-- Numbers are never written with an exponent. -/
def numberStyle : NumberStyle where
  positional := none
  pointZero := true
  tie := .awayFromZero

def floatText : Binary64.Extended → String
  | .finite x => String.ofList (x.format numberStyle)
  | .infinite negative => if negative then "-inf" else "inf"
  | .undefined => "nan"

mutual
def Value.render : Value → String
  | .text s => quoted s
  | .integer n => String.ofList (Numeral.signed n)
  | .float x => floatText x
  | .flag b => if b then "true" else "false"
  | .moment written => written
  | .list items => "[" ++ ", ".intercalate (renderItems items) ++ "]"
  | .table members => "\x7b " ++ ", ".intercalate (renderMembers members) ++ " \x7d"

def renderItems : List Value → List String
  | [] => []
  | v :: rest => v.render :: renderItems rest

def renderMembers : Members → List String
  | [] => []
  | (key, v) :: rest => (key ++ " = " ++ v.render) :: renderMembers rest
end

/-- A section: its header and a line for each assignment. -/
def renderSection (name : String) (members : Members) : String :=
  "[" ++ name ++ "]\n" ++ String.join ((renderMembers members).map (· ++ "\n"))

/-- A document of sections. -/
def renderSections (sections : List (String × Members)) : String :=
  "\n".intercalate (sections.map fun s => renderSection s.1 s.2)

end IncidentDigest.Toml
