import IncidentDigest.Text.Encoding

/-!
Values of headers, and media types among them.

A media type is a type and a subtype, and after them parameters with a name and a value each.  Only a type
that is well formed as a whole has parameters.
-/

namespace IncidentDigest.Http

/-- Whether a text may stand in a header: control characters other than the tab may not. -/
def isHeaderText (s : String) : Bool :=
  s.toList.all fun c => c = '\t' || (0x20 ≤ c.toNat && c.toNat ≠ 0x7F)

/-- A header as it arrives, without blanks around it. -/
def headerValue (s : String) : String :=
  let isEdge (c : Char) : Bool := c = ' ' || c = '\t'
  String.ofList ((s.toList.dropWhile isEdge).reverse.dropWhile isEdge).reverse

/-- Whether a header can be read as text: it has visible characters of ASCII and blanks only. -/
def isReadable (s : String) : Bool := s.toList.all fun c => c = '\t' || (0x20 ≤ c.toNat && c.toNat < 0x7F)

/-! ### Media types -/

namespace MediaType

def json : String := "application/json"

def isNameChar (c : Char) : Bool := c.isAlphanum || ("!#$%&'*+-.^_`|~".toList).contains c

def isQuotedChar (c : Char) : Bool := c = '\t' || (0x20 ≤ c.toNat && c.toNat ≠ 0x7F)

/-- A name at the head of a text, not empty. -/
def takeName? (cs : List Char) : Option (List Char × List Char) :=
  let name := cs.takeWhile isNameChar
  if name.isEmpty then none else some (name, cs.drop name.length)

/-- A value at the head of a text, plain or between quotes, up to the next semicolon. -/
def takeValue? : List Char → Option (List Char × List Char)
  | '"' :: rest =>
    let value := rest.takeWhile (· != '"')
    if value.isEmpty || !value.all isQuotedChar then none
    else match rest.drop value.length with
      | '"' :: rest =>
        match rest.dropWhile (· == ' ') with
        | [] => some (value, [])
        | ';' :: rest => some (value, rest)
        | _ => none
      | _ => none
  | cs =>
    match takeName? cs with
    | some (value, []) => some (value, [])
    | some (value, ';' :: rest) => some (value, rest)
    | _ => none

/-- The parameters from the head of a text, at most `fuel` of them, names in lower case. -/
def takeParameters? : (fuel : Nat) → List Char → Option (List (String × String))
  | 0, _ => some []
  | fuel + 1, cs =>
    match cs.dropWhile (· == ' ') with
    | [] => some []
    | cs =>
      match takeName? cs with
      | some (name, '=' :: rest) => do
        let (value, rest) ← takeValue? rest
        return (String.ofList (name.map Char.toLower), String.ofList value) :: (← takeParameters? fuel rest)
      | _ => none

def parameters? (declared : String) : Option (List (String × String)) := do
  let (_, rest) ← takeName? declared.toList
  match rest with
  | '/' :: rest =>
    let (_, rest) ← takeName? rest
    match rest with
    | [] => return []
    | ';' :: rest => takeParameters? rest.length rest
    | _ => none
  | _ => none

/-- The declared encoding of a text, if there is one and it is known. -/
def encoding? (declared : String) : Option Text.Encoding := do
  Text.Encoding.ofLabel? (← (← parameters? declared).lookup "charset")

end MediaType
end IncidentDigest.Http
