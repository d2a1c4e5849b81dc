import IncidentDigest.Http.Host

/-!
Addresses of the web.

`Address.ofText?` takes an address apart the way browsers and clients do, and `Url.text` writes the one form
in which it is requested: protocol and host in lower case, no usual port, steps up and down resolved, and
characters that may not stand in an address given by their bytes.  An address without protocol is of no
use by itself; `Address.within?` reads it where another address says what it leaves out.  An address of
another protocol than the two of the web is understood but cannot be requested, and neither can one that is
too long or whose host has quotes or braces.
-/

namespace IncidentDigest.Http

/-- A name and a password that stand in front of a host. -/
structure Credentials where
  name : String
  password : String
  deriving DecidableEq, Repr

/-- The authorization that a name and a password give. -/
def Credentials.authorization (c : Credentials) : String :=
  "Basic " ++ String.ofList (Text.Base64.encode (Text.Utf8.encode (c.name ++ ":" ++ c.password)))

structure Url where
  protocol : String
  credentials : Option Credentials
  host : String
  /-- The port, if it is not the usual one. -/
  port : Option Nat
  path : List String
  query : Option String
  /-- A place in what comes back; it is not requested. -/
  place : Option String
  deriving DecidableEq, Repr

namespace Url

/-! ### Characters -/

/-- Whether a character is a control character or none of ASCII. -/
def isHidden (c : Char) : Bool := c.toNat < 0x20 || 0x7F ≤ c.toNat

def isForeign (c : Char) : Bool := isHidden c || c = ' ' || c = '"' || c = '<' || c = '>'

def isForeignInPath (c : Char) : Bool :=
  isForeign c || c = '`' || c = '#' || c = '?' || c = '\x7b' || c = '\x7d'

def isForeignInQuery (c : Char) : Bool := isForeign c || c = '#' || c = '\''

def isForeignInPlace (c : Char) : Bool := isForeign c || c = '`'

/-! ### Name, host and port -/

/-- The usual port of a protocol whose addresses name a host. -/
def usualPort? (protocol : String) : Option Nat :=
  [("http", 80), ("https", 443), ("ws", 80), ("wss", 443), ("ftp", 21)].lookup protocol

/-- A text up to its last at-sign, and the text after it. -/
def breakAtLast (cs : List Char) : Option (List Char × List Char) :=
  if cs.contains '@' then
    let host := (cs.reverse.takeWhile (· != '@')).reverse
    some (cs.take (cs.length - host.length - 1), host)
  else none

/-- The name and the password before an at-sign; there is none if both are empty. -/
def credentials? (cs : List Char) : Option Credentials := do
  let name ← Text.Percent.decodeText? (cs.takeWhile (· != ':'))
  let password := (Text.Percent.decodeText? ((cs.dropWhile (· != ':')).drop 1)).getD ""
  if name.isEmpty && password.isEmpty then none else return ⟨name, password⟩

/-- The port after a host.  None need be given after the colon; the usual one is left out. -/
def readPort? (usual : Nat) (cs : List Char) : Option (Option Nat) :=
  if cs.isEmpty then some none
  else if cs.all Char.isDigit && Numeral.value cs < 0x10000 then
    some (if Numeral.value cs = usual then none else some (Numeral.value cs))
  else none

/-- A host up to the colon in front of its port; colons in brackets belong to it. -/
def hostPart : List Char → List Char
  | '[' :: rest => '[' :: (rest.takeWhile (· != ']') ++ (rest.dropWhile (· != ']')).takeWhile (· != ':'))
  | cs => cs.takeWhile (· != ':')

/-! ### Path -/

/-- Whether a part of a path means the same place. -/
def isStay (part : List Char) : Bool :=
  [['.'], "%2e".toList].contains (part.map Char.toLower)

/-- Whether a part of a path means one step up. -/
def isUp (part : List Char) : Bool :=
  ["..".toList, ".%2e".toList, "%2e.".toList, "%2e%2e".toList].contains (part.map Char.toLower)

/-- Resolves the parts of a path that mean steps.  A step at the end leaves an empty part there. -/
def resolve (done : List (List Char)) : List (List Char) → List (List Char)
  | [] => done.reverse
  | [part] =>
    if isUp part then ([] :: done.drop 1).reverse
    else if isStay part then ([] :: done).reverse
    else (part :: done).reverse
  | part :: rest =>
    if isUp part then resolve (done.drop 1) rest
    else if isStay part then resolve done rest
    else resolve (part :: done) rest

/-- Whether a character parts a path; a backslash counts as a slash. -/
def isSlash (c : Char) : Bool := c = '/' || c = '\\'

/-- The parts of a path between its slashes. -/
def parts (cs : List Char) : List (List Char) :=
  Host.split '/' (cs.map fun c => if isSlash c then '/' else c)

/-- The parts of a path as they are requested. -/
def readPath (cs : List Char) : List String :=
  let body := match cs with
    | c :: rest => if isSlash c then rest else c :: rest
    | [] => []
  (resolve [] (parts body)).map fun p => String.ofList (Text.Percent.encode isForeignInPath p)

/-! ### Whole addresses -/

/-- What comes after a sign, if the sign is there. -/
def after? (sign : Char) (cs : List Char) : Option (List Char) :=
  match cs.dropWhile (· != sign) with
  | [] => none
  | _ :: rest => some rest

/-- An address after the colon of its protocol. -/
def readRest? (protocol : String) (usual : Nat) (cs : List Char) : Option Url := do
  let place := (after? '#' cs).map fun p => String.ofList (Text.Percent.encode isForeignInPlace p)
  let cs := (cs.takeWhile (· != '#')).dropWhile isSlash
  let authority := cs.takeWhile fun c => !isSlash c && c != '?'
  let rest := cs.drop authority.length
  let (owner, location) := (breakAtLast authority).getD ([], authority)
  let hostText := hostPart location
  let host ← Host.ofChars? hostText
  let port ← readPort? usual ((location.drop hostText.length).drop 1)
  let query := (after? '?' rest).map fun q => String.ofList (Text.Percent.encode isForeignInQuery q)
  return {
    protocol, credentials := credentials? owner, host, port
    path := readPath (rest.takeWhile (· != '?')), query, place }

/-- The host, with the port if it is not the usual one. -/
def authority (u : Url) : String :=
  u.host ++
    (match u.port with
      | some port => ":" ++ String.ofList (Numeral.digits port)
      | none => "")

def pathText (u : Url) : String := "/" ++ "/".intercalate u.path

/-- What is asked of the host: the path and the query. -/
def target (u : Url) : String :=
  u.pathText ++
    (match u.query with
      | some query => "?" ++ query
      | none => "")

def text (u : Url) : String := u.protocol ++ "://" ++ u.authority ++ u.target

def shown (u : Url) : String :=
  u.text ++
    (match u.place with
      | some place => "#" ++ place
      | none => "")

/-- The longest address of which a request can be made, in bytes. -/
def maxBytes : Nat := 65534

/-- Whether a request can be made of an address. -/
def isSendable (u : Url) : Bool :=
  u.shown.utf8ByteSize ≤ maxBytes &&
    u.host.toList.all fun c => c != '"' && c != '`' && c != '\x7b' && c != '\x7d'

/-- The port, also where it is the usual one. -/
def port? (u : Url) : Option Nat := u.port.or (usualPort? u.protocol)

/-- A text that leaves out the front of an address, with what stands there at another address. -/
def complete (u : Url) (cs : List Char) : List Char :=
  let authority := '/' :: '/' :: u.authority.toList
  match cs with
  | [] => authority ++ u.target.toList
  | '?' :: _ => authority ++ u.pathText.toList ++ cs
  | '#' :: _ => authority ++ u.target.toList ++ cs
  | c :: rest =>
    if isSlash c then
      if rest.head?.any isSlash then cs else authority ++ cs
    else authority ++ (u.path.dropLast.flatMap fun part => '/' :: part.toList) ++ '/' :: cs

end Url

/-- An address, of the web or not. -/
inductive Address where
  | web (u : Url)
  /-- An address of the web of which no request can be made. -/
  | unfit (shown : String)
  /-- An address of another protocol. -/
  | other (shown : String)
  deriving DecidableEq, Repr

namespace Address

/-! ### Reading -/

/-- Whether a character may stand in the name of a protocol, after the first letter. -/
def isProtocolChar (c : Char) : Bool := c.isAlphanum || c = '+' || c = '-' || c = '.'

/-- The name of the protocol, in lower case, and the text after its colon. -/
def breakAtProtocol? (cs : List Char) : Option (String × List Char) :=
  let name := cs.takeWhile isProtocolChar
  match cs.drop name.length, name.head? with
  | ':' :: rest, some c => if c.isAlpha then some (String.ofList (name.map Char.toLower), rest) else none
  | _, _ => none

/-- An address without blanks and control characters around it, and without tabs and line breaks inside. -/
def cleaned (s : String) : List Char :=
  let isEdge (c : Char) : Bool := c.toNat ≤ 0x20
  (((s.toList.dropWhile isEdge).reverse.dropWhile isEdge).reverse).filter fun c =>
    c != '\t' && c != '\n' && c != '\r'

/-- An address of a protocol, after the colon of the protocol. -/
def ofRest? (protocol : String) (rest : List Char) : Option Address :=
  match Url.usualPort? protocol with
  | some usual => do
    let u ← Url.readRest? protocol usual rest
    return if protocol = "http" || protocol = "https" then
      if u.isSendable then .web u else .unfit u.shown
    else .other u.shown
  | none => some (.other (protocol ++ ":" ++ String.ofList (Text.Percent.encode Url.isHidden rest)))

/-- Takes an address apart. -/
def ofText? (s : String) : Option Address := do
  let (protocol, rest) ← breakAtProtocol? (cleaned s)
  ofRest? protocol rest

/-- Takes an address apart that stands at another address.  What it leaves out is as it is there; this
also goes for one that repeats the protocol alone. -/
def within? (u : Url) (s : String) : Option Address :=
  match breakAtProtocol? (cleaned s) with
  | some (protocol, rest) =>
    if protocol = u.protocol && (rest.takeWhile Url.isSlash).length < 2 then
      ofRest? protocol (u.complete rest)
    else ofRest? protocol rest
  | none => ofRest? u.protocol (u.complete (cleaned s))

end Address
end IncidentDigest.Http
