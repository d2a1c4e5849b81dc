import IncidentDigest.Http.Network
import IncidentDigest.Json.Written

/-!
Requests and replies as bytes.

A message has a first line, headers, an empty line, and a body.  `encode` writes a request that asks for the
connection to be closed after the reply, and `Reply.ofBytes?` reads what has come until then.  The body
of a reply is measured by its announced length, or by the lengths of its chunks, or ends with the
connection.  A body shorter than announced is kept as incomplete.
-/

namespace IncidentDigest.Http

/-! ### Requests -/

def line (s : String) : String := s ++ "\r\n"

def headerLine (name : String) (value : Option String) : String :=
  match value with
  | some v => line (name ++ ": " ++ v)
  | none => ""

def Request.encode (r : Request) : List UInt8 :=
  let body := Text.Utf8.encode r.body
  let size := match r.method with
    | .get => none
    | .post => some (String.ofList (Numeral.digits body.length))
  let head :=
    line (r.method.name ++ " " ++ r.url.target ++ " HTTP/1.1") ++
    headerLine "host" r.url.authority ++
    headerLine "user-agent" r.userAgent ++
    headerLine "accept" r.accept ++
    String.join (r.authorization.map fun value => headerLine "authorization" (some value)) ++
    headerLine "content-type" r.contentType ++
    headerLine "referer" r.referer ++
    headerLine "content-length" size ++
    headerLine "connection" "close" ++
    line ""
  Text.Utf8.encode head ++ body

/-! ### Replies -/

def carriageReturn : UInt8 := 0x0D

def lineFeed : UInt8 := 0x0A

/-- The first line of some bytes, without its end, and the bytes after it. -/
def takeLine (bs : List UInt8) : String × List UInt8 :=
  let content := bs.takeWhile (· != lineFeed)
  let content := if content.getLast? = some carriageReturn then content.dropLast else content
  (Text.Utf8.lenient content, (bs.dropWhile (· != lineFeed)).drop 1)

/-- The lines up to the first empty one, and the bytes after it. -/
def takeHead : (fuel : Nat) → List UInt8 → List String × List UInt8
  | 0, bs => ([], bs)
  | fuel + 1, bs =>
    let (first, rest) := takeLine bs
    if first.isEmpty then ([], rest)
    else
      let (more, rest) := takeHead fuel rest
      (first :: more, rest)

/-- The value of a header; the name is given in lower case. -/
def header? (name : String) (lines : List String) : Option String :=
  lines.findSome? fun l =>
    let cs := l.toList
    if (cs.takeWhile (· != ':')).map Char.toLower == name.toList then
      some (headerValue (String.ofList ((cs.dropWhile (· != ':')).drop 1)))
    else none

/-- The status in the first line of a reply: three digits after the first blank. -/
def statusOf? (first : String) : Option Nat :=
  let code := ((first.toList.dropWhile (· != ' ')).drop 1).takeWhile (· != ' ')
  if "HTTP/1.".toList.isPrefixOf first.toList && code.length = 3 && code.all Char.isDigit then
    some (Numeral.value code)
  else none

/-- The announced length of a body, in decimal digits. -/
def bodyLength? (value : String) : Option Nat :=
  let ds := value.toList
  if !ds.isEmpty && ds.all Char.isDigit then some (Numeral.value ds) else none

/-- The length of a chunk: hexadecimal digits, up to the first other character. -/
def chunkLength? (l : String) : Option Nat :=
  match (l.toList.takeWhile fun c => (Json.hexValue? c).isSome).mapM Json.hexValue? with
  | some (d :: ds) => some ((d :: ds).foldl (fun n d => n * 16 + d) 0)
  | _ => none

/-- A body that comes in chunks, and whether the last chunk has come. -/
def unchunk : (fuel : Nat) → List UInt8 → List UInt8 × Bool
  | 0, _ => ([], false)
  | fuel + 1, bs =>
    let (first, rest) := takeLine bs
    match chunkLength? first with
    | none => ([], false)
    | some 0 => ([], true)
    | some n =>
      let (more, complete) := unchunk fuel (rest.drop (n + 2))
      (rest.take n ++ more, complete)

/-- A reply that has come until the connection was closed. -/
def Reply.ofBytes? (bs : List UInt8) : Option Reply := do
  let (lines, rest) := takeHead bs.length bs
  let status ← statusOf? (← lines.head?)
  let (body, complete) :=
    if (header? "transfer-encoding" lines).any fun v => v.toList.map Char.toLower == "chunked".toList then
      unchunk rest.length rest
    else match (header? "content-length" lines).bind bodyLength? with
      | some n => (rest.take n, n ≤ rest.length)
      | none => (rest, true)
  return {
    status
    contentType := header? "content-type" lines
    location := header? "location" lines
    body
    complete }

end IncidentDigest.Http
