import IncidentDigest.Http.Header
import IncidentDigest.Http.Url

/-!
Requests, replies, and the network as data.

What the other side does is a script: for each route, what happens at the first request, at the second, and
so on.  A reaction is what one request on the wire meets with; what a client makes of it, and where it goes
on to, is no part of it.  The network keeps every request that has arrived, in order.  An exchange depends
on the script and on the number of earlier requests of the same route only.

Requests go straight to the host of their address: there is no proxy between them, also where the system
names one.  Of a request only the headers are kept that a program sets or that depend on its settings, and
of a reply only those that are read.  Names of hosts are not looked up, and nothing is encrypted.
-/

namespace IncidentDigest.Http

inductive Method where
  | get
  | post
  deriving DecidableEq, Repr

def Method.name : Method → String
  | .get => "GET"
  | .post => "POST"

/-- A request as its sender makes it. -/
structure Request where
  method : Method
  url : Url
  userAgent : Option String
  accept : String
  /-- More than one header of this name can be given. -/
  authorization : List String
  contentType : Option String
  /-- The address that has led to this one. -/
  referer : Option String
  body : String
  deriving DecidableEq, Repr

/-- What is requested: a method and an address in its requested form. -/
structure Route where
  method : Method
  address : String
  deriving DecidableEq, Repr

def Request.route (r : Request) : Route := ⟨r.method, r.url.text⟩

/-- A request as it arrives: the values of its headers come without the blanks around them. -/
def Request.arrived (r : Request) : Request :=
  { r with
    userAgent := r.userAgent.map headerValue
    accept := headerValue r.accept
    authorization := r.authorization.map headerValue
    contentType := r.contentType.map headerValue
    referer := r.referer.map headerValue }

def Route.text (r : Route) : String := r.method.name ++ " " ++ r.address

structure Reply where
  status : Nat
  contentType : Option String
  /-- Where the reply says that the answer is to be found. -/
  location : Option String
  body : List UInt8
  /-- Whether the whole body arrives before the connection ends. -/
  complete : Bool
  deriving DecidableEq, Repr

namespace Reply

/-- Whether a reply says that the request has been carried out. -/
def isSuccess (r : Reply) : Bool := 200 ≤ r.status && r.status < 300

/-- The body as it is taken, if all of it arrives.  A reply of status 204 or 304 has none, whatever follows
it. -/
def content? (r : Reply) : Option (List UInt8) :=
  if r.status = 204 || r.status = 304 then some []
  else if r.complete then some r.body
  else none

/-- The declared media type, if it can be read. -/
def mediaType? (r : Reply) : Option String := (r.contentType.map headerValue).filter isReadable

def declaresJson (r : Reply) : Bool :=
  r.mediaType?.any fun t => MediaType.json.toList.isPrefixOf t.toList

/-- The body as text, in the declared encoding. -/
def text? (r : Reply) : Option String :=
  r.content?.map ((r.mediaType?.bind MediaType.encoding?).getD .utf8).decode

/-- The body as text, empty where it does not arrive. -/
def text (r : Reply) : String := r.text?.getD ""

end Reply

/-- What a request meets with. -/
inductive Reaction where
  | reply (r : Reply)
  /-- The connection ends without a reply. -/
  | closed
  /-- Nothing comes back until the time is up. -/
  | silence
  /-- No connection is made. -/
  | refusal
  deriving DecidableEq, Repr

/-- What happens at the request of a route that so many others of this route have come before. -/
abbrev Script := Route → Nat → Reaction

structure Network where
  script : Script
  /-- The routes that have been requested, in order, replied to or not. -/
  asked : List Route
  /-- The requests that have arrived, in order and as they have arrived. -/
  received : List Request

namespace Network

/-- A network at which nothing has been requested yet. -/
def ofScript (script : Script) : Network := ⟨script, [], []⟩

/-- What the next request of a route meets with. -/
def reaction (n : Network) (route : Route) : Reaction := n.script route (n.asked.count route)

/-- One request on the wire, and what it meets with. -/
def exchange (n : Network) (r : Request) : Reaction × Network :=
  let asked := n.asked ++ [r.route]
  match n.reaction r.route with
  | .reply reply => (.reply reply, { n with asked, received := n.received ++ [r.arrived] })
  | .closed => (.closed, { n with asked, received := n.received ++ [r.arrived] })
  | other => (other, { n with asked })

theorem exchange_fst (n : Network) (r : Request) : (n.exchange r).1 = n.reaction r.route := by
  unfold exchange
  split <;> simp_all

theorem exchange_script (n : Network) (r : Request) : (n.exchange r).2.script = n.script := by
  unfold exchange
  split <;> rfl

theorem exchange_asked (n : Network) (r : Request) :
    (n.exchange r).2.asked = n.asked ++ [r.route] := by
  unfold exchange
  split <;> rfl

end Network

end IncidentDigest.Http
