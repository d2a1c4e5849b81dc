import IncidentDigest.Http.Network

/-!
Redirects.

Some replies send their reader on to another address, and the reader makes another request there, until a
reply sends it nowhere or it has been sent on too often.  A reply whose address cannot be understood sends
its reader nowhere.

On the way a post becomes a reading request, unless the status says that the request stays the same, and
what authorizes a request is kept to the host and the port that it was meant for.
-/

namespace IncidentDigest.Http

namespace Reply

/-- Whether the status of a reply sends its reader on. -/
def isRedirect (r : Reply) : Bool := [301, 302, 303, 307, 308].contains r.status

/-- Where a reply to a request for an address sends its reader, if it does: to an address of the web, or
to one of another protocol. -/
def target? (r : Reply) (u : Url) : Option (Except String Url) :=
  if r.isRedirect then
    match r.location.bind (Address.within? u) with
    | some (.web v) => some (.ok v)
    | some (.other shown) => some (.error shown)
    | some (.unfit _) => none
    | none => none
  else none

end Reply

/-- Whether two addresses have the same host and the same port. -/
def Url.isNear (u v : Url) : Bool := u.host = v.host && u.port? = v.port?

namespace Request

/-- Whether a request goes on as a reading request after a status. -/
def turnsToGet (r : Request) (status : Nat) : Bool :=
  status = 303 || (r.method = .post && (status = 301 || status = 302))

/-- The request that is made after another one whose reply has led to an address. -/
def sentOn (r : Request) (status : Nat) (u : Url) : Request where
  method := if r.turnsToGet status then .get else r.method
  url := u
  userAgent := r.userAgent
  accept := r.accept
  authorization := if u.isNear r.url then r.authorization else []
  contentType := if r.turnsToGet status then none else r.contentType
  referer := if r.url.protocol = "https" && u.protocol = "http" then none else some r.url.text
  body := if r.turnsToGet status then "" else r.body

/-- What follows on a request that has met with a reaction: another request, or an address of another
protocol, of which none can be made. -/
def onward? (r : Request) : Reaction → Option (Except String Request)
  | .reply reply => (reply.target? r.url).map fun target => target.map (r.sentOn reply.status)
  | _ => none

end Request

/-- What comes of a request in the end. -/
inductive Delivery where
  /-- The last request on the way has met with this. -/
  | ended (reaction : Reaction)
  /-- The way has led to an address of another protocol. -/
  | stranded (shown : String)
  /-- The way has led on too often; this address was the last one. -/
  | astray (shown : String)
  deriving DecidableEq, Repr

namespace Network

/-- How often a request is sent on. -/
def redirectLimit : Nat := 10

/-- Makes a request and follows where it leads, at most so many times. -/
def follow : (limit : Nat) → Request → Network → Delivery × Network
  | 0, r, n =>
    let (reaction, n) := n.exchange r
    match r.onward? reaction with
    | none => (.ended reaction, n)
    | some _ => (.astray r.url.shown, n)
  | limit + 1, r, n =>
    let (reaction, n) := n.exchange r
    match r.onward? reaction with
    | none => (.ended reaction, n)
    | some (.error shown) => (.stranded shown, n)
    | some (.ok next) => follow limit next n

/-- Makes a request and follows where it leads. -/
def deliver (n : Network) (r : Request) : Delivery × Network := follow redirectLimit r n

end Network
end IncidentDigest.Http
