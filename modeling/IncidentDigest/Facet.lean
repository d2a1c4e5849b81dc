import IncidentDigest.Record

/-!
Facets of a monitoring record.

Each facet has a list of sources in order of priority; the first source that yields a value wins.  A tag
source looks only at the first tag that starts with its key: if nothing follows the key there, the source
yields nothing, even if a later tag has a value.
-/

namespace IncidentDigest

inductive Facet where
  | version
  | host
  | errorCode
  | dependency
  | operation
  deriving DecidableEq, Repr

/-- Where the value of a facet may come from. -/
inductive Source where
  /-- The first tag that starts with the key; its value is what follows the key. -/
  | tag (key : String)
  | name
  deriving DecidableEq, Repr

/-- What follows `key` in a text that starts with it. -/
def dropKey? : (key : List Char) → List Char → Option (List Char)
  | [], cs => some cs
  | _ :: _, [] => none
  | k :: ks, c :: cs => if k = c then dropKey? ks cs else none

/-- What follows the key in a tag that starts with it. -/
def tagValue? (key tag : String) : Option String :=
  (dropKey? key.toList tag.toList).map String.ofList

namespace Source

/-- What the source finds, be it empty. -/
def found? (r : MonitoringRecord) : Source → Option String
  | .tag key => r.tags.findSome? (tagValue? key)
  | .name => r.name

/-- The value of the source; an empty one counts as none. -/
def extract (r : MonitoringRecord) (s : Source) : Option String :=
  (s.found? r).filter fun v => !v.isEmpty

end Source

namespace Facet

def all : List Facet := [.version, .host, .errorCode, .dependency, .operation]

def label : Facet → String
  | .version => "version"
  | .host => "host"
  | .errorCode => "error_code"
  | .dependency => "dependency"
  | .operation => "operation"

/-- The sources of a facet in order of priority. -/
def sources : Facet → List Source
  | .version => [.tag "version:"]
  | .host => [.tag "host:"]
  | .errorCode => [.tag "error.code:"]
  | .dependency => [.tag "peer.service:", .tag "db.instance:", .tag "http.host:", .tag "net.peer.name:"]
  | .operation => [.tag "operation:", .name]

def extract (f : Facet) (r : MonitoringRecord) : Option String :=
  f.sources.findSome? (Source.extract r)

end Facet
end IncidentDigest
