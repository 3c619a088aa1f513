import Roster.Index
import Roster.Url.Basic

/-!
# Networks and sites

A network answers requests for URLs. What it answers may depend on how often it has been asked, so
the requests that have reached a server are counted.

A site is a network with known pages: each URL has replies that are given one after the other, and
the last of them from then on. A URL without any is not found. Only plain HTTP is served.

* `Network` is any way to answer requests; `Network.unreachable` answers none.
* `Http.get` makes one request.
* `Site.network` serves a site.
-/

namespace Roster.Http

/-! ## Networks -/

/-- What a server answers. The body is broken if it ended before it was complete. -/
structure Response where
  status : Nat
  contentType? : Option Text := none
  location? : Option Text := none
  body : List Nat := []
  broken : Bool := false
deriving DecidableEq, Inhabited

/-- What becomes of a request: it reaches no server, or one that gives no answer, or one that
answers. -/
inductive Reply where
  | unreached
  | dropped
  | answered (r : Response)
deriving DecidableEq, Inhabited

/-- What becomes of the request for a URL that has reached its server so many times before. -/
abbrev Network := Url → (before : Nat) → Reply

/-- The network that reaches no server. -/
def Network.unreachable : Network := fun _ _ => .unreached

/-- How many requests have reached a server, under the texts of the URLs. -/
abbrev Visits := Index Nat

/-- How often a URL has been requested. -/
def Visits.count (v : Visits) (url : Text) : Nat := (v.find? url).getD 0

/-- Requests a URL. Its fragment is not part of the request. -/
def get (net : Network) (v : Visits) (u : Url) : Reply × Visits :=
  let u := u.withoutFragment
  let before := v.count u.toText
  match net u before with
  | .unreached => (.unreached, v)
  | reply => (reply, v.insert u.toText (before + 1))

/-! ## Sites -/

/-- The replies of a network with known pages. -/
structure Site where
  pages : List (Text × List Reply)
deriving Inhabited

namespace Site

/-- The scheme that is served. -/
def scheme : Text := "http".toList

/-- The reply for what is not there. -/
def notFound : Reply := .answered { status := 404 }

/-- The reply to a request for a page that was requested so many times before. -/
def replyOf (replies : List Reply) (before : Nat) : Reply :=
  match replies[before]? with
  | some reply => reply
  | none => replies.getLast?.getD notFound

/-- The network that serves a site. -/
def network (s : Site) : Network := fun u before =>
  if u.scheme ≠ scheme then .unreached
  else replyOf ((s.pages.lookup u.toText).getD []) before

end Site

end Roster.Http
