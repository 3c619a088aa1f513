import Roster.Charset.Basic
import Roster.Error
import Roster.Http.Site
import Roster.Url.Parse

/-!
# Fetching texts

A text is fetched from a URL. Redirects are followed a few times, only a successful answer counts,
and its body is read in the character set that the answer tells.

* `Http.follow` requests a URL and those it is redirected to.
* `Http.fetch` fetches the text at a URL that is given as a text.
-/

namespace Roster.Http

/-! ## Requests -/

/-- The schemes that can be requested. -/
def schemes : List Text := ["http".toList, "https".toList]

/-- Characters that a host may hold but no request can carry. -/
def isUnsendable (c : Char) : Bool := ['"', '\x60', '\x7b', '\x7d'].contains c

/-- The URL can be requested. -/
def isRequestable (u : Url) : Bool :=
  schemes.contains u.scheme && !(u.host?.any (·.any isUnsendable))

/-- The text can be read once it is decoded. -/
def isReadable (t : Text) : Bool := (Text.ofUtf8? (Url.decodeBytes t)).isSome

/-- Credentials that can be read: a user name with any password, or a password alone. -/
def hasReadableCredentials (a : Url.Authority) : Bool :=
  isReadable a.user && (!a.user.isEmpty || isReadable a.password)

/-- The URL as it is requested: without credentials that can be read, which are sent apart. -/
def asRequested (u : Url) : Url :=
  if u.authority?.any hasReadableCredentials then u.withoutCredentials else u

/-- The URL to request, given as a text. -/
def target (url : Text) : Except Failure Url :=
  match Url.parse url with
  | .error _ => .error .notUrl
  | .ok u =>
    if u.host?.isNone then .error (.notRequestable u.toText)
    else
      let u := asRequested u
      if isRequestable u then .ok u else .error (.notRequestable u.toText)

/-! ## Redirects -/

/-- How many redirects are followed. -/
def maxRedirects : Nat := 10

/-- Where an answer points, seen from the URL that it answers for. -/
def Response.target? (r : Response) (u : Url) : Option Url :=
  if isRedirect r.status then r.location?.bind fun l => ((Url.join u l).toOption) else none

/-- Requests a URL and follows redirects, at most `left` of them. A request that is not answered is
blamed on the first URL. -/
def follow (net : Network) (first : Url) :
    (left : Nat) → Visits → Url → Except Failure Response × Visits
  | left, v, u =>
    match get net v u with
    | (.answered r, v) =>
      match r.target? u with
      | none => (.ok r, v)
      | some next =>
        match left with
        | 0 => (.error (.tooManyRedirects u.withoutFragment.toText), v)
        | left + 1 =>
          if isRequestable next then follow net first left v next
          else (.error (.notRequestable next.withoutFragment.toText), v)
    | (_, v) => (.error (.unsent first.toText), v)

/-! ## Texts -/

/-- The text of an answer to the request for a URL. -/
def Response.text (r : Response) (url : Text) : Except Error Text :=
  if !isSuccess r.status then .error (.status url r.status)
  else if r.broken then .error (.fetch url .brokenBody)
  else .ok (Charset.decode (r.contentType?.bind Charset.label?) r.body)

/-- Fetches the text at a URL. -/
def fetch (net : Network) (v : Visits) (url : Text) : Except Error Text × Visits :=
  match target url with
  | .error failure => (.error (.fetch url failure), v)
  | .ok u =>
    match follow net u maxRedirects v u with
    | (.error failure, v) => (.error (.fetch url failure), v)
    | (.ok r, v) => (r.text url, v)

end Roster.Http
