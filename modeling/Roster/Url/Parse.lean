import Roster.Url.Basic
import Roster.Url.Host
import Roster.Url.Segments

/-!
# Reading URLs

A text is read as a URL from its scheme on, or as one that is relative to another URL. White space
around it and line breaks inside it do not count.

* `Url.parse` reads a text that stands for itself.
* `Url.join` reads a text that may be relative.
-/

namespace Roster.Url

/-! ## From the path on -/

/-- Reads a fragment with the sign in front of it. -/
def fragmentOf? : Text → Option Text
  | '#' :: t => some (encode inFragment t)
  | _ => none

/-- The URL with a query and a fragment, read from a text that starts with one or is empty. -/
def withQuery (u : Url) (t : Text) : Url :=
  match t with
  | '?' :: t =>
    let (query, rest) := t.span (· ≠ '#')
    { u with
      query? := some (encode (inQuery (isSpecial u.scheme)) query)
      fragment? := fragmentOf? rest }
  | t => { u with query? := none, fragment? := fragmentOf? t }

/-- The text of a path and what follows it. -/
def cutPath (t : Text) : Text × Text := t.span fun c => c ≠ '?' && c ≠ '#'

/-- The character stands between segments. -/
def isSlash (special : Bool) (c : Char) : Bool := c = '/' || (special && c = '\\')

/-- The text without a slash at its start. -/
def dropSlash (special : Bool) : Text → Text
  | [] => []
  | c :: rest => if isSlash special c then rest else c :: rest

/-- The URL with a text behind its path. -/
def withPath (u : Url) (path : List Text) (t : Text) : Url :=
  let (t, rest) := cutPath t
  let path := walk false path (pieces (isSpecial u.scheme) t)
  ({ u with path := .segments path } : Url).withQuery rest

/-- The URL with the path that follows an authority. -/
def withFirstPath (u : Url) (t : Text) : Url :=
  let special := isSpecial u.scheme
  if !special && (cutPath t).1.isEmpty then ({ u with path := .segments [] } : Url).withQuery t
  else u.withPath [] (dropSlash special t)

/-! ## Authorities -/

/-- The character ends an authority. -/
def endsAuthority (special : Bool) (c : Char) : Bool :=
  isSlash special c || c = '?' || c = '#'

/-- The text after the last at sign and the text before it. -/
def cutCredentials? (t : Text) : Option (Text × Text) :=
  if t.contains '@' then
    let host := (t.reverse.takeWhile (· ≠ '@')).reverse
    some (t.take (t.length - host.length - 1), host)
  else none

/-- Reads credentials. A password stands behind the first colon. -/
def readCredentials (t : Text) : Authority :=
  let (user, rest) := t.span (· ≠ ':')
  { user := encode inUserInfo user, password := encode inUserInfo (rest.drop 1) }

/-- Cuts a host from its port; a colon between brackets belongs to the host. -/
def cutHost (inside : Bool) : Text → Text × Text
  | [] => ([], [])
  | c :: rest =>
    if c = ':' && !inside then ([], c :: rest)
    else
      let (host, rest) := cutHost (c = '[' || (inside && c ≠ ']')) rest
      (c :: host, rest)

/-- The largest number of a port. -/
def maxPort : Nat := 65535

/-- Reads a port with the colon in front of it; the usual one of the scheme is left out. -/
def readPort (scheme t : Text) : Except Fault (Option Nat) :=
  match t with
  | ':' :: digits =>
    let port := Text.natOfDigits digits
    if !digits.all Text.isDigit || maxPort < port then .error .badPort
    else if digits.isEmpty || ports.lookup scheme = some port then .ok none
    else .ok (some port)
  | _ => .ok none

/-- Reads the host and port behind credentials. Answers also what is left: behind a port a
backslash starts the path even if the scheme is not special. -/
def readHost (scheme : Text) (a : Authority) (t : Text) : Except Fault (Authority × Text) := do
  let special := isSpecial scheme
  let (host, rest) := cutHost false t
  let (port, rest) := rest.span (· ≠ '\\')
  if host.isEmpty && (special || !port.isEmpty) then .error .emptyHost
  else
    let host ← Host.parse special host
    let port? ← readPort scheme port
    if host.isEmpty && !a.credentials.isEmpty then .error .emptyHost
    else .ok ({ a with host, port? }, rest)

/-- Reads a URL from its authority on. -/
def readAuthority (scheme t : Text) : Except Fault Url := do
  let (t, rest) := t.span fun c => !endsAuthority (isSpecial scheme) c
  let (a, left) ← match cutCredentials? t with
    | none => readHost scheme {} t
    | some ([], []) => if rest.isEmpty then readHost scheme {} [] else .error .emptyHost
    | some (credentials, t) => readHost scheme (readCredentials credentials) t
  .ok (({ scheme, authority? := some a, path := .segments [] } : Url).withFirstPath (left ++ rest))

/-! ## Local files -/

/-- The text starts with a segment that names a drive. -/
def startsWithDrive (t : Text) : Bool :=
  isDrive (t.takeWhile fun c => !endsAuthority true c)

/-- The URL of a local file. A drive takes the place of its host. -/
def ofFile (host : Text) (path segments : List Text) (rest : Text) : Url :=
  let path := walk true path segments
  let host := if path.head?.any isUsualDrive then [] else host
  ({ scheme := fileScheme, authority? := some { host }, path := .segments (dropEmpty path) } :
    Url).withQuery rest

/-- The host of the local machine, which is not written. -/
def localHost : Text := "localhost".toList

/-- Reads the URL of a local file from its host on. -/
def readFileHost (t : Text) : Except Fault Url := do
  let (host, rest) := t.span fun c => !endsAuthority true c
  let (path, query) := cutPath rest
  if isDrive host then .ok (ofFile [] [] (pieces true (cutPath t).1) (cutPath t).2)
  else if host.isEmpty then .ok (ofFile [] [] (pieces true path) query)
  else
    let host ← Host.parse true host
    if host = localHost then .ok (ofFile [] [] (pieces true path) query)
    else .ok (ofFile host [] (pieces true (dropSlash true path)) query)

/-- Reads the URL of a local file behind its scheme, or relative to another one. -/
def readFile (base? : Option Url) (t : Text) : Except Fault Url :=
  let (path, query) := cutPath t
  match t.span (isSlash true) with
  | (_ :: _ :: _, _) => readFileHost (t.drop 2)
  | ([_], rest) =>
    let path := pieces true (path.drop 1)
    match base? with
    | none => .ok (ofFile [] [] path query)
    | some base =>
      if startsWithDrive rest then .ok (ofFile [] [] path query)
      else if base.segments.head?.any isUsualDrive then
        .ok (ofFile [] (base.segments.take 1) path query)
      else .ok (ofFile (base.host?.getD []) [] path query)
  | ([], _) =>
    match base?, t with
    | none, _ => .ok (ofFile [] [] (pieces true path) query)
    | some base, [] => .ok base.withoutFragment
    | some base, '?' :: _ => .ok (base.withoutQuery.withQuery t)
    | some base, '#' :: _ => .ok { base with fragment? := fragmentOf? t }
    | some base, _ =>
      if startsWithDrive t then .ok (ofFile [] [] (pieces true path) query)
      else .ok (ofFile (base.host?.getD []) (stepBack base.segments) (pieces true path) query)

/-! ## Relative texts -/

/-- Reads a text that is relative to a URL with segments that is no local file. -/
def readRelative (base : Url) (t : Text) : Except Fault Url :=
  match t.span (isSlash true) with
  | (_ :: _ :: _, rest) =>
    readAuthority base.scheme ((Text.after? ['/', '/'] t).getD rest)
  | ([_], _) => .ok (base.withPath [] (t.drop 1))
  | ([], _) =>
    match t with
    | [] => .ok base.withoutFragment
    | '?' :: _ => .ok (base.withoutQuery.withQuery t)
    | '#' :: _ => .ok { base with fragment? := fragmentOf? t }
    | _ => .ok (base.withPath base.segments.dropLast t)

/-! ## Whole texts -/

/-- A character that a scheme may hold behind its first letter. -/
def inScheme (c : Char) : Bool :=
  Text.isAsciiLetter c || Text.isDigit c || c = '+' || c = '-' || c = '.'

/-- The scheme of a text in lower case and what follows its colon. -/
def cutScheme? (t : Text) : Option (Text × Text) :=
  match t.span inScheme with
  | (c :: scheme, ':' :: rest) =>
    if Text.isAsciiLetter c then some (Text.asciiLower (c :: scheme), rest) else none
  | _ => none

/-- Reads a text behind a scheme that is not special. -/
def readOther (scheme t : Text) : Except Fault Url :=
  match t with
  | '/' :: '/' :: t => readAuthority scheme t
  | '/' :: t => .ok (({ scheme, path := .segments [] } : Url).withPath [] t)
  | t =>
    let (t, rest) := cutPath t
    .ok (({ scheme, path := .plain (encode isControl t) } : Url).withQuery rest)

/-- The text as it counts: without blanks at its ends, line breaks and tabs. -/
def trimmed (t : Text) : Text :=
  let isPadding (c : Char) : Bool := c.toNat ≤ 0x20
  (Text.dropEndWhile isPadding (t.dropWhile isPadding)).filter fun c =>
    c ≠ '\t' && c ≠ '\n' && c ≠ '\r'

/-- Reads a text behind a special scheme, which may be left out next to a URL that has it. -/
def readSpecial (base? : Option Url) (scheme t : Text) : Except Fault Url :=
  let (slashes, rest) := t.span (isSlash true)
  match base? with
  | some base =>
    if base.scheme = scheme && slashes.length < 2 then readRelative base t
    else readAuthority scheme rest
  | none => readAuthority scheme rest

/-- Reads a text without a scheme. -/
def readWithoutScheme (base : Url) (t : Text) : Except Fault Url :=
  if t.head? = some '#' then .ok { base with fragment? := fragmentOf? t }
  else
    match base.path with
    | .plain _ => .error .relativeToOpaque
    | .segments _ =>
      if base.scheme = fileScheme then readFile (some base) t else readRelative base t

/-- Reads a text that may be relative to another URL. -/
def resolve (base? : Option Url) (t : Text) : Except Fault Url :=
  let t := trimmed t
  match cutScheme? t with
  | some (scheme, t) =>
    if scheme = fileScheme then readFile (base?.filter (·.scheme = fileScheme)) t
    else if isSpecial scheme then readSpecial base? scheme t
    else readOther scheme t
  | none =>
    match base? with
    | some base => readWithoutScheme base t
    | none => .error .relativeWithoutBase

/-- The URL that a text is. -/
def parse (t : Text) : Except Fault Url := resolve none t

/-- The URL that a text is when it stands on the page of another one. -/
def join (base : Url) (t : Text) : Except Fault Url := resolve (some base) t

end Roster.Url
