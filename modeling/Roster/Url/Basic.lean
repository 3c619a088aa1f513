import Roster.Text.Basic

/-!
# URLs

A URL is held in parts that are written already as they stand in its text, so writing it only puts
them together.

* `Url.toText` is the text of a URL.
* `Url.isSpecial` tells the schemes whose URLs always have a host and a path.
* `Url.Fault` tells why a text is not a URL.
-/

namespace Roster

/-- Whom a URL addresses: a host, with credentials in front of it and a port behind it. -/
structure Url.Authority where
  user : Text := []
  password : Text := []
  host : Text := []
  port? : Option Nat := none
deriving DecidableEq, Inhabited

/-- The path of a URL: segments behind slashes, or plain text to which nothing can be joined. -/
inductive Url.Trail where
  | segments (l : List Text)
  | plain (t : Text)
deriving DecidableEq, Inhabited

/-- A URL in its parts. -/
structure Url where
  scheme : Text
  authority? : Option Url.Authority := none
  path : Url.Trail
  query? : Option Text := none
  fragment? : Option Text := none
deriving DecidableEq, Inhabited

namespace Url

/-! ## Schemes -/

/-- The schemes of network protocols with the ports that need not be written. -/
def ports : List (Text × Nat) :=
  [("http".toList, 80), ("https".toList, 443), ("ws".toList, 80), ("wss".toList, 443),
    ("ftp".toList, 21)]

/-- The scheme of local files. -/
def fileScheme : Text := "file".toList

/-- A scheme whose URLs have a host and a path and may be written with backslashes. -/
def isSpecial (scheme : Text) : Bool := scheme = fileScheme || (ports.lookup scheme).isSome

/-! ## Text -/

/-- The text of the credentials, with the sign that ends them. -/
def Authority.credentials (a : Authority) : Text :=
  if a.user.isEmpty && a.password.isEmpty then []
  else a.user ++ (if a.password.isEmpty then [] else ':' :: a.password) ++ ['@']

/-- The text of an authority. -/
def Authority.toText (a : Authority) : Text :=
  a.credentials ++ a.host ++ (a.port?.map fun p => ':' :: Text.ofNat p).getD []

/-- The text of a path. -/
def Trail.toText : Trail → Text
  | .segments l => l.flatMap ('/' :: ·)
  | .plain t => t

/-- What stands between the scheme and the path. Without an authority a path that starts with two
slashes is kept apart from the scheme by a dot. -/
def front (u : Url) : Text :=
  match u.authority?, u.path with
  | some a, _ => ['/', '/'] ++ a.toText
  | none, .segments ([] :: _ :: _) => ['/', '.']
  | none, _ => []

/-- The text of a URL. -/
def toText (u : Url) : Text :=
  u.scheme ++ ':' :: u.front ++ u.path.toText ++ (u.query?.map ('?' :: ·)).getD [] ++
    (u.fragment?.map ('#' :: ·)).getD []

/-! ## Parts -/

/-- The segments of the path; plain text has none. -/
def segments (u : Url) : List Text :=
  match u.path with
  | .segments l => l
  | .plain _ => []

/-- The host, if there is one. -/
def host? (u : Url) : Option Text := (u.authority?.map (·.host)).filter (!·.isEmpty)

/-- The URL without its fragment. -/
def withoutFragment (u : Url) : Url := { u with fragment? := none }

/-- The URL without its query and fragment. -/
def withoutQuery (u : Url) : Url := { u with query? := none, fragment? := none }

/-- The URL without its credentials. -/
def withoutCredentials (u : Url) : Url :=
  { u with authority? := u.authority?.map fun a => { a with user := [], password := [] } }

/-! ## Faults -/

/-- Why a text is not a URL, or cannot be joined to one. -/
inductive Fault where
  | emptyHost
  | badDomain
  | badPort
  | badIpv4
  | badIpv6
  | badHostCharacter
  | relativeWithoutBase
  | relativeToOpaque
deriving DecidableEq, Inhabited

/-- The wording of a fault. -/
def Fault.message : Fault → Text
  | .emptyHost => "empty host".toList
  | .badDomain => "invalid international domain name".toList
  | .badPort => "invalid port number".toList
  | .badIpv4 => "invalid IPv4 address".toList
  | .badIpv6 => "invalid IPv6 address".toList
  | .badHostCharacter => "invalid domain character".toList
  | .relativeWithoutBase => "relative URL without a base".toList
  | .relativeToOpaque => "relative URL with a cannot-be-a-base base".toList

/-- The name of a fault in diagnostics. -/
def Fault.name : Fault → Text
  | .emptyHost => "EmptyHost".toList
  | .badDomain => "IdnaError".toList
  | .badPort => "InvalidPort".toList
  | .badIpv4 => "InvalidIpv4Address".toList
  | .badIpv6 => "InvalidIpv6Address".toList
  | .badHostCharacter => "InvalidDomainCharacter".toList
  | .relativeWithoutBase => "RelativeUrlWithoutBase".toList
  | .relativeToOpaque => "RelativeUrlWithCannotBeABaseBase".toList

end Url

end Roster
