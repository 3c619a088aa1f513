import Roster.Text.Utf8
import Roster.Url.Basic
import Roster.Url.Domain
import Roster.Url.Percent

/-!
# Hosts

The host of a URL is an address or a name. Addresses are written as numbers: four bytes with dots
between them, in several notations, or eight groups with colons between them. Under a special scheme
a name is a domain name; under any other scheme it is plain text without a few characters.

* `Ipv4.parse` and `Ipv4.toText`
* `Ipv6.parse` and `Ipv6.toText`
* `Host.parse` gives the written form of a host.
-/

namespace Roster.Url

/-! ## Addresses -/

namespace Ipv4

/-- Reads a number in decimal, in octal behind a zero, or in hexadecimal behind a zero and an x. -/
def number? (t : Text) : Option Nat :=
  let ofDigits := fun (base : Nat) (digits : Text) =>
    if digits.all fun c => (Text.hexValue? c).any (· < base) then
      some (digits.foldl (fun n c => base * n + (Text.hexValue? c).getD 0) 0)
    else none
  match t with
  | [] => none
  | '0' :: 'x' :: digits => ofDigits 16 digits
  | '0' :: 'X' :: digits => ofDigits 16 digits
  | '0' :: d :: digits => ofDigits 8 (d :: digits)
  | digits => ofDigits 10 digits

/-- The parts of a host between its dots; a dot at the end does not count. -/
def parts (host : Text) : List Text :=
  let parts := Text.splitOn '.' host
  if parts.getLast? = some [] && 1 < parts.length then parts.dropLast else parts

/-- A host whose last part is a number has to be an address. -/
def isMeant (host : Text) : Bool :=
  match (parts host).getLast? with
  | some part => (!part.isEmpty && part.all Text.isDigit) || (number? part).isSome
  | none => false

/-- The value of an address: the last of its numbers fills all bytes that are left. -/
def parse (host : Text) : Except Fault Nat :=
  match (parts host).mapM number? with
  | none => .error .badIpv4
  | some numbers =>
    let leading := numbers.dropLast
    let last := numbers.getLast?.getD 0
    let room := Nat.pow 256 (4 - leading.length)
    if 4 < numbers.length || leading.any (255 < ·) || room ≤ last then .error .badIpv4
    else .ok (leading.foldl (fun value n => 256 * value + n) 0 * room + last)

/-- Four bytes with dots between them. -/
def toText (address : Nat) : Text :=
  Text.joinWith ['.'] ([16777216, 65536, 256, 1].map fun unit => Text.ofNat (address / unit % 256))

end Ipv4

namespace Ipv6

/-- Reads a group of one to four hexadecimal digits. -/
def group? (t : Text) : Option Nat :=
  if t.isEmpty || 4 < t.length || !t.all Text.isHexDigit then none
  else some (Text.natOfHexDigits t)

/-- Reads a byte in decimal, without a zero in front. -/
def byte? (t : Text) : Option Nat :=
  if t.isEmpty || !t.all Text.isDigit || (1 < t.length && t.head? = some '0') then none
  else
    let n := Text.natOfDigits t
    if n < 256 then some n else none

/-- Reads four bytes with dots between them as two groups. -/
def dotted? (t : Text) : Option (List Nat) :=
  match (Text.splitOn '.' t).mapM byte? with
  | some [a, b, c, d] => some [256 * a + b, 256 * c + d]
  | _ => none

/-- Reads groups with colons between them; four bytes with dots may stand at the end. -/
def groups? (dots : Bool) (t : Text) : Option (List Nat) :=
  if t.isEmpty then some []
  else
    let parts := Text.splitOn ':' t
    match parts.getLast? with
    | some last =>
      if dots && last.contains '.' then do
        let groups ← parts.dropLast.mapM group?
        let ending ← dotted? last
        some (groups ++ ending)
      else parts.mapM group?
    | none => none

/-- The eight groups of an address. Two colons stand for one or more groups that are zero. -/
def parse (t : Text) : Except Fault (List Nat) :=
  let groups := match Text.cutAt? [':', ':'] t with
    | none => (groups? true t).filter (·.length = 8)
    | some (before, after) => do
      let front ← groups? false before
      let back ← groups? true after
      if 7 < front.length + back.length then none
      else some (front ++ List.replicate (8 - front.length - back.length) 0 ++ back)
  match groups with
  | some groups => .ok groups
  | none => .error .badIpv6

/-- The number of zeros at the start of groups. -/
def zeros (groups : List Nat) : Nat := (groups.takeWhile (· = 0)).length

/-- The place and length of the first longest run of zeros, looked for from a place on. -/
def longestZeros : (place : Nat) → List Nat → Nat × Nat
  | place, [] => (place, 0)
  | place, g :: rest =>
    let here := zeros (g :: rest)
    let (at', length) := longestZeros (place + 1) rest
    if length ≤ here then (place, here) else (at', length)

/-- Groups with colons between them. -/
def joinGroups (groups : List Nat) : Text :=
  Text.joinWith [':'] (groups.map fun g => Nat.toDigits 16 g)

/-- The groups in hexadecimal; the first longest run of at least two zeros is left out. -/
def toText (groups : List Nat) : Text :=
  let (place, length) := longestZeros 0 groups
  if length < 2 then joinGroups groups
  else joinGroups (groups.take place) ++ [':', ':'] ++ joinGroups (groups.drop (place + length))

end Ipv6

/-! ## Hosts -/

namespace Host

/-- The address between two brackets. -/
def bracketed? (t : Text) : Option (Except Fault Text) :=
  match t with
  | '[' :: inner =>
    some (if inner.getLast? = some ']' then
      (Ipv6.parse inner.dropLast).map fun groups => '[' :: Ipv6.toText groups ++ [']']
    else .error .badIpv6)
  | _ => none

/-- The host of a special scheme: a domain name or an address. -/
def ofDomain (t : Text) : Except Fault Text :=
  match Text.ofUtf8? (decodeBytes t) with
  | none => .error .badDomain
  | some name => do
    let host ← Domain.toAscii name
    if host.isEmpty then .error .emptyHost
    else if Ipv4.isMeant host then (Ipv4.parse host).map Ipv4.toText
    else .ok host

/-- Characters that no host of another scheme may hold. -/
def isForbidden (c : Char) : Bool :=
  ['\x00', '\t', '\n', '\r', ' ', '#', '/', ':', '<', '>', '?', '@', '[', '\\', ']', '^',
    '|'].contains c

/-- The host of a scheme that is not special. -/
def ofOther (t : Text) : Except Fault Text :=
  if t.any isForbidden then .error .badHostCharacter else .ok (encode isControl t)

/-- The written form of a host. -/
def parse (special : Bool) (t : Text) : Except Fault Text :=
  match bracketed? t with
  | some host => host
  | none => if special then ofDomain t else ofOther t

end Host

end Roster.Url
