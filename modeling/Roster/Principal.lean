import Roster.Text.Basic

/-!
# Principals

A service principal is written as a run of letters, digits, dots and hyphens that ends with
`.amazonaws.com`, in any case. In front of it may stand one of the phrases with which the
documentation introduces it, and white space.

Several readings may be possible. The one that starts furthest left is taken; of those that start
at one place, one with a phrase before one without, then the one with the most white space, then
the one with the longest principal.

Principals that agree before their first dot name the same service; what they share is their key.
-/

namespace Roster.Principal

/-! ## Finding a principal in a text -/

/-- What every principal ends with. -/
def suffix : Text := ".amazonaws.com".toList

/-- The phrases that introduce a principal, in the order in which they are tried. -/
def phrases : List Text :=
  ["trusts the".toList, "allows the".toList, "assumes the".toList,
    "arn:aws:iam::*:role/aws-service-role/".toList]

/-- `c` is `p`, a small letter or a sign, in any case. The long s and the Kelvin sign are cases of
s and k. -/
def sameLetter (p c : Char) : Bool :=
  c.toLower = p || (p = 's' && c = 'ſ') || (p = 'k' && c = '\u212A')

/-- A character that a principal may hold. -/
def isPrincipalChar (c : Char) : Bool :=
  Text.isAsciiLetter c || Text.isDigit c || c = '.' || c = '-' || c = 'ſ' || c = '\u212A'

/-- What follows `phrase`, written in any case, in a text that starts with it. -/
def afterPhrase? : (phrase : Text) → Text → Option Text
  | [], t => some t
  | _ :: _, [] => none
  | p :: ps, c :: cs => if sameLetter p c then afterPhrase? ps cs else none

/-- The longest start of a text that is a principal: some principal characters before the last
suffix that only principal characters separate from the start. -/
def principalAt? : Text → Option Text
  | [] => none
  | c :: rest =>
    if isPrincipalChar c then
      match principalAt? rest with
      | some found => some (c :: found)
      | none =>
        if (afterPhrase? suffix rest).isSome then some (c :: rest.take suffix.length) else none
    else none

/-- A principal behind as much white space as possible. -/
def principalPastBlanks? : Text → Option Text
  | [] => none
  | c :: rest =>
    if Text.isBlank c then (principalPastBlanks? rest).or (principalAt? (c :: rest))
    else principalAt? (c :: rest)

/-- A principal at the start of a text, behind a phrase or not, and behind white space. -/
def matchAt? (t : Text) : Option Text :=
  (phrases.findSome? fun phrase => (afterPhrase? phrase t).bind principalPastBlanks?).or
    (principalPastBlanks? t)

/-- The principal that a text mentions. -/
def match? : Text → Option Text
  | [] => none
  | c :: rest => (matchAt? (c :: rest)).or (match? rest)

/-! ## Keys -/

/-- What stands in front of the first dot of a principal; all of it, if it has no dot. -/
def key (principal : Text) : Text := principal.takeWhile (· ≠ '.')

end Roster.Principal
