import Roster.Json.Token

/-!
# Skipping JSON values

Values that nobody asked for are passed over. Their nesting is not limited, their numbers may be of
any size and their surrogates need not be paired, but they have to be well formed otherwise.
-/

namespace Roster.Json

/-- Passes over a string literal behind its opening quote; each round passes one character. -/
def skipCharacters : (clock : Text) → Text → Except Fault Text
  | [], t => fail .endInString t 0
  | _ :: clock, t =>
    match t with
    | [] => fail .endInString [] 0
    | '"' :: rest => .ok rest
    | '\\' :: [] => fail .endInString [] 0
    | '\\' :: 'u' :: rest => do
      let (_, rest) ← readUnit rest
      skipCharacters clock rest
    | '\\' :: c :: rest =>
      if (shortEscape? c).isSome then skipCharacters clock rest
      else fail .invalidEscape (c :: rest) 1
    | c :: rest =>
      if c.toNat < 0x20 then fail .controlCharacter t 0 else skipCharacters clock rest

/-- Passes over a string literal behind its opening quote. -/
def skipString (t : Text) : Except Fault Text := skipCharacters ('"' :: t) t

/-- Passes over an exponent behind its `e`. -/
def skipExponent (t : Text) : Except Fault Text :=
  match (exponentSign t).2 with
  | c :: rest =>
    if Text.isDigit c then .ok (rest.dropWhile Text.isDigit) else fail .invalidNumber (c :: rest) 1
  | [] => fail .invalidNumber [] 1

/-- Passes over an exponent, if there is one. -/
def skipScale (t : Text) : Except Fault Text :=
  match t with
  | 'e' :: rest => skipExponent rest
  | 'E' :: rest => skipExponent rest
  | _ => .ok t

/-- Passes over a fraction behind its point, and an exponent, if there is one. -/
def skipFraction (t : Text) : Except Fault Text :=
  match t with
  | d :: more =>
    if Text.isDigit d then skipScale (more.dropWhile Text.isDigit) else fail .invalidNumber t 1
  | [] => fail .invalidNumber t 1

/-- Passes over a number behind its minus sign, if it has one. -/
def skipNumber (t : Text) : Except Fault Text :=
  match t with
  | [] => fail .invalidNumber t 1
  | c :: after =>
    if !Text.isDigit c then fail .invalidNumber t 1
    else if c = '0' && (after.head?.map Text.isDigit).getD false then fail .invalidNumber after 1
    else
      match t.dropWhile Text.isDigit with
      | '.' :: rest => skipFraction rest
      | rest => skipScale rest

/-- Passes over a value that is neither an array nor an object. -/
def skipScalar (t : Text) : Except Fault Text :=
  match t with
  | 'n' :: rest => (readWord "ull".toList rest).map (·.2)
  | 't' :: rest => (readWord "rue".toList rest).map (·.2)
  | 'f' :: rest => (readWord "alse".toList rest).map (·.2)
  | '"' :: rest => skipString rest
  | '-' :: rest => skipNumber rest
  | c :: _ => if Text.isDigit c then skipNumber t else fail .expectedValue t 1
  | [] => fail .endInValue t 1

/-- An array or an object that has been opened. -/
inductive Frame where
  | list
  | object
deriving DecidableEq

/-- Where skipping stands: in front of a value, behind one, or behind an opening bracket. -/
inductive Place where
  | value
  | behindValue
  | behindOpening
deriving DecidableEq

/-- Passes over the key of a member and its colon. -/
def skipKey (t : Text) : Except Fault Text :=
  match skipSpace t with
  | '"' :: rest => do
    let rest ← skipString rest
    match skipSpace rest with
    | ':' :: rest => .ok rest
    | [] => fail .endInObject [] 0
    | rest => fail .expectedColon rest 1
  | [] => fail .endInObject [] 0
  | rest => fail .keyMustBeString rest 1

/-- Passes over the key in front of the next value in an object; an array has none. -/
def Frame.toValue : Frame → Text → Except Fault Text
  | .list, t => .ok t
  | .object, t => skipKey t

/-- Passes over the rest of a value inside the frames that are open. Every round passes a
character at least. -/
def skipOpen : (rounds : Nat) → Place → List Frame → Text → Except Fault Text
  | 0, _, _, t => fail .endInValue t 0
  | rounds + 1, .value, frames, t =>
    match skipSpace t with
    | [] => fail .endInValue [] 0
    | '[' :: rest => skipOpen rounds .behindOpening (.list :: frames) rest
    | '{' :: rest => skipOpen rounds .behindOpening (.object :: frames) rest
    | t => do
      let rest ← skipScalar t
      match frames with
      | [] => .ok rest
      | _ => skipOpen rounds .behindValue frames rest
  | _ + 1, _, [], t => .ok t
  | rounds + 1, place, frame :: outer, t =>
    let close := match frame with
      | .list => ']'
      | .object => '}'
    match skipSpace t with
    | [] => fail (match frame with
        | .list => .endInList
        | .object => .endInObject) [] 0
    | c :: rest =>
      if c = ',' && place = .behindValue then do
        let rest ← frame.toValue rest
        skipOpen rounds .value (frame :: outer) rest
      else if c = close then
        match outer with
        | [] => .ok rest
        | _ => skipOpen rounds .behindValue outer rest
      else if place = .behindValue then
        fail (match frame with
          | .list => .expectedListCommaOrEnd
          | .object => .expectedObjectCommaOrEnd) (c :: rest) 1
      else do
        let rest ← frame.toValue (c :: rest)
        skipOpen rounds .value (frame :: outer) rest

/-- Passes over one value. -/
def skipValue (t : Text) : Except Fault Text := skipOpen (2 * t.length + 2) .value [] t

end Roster.Json
