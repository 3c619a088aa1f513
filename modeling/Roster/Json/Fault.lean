import Roster.Json.Value
import Roster.Number.Shortest
import Roster.Text.Quoted

/-!
# Faults of JSON texts

Reading a JSON text fails with a complaint at a place. The place is told by the text that was
unread when the complaint arose and by how many bytes past its start the fault is reported; line
and column follow from the whole text.
-/

namespace Roster.Json

/-- What is wrong with a JSON text or with the value that it holds. -/
inductive Complaint where
  | endInList
  | endInObject
  | endInString
  | endInValue
  | expectedColon
  | expectedListCommaOrEnd
  | expectedObjectCommaOrEnd
  | expectedWord
  | expectedValue
  | invalidEscape
  | invalidNumber
  | numberOutOfRange
  | controlCharacter
  | keyMustBeString
  | loneSurrogate
  | missingLowSurrogate
  | trailingComma
  | trailingCharacters
  | nestedTooDeep
  | wrongType (found expected : Text)
  | wrongLength (found : Nat) (expected : Text)
  | missingField (name : Text)
  | duplicateField (name : Text)
  | unknownVariant (found first second : Text)
deriving DecidableEq

/-- A name between back quotes. -/
def ticked (name : Text) : Text := '\x60' :: name ++ ['\x60']

/-- The wording of a complaint. -/
def Complaint.message : Complaint → Text
  | .endInList => "EOF while parsing a list".toList
  | .endInObject => "EOF while parsing an object".toList
  | .endInString => "EOF while parsing a string".toList
  | .endInValue => "EOF while parsing a value".toList
  | .expectedColon => "expected ".toList ++ ticked [':']
  | .expectedListCommaOrEnd => "expected ".toList ++ ticked [','] ++ " or ".toList ++ ticked [']']
  | .expectedObjectCommaOrEnd =>
    "expected ".toList ++ ticked [','] ++ " or ".toList ++ ticked ['}']
  | .expectedWord => "expected ident".toList
  | .expectedValue => "expected value".toList
  | .invalidEscape => "invalid escape".toList
  | .invalidNumber => "invalid number".toList
  | .numberOutOfRange => "number out of range".toList
  | .controlCharacter =>
    "control character (\\u0000-\\u001F) found while parsing a string".toList
  | .keyMustBeString => "key must be a string".toList
  | .loneSurrogate => "lone leading surrogate in hex escape".toList
  | .missingLowSurrogate => "unexpected end of hex escape".toList
  | .trailingComma => "trailing comma".toList
  | .trailingCharacters => "trailing characters".toList
  | .nestedTooDeep => "recursion limit exceeded".toList
  | .wrongType found expected =>
    "invalid type: ".toList ++ found ++ ", expected ".toList ++ expected
  | .wrongLength found expected =>
    "invalid length ".toList ++ Text.ofNat found ++ ", expected ".toList ++ expected
  | .missingField name => "missing field ".toList ++ ticked name
  | .duplicateField name => "duplicate field ".toList ++ ticked name
  | .unknownVariant found first second =>
    "unknown variant ".toList ++ ticked found ++ ", expected ".toList ++ ticked first ++
      " or ".toList ++ ticked second

/-- How a complaint names a value of the wrong type. -/
def Value.described : Value → Text
  | .null => "null".toList
  | .bool true => "boolean ".toList ++ ticked "true".toList
  | .bool false => "boolean ".toList ++ ticked "false".toList
  | .number (.whole n) => "integer ".toList ++ ticked (Text.ofInt n)
  | .number (.double x) => "floating point ".toList ++ ticked x.toText
  | .text t => "string ".toList ++ Text.quoted t
  | .array _ => "sequence".toList
  | .object _ => "map".toList

/-- A complaint, the text that was unread then, and the bytes past its start at which it is
reported. -/
structure Fault where
  complaint : Complaint
  unread : Text
  past : Nat
deriving DecidableEq

/-- A line, counted from one, and the bytes in front of a place on it. -/
structure Position where
  line : Nat
  column : Nat
deriving DecidableEq, Inhabited

/-- The position behind a character. -/
def Position.after (p : Position) (c : Char) : Position :=
  if c = '\n' then ⟨p.line + 1, 0⟩ else ⟨p.line, p.column + c.utf8Size⟩

/-- The position so many bytes into a text; inside a character only its first bytes count. -/
def Position.into (p : Position) : (bytes : Nat) → Text → Position
  | _, [] => p
  | bytes, c :: rest =>
    if bytes = 0 then p
    else if c.utf8Size ≤ bytes then (p.after c).into (bytes - c.utf8Size) rest
    else ⟨p.line, p.column + bytes⟩

/-- The position of a fault in the whole text. -/
def Fault.position (document : Text) (f : Fault) : Position :=
  let consumed := document.take (document.length - f.unread.length)
  (consumed.foldl Position.after ⟨1, 0⟩).into f.past f.unread

/-- A complaint with the position where it is reported. -/
structure ReadError where
  complaint : Complaint
  position : Position
deriving DecidableEq

/-- The wording of a complaint with its position. -/
def ReadError.message (e : ReadError) : Text :=
  e.complaint.message ++ " at line ".toList ++ Text.ofNat e.position.line ++
    " column ".toList ++ Text.ofNat e.position.column

end Roster.Json
