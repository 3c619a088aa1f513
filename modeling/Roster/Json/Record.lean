import Roster.Json.Reader
import Roster.Json.Skip

/-!
# Reading typed JSON values

Where a certain type of value is expected, anything else is a complaint that names what was found
and what was expected. A record is written as an object, whose unknown members are passed over, or
as an array of its fields in their order.
-/

namespace Roster.Json

/-- The complaint about a value that is not `expected`. Arrays and objects are not entered. -/
def failType {α : Type} (expected : Text) (t : Text) : Except Fault α :=
  match t with
  | '[' :: _ => fail (.wrongType (Value.array []).described expected) t 0
  | '{' :: _ => fail (.wrongType (Value.object []).described expected) t 0
  | _ => do
    let (v, rest) ← readScalar t
    fail (.wrongType v.described expected) rest 0

/-- Reads a string where `expected` is asked for. -/
def readText (expected : Text) (t : Text) : Except Fault (Text × Text) :=
  match skipSpace t with
  | [] => fail .endInValue [] 0
  | '"' :: rest => readString rest
  | t => failType expected t

/-- Reads an array of values. -/
def readList {α : Type} (item : Reader α) (t : Text) : Except Fault (List α × Text) :=
  match skipSpace t with
  | [] => fail .endInValue [] 0
  | '[' :: rest => readItems item ('[' :: rest) true rest
  | t => failType "a sequence".toList t

/-- Reads an object whose values are all of one type. -/
def readIndex {α : Type} (value : Reader α) (t : Text) :
    Except Fault (List (Text × α) × Text) :=
  match skipSpace t with
  | [] => fail .endInValue [] 0
  | '{' :: rest => readMembers (readEntry value) ('{' :: rest) true [] rest
  | t => failType "a map".toList t

/-- Reads nothing: only `null` is accepted. -/
def readUnitValue (t : Text) : Except Fault (Unit × Text) :=
  match skipSpace t with
  | [] => fail .endInValue [] 0
  | 'n' :: rest => readWord "ull".toList rest
  | t => failType "unit".toList t

/-- One of two names, which stand for two values. -/
def readVariantName {α : Type} (first second : Text × α) (t : Text) :
    Except Fault (α × Text) := do
  let (name, rest) ← readText "variant identifier".toList t
  if name = first.1 then .ok (first.2, rest)
  else if name = second.1 then .ok (second.2, rest)
  else fail (.unknownVariant name first.1 second.1) rest 0

/-- Reads one of two values that are written as their name, or as an object with their name as the
only key and nothing under it. -/
def readVariant {α : Type} (first second : Text × α) (t : Text) : Except Fault (α × Text) :=
  match skipSpace t with
  | [] => fail .endInValue [] 0
  | '"' :: rest => readVariantName first second ('"' :: rest)
  | '{' :: rest => do
    let (v, rest) ← readVariantName first second rest
    let rest ← passColon rest
    let (_, rest) ← readUnitValue rest
    match skipSpace rest with
    | '}' :: rest => .ok (v, rest)
    | [] => fail .endInObject [] 0
    | rest => fail .expectedValue rest 0
  | t => fail .expectedValue t 1

/-! ## Records -/

/-- Passes the bracket behind the last field of a record that is written as an array. -/
def closeFields (t : Text) : Except Fault Text :=
  match skipSpace t with
  | ']' :: rest => .ok rest
  | [] => fail .endInList [] 0
  | ',' :: rest =>
    match skipSpace rest with
    | ']' :: after => fail .trailingComma (']' :: after) 1
    | rest => fail .trailingCharacters rest 1
  | rest => fail .trailingCharacters rest 1

/-- The complaint about an array that ends before its field number `found`. -/
def failLength {α : Type} (found : Nat) (expected t : Text) : Except Fault α :=
  fail (.wrongLength found expected) (behind ']' t) 0

/-- Reads field number `found` of a record that is written as an array. -/
def readField {α : Type} (found : Nat) (expected : Text) (value : Reader α) (t : Text) :
    Except Fault (α × Text) := do
  match ← nextItem? (found = 0) t with
  | some start => value start
  | none => failLength found expected t

/-- Reads the value of a field that is written as a member and may not be given twice. -/
def readOnce {α : Type} (name : Text) (given : Option α) (value : Reader α) (t : Text) :
    Except Fault (Option α × Text) := do
  match given with
  | some _ => fail (.duplicateField name) (behind '}' t) 0
  | none =>
    let rest ← passColon t
    let (v, rest) ← value rest
    .ok (some v, rest)

/-- Passes over the value of an unknown member. -/
def passUnknown {σ : Type} (gathered : σ) (t : Text) : Except Fault (σ × Text) := do
  let rest ← passColon t
  let rest ← skipValue rest
  .ok (gathered, rest)

/-- The value of a field, which may not be missing; `rest` is the text behind the record. -/
def require {α : Type} (name : Text) (rest : Text) : Option α → Except Fault α
  | some v => .ok v
  | none => fail (.missingField name) rest 0

end Roster.Json
