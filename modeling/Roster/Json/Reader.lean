import Roster.Json.Token

/-!
# Reading JSON values

Any JSON value is read from a text. Arrays and objects may be nested 127 deep; the members of an
object are sorted by key and the last of equal keys counts.

Arrays and objects are read step by step: `nextItem?` and `nextKey?` say whether another item or
member follows. Readers of records are built from the same steps.
-/

namespace Roster.Json

/-- How deep arrays and objects may be nested in a text. -/
def maxNesting : Nat := 127

/-! ## Steps through arrays and objects -/

/-- Inside an array, behind its bracket or behind an item: the start of the next item, or nothing
in front of the closing bracket. -/
def nextItem? (first : Bool) (t : Text) : Except Fault (Option Text) :=
  match skipSpace t with
  | [] => fail .endInList [] 0
  | ']' :: _ => .ok none
  | ',' :: rest =>
    if first then .ok (some (skipSpace t))
    else
      match skipSpace rest with
      | ']' :: after => fail .trailingComma (']' :: after) 1
      | [] => fail .endInValue [] 0
      | rest => .ok (some rest)
  | rest => if first then .ok (some rest) else fail .expectedListCommaOrEnd rest 1

/-- Inside an object, behind its brace or behind a member: the next key and the text behind it, or
nothing in front of the closing brace. -/
def nextKey? (first : Bool) (t : Text) : Except Fault (Option (Text × Text)) :=
  match skipSpace t with
  | [] => fail .endInObject [] 0
  | '}' :: _ => .ok none
  | ',' :: rest =>
    if first then fail .keyMustBeString (skipSpace t) 1
    else
      match skipSpace rest with
      | '"' :: rest => (readString rest).map some
      | '}' :: after => fail .trailingComma ('}' :: after) 1
      | [] => fail .endInValue [] 0
      | rest => fail .keyMustBeString rest 1
  | '"' :: rest =>
    if first then (readString rest).map some
    else fail .expectedObjectCommaOrEnd (skipSpace t) 1
  | rest => if first then fail .keyMustBeString rest 1 else fail .expectedObjectCommaOrEnd rest 1

/-- Passes the colon behind a key. -/
def passColon (t : Text) : Except Fault Text :=
  match skipSpace t with
  | ':' :: rest => .ok rest
  | [] => fail .endInObject [] 0
  | rest => fail .expectedColon rest 1

/-- The text behind the next character, if that is the bracket that closes. -/
def behind (bracket : Char) (t : Text) : Text :=
  match skipSpace t with
  | c :: rest => if c = bracket then rest else c :: rest
  | [] => []

/-- Reads the items of an array behind its bracket, each with `item`, and passes the closing
bracket. Every round reads an item. -/
def readItems {α : Type} (item : Reader α) :
    (clock : Text) → (first : Bool) → Text → Except Fault (List α × Text)
  | [], _, t => fail .endInList t 0
  | _ :: clock, first, t => do
    match ← nextItem? first t with
    | none => .ok ([], behind ']' t)
    | some start =>
      let (x, rest) ← item start
      let (xs, rest) ← readItems item clock false rest
      .ok (x :: xs, rest)

/-- Reads the members of an object behind its brace: `member` takes a key, what has been gathered
so far and the text behind the key. The closing brace is passed. Every round reads a member. -/
def readMembers {σ : Type} (member : Text → σ → Reader σ) :
    (clock : Text) → (first : Bool) → σ → Text → Except Fault (σ × Text)
  | [], _, _, t => fail .endInObject t 0
  | _ :: clock, first, gathered, t => do
    match ← nextKey? first t with
    | none => .ok (gathered, behind '}' t)
    | some (key, rest) =>
      let (gathered, rest) ← member key gathered rest
      readMembers member clock false gathered rest

/-! ## Values -/

/-- Reads a member of an object: its value is placed under its key. -/
def readEntry {α : Type} (value : Reader α) (key : Text) (members : List (Text × α))
    (t : Text) : Except Fault (List (Text × α) × Text) := do
  let rest ← passColon t
  let (v, rest) ← value rest
  .ok (Index.place key v members, rest)

/-- Reads a value in which so many arrays and objects may be nested. -/
def readValue : (nesting : Nat) → Text → Except Fault (Value × Text)
  | nesting, t =>
    match skipSpace t with
    | [] => fail .endInValue [] 0
    | '[' :: rest =>
      match nesting with
      | 0 => fail .nestedTooDeep ('[' :: rest) 1
      | nesting + 1 => do
        let (items, rest) ← readItems (readValue nesting) ('[' :: rest) true rest
        .ok (.array items, rest)
    | '{' :: rest =>
      match nesting with
      | 0 => fail .nestedTooDeep ('{' :: rest) 1
      | nesting + 1 => do
        let (members, rest) ←
          readMembers (readEntry (readValue nesting)) ('{' :: rest) true [] rest
        .ok (.object members, rest)
    | t => readScalar t

/-- Nothing but white space may follow the value of a document. -/
def finish {α : Type} (outcome : Except Fault (α × Text)) : Except Fault α := do
  let (value, rest) ← outcome
  match skipSpace rest with
  | [] => .ok value
  | rest => fail .trailingCharacters rest 1

/-- Reads a whole document with a reader of its value. -/
def readDocument {α : Type} (value : Reader α) (document : Text) : Except ReadError α :=
  match finish (value document) with
  | .ok v => .ok v
  | .error f => .error ⟨f.complaint, f.position document⟩

/-- The value that a text holds. -/
def parse (document : Text) : Except ReadError Value := readDocument (readValue maxNesting) document

end Roster.Json
