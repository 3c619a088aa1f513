import Roster.Text.Basic

/-!
# UTF-8

The bytes of texts, and the texts of bytes. Bytes are numbers below 256.

* `utf8` gives the bytes of a text.
* `ofUtf8` reads bytes as a text and puts a replacement character for every faulty sequence.
* `ofUtf8?` reads bytes only if none of them is faulty.
-/

namespace Roster.Text

/-! ## Writing -/

/-- The bytes of a character. -/
def utf8Char (c : Char) : List Nat :=
  let n := c.toNat
  if n < 0x80 then [n]
  else if n < 0x800 then [0xC0 + n / 64, 0x80 + n % 64]
  else if n < 0x10000 then [0xE0 + n / 4096, 0x80 + n / 64 % 64, 0x80 + n % 64]
  else [0xF0 + n / 262144, 0x80 + n / 4096 % 64, 0x80 + n / 64 % 64, 0x80 + n % 64]

/-- The bytes of a text. -/
def utf8 (t : Text) : List Nat := t.flatMap utf8Char

/-! ## Reading -/

/-- A byte that goes on with a character. -/
def isContinuation (b : Nat) : Bool := 0x80 ≤ b && b < 0xC0

/-- A second byte that may follow a first one. -/
def mayFollow (first second : Nat) : Bool :=
  if first = 0xE0 then 0xA0 ≤ second && second < 0xC0
  else if first = 0xED then 0x80 ≤ second && second < 0xA0
  else if first = 0xF0 then 0x90 ≤ second && second < 0xC0
  else if first = 0xF4 then 0x80 ≤ second && second < 0x90
  else isContinuation second

/-- How many bytes a character has whose first byte this is; zero for a byte that starts none. -/
def sequenceLength (first : Nat) : Nat :=
  if first < 0x80 then 1
  else if 0xC2 ≤ first && first < 0xE0 then 2
  else if 0xE0 ≤ first && first < 0xF0 then 3
  else if 0xF0 ≤ first && first < 0xF5 then 4
  else 0

/-- Reads the character at the start of bytes that are not empty; a faulty sequence gives none.
Answers also how many bytes it takes. -/
def readChar (first : Nat) (rest : List Nat) : Option Char × Nat :=
  match sequenceLength first, rest with
  | 1, _ => (some (Char.ofNat first), 1)
  | 2, b :: _ =>
    if isContinuation b then (some (Char.ofNat (64 * (first - 0xC0) + (b - 0x80))), 2)
    else (none, 1)
  | 3, b :: rest =>
    if !mayFollow first b then (none, 1)
    else
      match rest with
      | c :: _ =>
        if isContinuation c then
          (some (Char.ofNat (4096 * (first - 0xE0) + 64 * (b - 0x80) + (c - 0x80))), 3)
        else (none, 2)
      | [] => (none, 2)
  | 4, b :: rest =>
    if !mayFollow first b then (none, 1)
    else
      match rest with
      | c :: rest =>
        if !isContinuation c then (none, 2)
        else
          match rest with
          | d :: _ =>
            if isContinuation d then
              (some (Char.ofNat (262144 * (first - 0xF0) + 4096 * (b - 0x80) +
                64 * (c - 0x80) + (d - 0x80))), 4)
            else (none, 3)
          | [] => (none, 3)
      | [] => (none, 2)
  | _, _ => (none, 1)

/-- The characters of bytes, with nothing in the place of each faulty sequence. Each round reads
one character. -/
def readChars : (rounds : Nat) → List Nat → List (Option Char)
  | 0, _ => []
  | _ + 1, [] => []
  | rounds + 1, first :: rest =>
    let (c, size) := readChar first rest
    c :: readChars rounds (rest.drop (size - 1))

/-- The text of bytes, with a replacement character for each faulty sequence. -/
def ofUtf8 (bytes : List Nat) : Text :=
  (readChars bytes.length bytes).map fun c => c.getD '\uFFFD'

/-- The text of bytes without a faulty sequence. -/
def ofUtf8? (bytes : List Nat) : Option Text := (readChars bytes.length bytes).mapM id

end Roster.Text
