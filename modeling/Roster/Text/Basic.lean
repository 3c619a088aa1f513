/-!
# Text

A text is a list of Unicode scalar values. Counting, cutting and searching are done on that list;
sizes in bytes are those of the UTF-8 form.

* `splitOn` cuts a text at every occurrence of one character and always yields a piece.
* `occursIn` says that one text stands somewhere inside another.
* `cutAt?` cuts a text around the first occurrence of another one.
* `trim` takes the white space from the two ends of a text.
-/

namespace Roster

/-- A sequence of Unicode scalar values. -/
abbrev Text := List Char

namespace Text

/-! ## Sizes -/

/-- The number of bytes of the UTF-8 form. -/
def byteSize (t : Text) : Nat := t.foldl (fun size c => size + c.utf8Size) 0

/-! ## Cutting -/

/-- The pieces between the occurrences of `sep`; a text without `sep` is one piece. -/
def splitOn (sep : Char) : Text → List Text
  | [] => [[]]
  | c :: rest =>
    if c = sep then [] :: splitOn sep rest
    else
      match splitOn sep rest with
      | [] => [[c]]
      | piece :: pieces => (c :: piece) :: pieces

/-- The lines of a text: its pieces between line feeds. -/
def lines (t : Text) : List Text := splitOn '\n' t

/-- What follows `lead` in a text that starts with it. -/
def after? : (lead : Text) → Text → Option Text
  | [], t => some t
  | _ :: _, [] => none
  | p :: ps, c :: cs => if p = c then after? ps cs else none

/-- `lead` stands at the start of the text. -/
def startsWith (lead t : Text) : Bool := (after? lead t).isSome

/-- The text before and after the first occurrence of `mark`. -/
def cutAt? (mark : Text) : Text → Option (Text × Text)
  | [] => if mark.isEmpty then some ([], []) else none
  | c :: cs =>
    match after? mark (c :: cs) with
    | some after => some ([], after)
    | none => (cutAt? mark cs).map fun (before, after) => (c :: before, after)

/-- `needle` stands somewhere in the text. -/
def occursIn (needle t : Text) : Bool := (cutAt? needle t).isSome

/-- The text without its trailing characters that satisfy `p`. -/
def dropEndWhile (p : Char → Bool) (t : Text) : Text := (t.reverse.dropWhile p).reverse

/-- The pieces joined with `glue` between neighbours. -/
def joinWith (glue : Text) : List Text → Text
  | [] => []
  | [piece] => piece
  | piece :: next :: pieces => piece ++ glue ++ joinWith glue (next :: pieces)

/-! ## ASCII -/

/-- The ASCII letters in lower case; every other character stays. -/
def asciiLower (t : Text) : Text := t.map Char.toLower

/-- A decimal digit of ASCII. -/
def isDigit (c : Char) : Bool := '0' ≤ c && c ≤ '9'

/-- A letter of ASCII. -/
def isAsciiLetter (c : Char) : Bool := ('a' ≤ c && c ≤ 'z') || ('A' ≤ c && c ≤ 'Z')

/-- The value of a hexadecimal digit, in either case. -/
def hexValue? (c : Char) : Option Nat :=
  if isDigit c then some (c.toNat - '0'.toNat)
  else if 'a' ≤ c && c ≤ 'f' then some (c.toNat - 'a'.toNat + 10)
  else if 'A' ≤ c && c ≤ 'F' then some (c.toNat - 'A'.toNat + 10)
  else none

/-- A hexadecimal digit, in either case. -/
def isHexDigit (c : Char) : Bool := (hexValue? c).isSome

/-- The digit `d` below sixteen, with lower-case letters above nine. -/
def hexDigit (d : Nat) : Char :=
  if d < 10 then Char.ofNat ('0'.toNat + d) else Char.ofNat ('a'.toNat + (d - 10))

/-- The decimal digits of a number. -/
def ofNat (n : Nat) : Text := Nat.toDigits 10 n

/-- The decimal digits of a number, behind a minus sign when it is negative. -/
def ofInt : Int → Text
  | .ofNat n => ofNat n
  | .negSucc n => '-' :: ofNat (n + 1)

/-- The value of a text of decimal digits, most significant first. -/
def natOfDigits (t : Text) : Nat :=
  t.foldl (fun n c => 10 * n + (c.toNat - '0'.toNat)) 0

/-- The value of a text of hexadecimal digits, most significant first. -/
def natOfHexDigits (t : Text) : Nat :=
  t.foldl (fun n c => 16 * n + (hexValue? c).getD 0) 0

/-! ## White space -/

/-- A character with the Unicode property White_Space. -/
def isBlank (c : Char) : Bool :=
  let n := c.toNat
  (0x09 ≤ n && n ≤ 0x0D) || n = 0x20 || n = 0x85 || n = 0xA0 || n = 0x1680 ||
    (0x2000 ≤ n && n ≤ 0x200A) || n = 0x2028 || n = 0x2029 || n = 0x202F || n = 0x205F ||
    n = 0x3000

/-- The text without the white space at its start. -/
def trimStart (t : Text) : Text := t.dropWhile isBlank

/-- The text without the white space at its end. -/
def trimEnd (t : Text) : Text := dropEndWhile isBlank t

/-- The text without the white space at its two ends. -/
def trim (t : Text) : Text := trimEnd (trimStart t)

/-- The text holds nothing but white space. -/
def allBlank (t : Text) : Bool := t.all isBlank

/-! ## Laws -/

theorem splitOn_ne_nil (sep : Char) (t : Text) : splitOn sep t ≠ [] := by
  cases t with
  | nil => simp [splitOn]
  | cons c rest =>
    simp only [splitOn]
    split
    · simp
    · split <;> simp

theorem after?_eq_some_iff {lead t rest : Text} :
    after? lead t = some rest ↔ t = lead ++ rest := by
  induction lead generalizing t with
  | nil => simp [after?]
  | cons p ps ih =>
    cases t with
    | nil => simp [after?]
    | cons c cs =>
      by_cases h : p = c
      · subst h; simp [after?, ih]
      · simp [after?, h, Ne.symm h]

theorem startsWith_iff {lead t : Text} : startsWith lead t = true ↔ lead <+: t := by
  simp only [startsWith, Option.isSome_iff_exists, after?_eq_some_iff]
  exact ⟨fun ⟨r, h⟩ => ⟨r, h.symm⟩, fun ⟨r, h⟩ => ⟨r, h.symm⟩⟩

end Text

end Roster
