import Roster.Charset.MoreKanjiData
import Roster.Charset.Paired

/-!
# Japanese character sets of up to three bytes

Two more ways to write Japanese characters. In EUC-JP a byte tells how many others belong to it; in
ISO-2022-JP escapes shift between sets of characters.

* `decodeEucJp` reads the first.
* `decodeIso2022Jp` reads the second.
-/

namespace Roster.Charset

/-- The character in a row and a cell, both counted from `first`; there are 94 of each. -/
def cell? (l : Numbered) (first row cell : Nat) : Option Char :=
  let isPlace := fun b => first ≤ b && b < first + 94
  if isPlace row && isPlace cell then l.find? ((row - first) * 94 + (cell - first)) else none

/-! ## One to three bytes -/

/-- A byte of a character of two bytes. -/
def isEucByte (b : Nat) : Bool := 0xA1 ≤ b && b ≤ 0xFE

/-- The text of bytes in EUC-JP. An ASCII byte that ends no character stands for itself. -/
def decodeEucJp : List Nat → Text
  | [] => []
  | b :: rest =>
    if b < 0x80 then Char.ofNat b :: decodeEucJp rest
    else if b = 0x8E || b = 0x8F || isEucByte b then
      match rest with
      | [] => [replacement]
      | second :: after =>
        if b = 0x8E && 0xA1 ≤ second && second ≤ 0xDF then
          narrowKatakana (second - 0xA1) :: decodeEucJp after
        else if b = 0x8F && isEucByte second then
          match after with
          | [] => [replacement]
          | third :: behind =>
            match cell? moreKanji 0xA1 second third with
            | some c => c :: decodeEucJp behind
            | none =>
              if third < 0x80 then replacement :: decodeEucJp (third :: behind)
              else replacement :: decodeEucJp behind
        else
          match cell? kanji 0xA1 b second with
          | some c => c :: decodeEucJp after
          | none =>
            if second < 0x80 then replacement :: decodeEucJp (second :: after)
            else replacement :: decodeEucJp after
    else replacement :: decodeEucJp rest

/-! ## Shifts -/

/-- The characters that bytes mean until the next escape. -/
inductive Shift where
  | ascii
  | roman
  | katakana
  | kanji
deriving DecidableEq

/-- The byte that starts an escape. -/
def escapeByte : Nat := 0x1B

/-- What the two bytes of an escape shift to. -/
def Shift.ofEscape? (a b : Nat) : Option Shift :=
  if a = 0x28 && b = 0x42 then some .ascii
  else if a = 0x28 && b = 0x4A then some .roman
  else if a = 0x28 && b = 0x49 then some .katakana
  else if a = 0x24 && (b = 0x40 || b = 0x42) then some .kanji
  else none

/-- The character of a single byte. -/
def Shift.single? (shift : Shift) (b : Nat) : Option Char :=
  match shift with
  | .ascii => if b = 0x0E || b = 0x0F then none else ascii? b
  | .roman =>
    if b = 0x0E || b = 0x0F then none
    else if b = 0x5C then some '¥'
    else if b = 0x7E then some '\u203E'
    else ascii? b
  | .katakana => if 0x21 ≤ b && b ≤ 0x5F then some (narrowKatakana (b - 0x21)) else none
  | .kanji => none

/-- The text of bytes behind a shift. An escape right behind another one is a fault, and so is one
that shifts to nothing: then its bytes stand for themselves. -/
def decodeShifted (shift : Shift) (escaped : Bool) : List Nat → Text
  | [] => []
  | b :: rest =>
    if b = escapeByte then
      match rest with
      | x :: y :: behind =>
        match Shift.ofEscape? x y with
        | some next =>
          (if escaped then [replacement] else []) ++ decodeShifted next true behind
        | none => replacement :: decodeShifted shift false (x :: y :: behind)
      | short => replacement :: decodeShifted shift false short
    else if shift = .kanji && 0x21 ≤ b && b ≤ 0x7E then
      match rest with
      | [] => [replacement]
      | trail :: behind =>
        if trail = escapeByte then replacement :: decodeShifted shift false (trail :: behind)
        else (cell? kanji 0x21 b trail).getD replacement :: decodeShifted shift false behind
    else (shift.single? b).getD replacement :: decodeShifted shift false rest

/-- The text of bytes in ISO-2022-JP. -/
def decodeIso2022Jp (bytes : List Nat) : Text := decodeShifted .ascii false bytes

end Roster.Charset
