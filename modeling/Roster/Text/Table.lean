import Roster.Text.Basic

/-!
# Tables

Large tables of code points are written as lines of words with blanks between them. A word gives a
code point, or a range of them, in hexadecimal.

A character set of more than one byte numbers its characters. They are listed in runs of numbers; a
replacement character keeps the place of a number without a character (`Numbered.find?`).
-/

namespace Roster

/-! ## Code points -/

namespace Text

/-- The words of lines, in their order. -/
def words (lines : List String) : List Text := lines.flatMap fun l => splitOn ' ' l.toList

/-- A range of code points. -/
structure CodeRange where
  first : Nat
  last : Nat
deriving DecidableEq, Inhabited

/-- The range of a word: one code point, or the first and the last with a hyphen between them. -/
def CodeRange.ofWord (word : Text) : CodeRange :=
  match splitOn '-' word with
  | [first, last] => ⟨natOfHexDigits first, natOfHexDigits last⟩
  | _ => ⟨natOfHexDigits word, natOfHexDigits word⟩

/-- The code point is in the range. -/
def CodeRange.holds (r : CodeRange) (n : Nat) : Bool := r.first ≤ n && n ≤ r.last

/-- The ranges of a table. -/
def ranges (lines : List String) : Array CodeRange := ((words lines).map CodeRange.ofWord).toArray

/-- The character is in one of the ranges. -/
def inRanges (table : Array CodeRange) (c : Char) : Bool := table.any (·.holds c.toNat)

end Text

/-! ## Numbered characters -/

namespace Charset

/-- What stands for bytes that mean nothing. -/
def replacement : Char := '\uFFFD'

/-- Characters by number: where each run starts, and its characters. -/
structure Numbered where
  runs : List (Nat × Array Char)

namespace Numbered

/-- The characters of runs that are written in pieces. -/
def ofSource (source : List (Nat × List String)) : Numbered :=
  ⟨source.map fun (start, run) => (start, (run.flatMap String.toList).toArray)⟩

/-- The character with a number. -/
def find? (l : Numbered) (number : Nat) : Option Char :=
  (l.runs.findSome? fun (start, run) =>
    if start ≤ number then run[number - start]? else none).filter (· ≠ replacement)

end Numbered

end Charset

end Roster
