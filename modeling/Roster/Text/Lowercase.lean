import Roster.Text.CaseData

/-!
# Lower case

The full lower-case form of a text. Every capital gives one small letter, with two exceptions: a
capital I with a dot gives a small i and a combining dot, and a capital sigma gives the final form
at the end of a word.
-/

namespace Roster.Text

namespace Case

/-- A cased letter that is not skipped when its neighbours are looked at. -/
def isCased (c : Char) : Bool := within cased c.toNat

/-- A mark or sign that does not end a word. -/
def isIgnorable (c : Char) : Bool := within ignorable c.toNat

/-- The small letter of a single character. -/
def small (c : Char) : Char :=
  if c.toNat < 0x80 then c.toLower
  else
    match runs.find? fun r => r.first ≤ c.toNat && c.toNat ≤ r.last &&
        (c.toNat - r.first) % r.step = 0 with
    | some r => Char.ofNat (r.small + (c.toNat - r.first))
    | none => c

/-- The nearest character that is not ignorable is a cased letter. -/
def meetsCased (t : Text) : Bool :=
  match t.dropWhile isIgnorable with
  | [] => false
  | c :: _ => isCased c

end Case

/-- The lower case of one character between the text before it, last character first, and the
text after it. -/
def lowercaseAt (before : Text) (c : Char) (following : Text) : Text :=
  if c = 'İ' then ['i', '\u0307']
  else if c = 'Σ' then
    if Case.meetsCased before && !Case.meetsCased following then ['ς'] else ['σ']
  else [Case.small c]

/-- The lower case of a text that stands behind `before`, last character first. -/
def lowercaseAfter (before : Text) : Text → Text
  | [] => []
  | c :: rest => lowercaseAt before c rest ++ lowercaseAfter (c :: before) rest

/-- The full lower-case form of a text. -/
def lowercase (t : Text) : Text := lowercaseAfter [] t

end Roster.Text
