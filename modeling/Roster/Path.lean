import Roster.Text.Basic

/-!
# Paths

A path is a text whose names are separated by slashes. Repeated slashes count as one and a dot
counts only at the start, so the parts of a path say more than its text.

* `Path.fileName?` is the last part, if that is a name.
* `Path.join` puts a path behind another one; an absolute path stands for itself.
-/

namespace Roster

/-- The text of a path. -/
abbrev Path := Text

namespace Path

/-- A part of a path. -/
inductive Part where
  | root
  | here
  | up
  | name (t : Text)
deriving DecidableEq, Inhabited

/-- The part that a piece between slashes stands for; nothing and a dot stand for none. -/
def partOf? (piece : Text) : Option Part :=
  if piece = [] || piece = ['.'] then none
  else if piece = ['.', '.'] then some .up
  else some (.name piece)

/-- The parts of a path. -/
def parts (p : Path) : List Part :=
  let pieces := Text.splitOn '/' p
  let named := pieces.filterMap partOf?
  match p, pieces with
  | '/' :: _, _ => .root :: named
  | _, ['.'] :: _ => .here :: named
  | _, _ => named

/-- The last part of a path, if it is a name. -/
def fileName? (p : Path) : Option Text :=
  match p.parts.getLast? with
  | some (.name t) => some t
  | _ => none

/-- What follows the last dot of the file name; a dot at its start does not count. -/
def extension? (p : Path) : Option Text :=
  match fileName? p with
  | none => none
  | some name =>
    let ending := (name.reverse.takeWhile (· ≠ '.')).reverse
    if name.length ≤ ending.length + 1 then none else some ending

/-- The parts of the directory that holds what a path names; a root and an empty path are in
none. -/
def parentParts? (p : Path) : Option (List Part) :=
  match p.parts.reverse with
  | [] => none
  | .root :: _ => none
  | _ :: parents => some parents.reverse

/-- The path starts at the root. -/
def isAbsolute : Path → Bool
  | '/' :: _ => true
  | _ => false

/-- The second path, taken from the directory that the first one names. -/
def join (directory p : Path) : Path :=
  if isAbsolute p then p
  else if directory.isEmpty || directory.getLast? = some '/' then directory ++ p
  else directory ++ '/' :: p

end Path

end Roster
