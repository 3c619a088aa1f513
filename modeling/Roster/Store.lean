import Roster.Path

/-!
# Stores

A store is a tree of directories with text files. A path is looked up from the top of the tree,
which is also its root: nothing lies above it.

* `Store.read` gives the text of a file.
* `Store.create` opens a file for writing, which empties it.
* `Store.makeDirectories` makes a directory and those above it.
-/

namespace Roster

/-- What stands under a name in a store. -/
inductive Entry where
  | directory
  | file (content : Text)
deriving DecidableEq, Inhabited

/-- The names from the top of a store down to an entry. -/
abbrev Place := List Text

/-- The entries of a store by their places. The top is a directory and is not listed. -/
structure Store where
  entries : List (Place × Entry)
deriving Inhabited

namespace Store

/-- Why a store refuses an operation. -/
inductive Refusal where
  | notFound
  | fileExists
  | notDirectory
  | isDirectory
  | nameTooLong
  | nulInName
deriving DecidableEq, Inhabited

/-- The number of a refusal, if the system has one for it. -/
def Refusal.code? : Refusal → Option Nat
  | .notFound => some 2
  | .fileExists => some 17
  | .notDirectory => some 20
  | .isDirectory => some 21
  | .nameTooLong => some 36
  | .nulInName => none

/-- The wording of a refusal without its number. -/
def Refusal.reason : Refusal → Text
  | .notFound => "No such file or directory".toList
  | .fileExists => "File exists".toList
  | .notDirectory => "Not a directory".toList
  | .isDirectory => "Is a directory".toList
  | .nameTooLong => "File name too long".toList
  | .nulInName => "file name contained an unexpected NUL byte".toList

/-- The kind of a refusal in diagnostics. -/
def Refusal.kind : Refusal → Text
  | .notFound => "NotFound".toList
  | .fileExists => "AlreadyExists".toList
  | .notDirectory => "NotADirectory".toList
  | .isDirectory => "IsADirectory".toList
  | .nameTooLong => "InvalidFilename".toList
  | .nulInName => "InvalidInput".toList

/-- The wording of a refusal. -/
def Refusal.message (r : Refusal) : Text :=
  match r.code? with
  | some code => r.reason ++ " (os error ".toList ++ Text.ofNat code ++ [')']
  | none => r.reason

/-! ## Places -/

/-- The store without entries. -/
def empty : Store := ⟨[]⟩

/-- The entry at a place. -/
def at? (s : Store) (p : Place) : Option Entry :=
  if p.isEmpty then some .directory else s.entries.lookup p

/-- The store with an entry at a place. -/
def put (s : Store) (p : Place) (e : Entry) : Store :=
  ⟨(p, e) :: s.entries.filter fun old => old.1 ≠ p⟩

/-- The files with their places, in no particular order. -/
def files (s : Store) : List (Place × Text) :=
  s.entries.filterMap fun (p, e) =>
    match e with
    | .file content => some (p, content)
    | .directory => none

/-! ## Looking up paths -/

/-- The longest name that an entry can have, in bytes. -/
def maxNameSize : Nat := 255

/-- The size at which a path is too long, in bytes. -/
def maxPathSize : Nat := 4096

/-- The directory at a place. -/
def enter (s : Store) (p : Place) : Except Refusal Unit :=
  match s.at? p with
  | some .directory => .ok ()
  | some (.file _) => .error .notDirectory
  | none => .error .notFound

/-- The place that parts lead to from a directory; each part is passed before the next one is
looked at, and the last one need not exist. -/
def follow (s : Store) (place : Place) : List Path.Part → Except Refusal Place
  | [] => .ok place
  | part :: rest => do
    s.enter place
    match part with
    | .root | .here => s.follow place rest
    | .up => s.follow place.dropLast rest
    | .name t =>
      if maxNameSize < Text.byteSize t then .error .nameTooLong else s.follow (place ++ [t]) rest

/-- The place of an entry that exists. -/
def locate (s : Store) (parts : List Path.Part) : Except Refusal (Place × Entry) := do
  let place ← s.follow [] parts
  match s.at? place with
  | some e => .ok (place, e)
  | none => .error .notFound

/-- The steps of a path: unlike its parts they include every dot. -/
def steps (p : Path) : List Path.Part :=
  (Text.splitOn '/' p).filterMap fun piece =>
    if piece.isEmpty then none
    else if piece = ['.'] then some .here
    else if piece = ['.', '.'] then some .up
    else some (.name piece)

/-- The path ends with a slash, so it can only mean a directory. -/
def endsWithSlash (p : Path) : Bool := p.getLast? = some '/'

/-- The path, if it can be looked up at all. -/
def checked (p : Path) : Except Refusal Path :=
  if p.contains '\x00' then .error .nulInName
  else if p.isEmpty then .error .notFound
  else if maxPathSize ≤ Text.byteSize p then .error .nameTooLong
  else .ok p

/-- A path with given parts. -/
def pathOf (parts : List Path.Part) : Path :=
  match parts with
  | [] => []
  | [.root] => ['/']
  | parts =>
    Text.joinWith ['/'] (parts.map fun part =>
      match part with
      | .root => []
      | .here => ['.']
      | .up => ['.', '.']
      | .name t => t)

/-! ## Operations -/

/-- The text of a file. -/
def read (s : Store) (p : Path) : Except Refusal Text := do
  let p ← checked p
  let (_, e) ← s.locate (steps p)
  match e with
  | .directory => .error .isDirectory
  | .file content => if endsWithSlash p then .error .notDirectory else .ok content

/-- The parts lead to a directory. -/
def isDirectory (s : Store) (parts : List Path.Part) : Bool :=
  match s.locate parts with
  | .ok (_, .directory) => true
  | _ => false

/-- Makes one directory, whose last part has to be a new name. -/
def makeDirectory (s : Store) (parts : List Path.Part) : Except Refusal Store := do
  let _ ← checked (pathOf parts)
  let place ← s.follow [] parts
  match parts.getLast?, s.at? place with
  | some (.name _), none => .ok (s.put place .directory)
  | _, _ => .error .fileExists

/-- Makes a directory and those above it, given by their parts from the last one upward. What has
been made stays when a later step is refused. -/
def makeUpward (s : Store) : (upward : List Path.Part) → Store × Except Refusal Unit
  | [] => (s, .ok ())
  | part :: above =>
    let parts := (part :: above).reverse
    let settle (s : Store) (r : Refusal) : Store × Except Refusal Unit :=
      (s, if s.isDirectory parts then .ok () else .error r)
    match s.makeDirectory parts with
    | .ok made => (made, .ok ())
    | .error .notFound =>
      match s.makeUpward above with
      | (s, .error r) => (s, .error r)
      | (s, .ok ()) =>
        match s.makeDirectory parts with
        | .ok made => (made, .ok ())
        | .error r => settle s r
    | .error r => settle s r

/-- Makes the directory that parts name and those above it. -/
def makeDirectories (s : Store) (parts : List Path.Part) : Store × Except Refusal Unit :=
  s.makeUpward parts.reverse

/-- Opens a file for writing: it is made or emptied. Answers its place. -/
def create (s : Store) (p : Path) : Except Refusal (Place × Store) := do
  let steps := steps (← checked p)
  let directory ← s.follow [] steps.dropLast
  s.enter directory
  match steps.getLast? with
  | some (.name _) =>
    if endsWithSlash p then .error .isDirectory
    else
      let place ← s.follow [] steps
      match s.at? place with
      | some .directory => .error .isDirectory
      | _ => .ok (place, s.put place (.file []))
  | _ => .error .isDirectory

/-- Writes a file, in directories that are made where they are missing. -/
def write (s : Store) (p : Path) (content : Text) : Store × Except Refusal Unit :=
  let (s, made) := match p.parentParts? with
    | some parts => s.makeDirectories parts
    | none => (s, .ok ())
  match made with
  | .error r => (s, .error r)
  | .ok () =>
    match s.create p with
    | .error r => (s, .error r)
    | .ok (place, s) => (s.put place (.file content), .ok ())

end Store

end Roster
