import Roster.Url.Percent

/-!
# Segments of paths

A path is read segment by segment. A segment of one dot stands for where the path is, one of two
dots leads back by one segment, and every other one is put behind those before.

* `walk` puts segments behind a path.
* `isDrive` tells the segments that are never taken back: a letter with a colon.
-/

namespace Roster.Url

/-- The number of dots that a segment consists of; a dot may be written in percent-encoding. -/
def dots? : Text → Option Nat
  | [] => some 0
  | '.' :: rest => (dots? rest).map (· + 1)
  | '%' :: '2' :: e :: rest => if e = 'e' || e = 'E' then (dots? rest).map (· + 1) else none
  | _ => none

/-- A segment that names a drive: a letter with a colon or a bar. -/
def isDrive : Text → Bool
  | [letter, sign] => Text.isAsciiLetter letter && (sign = ':' || sign = '|')
  | _ => false

/-- A segment that names a drive in the usual way, with a colon. -/
def isUsualDrive (s : Text) : Bool := isDrive s && s.getLast? = some ':'

/-- A drive in the usual way. -/
def usualDrive (s : Text) : Text := s.take 1 ++ [':']

/-- The path without its last segment; a drive stays. -/
def stepBack (path : List Text) : List Text :=
  if path.getLast?.any isDrive then path else path.dropLast

/-- The path with segments behind it. On local files a drive at the start is written in the usual
way. A dot at the end leaves an empty segment, because what it names holds others. -/
def walk (onFile : Bool) (path : List Text) : (segments : List Text) → List Text
  | [] => path
  | s :: rest =>
    let closed (path : List Text) := if rest.isEmpty then path ++ [[]] else path
    match dots? s with
    | some 1 => walk onFile (closed path) rest
    | some 2 => walk onFile (closed (stepBack path)) rest
    | _ =>
      let s := if onFile && path.isEmpty && isDrive s then usualDrive s else s
      walk onFile (path ++ [s]) rest

/-- The segments of a text between slashes, in their written form. -/
def pieces (special : Bool) (t : Text) : List Text :=
  let t := if special then t.map fun c => if c = '\\' then '/' else c else t
  (Text.splitOn '/' t).map (encode inPath)

/-- Segments without empty ones at the start, as long as one is left. -/
def dropEmpty : List Text → List Text
  | [] :: s :: rest => dropEmpty (s :: rest)
  | segments => segments

end Roster.Url
