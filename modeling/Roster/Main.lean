import Roster.Program

/-!
# Main

The command line of the program. The files that it is about are read into a store, `Program.run`
decides everything else, and what it prints and writes is passed on. Nothing is sent over a network
from here: every request is one that reaches no server.
-/

namespace Roster.Main

open CommandLine (Environment)

/-- The variables that stand in for arguments, with their values. -/
def environment : IO Environment := do
  let given ← (CommandLine.settings.filterMap (·.env?)).mapM fun name => do
    return (← IO.getEnv (String.ofList name)).map fun value => (name, value.toList)
  return given.filterMap id

/-- The files that a request is about. -/
def pathsOf (r : Request) : List Path :=
  match r.suggestion? with
  | some q => [q.file, q.catalog?.getD r.config.outputPath]
  | none => [r.config.outputPath]

/-- The store with what a path names. -/
def load (s : Store) (p : Path) : IO Store := do
  let name := String.ofList p
  try
    return (s.write p (← IO.FS.readFile name).toList).1
  catch
    | .inappropriateType .. => return (s.makeDirectories p.parts).1
    | _ => return s

/-- Writes a file that is in the second store and not in the first one. -/
def leave (before after : Store) (p : Path) : IO Unit := do
  match before.read p, after.read p with
  | old, .ok content =>
    if old.toOption ≠ some content then
      if let some parts := p.parentParts? then
        IO.FS.createDirAll (String.ofList (Store.pathOf parts))
      IO.FS.writeFile (String.ofList p) (String.ofList content)
  | _, _ => pure ()

/-- Runs the program on the files that it is about. -/
def run (words : List Text) : IO UInt32 := do
  let environment ← environment
  let paths := match CommandLine.read environment words with
    | .ok r => pathsOf r
    | .error _ => []
  let before ← paths.foldlM load Store.empty
  let p := Program.run .unreachable before environment words
  paths.forM (leave before p.store)
  IO.print (String.ofList p.output)
  IO.eprint (String.ofList p.errors)
  return UInt32.ofNat p.exitCode

end Roster.Main

def main (words : List String) : IO UInt32 := Roster.Main.run (words.map String.toList)
