import Roster.Documentation
import Roster.Merged.Basic
import Roster.Merged.Written
import Roster.Policy

/-!
# Runs

A run fetches both sources, merges them and writes the result into a store.

* `Run.process` makes a whole run. Unless it succeeds no file is changed.
-/

namespace Roster

/-- What a run has made. -/
structure Run where
  path : Path
  merged : Merged
  summary : Summary

namespace Run

/-- Writes merged records into a file. -/
def write (s : Store) (p : Path) (m : Merged) : Store × Except Store.Refusal Unit :=
  s.write p m.toText

/-- Merges both sources and writes the result. -/
def finish (c : Config) (documentation policy : Report) (s : Store) (t : Trace) :
    Except Error Run × Store × Trace :=
  let merged := Merged.ofReports documentation policy
  match write s c.outputPath merged with
  | (s, .error r) => (.error (.store r), s, t)
  | (s, .ok ()) => (.ok ⟨c.outputPath, merged, .of merged⟩, s, t.tell [.written c.outputPath])

/-- Makes a run on a network and a store. A schedule tells in which order pages come. -/
def process (net : Http.Network) (c : Config) (s : Store) (t : Trace)
    (schedule : Pool.Schedule := {}) : Except Error Run × Store × Trace :=
  match c.validate with
  | .error e => (.error e, s, t)
  | .ok () =>
    match Documentation.report net c (t.tell [.started]) schedule with
    | (.error e, t) => (.error e, s, t)
    | (.ok documentation, t) =>
      let t := t.tell [.documentationDone documentation.size]
      let (policy, t) := Policy.fetch net c.policyUrl t
      finish c documentation policy s t

end Run

end Roster
