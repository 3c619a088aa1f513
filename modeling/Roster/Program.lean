import Roster.CommandLine.Request
import Roster.Error
import Roster.Run
import Roster.Suggestion

/-!
# The program

The program reads its command line and then makes a run or suggests principals. What it prints and
leaves behind is a function of the command line, the network and the store.

* `Program.run` is the whole program.
-/

namespace Roster

/-- What the program prints and leaves behind. -/
structure Program where
  exitCode : Nat := 0
  output : Text := []
  errors : Text := []
  store : Store
  visits : Http.Visits := Index.empty

namespace Program

/-- Lines, each with its end. -/
def printed (lines : List Text) : Text := lines.flatMap (· ++ ['\n'])

/-- What an error prints. -/
def errorText (e : Error) : Text := printed ["Error: ".toList ++ e.diagnostic]

/-- The code with which an error ends the program; too many workers are no error that it expects. -/
def exitCodeOf : Error → Nat
  | .tooManyWorkers => 101
  | _ => 1

/-! ## Runs -/

/-- What a run prints at its end. -/
def closing (r : Run) : List Text := [
  "Found ".toList ++ Text.ofNat r.summary.total ++ " service principals:".toList,
  "- Documentation only: ".toList ++ Text.ofNat r.summary.documentationOnly,
  "- Policy Generator only: ".toList ++ Text.ofNat r.summary.policyOnly,
  "- Both sources: ".toList ++ Text.ofNat r.summary.both,
  [],
  "Results saved to ".toList ++ r.path,
  "Full program time:".toList]

/-- Makes a run. -/
def scrape (net : Http.Network) (s : Store) (c : Config) : Program :=
  let (result, s, t) := Run.process net c s {}
  let log := t.log.map Event.text
  let warnings := printed (t.warnings.map Event.text)
  match result with
  | .ok r =>
    { output := printed (log ++ closing r), errors := warnings, store := s, visits := t.visits }
  | .error e =>
    { exitCode := exitCodeOf e, output := printed log, errors := warnings ++ errorText e,
      store := s, visits := t.visits }

/-! ## Suggestions -/

/-- Prints the principals to suggest. -/
def suggest (s : Store) (c : Config) (q : Suggestion) : Program :=
  match q.principals s c with
  | .ok principals => { output := printed principals, store := s }
  | .error e => { exitCode := exitCodeOf e, errors := errorText e, store := s }

/-! ## Command lines -/

/-- Runs the program. -/
def run (net : Http.Network) (s : Store) (environment : CommandLine.Environment)
    (words : List Text) : Program :=
  match CommandLine.read environment words with
  | .ok ⟨c, none⟩ => scrape net s c
  | .ok ⟨c, some q⟩ => suggest s c q
  | .error stop =>
    let text := stop.text environment
    if stop.exitCode = 0 then { output := text, store := s }
    else { exitCode := stop.exitCode, errors := text, store := s }

end Program

end Roster
