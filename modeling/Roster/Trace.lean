import Roster.Http.Site
import Roster.Path

/-!
# Events and traces

What a run tells about its progress are events; warnings tell of failures that do not end the run.
A trace holds what a run has done so far: the requests that have reached a server, and the events
that it has told, in their order.
-/

namespace Roster

/-! ## Events -/

/-- Something that a run tells. -/
inductive Event where
  | started
  | servicesFound (count : Nat)
  | noPrincipal (service : Text)
  | serviceFailed (service reason : Text)
  | documentationDone (count : Nat)
  | policyFound (count : Nat)
  | policyAttemptFailed (attempt : Nat) (reason : Text)
  | policyGivenUp (attempts : Nat) (reason : Text)
  | policyUnreadable (reason : Text)
  | written (path : Path)
deriving DecidableEq

namespace Event

/-- An event that tells of a failure. -/
def isWarning : Event → Bool
  | .serviceFailed _ _ => true
  | .policyAttemptFailed _ _ => true
  | .policyGivenUp _ _ => true
  | .policyUnreadable _ => true
  | _ => false

/-- The wording of an event. -/
def text : Event → Text
  | .started => "Started scraping".toList
  | .servicesFound count =>
    "Found ".toList ++ Text.ofNat count ++ " services with a service-linked role".toList
  | .noPrincipal service => "No service principal found for ".toList ++ service
  | .serviceFailed service reason => service ++ " generated an error: ".toList ++ reason
  | .documentationDone count =>
    "Finished scraping documentation: ".toList ++ Text.ofNat count ++ " principals".toList
  | .policyFound count =>
    "Found ".toList ++ Text.ofNat count ++
      " unique principals in the policy generator".toList
  | .policyAttemptFailed attempt reason =>
    "Policy generator attempt ".toList ++ Text.ofNat attempt ++ " failed: ".toList ++ reason
  | .policyGivenUp attempts reason =>
    "Failed to fetch the policy generator after ".toList ++ Text.ofNat attempts ++
      " attempts: ".toList ++ reason
  | .policyUnreadable reason =>
    "Couldn't parse the policy generator payload: ".toList ++ reason
  | .written path => "Wrote the results to file: ".toList ++ path

end Event

/-! ## Traces -/

/-- The requests and events of a run. -/
structure Trace where
  visits : Http.Visits := Index.empty
  events : List Event := []
deriving Inhabited

namespace Trace

/-- The trace with events behind those before. -/
def tell (t : Trace) (events : List Event) : Trace := { t with events := t.events ++ events }

/-- The trace after requests. -/
def visiting (t : Trace) (v : Http.Visits) : Trace := { t with visits := v }

/-- The events that tell of no failure. -/
def log (t : Trace) : List Event := t.events.filter (!·.isWarning)

/-- The events that tell of failures. -/
def warnings (t : Trace) : List Event := t.events.filter (·.isWarning)

end Trace

end Roster
