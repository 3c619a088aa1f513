import Roster.Index
import Roster.Trace

/-!
# Mentions and outcomes

Principals are found in two sources: the documentation pages of the services and the data of the
policy generator. Each source reports, under the names of services, the principal that it mentions
and where it does so.

The documentation has one page for each service. What became of it is an outcome: it mentions a
principal, it mentions none, or it could not be read.
-/

namespace Roster

/-! ## Mentions -/

/-- Where a principal is found. -/
inductive Source where
  | documentation
  | policyGenerator
deriving DecidableEq, Inhabited

/-- The name of a source in written files. -/
def Source.name : Source → Text
  | .documentation => "documentation".toList
  | .policyGenerator => "policy_generator".toList

/-- A principal and the address of what mentions it. -/
structure Mention where
  principal : Text
  reference : Text
deriving DecidableEq, Inhabited

/-- What one source mentions, under the names of services. -/
abbrev Report := Index Mention

/-! ## Outcomes -/

/-- What became of the page of a service. -/
inductive Outcome where
  | found (service : Text) (mention : Mention)
  | silent (service : Text)
  | failed (service reason : Text)
deriving DecidableEq, Inhabited

namespace Outcome

/-- The name of the service. -/
def service : Outcome → Text
  | .found service _ => service
  | .silent service => service
  | .failed service _ => service

/-- The principal that was found. -/
def mention? : Outcome → Option Mention
  | .found _ mention => some mention
  | _ => none

/-- What is told of an outcome without a principal. -/
def event? : Outcome → Option Event
  | .found _ _ => none
  | .silent service => some (.noPrincipal service)
  | .failed service reason => some (.serviceFailed service reason)

end Outcome

end Roster
