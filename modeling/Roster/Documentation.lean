import Roster.Config
import Roster.Http.Fetch
import Roster.Pool
import Roster.Service
import Roster.Trace

/-!
# The documentation

The documentation has a page with the listing of the services and a page for each of them.

* `Documentation.listing` fetches the listing.
* `Documentation.outcome` fetches the page of a service.
* `Documentation.report` fetches everything. Only a failure to fetch the listing ends it. In which
  order the pages come is left to a schedule.
-/

namespace Roster.Documentation

open Http (Network Visits)

/-- The base of the listing and the URL of its page. -/
def listingUrl (c : Config) : Except Url.Fault (Url × Url) := do
  let base ← Url.parse c.docsBase
  let page ← base.join c.servicesPage
  .ok (base, page)

/-- Fetches the listing of the services. -/
def listing (net : Network) (c : Config) (v : Visits) : Except Error Listing × Visits :=
  match listingUrl c with
  | .error f => (.error (.badUrl f), v)
  | .ok (base, page) =>
    match Http.fetch net v page.toText with
    | (.error e, v) => (.error e, v)
    | (.ok html, v) => (.ok (Listing.ofPage base html), v)

/-- The outcome of a service whose page has been fetched or not. -/
def outcomeOf (s : Service) : Except Error Text → Outcome
  | .error e => .failed s.name e.message
  | .ok html =>
    match Page.principal? html with
    | some principal => .found s.name ⟨principal, s.page⟩
    | none => .silent s.name

/-- Fetches the page of a service. -/
def outcome (net : Network) (s : Service) (v : Visits) : Outcome × Visits :=
  let (page, v) := Http.fetch net v s.page
  (outcomeOf s page, v)

/-- The work of a task: it fetches the page of its service. -/
def work (net : Network) (s : Service) (v : Visits) : Ending × Visits :=
  let (o, v) := outcome net s v
  (.returned o, v)

/-- Fetches the pages of the services in a pool. -/
def outcomes (net : Network) (schedule : Pool.Schedule) (workers : Nat) (l : Listing) (v : Visits) :
    List Outcome × Visits :=
  let (p, v) := Pool.run (work net) schedule workers l v
  (p.outcomes, v)

/-- The principals that were found, under the keys of the services. -/
def reportOf (outcomes : List Outcome) : Report :=
  Index.ofList (outcomes.filterMap fun o => o.mention?.map fun m => (Name.key o.service, m))

/-- Fetches the listing and the pages of the services. -/
def report (net : Network) (c : Config) (t : Trace) (schedule : Pool.Schedule := {}) :
    Except Error Report × Trace :=
  match listing net c t.visits with
  | (.error e, v) => (.error e, t.visiting v)
  | (.ok l, v) =>
    let t := (t.visiting v).tell [.servicesFound l.length]
    if Pool.maxWorkers < c.workers then (.error .tooManyWorkers, t)
    else
      let (outcomes, v) := outcomes net schedule c.workers l t.visits
      (.ok (reportOf outcomes), (t.visiting v).tell (outcomes.filterMap Outcome.event?))

end Roster.Documentation
