import Roster.Proofs.Documentation
import Roster.Proofs.Merging
import Roster.Proofs.Page
import Roster.Proofs.Policy
import Roster.Run

/-!
# Where the records of a run come from

A record joins what one source said in one place: its principal, its reference and its first name
belong together. They pass through the listing, the pool, two indexes and the merger, and none of
these may mix them up.

**Theorem (`Documentation.report_from_pages`).** The pages of the services are fetched one after the
other in some order, and every mention of the documentation comes from the page of its service.

**Theorem (`Run.records_have_provenance`).** Every record of a run that succeeds comes from the page
of a listed service or from the script of the policy generator.
-/

namespace Roster

open Http (Network Visits)

/-! ## The documentation -/

namespace Documentation

/-- The visits behind the pages of services, fetched in their order. -/
def visitsAfter (net : Network) (services : Listing) (v : Visits) : Visits :=
  services.foldl (fun v s => (Http.fetch net v s.page).2) v

theorem worked_work (net : Network) (order : List Task) (v : Visits) :
    (Pool.worked (work net) order v).2 = visitsAfter net (order.map Task.service) v := by
  induction order generalizing v with
  | nil => rfl
  | cons t order ih => exact ih _

/-- The mention comes from the page of one of the services, which are fetched in their order, and
stands under the key of its name. -/
def FromPage (net : Network) (v : Visits) (order : Listing) (name : Text) (m : Mention) : Prop :=
  ∃ earlier s later html, order = earlier ++ s :: later ∧
    (Http.fetch net (visitsAfter net earlier v) s.page).1 = .ok html ∧
    Page.principal? html = some m.principal ∧ m.reference = s.page ∧ name = Name.key s.name

theorem reportOf_outcomes_from_pages (net : Network) (schedule : Pool.Schedule) (workers : Nat)
    (l : Listing) (v : Visits) :
    ∃ order : Listing, order.Perm l ∧
      (outcomes net schedule workers l v).2 = visitsAfter net order v ∧
      ∀ e ∈ (reportOf (outcomes net schedule workers l v).1).entries,
        FromPage net v order e.1 e.2 := by
  obtain ⟨tasks, hperm, hvisits, houtcomes⟩ :=
    Pool.outcomes_worked (work net) schedule workers l v
  refine ⟨tasks.map Task.service, hperm, hvisits.trans (worked_work net tasks v), ?_⟩
  intro e he
  obtain ⟨o, ho, hmention⟩ := List.mem_filterMap.1 (Index.mem_of_mem_entries_ofList he)
  obtain ⟨m, hm, rfl⟩ := Option.map_eq_some_iff.1 hmention
  obtain ⟨earlier, t, later, rfl, rfl⟩ := houtcomes o ho
  rw [worked_work] at hm ⊢
  obtain ⟨html, hhtml, hprincipal, hreference⟩ := mention?_outcomeOf hm
  refine ⟨earlier.map Task.service, t.service, later.map Task.service, html, ?_, hhtml, hprincipal,
    hreference, ?_⟩
  · rw [List.map_append, List.map_cons]
  · exact congrArg Name.key (service_outcomeOf t.service _)

/-- **The documentation comes from pages.** The listing is that of the page of the services, the
pages of its services are fetched in some order, and every mention comes from one of them. -/
theorem report_from_pages {net : Network} {c : Config} {t t' : Trace} {schedule : Pool.Schedule}
    {found : Report} (h : report net c t schedule = (.ok found, t')) :
    ∃ base page html order, listingUrl c = .ok (base, page) ∧
      (Http.fetch net t.visits page.toText).1 = .ok html ∧
      order.Perm (Listing.ofPage base html) ∧
      t'.visits = visitsAfter net order (Http.fetch net t.visits page.toText).2 ∧
      ∀ e ∈ found.entries,
        FromPage net (Http.fetch net t.visits page.toText).2 order e.1 e.2 := by
  -- Everything but the last case is a failure, from which nothing is reported.
  rw [report, listing] at h
  cases hurl : listingUrl c with
  | error f =>
    rw [hurl] at h
    cases h
  | ok urls =>
    obtain ⟨base, page⟩ := urls
    simp only [hurl] at h
    rcases hfetch : Http.fetch net t.visits page.toText with ⟨e | html, v⟩
    · rw [hfetch] at h
      cases h
    · simp only [hfetch] at h
      split_ifs at h with hworkers
      · cases h
      · obtain ⟨hfound, rfl⟩ := Prod.mk.inj h
        obtain rfl := Except.ok.inj hfound
        obtain ⟨order, hperm, hvisits, hmentions⟩ :=
          reportOf_outcomes_from_pages net schedule c.workers (Listing.ofPage base html) v
        exact ⟨base, page, html, order, rfl, by rw [hfetch], hperm, by rw [hfetch]; exact hvisits,
          by rw [hfetch]; exact hmentions⟩

end Documentation

namespace Run

/-! ## Runs -/

/-- The record comes from the page of one of the services, which are fetched in their order. Its
principal is the one that the page mentions, and stands in a paragraph of the page. -/
def FromDocumentation (net : Network) (v : Visits) (order : Listing) (r : Record) : Prop :=
  ∃ earlier s later html, order = earlier ++ s :: later ∧
    (Http.fetch net (Documentation.visitsAfter net earlier v) s.page).1 = .ok html ∧
    Page.principal? html = some r.principal ∧
    (∃ p ∈ (Html.parse html).elements "p", r.principal <:+: p.plain) ∧
    r.reference = s.page ∧ r.names.head? = some (Name.key s.name) ∧
    ∃ n, r.sources = .documentation :: List.replicate n .policyGenerator

/-- The record comes from a service that the script of the policy generator declares. -/
def FromPolicy (net : Network) (url : Text) (v : Visits) (r : Record) : Prop :=
  ∃ script lead name?,
    Policy.Fetches (fun v => Http.fetch net v url) Policy.maxAttempts v script ∧
    Policy.Declares script lead name? ∧
    r.principal = lead ++ Principal.suffix ∧ r.reference = url ∧
    r.names.head? = some (name?.getD lead) ∧
    ∃ n, r.sources = List.replicate (n + 1) .policyGenerator

/-- Every record stands under the key of its principal and comes from one of the sources: from the
page of a service that the page of the services lists, or from the script that is fetched behind all
those pages. -/
def HaveProvenance (net : Network) (c : Config) (v : Visits) (merged : Merged) : Prop :=
  ∃ base page html order, Documentation.listingUrl c = .ok (base, page) ∧
    (Http.fetch net v page.toText).1 = .ok html ∧ order.Perm (Listing.ofPage base html) ∧
    ∀ k r, (k, r) ∈ merged.entries → k = Principal.key r.principal ∧
      (FromDocumentation net (Http.fetch net v page.toText).2 order r ∨
        FromPolicy net c.policyUrl
          (Documentation.visitsAfter net order (Http.fetch net v page.toText).2) r)

theorem merged_of_process {net : Network} {c : Config} {s : Store} {t : Trace}
    {schedule : Pool.Schedule} {run : Run} (h : (process net c s t schedule).1 = .ok run) :
    ∃ documentation t', Documentation.report net c (t.tell [.started]) schedule =
        (.ok documentation, t') ∧
      run.merged = .ofReports documentation
        (Policy.collect (fun v => Http.fetch net v c.policyUrl) c.policyUrl t'.visits).1 := by
  rw [process] at h
  cases hvalid : c.validate with
  | error e =>
    rw [hvalid] at h
    exact nomatch h
  | ok _ =>
    simp only [hvalid] at h
    rcases hreport : Documentation.report net c (t.tell [.started]) schedule with ⟨e | found, t'⟩
    · rw [hreport] at h
      exact nomatch h
    · simp only [hreport, finish] at h
      refine ⟨found, t', rfl, ?_⟩
      split at h
      · exact nomatch h
      · obtain rfl := Except.ok.inj h
        rfl

/-- **Every record of a run has its provenance.** -/
theorem records_have_provenance {net : Network} {c : Config} {s : Store} {t : Trace}
    {schedule : Pool.Schedule} {run : Run} (h : (process net c s t schedule).1 = .ok run) :
    HaveProvenance net c t.visits run.merged := by
  obtain ⟨documentation, t', hreport, hmerged⟩ := merged_of_process h
  obtain ⟨base, page, html, order, hurl, hfetch, hperm, hvisits, hpages⟩ :=
    Documentation.report_from_pages hreport
  refine ⟨base, page, html, order, hurl, hfetch, hperm, fun k r hmem => ?_⟩
  rw [hmerged] at hmem
  obtain ⟨hkey, hdecided⟩ := Merged.decided_of_mem_ofReports hmem
  refine ⟨hkey, ?_⟩
  rcases hdecided with ⟨e, he, ⟨hprincipal, hreference, hname⟩, hsources⟩ |
    ⟨e, he, ⟨hprincipal, hreference, hname⟩, hsources⟩
  · left
    obtain ⟨earlier, s, later, text, hsplit, htext, hfound, hpage, hkey⟩ := hpages e he
    rw [← hprincipal] at hfound
    exact ⟨earlier, s, later, text, hsplit, htext, hfound, Page.principal?_in_paragraph hfound,
      hreference.trans hpage, by rw [hname, hkey], hsources⟩
  · right
    obtain ⟨script, found, event, hfetches, hscript, hmention⟩ := Policy.attempts_fetch he
    obtain ⟨lead, name?, hdeclares, hfirst, hmention⟩ := Policy.report_declares hscript hmention
    rw [hmention] at hprincipal hreference
    rw [hvisits] at hfetches
    exact ⟨script, lead, name?, hfetches, hdeclares, hprincipal, hreference,
      by rw [hname, hfirst], hsources⟩

/-! ## A run on the small site -/

/-- The run on the small site has a record of each source. -/
theorem records_have_provenance_small :
    ∃ run, (process smallSite.network smallConfig ⟨[]⟩ {} {}).1 = .ok run ∧
      run.merged.keys = ["lambda".toList, "q".toList] ∧
      HaveProvenance smallSite.network smallConfig Index.empty run.merged := by
  have hkeys : (process smallSite.network smallConfig ⟨[]⟩ {} {}).1.toOption.map
      (fun run => run.merged.keys) = some ["lambda".toList, "q".toList] := by decide +kernel
  cases hrun : (process smallSite.network smallConfig ⟨[]⟩ {} {}).1 with
  | error e =>
    rw [hrun] at hkeys
    exact nomatch hkeys
  | ok run =>
    rw [hrun] at hkeys
    exact ⟨run, rfl, Option.some.inj hkeys, records_have_provenance hrun⟩

end Run

end Roster
