import Roster.Documentation
import Roster.Proofs.Network
import Roster.Proofs.Pool

/-!
# The documentation does not depend on the schedule

**Theorem (`every_schedule_answers_in_order`).** A pool keeps to its limit in every state, and once
all its tasks are collected it answers the outcomes of the services in the order of the listing.
Each task has been worked on once. What is reported are the outcomes of such a pool. Where the
outcome of a service is the same whenever its page is fetched, neither the report nor the events
depend on the schedule and the number of workers.
-/

namespace Roster.Documentation

open Pool (History Follows MayEnd)
open Http (Network Visits)

variable {possible : Service → Ending → Prop}

/-! ## Histories of one listing -/

theorem endings_unique {l : Listing} {endings endings' : List Ending}
    (h : List.Forall₂ possible l endings) (h' : List.Forall₂ possible l endings')
    (hunique : ∀ s ∈ l, ∀ e e', possible s e → possible s e' → e = e') : endings = endings' := by
  induction h generalizing endings' with
  | nil => cases h'; rfl
  | cons hhead htail ih =>
    cases h' with
    | cons hhead' htail' =>
      rw [hunique _ List.mem_cons_self _ _ hhead hhead',
        ih htail' fun s hs => hunique s (List.mem_cons_of_mem _ hs)]

/-- Two histories of one listing, with any ids and any numbers of workers, have the same outcomes
where the services can end in one way only. -/
theorem outcomes_unique {ids ids' : Numbering} {workers workers' : Nat} {l : Listing}
    {moves moves' : List Pool.Move} {p p' : Pool}
    (h : History possible (Pool.start ids workers l) moves p)
    (h' : History possible (Pool.start ids' workers' l) moves' p')
    (hdone : p.isDone = true) (hdone' : p'.isDone = true)
    (hunique : ∀ s ∈ l, ∀ e e', possible s e → possible s e' → e = e') :
    p.outcomes = p'.outcomes := by
  obtain ⟨endings, hown, -, -, hcollected⟩ := h.accounts.settled hdone
  obtain ⟨endings', hown', -, -, hcollected'⟩ := h'.accounts.settled hdone'
  rw [Pool.outcomes_eq hown.length_eq.symm hcollected,
    Pool.outcomes_eq hown'.length_eq.symm hcollected', endings_unique hown hown' hunique]

/-! ## Outcomes of pages -/

theorem mention?_outcomeOf {s : Service} {page : Except Error Text} {m : Mention}
    (h : (outcomeOf s page).mention? = some m) :
    ∃ html, page = .ok html ∧ Page.principal? html = some m.principal ∧ m.reference = s.page := by
  cases page with
  | error e => exact nomatch h
  | ok html =>
    rw [outcomeOf] at h
    cases hprincipal : Page.principal? html with
    | none =>
      rw [hprincipal] at h
      exact nomatch h
    | some principal =>
      rw [hprincipal] at h
      obtain rfl := Option.some.inj h
      exact ⟨html, rfl, hprincipal, rfl⟩

theorem service_outcomeOf (s : Service) (page : Except Error Text) :
    (outcomeOf s page).service = s.name := by
  cases page with
  | error e => rfl
  | ok html =>
    rw [outcomeOf]
    cases Page.principal? html <;> rfl

/-! ## Fetching in a pool -/

theorem work_eq (net : Network) (s : Service) (v : Visits) :
    work net s v = (.returned (outcome net s v).1, (outcome net s v).2) := rfl

theorem outcomes_eq_of_stable {net : Network} {l : Listing}
    (hstable : ∀ s ∈ l, ∀ v v', (outcome net s v).1 = (outcome net s v').1)
    (schedule schedule' : Pool.Schedule) (workers workers' : Nat) (v : Visits) :
    (outcomes net schedule workers l v).1 = (outcomes net schedule' workers' l v).1 := by
  obtain ⟨moves, hhistory, -⟩ := Pool.run_follows (work net) schedule workers l v
  obtain ⟨moves', hhistory', -⟩ := Pool.run_follows (work net) schedule' workers' l v
  refine outcomes_unique hhistory hhistory' (Pool.run_isDone ..) (Pool.run_isDone ..) ?_
  rintro s hs e e' ⟨w, rfl⟩ ⟨w', rfl⟩
  rw [work_eq, work_eq, hstable s hs w w']

theorem listing_of_toOption {net : Network} {c : Config} {l : Listing} {v : Visits}
    (h : (listing net c v).1.toOption = some l) : listing net c v = (.ok l, (listing net c v).2) := by
  rcases hlisting : listing net c v with ⟨e | found, v'⟩
  · rw [hlisting] at h
    exact nomatch h
  · rw [hlisting] at h
    obtain rfl := Option.some.inj h
    rfl

/-- The report of a listing that is fetched holds the outcomes of the pool, and its events tell of
them. -/
theorem report_of_listed {net : Network} {c : Config} {t : Trace} {l : Listing} {v : Visits}
    (hlisted : listing net c t.visits = (.ok l, v)) (hworkers : c.workers ≤ Pool.maxWorkers)
    (schedule : Pool.Schedule) :
    ∃ t', report net c t schedule = (.ok (reportOf (outcomes net schedule c.workers l v).1), t') ∧
      t'.events = t.events ++ .servicesFound l.length ::
        (outcomes net schedule c.workers l v).1.filterMap Outcome.event? := by
  simp only [report, hlisted, Nat.not_lt.2 hworkers, if_false]
  refine ⟨_, rfl, ?_⟩
  simp only [Trace.tell, Trace.visiting, List.append_assoc, List.singleton_append]

theorem report_eq_of_stable {net : Network} {c : Config} {t : Trace}
    (hstable : ∀ l v, listing net c t.visits = (.ok l, v) →
      ∀ s ∈ l, ∀ v v', (outcome net s v).1 = (outcome net s v').1)
    (schedule schedule' : Pool.Schedule) {workers workers' : Nat}
    (hworkers : workers ≤ Pool.maxWorkers) (hworkers' : workers' ≤ Pool.maxWorkers) :
    (report net { c with workers := workers } t schedule).1 =
        (report net { c with workers := workers' } t schedule').1 ∧
      (report net { c with workers := workers } t schedule).2.events =
        (report net { c with workers := workers' } t schedule').2.events := by
  -- The number of workers plays no part in fetching the listing.
  have hlisting (n : Nat) : listing net { c with workers := n } t.visits = listing net c t.visits :=
    rfl
  rcases hfetched : listing net c t.visits with ⟨e | l, v⟩
  · simp only [report, hlisting, hfetched, and_self]
  · obtain ⟨u, hreport, hevents⟩ :=
      report_of_listed ((hlisting workers).trans hfetched) hworkers schedule
    obtain ⟨u', hreport', hevents'⟩ :=
      report_of_listed ((hlisting workers').trans hfetched) hworkers' schedule'
    have houtcomes := outcomes_eq_of_stable (hstable l v hfetched) schedule schedule' workers
      workers' v
    rw [hreport, hreport', hevents, hevents', houtcomes]
    exact ⟨rfl, rfl⟩

/-! ## Steady outcomes -/

section Steady

variable {net : Network} {page : Text → Except Error Text}

theorem outcome_of_steady (hsteady : Http.Steady net page) (s : Service) (v : Visits) :
    (outcome net s v).1 = outcomeOf s (page s.page) := by
  rw [← hsteady v s.page]
  rfl

theorem ownOutcomes_of_steady (hsteady : Http.Steady net page) {l : Listing}
    {endings : List Ending} (h : List.Forall₂ (MayEnd (work net)) l endings) :
    Pool.ownOutcomes l endings = l.map fun s => outcomeOf s (page s.page) := by
  induction h with
  | nil => rfl
  | cons hhead htail ih =>
    obtain ⟨v, rfl⟩ := hhead
    rw [Pool.ownOutcomes, List.zipWith_cons_cons, List.map_cons, ← hsteady v, ← ih]
    rfl

/-- On a steady network each outcome is that of its own page, whatever the schedule. -/
theorem outcomes_of_steady (hsteady : Http.Steady net page) (schedule : Pool.Schedule)
    (workers : Nat) (l : Listing) (v : Visits) :
    (outcomes net schedule workers l v).1 = l.map fun s => outcomeOf s (page s.page) := by
  obtain ⟨moves, hhistory, -⟩ := Pool.run_follows (work net) schedule workers l v
  obtain ⟨endings, hown, -, -, hcollected⟩ := hhistory.accounts.settled (Pool.run_isDone ..)
  exact (Pool.outcomes_eq hown.length_eq.symm hcollected).trans (ownOutcomes_of_steady hsteady hown)

end Steady

/-! ## Every schedule -/

/-- **Every schedule answers in the order of the listing.** -/
theorem every_schedule_answers_in_order :
    (∀ (possible : Service → Ending → Prop) (ids : Numbering) (workers : Nat) (l : Listing)
      (moves : List Pool.Move) (p : Pool), History possible (Pool.start ids workers l) moves p →
      p.running.length ≤ max workers 1 ∧
      (p.isDone = true → ∃ endings, List.Forall₂ possible l endings ∧
        (Pool.started moves).Perm (Pool.tasks ids l) ∧
        (Pool.finished moves).Perm ((Pool.tasks ids l).zip endings) ∧
        p.outcomes = List.zipWith (fun s e => e.outcome s.name) l endings ∧
        ∀ sorted : List (Nat × Outcome), sorted.Perm p.collected →
          sorted.Pairwise (fun a b => a.1 ≤ b.1) → sorted.map (·.2) = p.outcomes)) ∧
    (∀ (possible : Service → Ending → Prop) (ids ids' : Numbering) (workers workers' : Nat)
      (l : Listing) (moves moves' : List Pool.Move) (p p' : Pool),
      History possible (Pool.start ids workers l) moves p →
      History possible (Pool.start ids' workers' l) moves' p' →
      p.isDone = true → p'.isDone = true →
      (∀ s ∈ l, ∀ e e', possible s e → possible s e' → e = e') →
      reportOf p.outcomes = reportOf p'.outcomes ∧
        p.outcomes.filterMap Outcome.event? = p'.outcomes.filterMap Outcome.event?) ∧
    (∀ (net : Network) (schedule : Pool.Schedule) (workers : Nat) (l : Listing) (v : Visits),
      (Pool.run (work net) schedule workers l v).1.isDone = true ∧
      (outcomes net schedule workers l v).1 = (Pool.run (work net) schedule workers l v).1.outcomes ∧
      ∃ moves, History (MayEnd (work net)) (Pool.start schedule.ids workers l) moves
        (Pool.run (work net) schedule workers l v).1) ∧
    (∀ (net : Network) (c : Config) (t : Trace) (schedule : Pool.Schedule) (l : Listing)
      (v : Visits), listing net c t.visits = (.ok l, v) → c.workers ≤ Pool.maxWorkers →
      ∃ t', report net c t schedule = (.ok (reportOf (outcomes net schedule c.workers l v).1), t') ∧
        t'.events = t.events ++ .servicesFound l.length ::
          (outcomes net schedule c.workers l v).1.filterMap Outcome.event?) ∧
    (∀ (net : Network) (c : Config) (t : Trace) (schedule schedule' : Pool.Schedule)
      (workers workers' : Nat), workers ≤ Pool.maxWorkers → workers' ≤ Pool.maxWorkers →
      (∀ l v, listing net c t.visits = (.ok l, v) →
        ∀ s ∈ l, ∀ v v', (outcome net s v).1 = (outcome net s v').1) →
      (report net { c with workers := workers } t schedule).1 =
          (report net { c with workers := workers' } t schedule').1 ∧
        (report net { c with workers := workers } t schedule).2.events =
          (report net { c with workers := workers' } t schedule').2.events) := by
  refine ⟨fun possible ids workers l moves p h => ?_,
    fun possible ids ids' workers workers' l moves moves' p p' h h' hdone hdone' hunique => ?_,
    fun net schedule workers l v => ?_,
    fun net c t schedule l v hlisted hworkers => report_of_listed hlisted hworkers schedule,
    fun net c t schedule schedule' workers workers' hworkers hworkers' hstable =>
      report_eq_of_stable hstable schedule schedule' hworkers hworkers'⟩
  · have haccounts := h.accounts
    refine ⟨haccounts.limit ▸ haccounts.running_le, fun hdone => ?_⟩
    obtain ⟨endings, hown, hstarted, hfinished, hcollected⟩ := haccounts.settled hdone
    have hlength := hown.length_eq.symm
    have houtcomes := Pool.outcomes_eq hlength hcollected
    refine ⟨endings, hown, hstarted, hfinished, houtcomes, fun sorted hperm hsorted => ?_⟩
    rw [houtcomes, Pool.outcomes_of_perm hlength hcollected hperm hsorted]
  · rw [outcomes_unique h h' hdone hdone' hunique]
    exact ⟨rfl, rfl⟩
  · obtain ⟨moves, hhistory, -⟩ := Pool.run_follows (work net) schedule workers l v
    exact ⟨Pool.run_isDone .., rfl, moves, hhistory⟩

/-! ## Two pages that are missing -/

/-- A site that lists two services and has no pages of them. -/
def bareSite : Http.Site where
  pages := [("http://[::1]/s".toList, [Run.smallAnswer ("<table><tr><tr><td>AWS Lambda<td><td><td>" ++
    "<td><td><td><a href=l>Yes</a><tr><td>Amazon S3<td><td><td><td><td><td><a href=m>Yes</a>")])]

/-- The services that it lists. -/
def bareServices : Listing :=
  [⟨"AWS Lambda".toList, "http://[::1]/l".toList⟩, ⟨"Amazon S3".toList, "http://[::1]/m".toList⟩]

/-- A schedule in which the second of two tasks is finished and collected first. -/
def overtaking : Pool.Schedule where
  turns := [.start 0, .start 1, .finish 1, .collect 0]

/-- The failures are told in the order of the listing although the second one comes first. -/
theorem every_schedule_answers_in_order_overtaking :
    (report bareSite.network { Run.smallConfig with workers := 2 } {} overtaking).2.events =
      [.servicesFound 2,
        .serviceFailed "AWS Lambda".toList
          "Request to http://[::1]/l returned 404 Not Found".toList,
        .serviceFailed "Amazon S3".toList
          "Request to http://[::1]/m returned 404 Not Found".toList] := by
  obtain ⟨-, -, -, hlisted, hreport⟩ := every_schedule_answers_in_order
  have hsteady := Http.Site.steady_of_single (s := bareSite) (by decide)
  have hstable : ∀ l v, listing bareSite.network Run.smallConfig Index.empty = (.ok l, v) →
      ∀ s ∈ l, ∀ v v', (outcome bareSite.network s v).1 = (outcome bareSite.network s v').1 := by
    intro l v _ s _ v v'
    rw [outcome_of_steady hsteady, outcome_of_steady hsteady]
  have hfetched : listing bareSite.network Run.smallConfig Index.empty = (.ok bareServices, _) :=
    listing_of_toOption (by decide +kernel)
  obtain ⟨t', hdone, htold⟩ := hlisted _ Run.smallConfig {} {} _ _ hfetched (by decide)
  obtain ⟨-, hevents⟩ := hreport bareSite.network Run.smallConfig {} overtaking {} 2
    Run.smallConfig.workers (by decide) (by decide) hstable
  rw [outcomes_of_steady hsteady] at htold
  calc (report bareSite.network { Run.smallConfig with workers := 2 } {} overtaking).2.events
      = (report bareSite.network Run.smallConfig {} {}).2.events := hevents
    _ = t'.events := by rw [hdone]
    _ = _ := htold
    _ = _ := by decide

end Roster.Documentation
