import Roster.Proofs.Provenance

/-!
# The failure of one page

Pages of services fail, and services with different names may share a key. The failure of one page
must not touch what is reported for other keys, and it must let a service through that was listed
before under the same key.

**Theorem (`failures_are_contained`).** Let every URL give the same whenever it is fetched. The
report holds under each key what the page of the last service with this key mentions, among those
whose pages mention a principal. So it does not change when the other services are left out of the
listing, and a page that fails changes nothing but what stands under the key of its own service. One
event is told of each service without a principal, in the order of the listing.

On such a network the outcomes of a listing are those of its services one by one
(`outcomes_of_steady`), and the report is the index of the mentions in their order
(`found_of_steady`). What is left are facts about such an index.
-/

namespace Roster

open Http (Network Visits)

namespace Documentation

/-! ## What each page gives -/

/-- What a service mentions, if its page mentions a principal. -/
def mention? (page : Text → Except Error Text) (s : Service) : Option Mention :=
  match page s.page with
  | .ok html => (Page.principal? html).map fun principal => ⟨principal, s.page⟩
  | .error _ => none

/-- The event that tells of a service without a principal. -/
def told (page : Text → Except Error Text) (s : Service) : Event :=
  match page s.page with
  | .ok _ => .noPrincipal s.name
  | .error e => .serviceFailed s.name e.message

/-- The mention of a service under the key of its name. -/
def named? (page : Text → Except Error Text) (s : Service) : Option (Text × Mention) :=
  (mention? page s).map fun m => (Name.key s.name, m)

/-- The report on the pages of a listing. -/
def found (net : Network) (schedule : Pool.Schedule) (workers : Nat) (l : Listing) (v : Visits) :
    Report :=
  reportOf (outcomes net schedule workers l v).1

variable {net : Network} {page : Text → Except Error Text}

theorem mention?_outcomeOf_page (s : Service) :
    (outcomeOf s (page s.page)).mention? = mention? page s := by
  rw [mention?]
  cases page s.page with
  | error e => rfl
  | ok html =>
    dsimp only [outcomeOf]
    cases Page.principal? html <;> rfl

theorem event?_outcomeOf_page (s : Service) :
    (outcomeOf s (page s.page)).event? =
      match mention? page s with
      | some _ => none
      | none => some (told page s) := by
  rw [mention?, told]
  cases page s.page with
  | error e => rfl
  | ok html =>
    dsimp only [outcomeOf]
    cases Page.principal? html <;> rfl

/-! ## Steady reports -/

/-- The report on a steady network is the index of the mentions in the order of the listing. -/
theorem found_of_steady (hsteady : Http.Steady net page) (schedule : Pool.Schedule)
    (workers : Nat) (l : Listing) (v : Visits) :
    found net schedule workers l v = Index.ofList (l.filterMap (named? page)) := by
  rw [found, outcomes_of_steady hsteady, reportOf, List.filterMap_map]
  refine congrArg Index.ofList (List.filterMap_congr fun s _ => ?_)
  simp only [Function.comp_apply, mention?_outcomeOf_page, service_outcomeOf, named?]

theorem events_of_steady (hsteady : Http.Steady net page) (schedule : Pool.Schedule)
    (workers : Nat) (l : Listing) (v : Visits) :
    (outcomes net schedule workers l v).1.filterMap Outcome.event? =
      (l.filter fun s => (mention? page s).isNone).map (told page) := by
  rw [outcomes_of_steady hsteady, List.filterMap_map]
  induction l with
  | nil => rfl
  | cons s l ih =>
    rw [List.filterMap_cons, Function.comp_apply, event?_outcomeOf_page, List.filter_cons, ih]
    cases mention? page s <;> rfl

/-! ## Mentions in the order of a listing -/

theorem named?_eq_some_iff {s : Service} {k : Text} {m : Mention} :
    named? page s = some (k, m) ↔ mention? page s = some m ∧ Name.key s.name = k := by
  rw [named?, Option.map_eq_some_iff]
  constructor
  · rintro ⟨m', hm', heq⟩
    obtain ⟨hkey, rfl⟩ := Prod.mk.inj heq
    exact ⟨hm', hkey⟩
  · rintro ⟨hm, rfl⟩
    exact ⟨m, hm, rfl⟩

theorem named?_isSome (s : Service) : (named? page s).isSome = (mention? page s).isSome :=
  Option.isSome_map

theorem forall_mem_named_iff {l : Listing} {k : Text} :
    (∀ e ∈ l.filterMap (named? page), e.1 ≠ k) ↔
      ∀ s ∈ l, Name.key s.name = k → mention? page s = none := by
  constructor
  · intro h s hs hkey
    rw [Option.eq_none_iff_forall_not_mem]
    intro m hm
    exact h (k, m) (List.mem_filterMap.2 ⟨s, hs, named?_eq_some_iff.2 ⟨hm, hkey⟩⟩) rfl
  · rintro h ⟨k', m⟩ he rfl
    obtain ⟨s, hs, hnamed⟩ := List.mem_filterMap.1 he
    obtain ⟨hm, hkey⟩ := named?_eq_some_iff.1 hnamed
    exact nomatch hm.symm.trans (h s hs hkey)

/-- **Under each key stands the last mention.** -/
theorem find?_named_iff {l : Listing} {k : Text} {m : Mention} :
    (Index.ofList (l.filterMap (named? page))).find? k = some m ↔
      ∃ front s back, l = front ++ s :: back ∧ mention? page s = some m ∧ Name.key s.name = k ∧
        ∀ s' ∈ back, Name.key s'.name = k → mention? page s' = none := by
  rw [Index.find?_ofList_eq_some_iff]
  constructor
  · rintro ⟨before, after, hsplit, hafter⟩
    obtain ⟨front, rest, rfl, -, hrest⟩ := List.filterMap_eq_append_iff.1 hsplit
    obtain ⟨skipped, s, back, rfl, -, hnamed, rfl⟩ := List.filterMap_eq_cons_iff.1 hrest
    obtain ⟨hm, hkey⟩ := named?_eq_some_iff.1 hnamed
    refine ⟨front ++ skipped, s, back, ?_, hm, hkey, forall_mem_named_iff.1 hafter⟩
    rw [List.append_assoc]
  · rintro ⟨front, s, back, rfl, hm, hkey, hback⟩
    refine ⟨front.filterMap (named? page), back.filterMap (named? page), ?_,
      forall_mem_named_iff.2 hback⟩
    rw [List.filterMap_append, List.filterMap_cons_some (named?_eq_some_iff.2 ⟨hm, hkey⟩)]

theorem filterMap_named_filter (l : Listing) :
    (l.filter fun s => (mention? page s).isSome).filterMap (named? page) =
      l.filterMap (named? page) := by
  rw [List.filterMap_filter]
  refine List.filterMap_congr fun s _ => ?_
  rw [← named?_isSome]
  cases named? page s <;> rfl

theorem filterMap_named_congr {page' : Text → Except Error Text} {l : Listing}
    (h : ∀ s ∈ l, page' s.page = page s.page) :
    l.filterMap (named? page') = l.filterMap (named? page) := by
  refine List.filterMap_congr fun s hs => ?_
  rw [named?, named?, mention?, mention?, h s hs]

theorem find?_named_of_ne {front back : Listing} {s : Service} {k : Text}
    (hk : k ≠ Name.key s.name) :
    (Index.ofList ((front ++ s :: back).filterMap (named? page))).find? k =
      (Index.ofList ((front ++ back).filterMap (named? page))).find? k := by
  have hown : ∀ e ∈ [s].filterMap (named? page), e.1 ≠ k := by
    refine forall_mem_named_iff.2 fun s' hs' hkey => ?_
    obtain rfl := List.mem_singleton.1 hs'
    exact absurd hkey.symm hk
  rw [← List.singleton_append, ← List.append_assoc, List.filterMap_append, List.filterMap_append,
    Index.find?_ofList_append_of_ne hown, List.filterMap_append]

theorem keys_named (l : Listing) :
    (l.filterMap (named? page)).map (·.1) =
      (l.filter fun s => (mention? page s).isSome).map fun s => Name.key s.name := by
  induction l with
  | nil => rfl
  | cons s l ih =>
    rw [List.filter_cons]
    cases hm : mention? page s with
    | none =>
      rw [List.filterMap_cons_none (by rw [named?, hm, Option.map_none]), ih]
      rfl
    | some m =>
      rw [List.filterMap_cons_some (named?_eq_some_iff.2 ⟨hm, rfl⟩), List.map_cons, ih]
      rfl

/-! ## Containment -/

/-- One URL fails that may not have failed before, and all others give what they gave. -/
structure FailsAt (page page' : Text → Except Error Text) (url : Text) : Prop where
  fails : ∃ e, page' url = .error e
  others : ∀ url', url' ≠ url → page' url' = page url'

theorem filterMap_named_of_failsAt {page' : Text → Except Error Text} {front back : Listing}
    {s : Service} (h : FailsAt page page' s.page) (hpages : ∀ s' ∈ front ++ back, s'.page ≠ s.page) :
    (front ++ s :: back).filterMap (named? page') = (front ++ back).filterMap (named? page) := by
  obtain ⟨e, herror⟩ := h.fails
  have hnone : named? page' s = none := by rw [named?, mention?, herror, Option.map_none]
  rw [List.filterMap_append, List.filterMap_cons_none hnone, ← List.filterMap_append]
  exact filterMap_named_congr fun s' hs' => h.others s'.page (hpages s' hs')

/-- **Failures are contained.** On a network where every URL gives the same whenever it is fetched,
a scrape reports of each key what the last service with it mentions. Leaving out the services that
mention nothing changes nothing, and the order of the listing only matters where services share a
key. A page that fails leaves what the listing reports without its service, so no other key
changes. -/
theorem failures_are_contained {net : Network} {page : Text → Except Error Text}
    (hsteady : Http.Steady net page) :
    (∀ (c : Config) (t : Trace) (schedule : Pool.Schedule) (l : Listing) (v : Visits),
      listing net c t.visits = (.ok l, v) → c.workers ≤ Pool.maxWorkers →
      ∃ t', report net c t schedule = (.ok (found net schedule c.workers l v), t') ∧
        t'.events = t.events ++ .servicesFound l.length ::
          (l.filter fun s => (mention? page s).isNone).map (told page)) ∧
    (∀ s, (told page s).isWarning = true ↔ ∃ e, page s.page = .error e) ∧
    ∀ (schedule schedule' : Pool.Schedule) (workers workers' : Nat) (l : Listing) (v v' : Visits),
      (∀ k m, (found net schedule workers l v).find? k = some m ↔
        ∃ front s back, l = front ++ s :: back ∧ mention? page s = some m ∧
          Name.key s.name = k ∧
          ∀ s' ∈ back, Name.key s'.name = k → mention? page s' = none) ∧
      found net schedule' workers' (l.filter fun s => (mention? page s).isSome) v' =
        found net schedule workers l v ∧
      (∀ l' : Listing, l'.Perm l →
        ((l.filter fun s => (mention? page s).isSome).map fun s => Name.key s.name).Nodup →
        found net schedule' workers' l' v' = found net schedule workers l v) ∧
      ∀ (net' : Network) (page' : Text → Except Error Text) (front back : Listing) (s : Service),
        l = front ++ s :: back → Http.Steady net' page' → FailsAt page page' s.page →
        (∀ s' ∈ front ++ back, s'.page ≠ s.page) →
        found net' schedule' workers' l v' = found net schedule workers (front ++ back) v ∧
        ∀ k, k ≠ Name.key s.name →
          (found net' schedule' workers' l v').find? k =
            (found net schedule workers l v).find? k := by
  refine ⟨fun c t schedule l v hlisting hworkers => ?_, fun s => ?_,
    fun schedule schedule' workers workers' l v v' => ⟨fun k m => ?_, ?_, fun l' hperm hnodup => ?_,
      fun net' page' front back s hl hsteady' hfails hpages => ?_⟩⟩
  · obtain ⟨t', hdone, hevents⟩ := report_of_listed hlisting hworkers schedule
    exact ⟨t', hdone, by rw [hevents, events_of_steady hsteady]⟩
  · rw [told]
    cases page s.page with
    | ok html => simp [Event.isWarning]
    | error e => simp [Event.isWarning]
  · rw [found_of_steady hsteady, find?_named_iff]
  · rw [found_of_steady hsteady, found_of_steady hsteady, filterMap_named_filter]
  · rw [found_of_steady hsteady, found_of_steady hsteady]
    exact Index.ofList_eq_of_perm (hperm.filterMap _) (keys_named l ▸ hnodup)
  · -- The report does without the service that fails, and the other keys do not miss it.
    have hfailed : found net' schedule' workers' l v' =
        found net schedule workers (front ++ back) v := by
      rw [found_of_steady hsteady, found_of_steady hsteady', hl,
        filterMap_named_of_failsAt hfails hpages]
    refine ⟨hfailed, fun k hk => ?_⟩
    rw [hfailed, found_of_steady hsteady, found_of_steady hsteady, hl, find?_named_of_ne hk]

/-! ## A listing whose last page is missing -/

/-- A site that lists two services with one key. The page of the second one is not there. -/
def collidingSite : Http.Site where
  pages := [
    ("http://[::1]/s".toList, [Run.smallAnswer ("<table><tr><tr><td>AWS Lambda<td><td><td><td>" ++
      "<td><td><a href=l>Yes</a><tr><td>Lambda<td><td><td><td><td><td><a href=m>Yes</a></table>")]),
    ("http://[::1]/l".toList, [Run.smallAnswer "<p>It trusts the lambda.amazonaws.com service."])]

/-- The services that it lists. -/
def collidingServices : Listing :=
  [⟨"AWS Lambda".toList, "http://[::1]/l".toList⟩, ⟨"Lambda".toList, "http://[::1]/m".toList⟩]

/-- The page of the first service shows through, and the second one is told of. -/
theorem failures_are_contained_colliding :
    ∃ report t', Documentation.report collidingSite.network Run.smallConfig {} {} =
        (.ok report, t') ∧
      report.find? "lambda".toList =
        some ⟨"lambda.amazonaws.com".toList, "http://[::1]/l".toList⟩ ∧
      t'.events = [.servicesFound 2, .serviceFailed "Lambda".toList
        "Request to http://[::1]/m returned 404 Not Found".toList] := by
  have hsteady := Http.Site.steady_of_single (s := collidingSite) (by decide)
  obtain ⟨hreport, -, hfound⟩ := failures_are_contained hsteady
  have hfetched : listing collidingSite.network Run.smallConfig Index.empty =
      (.ok collidingServices, _) := listing_of_toOption (by decide +kernel)
  obtain ⟨t', hdone, hevents⟩ := hreport Run.smallConfig {} {} _ _ hfetched (by decide)
  refine ⟨_, t', hdone, ?_, hevents.trans (by decide +kernel)⟩
  obtain ⟨hlast, -⟩ := hfound {} {} Run.smallConfig.workers 1 collidingServices _ Index.empty
  exact (hlast _ _).2 ⟨[], _, _, rfl, by decide +kernel, by decide +kernel, by decide +kernel⟩

end Documentation

end Roster
