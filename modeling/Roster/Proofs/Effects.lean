import Roster.Proofs.Provenance
import Roster.Proofs.Store

/-!
# What a run leaves behind

A run reads its settings, the listing, the pages and the script of the policy generator, and touches
the store last. So whatever ends it early has changed no file, and how far it came shows in the
requests that it made.

**Theorem (`Run.process_isOk_iff`).** A run succeeds exactly if its settings are valid, the listing
can be fetched, a pool of that size can be made, and the store takes the file. The policy generator
is not among these.

**Theorem (`Run.all_or_nothing`).** A run that fails changes no file, and one that succeeds changes
only the file that it answers. A policy generator that fails is one with nothing to declare.
-/

namespace Roster

open Http (Network)

namespace Documentation

/-! ## Fetching the listing -/

theorem report_of_badUrl {c : Config} {f : Url.Fault} (h : listingUrl c = .error f) (net : Network)
    (t : Trace) (schedule : Pool.Schedule) :
    report net c t schedule = (.error (.badUrl f), t) := by
  rw [report, listing, h]
  rfl

theorem report_of_unfetched {net : Network} {c : Config} {t : Trace} {base page : Url} {e : Error}
    {v : Http.Visits} (hurl : listingUrl c = .ok (base, page))
    (h : Http.fetch net t.visits page.toText = (.error e, v)) (schedule : Pool.Schedule) :
    report net c t schedule = (.error e, t.visiting v) := by
  rw [report, listing, hurl]
  simp only [h]

/-- The documentation is reported exactly if its listing is fetched and a pool can be made. -/
theorem report_isOk_iff (net : Network) (c : Config) (t : Trace) (schedule : Pool.Schedule) :
    (∃ found, (report net c t schedule).1 = .ok found) ↔
      (∃ base page html, listingUrl c = .ok (base, page) ∧
        (Http.fetch net t.visits page.toText).1 = .ok html) ∧ c.workers ≤ Pool.maxWorkers := by
  cases hurl : listingUrl c with
  | error f =>
    rw [report_of_badUrl hurl]
    constructor
    · rintro ⟨_, h⟩
      cases h
    · rintro ⟨⟨_, _, _, h, _⟩, _⟩
      cases h
  | ok urls =>
    obtain ⟨base, page⟩ := urls
    rcases hfetch : Http.fetch net t.visits page.toText with ⟨e | html, v⟩
    · rw [report_of_unfetched hurl hfetch]
      constructor
      · rintro ⟨_, h⟩
        cases h
      · rintro ⟨⟨_, _, html, heq, h⟩, _⟩
        cases heq
        rw [hfetch] at h
        cases h
    · simp only [report, listing, hurl, hfetch]
      split_ifs with hworkers
      · constructor
        · rintro ⟨_, h⟩
          cases h
        · rintro ⟨_, h⟩
          exact absurd hworkers (Nat.not_lt.2 h)
      · refine ⟨fun _ => ⟨⟨base, page, html, rfl, ?_⟩, Nat.not_lt.1 hworkers⟩, fun _ => ⟨_, rfl⟩⟩
        rw [hfetch]

end Documentation

namespace Run

variable {net net' : Network} {c : Config} {s s' : Store} {t t' : Trace} {schedule : Pool.Schedule}

/-! ## The stages of a run -/

theorem process_of_invalid {e : Error} (h : c.validate = .error e) (net : Network) (s : Store)
    (t : Trace) (schedule : Pool.Schedule) : process net c s t schedule = (.error e, s, t) := by
  rw [process, h]

theorem process_of_unreported {e : Error} (hvalid : c.validate = .ok ())
    (h : Documentation.report net c (t.tell [.started]) schedule = (.error e, t')) (s : Store) :
    process net c s t schedule = (.error e, s, t') := by
  rw [process, hvalid]
  simp only [h]

theorem process_of_reported {documentation : Report} (hvalid : c.validate = .ok ())
    (h : Documentation.report net c (t.tell [.started]) schedule = (.ok documentation, t'))
    (s : Store) :
    ∃ t'', process net c s t schedule = finish c documentation
      (Policy.collect (fun v => Http.fetch net v c.policyUrl) c.policyUrl t'.visits).1 s t'' := by
  rw [process, hvalid]
  simp only [h]
  exact ⟨_, rfl⟩

/-- **The stages of a run:** it ends with its settings, with the documentation, or in the store. -/
theorem process_cases (net : Network) (c : Config) (s : Store) (t : Trace)
    (schedule : Pool.Schedule) :
    (∃ e, c.validate = .error e ∧ process net c s t schedule = (.error e, s, t)) ∨
    (∃ e t', c.validate = .ok () ∧
      Documentation.report net c (t.tell [.started]) schedule = (.error e, t') ∧
      process net c s t schedule = (.error e, s, t')) ∨
    (∃ documentation t' policy t'', c.validate = .ok () ∧
      Documentation.report net c (t.tell [.started]) schedule = (.ok documentation, t') ∧
      process net c s t schedule = finish c documentation policy s t'') := by
  cases hvalid : c.validate with
  | error e => exact .inl ⟨e, rfl, process_of_invalid hvalid net s t schedule⟩
  | ok _ =>
    right
    rcases hreport : Documentation.report net c (t.tell [.started]) schedule with ⟨e | found, t'⟩
    · exact .inl ⟨e, t', rfl, rfl, process_of_unreported hvalid hreport s⟩
    · obtain ⟨t'', hfinish⟩ := process_of_reported hvalid hreport s
      exact .inr ⟨found, t', _, t'', rfl, rfl, hfinish⟩

/-! ## Finishing -/

theorem finish_isOk_iff (c : Config) (documentation policy : Report) (s : Store) (t : Trace) :
    (∃ run, (finish c documentation policy s t).1 = .ok run) ↔
      (s.write c.outputPath []).2 = .ok () := by
  rw [s.write_refusal_irrelevant c.outputPath [] (Merged.ofReports documentation policy).toText]
  simp only [finish, write]
  rcases s.write c.outputPath (Merged.ofReports documentation policy).toText with ⟨s', r | u⟩
  · constructor
    · rintro ⟨_, h⟩
      cases h
    · intro h
      cases h
  · exact ⟨fun _ => rfl, fun _ => ⟨_, rfl⟩⟩

theorem file?_of_finish_error {documentation policy : Report} {e : Error}
    (h : finish c documentation policy s t = (.error e, s', t')) (q : Place) :
    s'.file? q = s.file? q := by
  simp only [finish, write] at h
  split at h
  · next hrefused =>
    obtain ⟨-, rfl, -⟩ := h
    exact Store.file?_of_write_refused hrefused q
  · cases h

theorem finish_ok {documentation policy : Report} {run : Run}
    (h : finish c documentation policy s t = (.ok run, s', t')) :
    run = ⟨c.outputPath, .ofReports documentation policy, .of (.ofReports documentation policy)⟩ ∧
      s.write run.path run.merged.toText = (s', .ok ()) := by
  simp only [finish, write] at h
  split at h
  · cases h
  · next hwritten =>
    obtain ⟨hrun, hrest⟩ := Prod.mk.inj h
    obtain ⟨rfl, -⟩ := Prod.mk.inj hrest
    obtain rfl := Except.ok.inj hrun
    exact ⟨rfl, hwritten⟩

/-! ## Whole runs -/

/-- **When a run succeeds.** -/
theorem process_isOk_iff (net : Network) (c : Config) (s : Store) (t : Trace)
    (schedule : Pool.Schedule) :
    (∃ run, (process net c s t schedule).1 = .ok run) ↔
      c.validate = .ok () ∧
      (∃ base page html, Documentation.listingUrl c = .ok (base, page) ∧
        (Http.fetch net t.visits page.toText).1 = .ok html) ∧
      c.workers ≤ Pool.maxWorkers ∧ (s.write c.outputPath []).2 = .ok () := by
  have hreported := Documentation.report_isOk_iff net c (t.tell [.started]) schedule
  rcases process_cases net c s t schedule with ⟨e, hvalid, hrun⟩ | ⟨e, t', -, hreport, hrun⟩ |
    ⟨documentation, t', policy, t'', hvalid, hreport, hrun⟩
  · rw [hrun, hvalid]
    exact ⟨fun ⟨_, h⟩ => (nomatch h), fun ⟨h, _⟩ => (nomatch h)⟩
  · rw [hrun]
    refine ⟨fun ⟨_, h⟩ => (nomatch h), fun ⟨_, hlisting, hworkers, _⟩ => ?_⟩
    obtain ⟨found, hfound⟩ := hreported.2 ⟨hlisting, hworkers⟩
    rw [hreport] at hfound
    exact nomatch hfound
  · obtain ⟨hlisting, hworkers⟩ := hreported.1 ⟨documentation, by rw [hreport]⟩
    rw [hrun, finish_isOk_iff]
    exact ⟨fun h => ⟨hvalid, hlisting, hworkers, h⟩, fun h => h.2.2.2⟩

/-- **A run that fails changes no file.** -/
theorem file?_of_process_error {e : Error}
    (h : process net c s t schedule = (.error e, s', t')) (q : Place) : s'.file? q = s.file? q := by
  rcases process_cases net c s t schedule with ⟨e, -, hrun⟩ | ⟨e, t', -, -, hrun⟩ |
    ⟨documentation, t', policy, t'', -, -, hrun⟩
  · obtain ⟨-, rfl, -⟩ := hrun.symm.trans h
    rfl
  · obtain ⟨-, rfl, -⟩ := hrun.symm.trans h
    rfl
  · exact file?_of_finish_error (hrun.symm.trans h) q

/-- **A run that succeeds changes one file,** which holds the text of what was merged. -/
theorem process_ok {run : Run} (h : process net c s t schedule = (.ok run, s', t')) :
    run.path = c.outputPath ∧ run.summary = .of run.merged ∧
      s'.read run.path = .ok run.merged.toText ∧
      ∃ place, s'.follow [] (Store.steps run.path) = .ok place ∧
        s'.file? place = some run.merged.toText ∧ ∀ q ≠ place, s'.file? q = s.file? q := by
  rcases process_cases net c s t schedule with ⟨e, -, hrun⟩ | ⟨e, t', -, -, hrun⟩ |
    ⟨documentation, t', policy, t'', -, -, hrun⟩
  · exact nomatch (Prod.mk.inj (hrun.symm.trans h)).1
  · exact nomatch (Prod.mk.inj (hrun.symm.trans h)).1
  · obtain ⟨hparts, hwritten⟩ := finish_ok (hrun.symm.trans h)
    refine ⟨by rw [hparts], by rw [hparts], Store.write_done hwritten⟩

theorem process_eq_of_policy {documentation : Report} {t₁ t₂ : Trace}
    (h₁ : Documentation.report net c (t.tell [.started]) schedule = (.ok documentation, t₁))
    (h₂ : Documentation.report net' c (t.tell [.started]) schedule = (.ok documentation, t₂))
    (hpolicy : (Policy.collect (fun v => Http.fetch net v c.policyUrl) c.policyUrl t₁.visits).1 =
      (Policy.collect (fun v => Http.fetch net' v c.policyUrl) c.policyUrl t₂.visits).1)
    (s : Store) :
    (process net c s t schedule).1 = (process net' c s t schedule).1 ∧
      (process net c s t schedule).2.1 = (process net' c s t schedule).2.1 := by
  cases hvalid : c.validate with
  | error e =>
    rw [process_of_invalid hvalid, process_of_invalid hvalid]
    exact ⟨rfl, rfl⟩
  | ok _ =>
    obtain ⟨u₁, hrun₁⟩ := process_of_reported hvalid h₁ s
    obtain ⟨u₂, hrun₂⟩ := process_of_reported hvalid h₂ s
    rw [hrun₁, hrun₂, hpolicy]
    simp only [finish]
    split <;> exact ⟨rfl, rfl⟩

/-- **A run leaves everything or nothing.** If it fails, no file has changed. Invalid settings and
URLs end it before any request, and a listing that cannot be fetched before any other one. If it
succeeds, its file holds the text of the records that it answers, the summary is theirs, and no
other file has changed. It succeeds exactly if its settings and URLs are valid, the listing is
fetched, a pool can be made and the store takes the file. If the policy generator fails, the result
and the files are those of a run whose script declares an empty map of services. -/
theorem all_or_nothing (c : Config) (s : Store) (t : Trace) (schedule : Pool.Schedule) :
    (∀ net e s' t', process net c s t schedule = (.error e, s', t') →
      ∀ q, s'.file? q = s.file? q) ∧
    (∀ net e, c.validate = .error e → process net c s t schedule = (.error e, s, t)) ∧
    (∀ net f, c.validate = .ok () → Documentation.listingUrl c = .error f →
      process net c s t schedule = (.error (.badUrl f), s, t.tell [.started])) ∧
    (∀ net base page e v, c.validate = .ok () → Documentation.listingUrl c = .ok (base, page) →
      Http.fetch net t.visits page.toText = (.error e, v) →
      process net c s t schedule = (.error e, s, (t.tell [.started]).visiting v)) ∧
    (∀ net run s' t', process net c s t schedule = (.ok run, s', t') →
      run.path = c.outputPath ∧ run.summary = .of run.merged ∧
        s'.read run.path = .ok run.merged.toText ∧
        ∃ place, s'.follow [] (Store.steps run.path) = .ok place ∧
          s'.file? place = some run.merged.toText ∧ ∀ q ≠ place, s'.file? q = s.file? q) ∧
    (∀ net, (∃ run, (process net c s t schedule).1 = .ok run) ↔
      c.validate = .ok () ∧
      (∃ base page html, Documentation.listingUrl c = .ok (base, page) ∧
        (Http.fetch net t.visits page.toText).1 = .ok html) ∧
      c.workers ≤ Pool.maxWorkers ∧ (s.write c.outputPath []).2 = .ok ()) ∧
    (∀ net net' documentation t₁ t₂ script,
      Documentation.report net c (t.tell [.started]) schedule = (.ok documentation, t₁) →
      Documentation.report net' c (t.tell [.started]) schedule = (.ok documentation, t₂) →
      Policy.Fails (fun v => Http.fetch net v c.policyUrl) Policy.maxAttempts t₁.visits →
      Policy.Fetches (fun v => Http.fetch net' v c.policyUrl) Policy.maxAttempts t₂.visits script →
      Policy.DeclaresNothing script →
      (process net c s t schedule).1 = (process net' c s t schedule).1 ∧
        (process net c s t schedule).2.1 = (process net' c s t schedule).2.1) := by
  refine ⟨fun net e s' t' => file?_of_process_error,
    fun net e hinvalid => process_of_invalid hinvalid net s t schedule,
    fun net f hvalid hurl => process_of_unreported hvalid
      (Documentation.report_of_badUrl hurl net _ schedule) s,
    fun net base page e v hvalid hurl hfetch => process_of_unreported hvalid
      (Documentation.report_of_unfetched (t := t.tell [.started]) hurl hfetch schedule) s,
    fun net run s' t' => process_ok, fun net => process_isOk_iff net c s t schedule,
    fun net net' documentation t₁ t₂ script h₁ h₂ hfails hfetches hnothing => ?_⟩
  -- Both policy generators leave an empty report, and the stages behind see nothing else of them.
  refine process_eq_of_policy h₁ h₂ ?_ s
  rw [Policy.collect, Policy.collect, Policy.attempts_of_fails hfails,
    Policy.attempts_of_declaresNothing hfetches hnothing]

/-! ## Runs on a store in use -/

/-- The script of a policy generator that knows no service. -/
def emptyScript : String := "app.PolicyEditorConfig=" ++ "\x7b\"serviceMap\":\x7b\x7d\x7d"

/-- The network of the small site with another reply for one of its pages. -/
def altered (page : String) (reply : Http.Reply) : Network :=
  Http.Site.network ⟨(page.toList, [reply]) :: smallSite.pages⟩

/-- The listing is not there. -/
def withoutListing : Network := altered "http://[::1]/s" Http.Site.notFound

/-- The script of the policy generator is not there. -/
def withoutScript : Network := altered "http://[::1]/p" Http.Site.notFound

/-- The script of the policy generator knows no service. -/
def withEmptyScript : Network := altered "http://[::1]/p" (smallAnswer emptyScript)

/-- Where the notes of the store in use are. -/
def notes : Place := ["snippets".toList, "notes".toList]

/-- A store with notes and the result of an earlier run. -/
def usedStore : Store where
  entries := [
    (["snippets".toList], .directory),
    (notes, .file "kept".toList),
    (["snippets".toList, "service-principals.json".toList], .file "old".toList)]

/-- A store in which the name of the directory is that of a file. -/
def blockedStore : Store where
  entries := [(["snippets".toList], .file "kept".toList)]

/-- What the documentation of the small site says. -/
def smallReport : Report :=
  Index.ofList [("lambda".toList, ⟨"lambda.amazonaws.com".toList, "http://[::1]/l".toList⟩)]

theorem steady_altered (page : String) (reply : Http.Reply) :
    Http.Steady (altered page reply)
      fun url => (Http.fetch (altered page reply) Index.empty url).1 := by
  apply Http.Site.steady_of_single
  intro e he
  rcases List.mem_cons.1 he with rfl | he
  · rfl
  · have hsingle : ∀ e ∈ smallSite.pages, e.2.length = 1 := by decide
    exact hsingle e he

-- The altered sites never change, so the script may as well be fetched before all pages.
theorem fails_withoutScript (v : Http.Visits) :
    Policy.Fails (fun v => Http.fetch withoutScript v smallConfig.policyUrl) Policy.maxAttempts
      v := by
  apply Policy.fails_of_unfetched
  intro i _
  rw [withoutScript, steady_altered]
  decide

theorem fetches_withEmptyScript (v : Http.Visits) :
    Policy.Fetches (fun v => Http.fetch withEmptyScript v smallConfig.policyUrl) Policy.maxAttempts
      v emptyScript.toList := by
  apply Policy.Fetches.first
  rw [withEmptyScript, steady_altered]
  decide

theorem report_of_entries {net : Network} {c : Config} {t : Trace} {documentation : Report}
    (h : (Documentation.report net c t {}).1.toOption.map Index.entries =
      some documentation.entries) :
    Documentation.report net c t {} = (.ok documentation, (Documentation.report net c t {}).2) := by
  rcases hreport : Documentation.report net c t {} with ⟨e | found, t'⟩
  · rw [hreport] at h
    exact nomatch h
  · rw [hreport] at h
    obtain rfl : found = documentation := Index.ext (Option.some.inj h)
    rfl

theorem unfetched_of_withoutListing : ∃ base page e v,
    Documentation.listingUrl smallConfig = .ok (base, page) ∧
      Http.fetch withoutListing Index.empty page.toText = (.error e, v) := by
  have hpage : (Documentation.listingUrl smallConfig).toOption.map (fun urls => urls.2.toText) =
      some "http://[::1]/s".toList := by decide
  have hmissing : (Http.fetch withoutListing Index.empty "http://[::1]/s".toList).1.toOption =
      none := by decide
  rcases hurl : Documentation.listingUrl smallConfig with f | ⟨base, page⟩
  · rw [hurl] at hpage
    exact nomatch hpage
  · rw [hurl] at hpage
    rw [← Option.some.inj hpage] at hmissing
    rcases hfetch : Http.fetch withoutListing Index.empty page.toText with ⟨e | html, v⟩
    · exact ⟨base, page, e, v, rfl, hfetch⟩
    · rw [hfetch] at hmissing
      exact nomatch hmissing

/-- A run that cannot make the directory leaves the file in its place, and one whose listing is not
there leaves the notes and the earlier result. A run whose script is not there makes the result that
it makes where the script knows no service, and leaves the notes. -/
theorem all_or_nothing_used :
    (∃ e s' t', process smallSite.network smallConfig blockedStore {} {} = (.error e, s', t') ∧
      s'.file? ["snippets".toList] = some "kept".toList) ∧
    (∃ e t', process withoutListing smallConfig usedStore {} {} = (.error e, usedStore, t')) ∧
    ∃ run s' t', process withoutScript smallConfig usedStore {} {} = (.ok run, s', t') ∧
      s'.read smallConfig.outputPath = .ok run.merged.toText ∧
      s'.file? notes = some "kept".toList ∧
      (process withEmptyScript smallConfig usedStore {} {}).1 = .ok run ∧
      (process withEmptyScript smallConfig usedStore {} {}).2.1 = s' := by
  obtain ⟨hkept, -, -, -, -, hblocked, -⟩ := all_or_nothing smallConfig blockedStore {} {}
  obtain ⟨-, -, -, hunlisted, hdone, hsucceeds, hpolicy⟩ :=
    all_or_nothing smallConfig usedStore {} {}
  refine ⟨?_, ?_, ?_⟩
  · rcases hprocess : process smallSite.network smallConfig blockedStore {} {} with
      ⟨e | run, s', t'⟩
    · exact ⟨e, s', t', rfl, hkept _ _ _ _ hprocess _⟩
    · obtain ⟨-, -, -, hwritten⟩ := (hblocked smallSite.network).1 ⟨run, by rw [hprocess]⟩
      exact absurd hwritten (by decide)
  · obtain ⟨base, page, e, v, hurl, hfetch⟩ := unfetched_of_withoutListing
    exact ⟨e, _, hunlisted _ base page e v rfl hurl hfetch⟩
  · have hreport₁ : Documentation.report withoutScript smallConfig (Trace.tell {} [.started]) {} =
        (.ok smallReport, _) := report_of_entries (by decide +kernel)
    have hreport₂ : Documentation.report withEmptyScript smallConfig (Trace.tell {} [.started]) {} =
        (.ok smallReport, _) := report_of_entries (by decide +kernel)
    obtain ⟨hlisting, hworkers⟩ :=
      (Documentation.report_isOk_iff _ _ _ _).1 ⟨smallReport, by rw [hreport₁]⟩
    obtain ⟨run, hrun⟩ := (hsucceeds withoutScript).2 ⟨rfl, hlisting, hworkers, by decide⟩
    rcases hprocess : process withoutScript smallConfig usedStore {} {} with ⟨result, s', t'⟩
    rw [hprocess] at hrun
    obtain rfl : result = .ok run := hrun
    obtain ⟨hpath, -, hread, place, hfollow, -, hothers⟩ := hdone _ _ _ _ hprocess
    have hsteps : Store.steps run.path =
        ["snippets".toList, "service-principals.json".toList].map .name := by
      rw [hpath]
      decide
    rw [hsteps] at hfollow
    have hne : notes ≠ place := by
      rw [Store.follow_names hfollow]
      decide
    obtain ⟨hresult, hstore⟩ := hpolicy _ _ _ _ _ emptyScript.toList hreport₁ hreport₂
      (fails_withoutScript _) (fetches_withEmptyScript _)
      ⟨"\x7b\"serviceMap\":\x7b\x7d\x7d".toList, by decide, rfl⟩
    rw [hprocess] at hresult hstore
    exact ⟨run, s', t', rfl, hpath ▸ hread, hothers notes hne, hresult.symm, hstore.symm⟩

end Run

end Roster
