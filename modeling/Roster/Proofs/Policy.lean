import Mathlib.Tactic.SplitIfs
import Roster.Policy
import Roster.Proofs.Index

/-!
# What the policy generator reports is declared

The report of the policy generator comes from one script, the first that could be fetched. Every
mention in it is that of a service that the script declares.

**Theorem (`report_declares`).** A mention in the report of a script is declared by the script.

**Theorem (`attempts_fetch`).** A report with a mention in it is that of the script of the first
attempt that did not fail to fetch.

**Theorem (`attempts_of_fails`).** Attempts that fail, in whatever way, report what a script does
whose map of services is empty (`attempts_of_declaresNothing`): nothing.
-/

namespace Roster.Policy

/-- Under some key the script declares a service with this prefix, which is not empty, and this
name. -/
def Declares (script lead : Text) (name? : Option Text) : Prop :=
  ∃ payload services key value, payload? script = some payload ∧
    Json.readDocument readPayload payload = .ok services ∧ (key, value) ∈ services ∧
    declared? value = some (some lead, name?) ∧ lead ≠ []

/-! ## The report of a script -/

theorem listed?_declared {v : Json.Value} {l : Listed} (h : listed? v = some l) :
    ∃ lead name?, declared? v = some (some lead, name?) ∧ lead ≠ [] ∧
      l = ⟨name?.getD lead, lead ++ Principal.suffix⟩ := by
  rw [listed?] at h
  split at h
  · next lead name? hdeclared =>
    split_ifs at h with hempty
    refine ⟨lead, name?, hdeclared, ?_, (Option.some.inj h).symm⟩
    rintro rfl
    exact hempty rfl
  · exact nomatch h

theorem payload_of_report {script reference : Text} {found : Report} {event : Event}
    (h : report script reference = .ok (found, event)) :
    ∃ payload services, payload? script = some payload ∧
      Json.readDocument readPayload payload = .ok services ∧
      found = reportOf reference (services.filterMap fun e => listed? e.2) := by
  rw [report] at h
  cases hpayload : payload? script with
  | none =>
    rw [hpayload] at h
    exact nomatch h
  | some payload =>
    simp only [hpayload, services] at h
    cases hread : Json.readDocument readPayload payload with
    | error e =>
      rw [hread] at h
      exact nomatch h
    | ok services =>
      simp only [hread, Except.map] at h
      obtain ⟨rfl, -⟩ := Prod.mk.inj (Except.ok.inj h)
      exact ⟨payload, services, rfl, hread, rfl⟩

/-- **The mentions of a script are declared by it,** and refer to where it was fetched. -/
theorem report_declares {script reference name : Text} {found : Report} {event : Event}
    {m : Mention} (h : report script reference = .ok (found, event))
    (hmem : (name, m) ∈ found.entries) :
    ∃ lead name?, Declares script lead name? ∧ name = name?.getD lead ∧
      m = ⟨lead ++ Principal.suffix, reference⟩ := by
  obtain ⟨payload, services, hpayload, hread, rfl⟩ := payload_of_report h
  obtain ⟨l, hl, heq⟩ := List.mem_map.1 (Index.mem_of_mem_entries_ofList hmem)
  obtain ⟨⟨key, value⟩, hvalue, hlisted⟩ := List.mem_filterMap.1 hl
  obtain ⟨rfl, rfl⟩ := Prod.mk.inj heq
  obtain ⟨lead, name?, hdeclared, hlead, rfl⟩ := listed?_declared hlisted
  exact ⟨lead, name?, ⟨payload, services, key, value, hpayload, hread, hvalue, hdeclared, hlead⟩,
    rfl, rfl⟩

theorem isFetch_of_report {script reference : Text} {e : Error}
    (h : report script reference = .error e) : e.isFetch = false := by
  rw [report] at h
  split at h
  · obtain rfl := Except.error.inj h
    rfl
  · split at h
    · obtain rfl := Except.error.inj h
      rfl
    · exact nomatch h

/-! ## Attempts -/

variable {σ : Type} (next : σ → Except Error Text × σ)

/-- The state behind so many attempts. -/
def behind : Nat → σ → σ
  | 0, s => s
  | n + 1, s => behind n (next s).2

/-- The script is that of the first attempt, out of so many, that does not fail to fetch. -/
def Fetches (left : Nat) (s : σ) (script : Text) : Prop :=
  ∃ n < left, (∀ i < n, ∃ e, (next (behind next i s)).1 = .error e) ∧
    (next (behind next n s)).1 = .ok script

variable {next}

theorem Fetches.first {left : Nat} {s : σ} {script : Text} (h : (next s).1 = .ok script) :
    Fetches next (left + 1) s script :=
  ⟨0, Nat.succ_pos left, fun _ hi => absurd hi (Nat.not_lt_zero _), h⟩

theorem Fetches.later {left : Nat} {s : σ} {script : Text} {e : Error}
    (hfailed : (next s).1 = .error e) (h : Fetches next left (next s).2 script) :
    Fetches next (left + 1) s script := by
  obtain ⟨n, hn, hbefore, hscript⟩ := h
  refine ⟨n + 1, Nat.succ_lt_succ hn, fun i hi => ?_, hscript⟩
  cases i with
  | zero => exact ⟨e, hfailed⟩
  | succ i => exact hbefore i (Nat.lt_of_succ_lt_succ hi)

theorem Fetches.unique {left : Nat} {s : σ} {script script' : Text}
    (h : Fetches next left s script) (h' : Fetches next left s script') : script = script' := by
  obtain ⟨n, -, hbefore, hscript⟩ := h
  obtain ⟨n', -, hbefore', hscript'⟩ := h'
  rcases Nat.lt_trichotomy n n' with hlt | rfl | hgt
  · obtain ⟨e, he⟩ := hbefore' n hlt
    exact nomatch hscript.symm.trans he
  · exact Except.ok.inj (hscript.symm.trans hscript')
  · obtain ⟨e, he⟩ := hbefore n' hgt
    exact nomatch hscript'.symm.trans he

/-- **Attempts report one script,** that of the first that does not fail to fetch. -/
theorem attempts_fetch {reference : Text} {attempt left : Nat} {s : σ} {e : Text × Mention}
    (h : e ∈ (attempts next reference attempt left s).1.entries) :
    ∃ script found event, Fetches next left s script ∧
      report script reference = .ok (found, event) ∧ e ∈ found.entries := by
  induction left generalizing attempt s with
  | zero => exact nomatch h
  | succ left ih =>
    rw [attempts] at h
    cases hnext : (next s).1 with
    | ok script =>
      cases hreport : report script reference with
      | ok found =>
        simp only [hnext, Except.bind, hreport] at h
        exact ⟨script, found.1, found.2, .first hnext, hreport, h⟩
      | error failure =>
        simp only [hnext, Except.bind, hreport, isFetch_of_report hreport, Bool.not_false,
          if_true] at h
        exact nomatch h
    | error failure =>
      simp only [hnext, Except.bind] at h
      split_ifs at h with hfetch hleft
      · exact nomatch h
      · exact nomatch h
      · obtain ⟨script, found, event, hfetches, hreport, hmem⟩ := ih h
        exact ⟨script, found, event, .later hnext hfetches, hreport, hmem⟩

/-! ## Attempts that find nothing -/

variable (next) in
/-- Nothing can be reported: every attempt, out of so many, fails to fetch, or the script of the
first that does not has no payload that can be read. -/
def Fails (left : Nat) (s : σ) : Prop :=
  (∀ i < left, ∃ e, (next (behind next i s)).1 = .error e) ∨
  ∃ script, Fetches next left s script ∧
    ∀ payload, payload? script = some payload →
      ∃ e, Json.readDocument readPayload payload = .error e

theorem fails_of_unfetched {left : Nat} {s : σ}
    (h : ∀ i < left, (next (behind next i s)).1.toOption = none) : Fails next left s := by
  refine .inl fun i hi => ?_
  have hnone := h i hi
  cases hnext : (next (behind next i s)).1 with
  | error e => exact ⟨e, rfl⟩
  | ok script =>
    rw [hnext] at hnone
    exact nomatch hnone

/-- The script has a payload with a map of services, and the map is empty. -/
def DeclaresNothing (script : Text) : Prop :=
  ∃ payload, payload? script = some payload ∧ Json.readDocument readPayload payload = .ok []

theorem eq_empty_of_forall_not_mem {r : Report} (h : ∀ e, e ∉ r.entries) : r = Index.empty :=
  Index.ext (List.eq_nil_iff_forall_not_mem.2 h)

/-- **Attempts that fail report nothing.** -/
theorem attempts_of_fails {left : Nat} {s : σ} (h : Fails next left s) (reference : Text)
    (attempt : Nat) : (attempts next reference attempt left s).1 = Index.empty := by
  refine eq_empty_of_forall_not_mem fun e he => ?_
  obtain ⟨script, found, event, hfetches, hreport, -⟩ := attempts_fetch he
  rcases h with hall | ⟨script', hfetches', hunreadable⟩
  · obtain ⟨n, hn, -, hscript⟩ := hfetches
    obtain ⟨failure, hfailure⟩ := hall n hn
    exact nomatch hscript.symm.trans hfailure
  · obtain rfl := hfetches.unique hfetches'
    obtain ⟨payload, services, hpayload, hread, -⟩ := payload_of_report hreport
    obtain ⟨failure, hfailure⟩ := hunreadable payload hpayload
    exact nomatch hread.symm.trans hfailure

/-- **A script that declares nothing** is reported like one that fails. -/
theorem attempts_of_declaresNothing {left : Nat} {s : σ} {script : Text}
    (hfetches : Fetches next left s script) (h : DeclaresNothing script) (reference : Text)
    (attempt : Nat) : (attempts next reference attempt left s).1 = Index.empty := by
  refine eq_empty_of_forall_not_mem fun e he => ?_
  obtain ⟨script', found, event, hfetches', hreport, hmem⟩ := attempts_fetch he
  obtain rfl := hfetches.unique hfetches'
  obtain ⟨payload, services, hpayload, hread, rfl⟩ := payload_of_report hreport
  obtain ⟨payload', hpayload', hread'⟩ := h
  obtain rfl := Option.some.inj (hpayload.symm.trans hpayload')
  obtain rfl := Except.ok.inj (hread.symm.trans hread')
  exact nomatch hmem

end Roster.Policy
