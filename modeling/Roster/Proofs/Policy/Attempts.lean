import Roster.Proofs.Policy

/-!
# Attempts end with the first script

Only a request that fails is worth another attempt. The first script that comes ends the attempts,
whatever it holds, and after three failures none is made any more.

* `answering` answers the calls from a sequence and counts them, so that the number of calls is part
  of the result.

**Theorem (`attempts_eq_answering`).** Any way to fetch is such a sequence of answers.

**Theorem (`attempts_end_with_first_script`).** For every sequence of answers: the report, the
events in their order and the number of calls.

The induction is on the attempts that are left. Failures and the script move one place to the front
with each attempt, which is what the two run lemmas carry along.
-/

namespace Roster

/-! ## Errors of requests -/

/-- Whatever keeps a text from being fetched is a failure of a request. -/
theorem Http.isFetch_of_fetch {net : Http.Network} {v : Http.Visits} {url : Text} {e : Error}
    (h : (Http.fetch net v url).1 = .error e) : e.isFetch = true := by
  rw [Http.fetch] at h
  split at h
  · obtain rfl := Except.error.inj h
    rfl
  · split at h
    · obtain rfl := Except.error.inj h
      rfl
    · simp only [Http.Response.text] at h
      split_ifs at h
      · obtain rfl := Except.error.inj h
        rfl
      · obtain rfl := Except.error.inj h
        rfl

namespace Policy

variable {σ : Type} {next : σ → Except Error Text × σ} {reference : Text}

/-! ## One attempt -/

theorem event_of_report {script : Text} {found : Report} {event : Event}
    (h : report script reference = .ok (found, event)) :
    ∃ count, event = .policyFound count := by
  rw [report] at h
  split at h
  · cases h
  · split at h
    · cases h
    · exact ⟨_, (Prod.mk.inj (Except.ok.inj h)).2.symm⟩

theorem attempts_of_report {s : σ} {script : Text} {found : Report} {event : Event}
    (hscript : (next s).1 = .ok script) (hreport : report script reference = .ok (found, event))
    (attempt left : Nat) :
    attempts next reference attempt (left + 1) s = (found, [event], (next s).2) := by
  rw [attempts]
  simp only [hscript, Except.bind, hreport]

theorem attempts_of_unreadable {s : σ} {script : Text} {e : Error}
    (hscript : (next s).1 = .ok script) (hreport : report script reference = .error e)
    (attempt left : Nat) :
    attempts next reference attempt (left + 1) s =
      (Index.empty, [.policyUnreadable e.message], (next s).2) := by
  rw [attempts]
  simp [hscript, Except.bind, hreport, isFetch_of_report hreport]

theorem attempts_of_last_failure (reference : Text) {s : σ} {e : Error}
    (hfailed : (next s).1 = .error e) (hfetch : e.isFetch = true) (attempt : Nat) :
    attempts next reference attempt 1 s =
      (Index.empty, [.policyGivenUp attempt e.message], (next s).2) := by
  rw [attempts]
  simp [hfailed, Except.bind, hfetch]

theorem attempts_of_failure {s s' : σ} {e : Error} {attempt left : Nat} {found : Report}
    {events : List Event} (hfailed : (next s).1 = .error e) (hfetch : e.isFetch = true)
    (hothers : attempts next reference (attempt + 1) (left + 1) (next s).2 =
      (found, events, s')) :
    attempts next reference attempt (left + 2) s =
      (found, .policyAttemptFailed attempt e.message :: events, s') := by
  rw [attempts]
  simp [hfailed, Except.bind, hfetch, hothers]

/-! ## Sequences of answers -/

/-- Answers the calls from a sequence, one after the other, and counts them. -/
def answering (answers : Nat → Except Error Text) (calls : Nat) : Except Error Text × Nat :=
  (answers calls, calls + 1)

theorem behind_succ (next : σ → Except Error Text × σ) (n : Nat) (s : σ) :
    behind next (n + 1) s = (next (behind next n s)).2 := by
  induction n generalizing s with
  | zero => rfl
  | succ n ih => exact ih (next s).2

/-- **Any way to fetch answers like a sequence,** and its state tells how often it was called. -/
theorem attempts_eq_answering (next : σ → Except Error Text × σ) (reference : Text) (s : σ)
    (attempt left calls : Nat) :
    attempts next reference attempt left (behind next calls s) =
      let (found, events, calls) :=
        attempts (answering fun i => (next (behind next i s)).1) reference attempt left calls
      (found, events, behind next calls s) := by
  induction left generalizing attempt calls with
  | zero => rfl
  | succ left ih =>
    have hothers := ih (attempt + 1) (calls + 1)
    rw [behind_succ] at hothers
    rw [attempts, attempts]
    simp only [answering, hothers]
    split
    · simp only [behind_succ]
    · split_ifs <;> simp only [behind_succ]

/-- What is told of the failures in front of the first script. -/
def failureEvents (attempt : Nat) (failures : Nat → Error) (n : Nat) : List Event :=
  (List.range n).map fun i => .policyAttemptFailed (attempt + i) (failures i).message

theorem failureEvents_succ (attempt : Nat) (failures : Nat → Error) (n : Nat) :
    failureEvents attempt failures (n + 1) =
      .policyAttemptFailed attempt (failures 0).message ::
        failureEvents (attempt + 1) (fun i => failures (i + 1)) n := by
  rw [failureEvents, failureEvents, List.range_succ_eq_map, List.map_cons, List.map_map]
  simp [Function.comp_def, Nat.add_assoc, Nat.add_comm 1]

/-- **Attempts behind failures.** The failures are told of in front of whatever the other attempts
tell, and each has used up one attempt and one call. -/
theorem attempts_behind_failures {answers : Nat → Except Error Text} {failures : Nat → Error}
    {n left calls calls' : Nat} {found : Report} {events : List Event} (attempt : Nat)
    (hfailed : ∀ i < n, answers (calls + i) = .error (failures i))
    (hfetch : ∀ i < n, (failures i).isFetch = true)
    (hothers : attempts (answering answers) reference (attempt + n) (left + 1) (calls + n) =
      (found, events, calls')) :
    attempts (answering answers) reference attempt (left + 1 + n) calls =
      (found, failureEvents attempt failures n ++ events, calls') := by
  induction n generalizing attempt calls failures with
  | zero => exact hothers
  | succ n ih =>
    have hshift : ∀ i, calls + 1 + i = calls + (i + 1) := fun i => by omega
    have hfailed' : ∀ i < n, answers (calls + 1 + i) = .error (failures (i + 1)) := fun i hi =>
      hshift i ▸ hfailed (i + 1) (Nat.succ_lt_succ hi)
    have hrun := ih (attempt + 1) hfailed' (fun i hi => hfetch (i + 1) (Nat.succ_lt_succ hi))
      (by rwa [hshift, Nat.add_right_comm attempt 1 n, Nat.add_assoc attempt n 1])
    have hleft : left + 1 + n = left + n + 1 := by omega
    rw [hleft] at hrun
    have hstep := attempts_of_failure (hfailed 0 (Nat.succ_pos n)) (hfetch 0 (Nat.succ_pos n)) hrun
    rw [failureEvents_succ, List.cons_append, ← hstep]
    congr 1
    omega

/-! ## All attempts -/

theorem exists_first_script (answers : Nat → Except Error Text) (left : Nat) :
    ∃ n ≤ left, ∃ failures : Nat → Error, (∀ i < n, answers i = .error (failures i)) ∧
      (n < left → ∃ script, answers n = .ok script) := by
  induction left with
  | zero =>
    exact ⟨0, Nat.le_refl 0, fun _ => .noPayload, fun i hi => absurd hi (Nat.not_lt_zero i),
      fun hn => absurd hn (Nat.not_lt_zero 0)⟩
  | succ left ih =>
    obtain ⟨n, hn, failures, hfailed, hscript⟩ := ih
    rcases Nat.lt_or_eq_of_le hn with hlt | rfl
    · exact ⟨n, Nat.le_succ_of_le hn, failures, hfailed, fun _ => hscript hlt⟩
    cases hanswer : answers n with
    | ok script => exact ⟨n, Nat.le_succ n, failures, hfailed, fun _ => ⟨script, hanswer⟩⟩
    | error e =>
      refine ⟨n + 1, Nat.le_refl _, fun i => if i < n then failures i else e, fun i hi => ?_,
        fun h => absurd h (Nat.lt_irrefl _)⟩
      rcases Nat.lt_succ_iff_lt_or_eq.1 hi with hlt | rfl
      · simpa [hlt] using hfailed i hlt
      · simpa using hanswer

/-- **Attempts end with the first script that comes.** Everything that keeps a text from being
fetched is worth another attempt, and nothing that a script holds is. On a network the answers are
those of its fetches one after the other. If a script comes within three calls it ends them: it is
reported, or it is told that it cannot be read and nothing is reported. Otherwise there are three
calls, and nothing is reported. Every failure is told of, the third one as the last. -/
theorem attempts_end_with_first_script :
    (∀ net v url e, (Http.fetch net v url).1 = .error e → e.isFetch = true) ∧
    (∀ script reference e, report script reference = .error e → e.isFetch = false) ∧
    (∀ (net : Http.Network) (url : Text) (t : Trace),
      let next := fun v => Http.fetch net v url
      let (found, events, calls) :=
        collect (answering fun i => (next (behind next i t.visits)).1) url 0
      fetch net url t = (found, (t.visiting (behind next calls t.visits)).tell events)) ∧
    ∀ (answers : Nat → Except Error Text) (reference : Text),
      (∀ i e, answers i = .error e → e.isFetch = true) →
      ∃ (n : Nat) (failures : Nat → Error), n ≤ 3 ∧ (∀ i < n, answers i = .error (failures i)) ∧
        ((n < 3 ∧ ∃ script found count, answers n = .ok script ∧
          report script reference = .ok (found, .policyFound count) ∧
          collect (answering answers) reference 0 =
            (found, failureEvents 1 failures n ++ [.policyFound count], n + 1)) ∨
        (n < 3 ∧ ∃ script e, answers n = .ok script ∧ report script reference = .error e ∧
          collect (answering answers) reference 0 =
            (Index.empty, failureEvents 1 failures n ++ [.policyUnreadable e.message], n + 1)) ∨
        (n = 3 ∧ collect (answering answers) reference 0 =
          (Index.empty, failureEvents 1 failures 2 ++ [.policyGivenUp 3 (failures 2).message],
            3))) := by
  refine ⟨fun net v url e => Http.isFetch_of_fetch, fun script reference e => isFetch_of_report,
    fun net url t => ?_, fun answers reference hfetch => ?_⟩
  · have hsame := attempts_eq_answering (fun v => Http.fetch net v url) url t.visits 1 maxAttempts 0
    rw [behind] at hsame
    simp only [fetch, collect, hsame]
  · obtain ⟨n, hn, failures, hfailed, hscript⟩ := exists_first_script answers 3
    have hworth : ∀ i < n, (failures i).isFetch = true := fun i hi => hfetch i _ (hfailed i hi)
    have hfailures : ∀ i < n, answers (0 + i) = .error (failures i) := fun i hi => by
      rw [Nat.zero_add, hfailed i hi]
    refine ⟨n, failures, hn, hfailed, ?_⟩
    rcases Nat.lt_or_eq_of_le hn with hlt | rfl
    · obtain ⟨script, hscript⟩ := hscript hlt
      have hanswer : (answering answers (0 + n)).1 = .ok script := by
        rw [Nat.zero_add]
        exact hscript
      -- Behind `n` failures there is at least one attempt left, which the script ends.
      obtain ⟨left, hleft⟩ : ∃ left, maxAttempts = left + 1 + n := ⟨2 - n, by
        simp only [maxAttempts]
        omega⟩
      rw [collect, hleft]
      cases hreport : report script reference with
      | ok told =>
        obtain ⟨found, event⟩ := told
        obtain ⟨count, rfl⟩ := event_of_report hreport
        have hlast := attempts_of_report hanswer hreport (1 + n) left
        refine .inl ⟨hlt, script, found, count, hscript, hreport, ?_⟩
        rw [attempts_behind_failures 1 hfailures hworth hlast, answering, Nat.zero_add]
      | error e =>
        have hlast := attempts_of_unreadable hanswer hreport (1 + n) left
        refine .inr (.inl ⟨hlt, script, e, hscript, hreport, ?_⟩)
        rw [attempts_behind_failures 1 hfailures hworth hlast, answering, Nat.zero_add]
    · -- The third failure is told of in another way, so only two stand in front of the last one.
      have hanswer : (answering answers 2).1 = .error (failures 2) := hfailed 2 (by omega)
      have hlast := attempts_of_last_failure reference hanswer (hworth 2 (by omega)) 3
      have hrun := attempts_behind_failures 1
        (fun i hi => hfailures i (Nat.lt_succ_of_lt hi))
        (fun i hi => hworth i (Nat.lt_succ_of_lt hi)) hlast
      exact .inr (.inr ⟨rfl, hrun⟩)

/-- A bad status, then a script without a payload, then one with an empty map of services. -/
def failingThenUnreadable : Nat → Except Error Text
  | 0 => .error (.status "u".toList 502)
  | 1 => .ok "var app;".toList
  | _ => .ok (marker ++ "\x7b\"serviceMap\":\x7b\x7d\x7d".toList)

/-- The script that cannot be read is not asked for again, so the good one never comes. -/
theorem attempts_end_with_first_script_unreadable :
    (∀ i e, failingThenUnreadable i = .error e → e.isFetch = true) ∧
    collect (answering failingThenUnreadable) "u".toList 0 =
      (Index.empty, [.policyAttemptFailed 1 "Request to u returned 502 Bad Gateway".toList,
        .policyUnreadable "Couldn't find the policy generator config in the fetched content.".toList],
        2) := by
  have hfetch : ∀ i e, failingThenUnreadable i = .error e → e.isFetch = true := by
    intro i e h
    match i with
    | 0 =>
      obtain rfl := Except.error.inj h
      rfl
    | 1 => exact nomatch h
    | n + 2 => exact nomatch h
  refine ⟨hfetch, ?_⟩
  obtain ⟨-, -, -, hruns⟩ := attempts_end_with_first_script
  obtain ⟨n, failures, hn, hfailed, hcases⟩ := hruns failingThenUnreadable "u".toList hfetch
  have hunreadable : report "var app;".toList "u".toList = .error .noPayload := rfl
  match n with
  | 0 =>
    rcases hcases with ⟨-, _, _, _, h, -⟩ | ⟨-, _, _, h, -⟩ | ⟨h, -⟩
    all_goals exact nomatch h
  | 1 =>
    have hfirst : failures 0 = .status "u".toList 502 :=
      (Except.error.inj (hfailed 0 Nat.one_pos)).symm
    rcases hcases with ⟨-, _, _, _, h, hreport, -⟩ | ⟨-, _, _, h, hreport, hrun⟩ | ⟨h, -⟩
    · obtain rfl := Except.ok.inj h
      exact nomatch hunreadable.symm.trans hreport
    · obtain rfl := Except.ok.inj h
      obtain rfl := Except.error.inj (hunreadable.symm.trans hreport)
      rw [hrun]
      simp only [failureEvents, List.range_one, List.map_cons, List.map_nil, hfirst]
      rfl
    · exact nomatch h
  | n + 2 => exact nomatch hfailed 1 (by omega)

end Policy

end Roster
