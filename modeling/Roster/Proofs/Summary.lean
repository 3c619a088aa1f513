import Mathlib.Data.Finset.Card
import Mathlib.Data.Finset.Dedup
import Roster.Merged.Basic
import Roster.Proofs.Merging

/-!
# What a summary counts

A summary sorts the records by their markers: one for the documentation, one for the policy
generator, or several. A record without a marker is in none of these classes.

**Theorem (`Summary.total_eq`).** No record is counted twice, and only those without a marker are
left out.

**Theorem (`Summary.counts_labels`).** The records of two reports are counted by how often the key of
a principal occurs in each of them.

The second follows from the markers that a record of two reports has (`sources_of_find?`), because
every key stands for one record (`countP_values`).
-/

namespace Roster

/-- The keys of the principals that a report mentions, one for each mention. -/
def Report.labels (r : Report) : List Text := r.entries.map fun e => Principal.key e.2.principal

namespace Report

theorem mem_labels_iff {r : Report} {k : Text} : k ∈ r.labels ↔ underKey k r.entries ≠ [] := by
  rw [underKey_ne_nil, labels, List.mem_map]

theorem count_labels (r : Report) (k : Text) : r.labels.count k = (underKey k r.entries).length := by
  rw [labels, underKey, List.count, List.countP_map, ← List.countP_eq_length_filter]
  exact List.countP_congr fun e _ => by simp

end Report

theorem Index.countP_values {α : Type} {m : Index α} {p : α → Bool} {q : Text → Prop}
    [DecidablePred q] (h : ∀ k v, m.find? k = some v → (p v = true ↔ q k)) :
    m.values.countP p = (m.keys.toFinset.filter q).card := by
  have hentries : ∀ e ∈ m.entries,
      (p ∘ Prod.snd) e = true ↔ ((fun k => decide (q k)) ∘ Prod.fst) e = true := by
    intro e he
    rw [Function.comp_apply, Function.comp_apply, decide_eq_true_iff]
    exact h e.1 e.2 (find?_eq_some_iff.2 he)
  calc m.values.countP p
      = m.entries.countP (p ∘ Prod.snd) := List.countP_map ..
    _ = m.entries.countP ((fun k => decide (q k)) ∘ Prod.fst) := List.countP_congr hentries
    _ = m.keys.countP fun k => decide (q k) := (List.countP_map ..).symm
    _ = (m.keys.filter fun k => decide (q k)).toFinset.card := by
      rw [List.countP_eq_length_filter, List.toFinset_card_of_nodup (m.keys_nodup.filter _)]
    _ = (m.keys.toFinset.filter q).card := by
      congr 1
      ext k
      simp

namespace Merged

variable {documentation policy : Report}

/-! ## Markers -/

/-- The markers under a key: one of the documentation, if it mentions the key at all, and one for
each mention of the policy generator. -/
theorem sources_of_find? {k : Text} {r : Record}
    (h : (ofReports documentation policy).find? k = some r) :
    r.sources = (if k ∈ documentation.labels then [.documentation] else []) ++
      List.replicate (policy.labels.count k) .policyGenerator := by
  rw [find?_ofReports] at h
  obtain ⟨first, -, rfl⟩ := Option.map_eq_some_iff.1 h
  rw [Report.count_labels]
  by_cases hd : k ∈ documentation.labels
  · simp [hd, Report.mem_labels_iff.1 hd]
  · have hnone : underKey k documentation.entries = [] := by
      by_contra hne
      exact hd (Report.mem_labels_iff.2 hne)
    simp [hd, hnone]

theorem mem_keys_ofReports {k : Text} :
    k ∈ (ofReports documentation policy).keys ↔ k ∈ documentation.labels ++ policy.labels := by
  rw [Index.mem_keys_iff, find?_ofReports, Record.isSome_ofMentions?, List.mem_append,
    Report.mem_labels_iff, Report.mem_labels_iff, ne_eq, List.append_eq_nil_iff, not_and_or]

theorem sources_ne_nil {k : Text} {r : Record}
    (h : (ofReports documentation policy).find? k = some r) : r.sources ≠ [] := by
  have hkey : k ∈ (ofReports documentation policy).keys := Index.mem_keys_iff.2 (by simp [h])
  rw [mem_keys_ofReports, List.mem_append, ← List.count_pos_iff (l := policy.labels)] at hkey
  rw [sources_of_find? h]
  intro hnil
  rw [List.append_eq_nil_iff, List.replicate_eq_nil_iff] at hnil
  rcases hkey with hd | hp
  · simp [hd] at hnil
  · omega

end Merged

namespace Summary

/-! ## Classes -/

/-- A record without a marker, with one of either kind, or with several. -/
theorem classes (records : List Record) :
    records.length =
      records.countP (fun r => r.sources = [.documentation]) +
        records.countP (fun r => r.sources = [.policyGenerator]) +
        records.countP (fun r => 1 < r.sources.length) +
        records.countP (fun r => r.sources = []) := by
  induction records with
  | nil => rfl
  | cons r records ih =>
    simp only [List.length_cons, List.countP_cons, ih]
    rcases hsources : r.sources with _ | ⟨s, _ | ⟨s', sources⟩⟩
    · simp
      omega
    · cases s with
      | documentation =>
        simp
        omega
      | policyGenerator =>
        simp
        omega
    · simp
      omega

/-- **No record is counted twice,** and only those without a marker are left out. -/
theorem total_eq (m : Merged) :
    (of m).total = (of m).documentationOnly + (of m).policyOnly + (of m).both +
      m.values.countP fun r => r.sources = [] := by
  have hvalues := classes m.values
  rwa [Index.values, List.length_map] at hvalues

/-! ## Two reports -/

section Reports

variable {documentation policy : Report} {k : Text} {r : Record}

theorem documentationOnly_iff (h : (Merged.ofReports documentation policy).find? k = some r) :
    r.sources = [.documentation] ↔ k ∈ documentation.labels ∧ k ∉ policy.labels := by
  rw [Merged.sources_of_find? h, ← List.count_eq_zero]
  by_cases hd : k ∈ documentation.labels
  · simp [hd]
  · cases policy.labels.count k with
    | zero => simp [hd]
    | succ n => simp [hd, List.replicate_succ]

theorem policyOnly_iff (h : (Merged.ofReports documentation policy).find? k = some r) :
    r.sources = [.policyGenerator] ↔ k ∉ documentation.labels ∧ policy.labels.count k = 1 := by
  rw [Merged.sources_of_find? h]
  by_cases hd : k ∈ documentation.labels
  · simp [hd]
  · rcases policy.labels.count k with _ | _ | n
    · simp [hd]
    · simp [hd]
    · simp [hd, List.replicate_succ]

theorem both_iff (h : (Merged.ofReports documentation policy).find? k = some r) :
    1 < r.sources.length ↔ k ∈ documentation.labels ∧ k ∈ policy.labels ∨
      k ∉ documentation.labels ∧ 2 ≤ policy.labels.count k := by
  rw [Merged.sources_of_find? h]
  by_cases hd : k ∈ documentation.labels
  · simp [hd]
  · simp [hd, Nat.succ_le_iff]

theorem countP_eq_card {p : Record → Bool} {q : Text → Prop} [DecidablePred q]
    (h : ∀ k r, (Merged.ofReports documentation policy).find? k = some r → (p r = true ↔ q k)) :
    (Merged.ofReports documentation policy).values.countP p =
      ((documentation.labels ++ policy.labels).toFinset.filter q).card := by
  have hkeys : (Merged.ofReports documentation policy).keys.toFinset =
      (documentation.labels ++ policy.labels).toFinset := by
    ext k
    rw [List.mem_toFinset, List.mem_toFinset, Merged.mem_keys_ofReports]
  rw [Index.countP_values h, hkeys]

end Reports

/-- **A summary is a partition.** The three classes and the records without a marker make up all
records of any file. Of two reports with the keys `d` and `p` of their mentions, no record is without
a marker; the keys that are only in `d` count for the documentation, those that are once in `p` and
not in `d` for the policy generator, and all others for both. -/
theorem classes_make_up_total :
    (∀ m : Merged, (of m).total = (of m).documentationOnly + (of m).policyOnly + (of m).both +
      m.values.countP fun r => r.sources = []) ∧
    ∀ documentation policy : Report,
      let summary := of (.ofReports documentation policy)
      let d := documentation.labels
      let p := policy.labels
      let all := (d ++ p).toFinset
      summary.total = summary.documentationOnly + summary.policyOnly + summary.both ∧
      summary.documentationOnly = (all.filter fun k => k ∈ d ∧ k ∉ p).card ∧
      summary.policyOnly = (all.filter fun k => k ∉ d ∧ p.count k = 1).card ∧
      summary.both = (all.filter fun k => k ∈ d ∧ k ∈ p ∨ k ∉ d ∧ 2 ≤ p.count k).card := by
  refine ⟨total_eq, fun documentation policy => ⟨?_, ?_, ?_, ?_⟩⟩
  · have hunmarked : (Merged.ofReports documentation policy).values.countP
        (fun r => r.sources = []) = 0 := by
      refine List.countP_eq_zero.2 fun r hr => ?_
      obtain ⟨e, he, rfl⟩ := List.mem_map.1 hr
      have hne := Merged.sources_ne_nil (Index.find?_eq_some_iff.2 he)
      simpa using hne
    rw [total_eq, hunmarked, Nat.add_zero]
  · exact countP_eq_card fun k r h => decide_eq_true_iff.trans (documentationOnly_iff h)
  · exact countP_eq_card fun k r h => decide_eq_true_iff.trans (policyOnly_iff h)
  · exact countP_eq_card fun k r h => decide_eq_true_iff.trans (both_iff h)

-- A principal of both sources, one of the documentation under two names, one that the policy
-- generator alone repeats.
example : of (.ofReports
    (.ofList [(['a'], ⟨['x', '.'], []⟩), (['b'], ⟨['y'], []⟩), (['c'], ⟨['y', '.'], []⟩)])
    (.ofList [(['d'], ⟨['x'], []⟩), (['e'], ⟨['z'], []⟩), (['f'], ⟨['z', '.', 'z'], []⟩)])) =
    ⟨3, 1, 0, 2⟩ := by
  decide

end Summary

end Roster
