import Mathlib.Data.List.Nodup
import Roster.Proofs.Merging
import Roster.Proofs.Store
import Roster.Proofs.Utf8
import Roster.Proofs.Written
import Roster.Run
import Roster.Suggestion

/-!
# What the sources offer to an editor

Two reports are merged and written, and what is read back offers one principal for each record. It
is known from the reports alone which one: that of the first mention among those with its key.

**Theorem (`Catalog.principals_ofMerged_perm`).** Records have different keys and each key is that
of its principal, so no two records offer the same principal.

**Theorem (`Catalog.sources_offer_first_mentions`).** The principals in the text of the merged
records, in the order of their bytes, are those of the first mentions.
-/

namespace Roster

namespace Merged

/-! ## Principals of records -/

/-- The principal under a key is that of the first mention with the key. -/
theorem principal_find?_ofReports (documentation policy : Report) (k : Text) :
    ((ofReports documentation policy).find? k).map Record.principal =
      (underKey k (documentation.entries ++ policy.entries)).head?.map fun e => e.2.principal := by
  rw [find?_ofReports, Record.ofMentions?, Option.map_map, underKey_append]
  rfl

theorem keys_ofReports (documentation policy : Report) :
    (ofReports documentation policy).keys =
      (ofReports documentation policy).values.map fun r => Principal.key r.principal := by
  rw [Index.keys, Index.values, List.map_map]
  exact List.map_congr_left fun e he => (decided_of_mem_ofReports he).1

theorem principals_ofReports_nodup (documentation policy : Report) :
    ((ofReports documentation policy).values.map Record.principal).Nodup := by
  have hkeys := (ofReports documentation policy).keys_nodup
  rw [keys_ofReports] at hkeys
  refine List.Nodup.of_map Principal.key ?_
  rwa [List.map_map]

theorem mem_principals_ofReports {documentation policy : Report} {p : Text} :
    p ∈ (ofReports documentation policy).values.map Record.principal ↔
      ∃ e, (underKey (Principal.key p) (documentation.entries ++ policy.entries)).head? = some e ∧
        e.2.principal = p := by
  rw [← Option.map_eq_some_iff, ← principal_find?_ofReports, Option.map_eq_some_iff]
  constructor
  · intro hp
    obtain ⟨r, hr, rfl⟩ := List.mem_map.1 hp
    obtain ⟨e, he, rfl⟩ := List.mem_map.1 hr
    have hkey := (decided_of_mem_ofReports he).1
    exact ⟨e.2, Index.find?_eq_some_iff.2 (hkey ▸ he), rfl⟩
  · rintro ⟨r, hr, rfl⟩
    exact List.mem_map.2 ⟨r, List.mem_map.2 ⟨_, Index.find?_eq_some_iff.1 hr, rfl⟩, rfl⟩

end Merged

namespace Catalog

/-! ## Principals of a catalog -/

theorem mem_principals_ofMerged {m : Merged} {p : Text} :
    p ∈ (ofMerged m).principals ↔ p ≠ [] ∧ p ∈ m.values.map Record.principal := by
  rw [principals, ofMerged, Index.mem_keys_ofList, List.map_map]
  simp [and_comm]

theorem principals_ascending (c : Catalog) :
    c.principals.Pairwise fun p q => Text.utf8 p < Text.utf8 q :=
  List.pairwise_map.2 (c.index.ascending.imp Text.utf8_lt_utf8)

/-- **A catalog has one principal for each record** of two reports whose principal is not empty. -/
theorem principals_ofMerged_perm (documentation policy : Report) :
    (ofMerged (.ofReports documentation policy)).principals.Perm
      (((Merged.ofReports documentation policy).values.map Record.principal).filter (· ≠ [])) := by
  refine (List.perm_ext_iff_of_nodup (Index.keys_nodup _)
    ((Merged.principals_ofReports_nodup documentation policy).filter _)).2 fun p => ?_
  rw [List.mem_filter, decide_eq_true_eq, and_comm]
  exact mem_principals_ofMerged

theorem read_toText (m : Merged) : read m.toText = .ok (ofMerged m) := by
  rw [read, Merged.read_toText]
  rfl

theorem load_of_write {s s' : Store} {p : Path} {m : Merged}
    (h : Run.write s p m = (s', .ok ())) : load s' p = .ok (ofMerged m) := by
  rw [load, (Store.write_done h).1]
  simp only [read_toText]
  rfl

/-- **Two sources offer the principals of their first mentions.** The text of their merged records
is read as a catalog. Its principals ascend strictly in the order of their UTF-8 bytes. A text is
one of them exactly if it is not empty and is the principal of the first mention among those with
its key, mentions of the documentation before those of the policy generator and those of each source
in the order of their names. There is one for each record whose principal is not empty. The same
catalog is loaded from a file to which the records were written. -/
theorem sources_offer_first_mentions (documentation policy : Report) :
    documentation.entries.Pairwise (fun a b => Text.utf8 a.1 < Text.utf8 b.1) ∧
    policy.entries.Pairwise (fun a b => Text.utf8 a.1 < Text.utf8 b.1) ∧
    ∃ catalog, read (Merged.ofReports documentation policy).toText = .ok catalog ∧
      catalog.principals.Pairwise (fun p q => Text.utf8 p < Text.utf8 q) ∧
      (∀ p, p ∈ catalog.principals ↔ p ≠ [] ∧
        ∃ e, (underKey (Principal.key p) (documentation.entries ++ policy.entries)).head? = some e ∧
          e.2.principal = p) ∧
      catalog.principals.Perm
        (((Merged.ofReports documentation policy).values.map Record.principal).filter (· ≠ [])) ∧
      ∀ s p s', Run.write s p (.ofReports documentation policy) = (s', .ok ()) →
        load s' p = .ok catalog := by
  refine ⟨documentation.ascending.imp Text.utf8_lt_utf8, policy.ascending.imp Text.utf8_lt_utf8,
    ofMerged (.ofReports documentation policy), read_toText _, principals_ascending _,
    fun p => ?_, principals_ofMerged_perm documentation policy, fun s p s' => load_of_write⟩
  rw [mem_principals_ofMerged, Merged.mem_principals_ofReports]

/-- In a file of a new directory, a principal of the policy generator gives way to one of the
documentation with its label. -/
theorem sources_offer_first_mentions_written :
    ∃ s' catalog, Run.write ⟨[]⟩ "a/b".toList
        (.ofReports (.ofList [("lambda".toList, ⟨"lambda.amazonaws.com".toList, []⟩)])
          (.ofList [("l".toList, ⟨"lambda.aws".toList, []⟩)])) = (s', .ok ()) ∧
      load s' "a/b".toList = .ok catalog ∧ "lambda.amazonaws.com".toList ∈ catalog.principals ∧
      "lambda.aws".toList ∉ catalog.principals := by
  let first : Text × Mention := ("lambda".toList, ⟨"lambda.amazonaws.com".toList, []⟩)
  let documentation : Report := .ofList [first]
  let policy : Report := .ofList [("l".toList, ⟨"lambda.aws".toList, []⟩)]
  obtain ⟨-, -, catalog, -, -, hmem, -, hload⟩ := sources_offer_first_mentions documentation policy
  have hwritten : (Run.write ⟨[]⟩ "a/b".toList (.ofReports documentation policy)).2 = .ok () :=
    (Store.write_refusal_irrelevant _ _ _ []).trans (by decide)
  have hwrite : Run.write ⟨[]⟩ "a/b".toList (.ofReports documentation policy) =
      ((Run.write ⟨[]⟩ "a/b".toList (.ofReports documentation policy)).1, .ok ()) :=
    Prod.ext rfl hwritten
  have hfirst : (underKey "lambda".toList (documentation.entries ++ policy.entries)).head? =
      some first := by decide
  refine ⟨_, catalog, hwrite, hload _ _ _ hwrite, (hmem _).2 ⟨by decide, first, hfirst, rfl⟩,
    fun h => ?_⟩
  obtain ⟨-, e, he, hprincipal⟩ := (hmem _).1 h
  obtain rfl := Option.some.inj (hfirst.symm.trans he)
  exact absurd hprincipal (by decide)

end Catalog

end Roster
