import Mathlib.Algebra.GroupWithZero.Nat
import Roster.Merged.Basic
import Roster.Proofs.Index

/-!
# What merging gives

Merging goes through two reports and changes one index on the way. The result has a closed form:
the record under a key depends only on the mentions whose principals have that key.

* `underKey` selects the mentions with a key, in the order of their names.
* `Record.ofMentions?` is the record of the mentions that were selected from the two reports.

**Theorem (`Merged.find?_ofReports`).** What is found under a key is the record of the mentions
with that key.

Both loops follow one induction (`find?_foldl`). It carries the closed form for the mentions that were
met so far, and a step appends one mention to them.
-/

namespace Roster

/-- The named mentions whose principals have a key. -/
def underKey (k : Text) (l : List (Text × Mention)) : List (Text × Mention) :=
  l.filter fun e => Principal.key e.2.principal = k

/-- The record of mentions with one key, first those of the documentation and then those of the
policy generator. -/
def Record.ofMentions? (d p : List (Text × Mention)) : Option Record :=
  (d ++ p).head?.map fun first => {
    names := (d ++ p).map (·.1)
    reference := first.2.reference
    principal := first.2.principal
    sources := (if d.isEmpty then [] else [.documentation]) ++
      List.replicate p.length .policyGenerator }

/-- What one more mention of the documentation makes of the record under its key. -/
def Record.withDocumentation (former? : Option Record) (e : Text × Mention) : Record :=
  match former? with
  | some r => r.addDocumentation e.1
  | none => .of .documentation e.1 e.2

/-- What one more mention of the policy generator makes of the record under its key. -/
def Record.withPolicy (former? : Option Record) (e : Text × Mention) : Record :=
  match former? with
  | some r => r.addPolicy e.1
  | none => .of .policyGenerator e.1 e.2

/-! ## Mentions with a key -/

theorem underKey_append (k : Text) (l l' : List (Text × Mention)) :
    underKey k (l ++ l') = underKey k l ++ underKey k l' := List.filter_append ..

theorem underKey_singleton (k : Text) (e : Text × Mention) :
    underKey k [e] = if k = Principal.key e.2.principal then [e] else [] := by
  by_cases h : k = Principal.key e.2.principal
  · simp [underKey, h]
  · simp [underKey, h, Ne.symm h]

theorem underKey_ascending (k : Text) (r : Report) :
    (underKey k r.entries).Pairwise fun a b => a.1 < b.1 := r.ascending.filter _

theorem underKey_ne_nil {k : Text} {l : List (Text × Mention)} :
    underKey k l ≠ [] ↔ ∃ e ∈ l, Principal.key e.2.principal = k := by
  simp [underKey, List.filter_eq_nil_iff]

namespace Record

theorem isSome_ofMentions? (d p : List (Text × Mention)) :
    (ofMentions? d p).isSome ↔ d ++ p ≠ [] := by
  rw [ofMentions?, Option.isSome_map, List.isSome_head?]

/-- One more mention of the documentation, as long as there is none of the policy generator. -/
theorem ofMentions?_documentation_append (d : List (Text × Mention)) (e : Text × Mention) :
    ofMentions? (d ++ [e]) [] = some (withDocumentation (ofMentions? d []) e) := by
  cases d with
  | nil => rfl
  | cons first d => simp [ofMentions?, withDocumentation, addDocumentation]

theorem ofMentions?_policy_append (d p : List (Text × Mention)) (e : Text × Mention) :
    ofMentions? d (p ++ [e]) = some (withPolicy (ofMentions? d p) e) := by
  cases d with
  | cons first d => simp [ofMentions?, withPolicy, addPolicy, List.replicate_succ']
  | nil =>
    cases p with
    | nil => rfl
    | cons first p => simp [ofMentions?, withPolicy, addPolicy, List.replicate_succ']

end Record

namespace Merged

/-! ## One mention more -/

theorem find?_change (m : Merged) (k : Text) (f : Record → Record) (new : Record) (x : Text) :
    Index.find? (match m.find? k with
      | some r => m.insert k (f r)
      | none => m.insert k new) x =
    if x = k then some (match m.find? x with
      | some r => f r
      | none => new) else m.find? x := by
  by_cases hx : x = k
  · subst hx
    cases hfound : m.find? x <;> simp
  · cases hfound : m.find? k <;> simp [hx]

theorem find?_addDocumentation (m : Merged) (e : Text × Mention) (k : Text) :
    (addDocumentation m e.1 e.2).find? k = if k = Principal.key e.2.principal then
      some (Record.withDocumentation (m.find? k) e) else m.find? k :=
  find?_change m _ _ _ k

theorem find?_addPolicy (m : Merged) (e : Text × Mention) (k : Text) :
    (addPolicy m e.1 e.2).find? k = if k = Principal.key e.2.principal then
      some (Record.withPolicy (m.find? k) e) else m.find? k :=
  find?_change m _ _ _ k

/-! ## All mentions -/

/-- A loop over mentions, `met` being those that it has met before. `closed` is what it has made of
the mentions with a key, and `extend` what one more of them makes of that. -/
theorem find?_foldl {add : Merged → Text × Mention → Merged}
    {extend : Option Record → Text × Mention → Record}
    (closed : Text → List (Text × Mention) → Option Record)
    (hadd : ∀ m e k, (add m e).find? k =
      if k = Principal.key e.2.principal then some (extend (m.find? k) e) else m.find? k)
    (hclosed : ∀ k met e, closed k (met ++ [e]) = some (extend (closed k met) e))
    (l met : List (Text × Mention)) (m : Merged)
    (hm : ∀ k, m.find? k = closed k (underKey k met)) (k : Text) :
    (l.foldl add m).find? k = closed k (underKey k (met ++ l)) := by
  induction l generalizing met m with
  | nil => rw [List.foldl_nil, hm, List.append_nil]
  | cons e l ih =>
    have hstep : ∀ k, (add m e).find? k = closed k (underKey k (met ++ [e])) := by
      intro k
      rw [hadd, underKey_append, underKey_singleton, hm]
      by_cases hk : k = Principal.key e.2.principal
      · rw [if_pos hk, if_pos hk, hclosed]
      · rw [if_neg hk, if_neg hk, List.append_nil]
    rw [List.foldl_cons, ih (met ++ [e]) _ hstep, List.append_assoc, List.singleton_append]

/-- **The closed form of merging.** -/
theorem find?_ofReports (documentation policy : Report) (k : Text) :
    (ofReports documentation policy).find? k =
      Record.ofMentions? (underKey k documentation.entries) (underKey k policy.entries) := by
  let records := documentation.entries.foldl (fun m e => addDocumentation m e.1 e.2) Index.empty
  have hdocumentation : ∀ k, records.find? k =
      Record.ofMentions? (underKey k documentation.entries) [] :=
    find?_foldl (fun _ d => Record.ofMentions? d []) find?_addDocumentation
      (fun _ => Record.ofMentions?_documentation_append) documentation.entries [] Index.empty
      fun _ => rfl
  exact find?_foldl (fun k p => Record.ofMentions? (underKey k documentation.entries) p)
    find?_addPolicy (fun _ => Record.ofMentions?_policy_append _) policy.entries [] records
    hdocumentation k

-- Three mentions with one key: the first decides, and only the policy generator repeats a marker.
example : (ofReports (.ofList [(['a'], ⟨"s3.x".toList, ['u']⟩), (['b'], ⟨"s3.y".toList, ['v']⟩)])
    (.ofList [(['c'], ⟨"s3.z".toList, ['w']⟩)])).entries =
    [(['s', '3'], ⟨[['a'], ['b'], ['c']], ['u'], "s3.x".toList,
      [.documentation, .policyGenerator]⟩)] := by
  decide

/-! ## Names -/

/-- The names of all records, in the order of the keys. -/
def allNames (m : Merged) : List Text := m.entries.flatMap fun e => e.2.names

theorem allNames_insert {m : Merged} {k name : Text} {r : Record}
    (hr : r.names = ((m.find? k).map Record.names).getD [] ++ [name]) :
    (allNames (m.insert k r)).Perm (name :: allNames m) := by
  have hinsert : (allNames (m.insert k r)).Perm
      (r.names ++ (m.entries.filter fun e => e.1 ≠ k).flatMap fun e => e.2.names) :=
    (m.entries_insert_perm k r).flatMap_right _
  have hformer : (allNames m).Perm (((m.find? k).map Record.names).getD [] ++
      (m.entries.filter fun e => e.1 ≠ k).flatMap fun e => e.2.names) := by
    cases hfound : m.find? k with
    | some former => exact (Index.entries_perm_of_find? hfound).flatMap_right _
    | none => rw [Index.filter_entries_of_find? hfound]; exact .refl _
  rw [hr, List.append_assoc] at hinsert
  refine hinsert.trans (List.perm_middle.trans ?_)
  exact hformer.symm.cons name

theorem allNames_addDocumentation (m : Merged) (e : Text × Mention) :
    (allNames (addDocumentation m e.1 e.2)).Perm (e.1 :: allNames m) := by
  rw [addDocumentation]
  cases hfound : m.find? (Principal.key e.2.principal) with
  | some r => exact allNames_insert (by rw [hfound]; rfl)
  | none => exact allNames_insert (by rw [hfound]; rfl)

theorem allNames_addPolicy (m : Merged) (e : Text × Mention) :
    (allNames (addPolicy m e.1 e.2)).Perm (e.1 :: allNames m) := by
  rw [addPolicy]
  cases hfound : m.find? (Principal.key e.2.principal) with
  | some r => exact allNames_insert (by rw [hfound]; rfl)
  | none => exact allNames_insert (by rw [hfound]; rfl)

theorem allNames_foldl {add : Merged → Text × Mention → Merged}
    (hadd : ∀ m e, (allNames (add m e)).Perm (e.1 :: allNames m)) (l : List (Text × Mention))
    (m : Merged) : (allNames (l.foldl add m)).Perm (allNames m ++ l.map (·.1)) := by
  induction l generalizing m with
  | nil => simp
  | cons e l ih =>
    refine (ih (add m e)).trans ?_
    refine ((hadd m e).append_right _).trans ?_
    exact List.perm_middle.symm

theorem allNames_ofReports (documentation policy : Report) :
    (allNames (ofReports documentation policy)).Perm (documentation.keys ++ policy.keys) := by
  refine (allNames_foldl allNames_addPolicy policy.entries _).trans (.append_right _ ?_)
  exact allNames_foldl allNames_addDocumentation documentation.entries Index.empty

theorem sum_length_names (documentation policy : Report) :
    ((ofReports documentation policy).values.map fun r => r.names.length).sum =
      documentation.size + policy.size := by
  have hlength := (allNames_ofReports documentation policy).length_eq
  rw [allNames, List.length_flatMap, List.length_append] at hlength
  simpa [Index.values, Index.keys, Index.size, Function.comp_def] using hlength

/-! ## The merged records -/

/-- A policy mention changes neither the principal nor the reference of a record that has a mention
of the documentation. -/
theorem documentation_decides (documentation policy : Report) {k : Text} {r : Record}
    (h : (ofReports documentation Index.empty).find? k = some r) :
    ∃ r', (ofReports documentation policy).find? k = some r' ∧
      r'.principal = r.principal ∧ r'.reference = r.reference := by
  rw [find?_ofReports] at h ⊢
  cases hd : underKey k documentation.entries with
  | nil => rw [hd] at h; exact nomatch h
  | cons first d =>
    rw [hd] at h
    obtain rfl := Option.some.inj h
    exact ⟨_, rfl, rfl, rfl⟩

/-- The mention decides the record: its principal and reference are those of the mention, and its
first name is the one under which the mention stands. -/
def Decides (e : Text × Mention) (r : Record) : Prop :=
  r.principal = e.2.principal ∧ r.reference = e.2.reference ∧ r.names.head? = some e.1

/-- **One mention decides a record:** one of the documentation, if a marker for it comes first, and
one of the policy generator, if there are only markers for that. -/
theorem decided_of_mem_ofReports {documentation policy : Report} {k : Text} {r : Record}
    (h : (k, r) ∈ (ofReports documentation policy).entries) :
    k = Principal.key r.principal ∧
    ((∃ e ∈ documentation.entries, Decides e r ∧
        ∃ n, r.sources = .documentation :: List.replicate n .policyGenerator) ∨
      (∃ e ∈ policy.entries, Decides e r ∧
        ∃ n, r.sources = List.replicate (n + 1) .policyGenerator)) := by
  have hfound := Index.find?_eq_some_iff.2 h
  rw [find?_ofReports] at hfound
  cases hd : underKey k documentation.entries with
  | cons first d =>
    rw [hd] at hfound
    obtain rfl := Option.some.inj hfound
    obtain ⟨hmem, hkey⟩ := List.mem_filter.1 (hd ▸ List.mem_cons_self : first ∈ underKey k _)
    exact ⟨(of_decide_eq_true hkey).symm, .inl ⟨first, hmem, ⟨rfl, rfl, rfl⟩, _, rfl⟩⟩
  | nil =>
    cases hp : underKey k policy.entries with
    | cons first p =>
      rw [hd, hp] at hfound
      obtain rfl := Option.some.inj hfound
      obtain ⟨hmem, hkey⟩ := List.mem_filter.1 (hp ▸ List.mem_cons_self : first ∈ underKey k _)
      exact ⟨(of_decide_eq_true hkey).symm, .inr ⟨first, hmem, ⟨rfl, rfl, rfl⟩, _, rfl⟩⟩
    | nil =>
      rw [hd, hp] at hfound
      exact nomatch hfound

/-- **Merging groups the mentions by key.** A key has a record exactly if a mention has that key.
With `d` the mentions of the documentation that have the key and `p` those of the policy generator,
the record has the names of `d` and then those of `p`, the principal and the reference of the first
of them all, and a marker for the documentation if there is any mention of it and one for each
mention of the policy generator. All names together are those of the two reports, and the
documentation decides about principals and references. -/
theorem ofReports_groups_mentions (documentation policy : Report) :
    (∀ k, k ∈ (ofReports documentation policy).keys ↔
      ∃ e ∈ documentation.entries ++ policy.entries, Principal.key e.2.principal = k) ∧
    (∀ k r, (ofReports documentation policy).find? k = some r →
      let d := underKey k documentation.entries
      let p := underKey k policy.entries
      d.Pairwise (fun a b => a.1 < b.1) ∧ p.Pairwise (fun a b => a.1 < b.1) ∧
      r.names = d.map (·.1) ++ p.map (·.1) ∧
      (∃ first, (d ++ p).head? = some first ∧
        r.principal = first.2.principal ∧ r.reference = first.2.reference) ∧
      (d ≠ [] → r.sources = .documentation :: List.replicate p.length .policyGenerator) ∧
      (d = [] → r.sources = List.replicate p.length .policyGenerator)) ∧
    ((ofReports documentation policy).values.flatMap Record.names).Perm
      (documentation.keys ++ policy.keys) ∧
    ((ofReports documentation policy).values.map fun r => r.names.length).sum =
      documentation.size + policy.size ∧
    (∀ k r, (ofReports documentation Index.empty).find? k = some r →
      ∃ r', (ofReports documentation policy).find? k = some r' ∧
        r'.principal = r.principal ∧ r'.reference = r.reference) := by
  refine ⟨fun k => ?_, fun k r hr => ?_, ?_, sum_length_names documentation policy,
    fun k r => documentation_decides documentation policy⟩
  · rw [Index.mem_keys_iff, find?_ofReports, Record.isSome_ofMentions?, ← underKey_append,
      underKey_ne_nil]
  · refine ⟨underKey_ascending k _, underKey_ascending k _, ?_⟩
    rw [find?_ofReports] at hr
    obtain ⟨first, hfirst, rfl⟩ := Option.map_eq_some_iff.1 hr
    refine ⟨List.map_append, ⟨first, hfirst, rfl, rfl⟩, fun hd => ?_, fun hd => ?_⟩
    · simp [hd]
    · simp [hd]
  · have hnames := allNames_ofReports documentation policy
    rwa [allNames, ← List.flatMap_map] at hnames

end Merged

end Roster
