import Mathlib.Tactic.SplitIfs
import Roster.Index

/-!
# Laws of indexes

An index is determined by what is found in it.

**Theorem (`Index.find?_insert`).** Inserting changes what is found under the inserted key and
nothing else.

**Theorem (`Index.ofList_entries`).** The entries of an index, inserted one after the other, give
the index back.
-/

namespace Roster

/-! ## Lists of pairs -/

section Pairs

variable {κ α : Type} [BEq κ] [LawfulBEq κ] [DecidableEq κ]

theorem lookup_cons_eq (x k : κ) (v : α) (l : List (κ × α)) :
    ((k, v) :: l).lookup x = if x = k then some v else l.lookup x := by
  by_cases hx : x = k
  · simp [hx]
  · rw [List.lookup_cons, if_neg hx, beq_eq_false_iff_ne.2 hx]

theorem lookup_filter (q : κ → Bool) (l : List (κ × α)) {k : κ} (h : q k = true) :
    (l.filter fun x => q x.1).lookup k = l.lookup k := by
  induction l with
  | nil => rfl
  | cons x l ih =>
    obtain ⟨k', v⟩ := x
    rw [List.filter_cons, lookup_cons_eq]
    by_cases hk : k = k'
    · subst hk
      rw [if_pos h, if_pos rfl, lookup_cons_eq, if_pos rfl]
    · rw [if_neg hk]
      split_ifs with hq
      · rw [lookup_cons_eq, if_neg hk, ih]
      · exact ih

end Pairs

namespace Index

variable {α : Type}

/-! ## The order of texts -/

theorem eq_of_not_lt {k k' : Text} (h : ¬ k < k') (h' : ¬ k' < k) : k = k' :=
  Std.Trichotomous.trichotomous k k' h h'

theorem ne_of_lt {k k' : Text} (h : k < k') : k ≠ k' := by
  rintro rfl
  exact List.lt_irrefl k h

/-! ## Placing an entry -/

/-- What is found among entries with one placed. It does not matter whether they ascend. -/
theorem lookup_place (k : Text) (v : α) (l : List (Text × α)) (x : Text) :
    (place k v l).lookup x = if x = k then some v else l.lookup x := by
  induction l with
  | nil => rw [place, lookup_cons_eq]
  | cons head rest ih =>
    obtain ⟨k', v'⟩ := head
    rw [place]
    by_cases hlt : k < k'
    · rw [if_pos hlt, lookup_cons_eq]
    rw [if_neg hlt]
    by_cases hgt : k' < k
    · rw [if_pos hgt, lookup_cons_eq, lookup_cons_eq, ih]
      by_cases hx : x = k
      · have hne : x ≠ k' := fun h => ne_of_lt hgt (h.symm.trans hx)
        rw [if_pos hx, if_pos hx, if_neg hne]
      · rw [if_neg hx, if_neg hx]
    · obtain rfl := eq_of_not_lt hlt hgt
      rw [if_neg hgt, lookup_cons_eq, lookup_cons_eq]
      by_cases hx : x = k
      · rw [if_pos hx, if_pos hx]
      · rw [if_neg hx, if_neg hx, if_neg hx]

theorem place_of_forall_lt {k : Text} {v : α} {l : List (Text × α)} (h : ∀ e ∈ l, e.1 < k) :
    place k v l = l ++ [(k, v)] := by
  induction l with
  | nil => rfl
  | cons head rest ih =>
    obtain ⟨k', v'⟩ := head
    have hlt : k' < k := h (k', v') List.mem_cons_self
    have hnot : ¬ k < k' := fun hk => List.lt_asymm hlt hk
    rw [place, if_neg hnot, if_pos hlt, ih fun e he => h e (List.mem_cons_of_mem _ he),
      List.cons_append]

/-- Placing an entry replaces those under its key. -/
theorem place_perm (k : Text) (v : α) {l : List (Text × α)}
    (h : l.Pairwise fun a b => a.1 < b.1) :
    (place k v l).Perm ((k, v) :: l.filter fun e => e.1 ≠ k) := by
  induction l with
  | nil => simp [place]
  | cons head rest ih =>
    obtain ⟨k', v'⟩ := head
    have hhead := (List.pairwise_cons.1 h).1
    have hrest := (List.pairwise_cons.1 h).2
    rw [place]
    split_ifs with hlt hgt
    · have hkeep : ((k', v') :: rest).filter (fun e => e.1 ≠ k) = (k', v') :: rest := by
        refine List.filter_eq_self.2 fun e he => ?_
        have hk : k < e.1 := by
          rcases List.mem_cons.1 he with rfl | he
          · exact hlt
          · exact List.lt_trans hlt (hhead e he)
        simpa using (ne_of_lt hk).symm
      rw [hkeep]
    · have hne : k' ≠ k := ne_of_lt hgt
      rw [List.filter_cons_of_pos (by simpa using hne)]
      exact ((ih hrest).cons (k', v')).trans (List.Perm.swap _ _ _)
    · obtain rfl := eq_of_not_lt hlt hgt
      have hkeep : rest.filter (fun e => e.1 ≠ k) = rest :=
        List.filter_eq_self.2 fun e he => by simpa using (ne_of_lt (hhead e he)).symm
      rw [List.filter_cons_of_neg (by simp), hkeep]

/-! ## Finding -/

@[simp] theorem find?_empty (k : Text) : (empty : Index α).find? k = none := rfl

@[simp] theorem find?_insert (m : Index α) (k : Text) (v : α) (x : Text) :
    (m.insert k v).find? x = if x = k then some v else m.find? x :=
  lookup_place k v m.entries x

theorem keys_nodup (m : Index α) : m.keys.Nodup :=
  List.pairwise_map.2 (m.ascending.imp ne_of_lt)

/-- The entries are what can be found. -/
theorem find?_eq_some_iff {m : Index α} {k : Text} {v : α} :
    m.find? k = some v ↔ (k, v) ∈ m.entries := by
  obtain ⟨l, hl⟩ := m
  simp only [find?]
  induction l with
  | nil => simp
  | cons head rest ih =>
    obtain ⟨k', v'⟩ := head
    have hhead := (List.pairwise_cons.1 hl).1
    rw [lookup_cons_eq]
    by_cases hk : k = k'
    · subst hk
      have hnot : (k, v) ∉ rest := fun hv => ne_of_lt (hhead _ hv) rfl
      simp [hnot, eq_comm]
    · simp [hk, ih (List.pairwise_cons.1 hl).2]

theorem mem_keys_iff {m : Index α} {k : Text} : k ∈ m.keys ↔ (m.find? k).isSome := by
  simp only [keys, List.mem_map, Option.isSome_iff_exists, find?_eq_some_iff]
  exact ⟨fun ⟨e, he, hk⟩ => ⟨e.2, hk ▸ he⟩, fun ⟨v, hv⟩ => ⟨(k, v), hv, rfl⟩⟩

theorem entries_insert_perm (m : Index α) (k : Text) (v : α) :
    (m.insert k v).entries.Perm ((k, v) :: m.entries.filter fun e => e.1 ≠ k) :=
  place_perm k v m.ascending

theorem eq_of_find?_eq {m m' : Index α} (h : ∀ k, m.find? k = m'.find? k) : m = m' := by
  have hnodup (m : Index α) : m.entries.Nodup := by
    refine m.ascending.imp fun {a b} hlt => ?_
    rintro rfl
    exact ne_of_lt hlt rfl
  have hperm : m.entries.Perm m'.entries := by
    refine (List.perm_ext_iff_of_nodup (hnodup m) (hnodup m')).2 fun e => ?_
    rw [← find?_eq_some_iff (k := e.1), ← find?_eq_some_iff (k := e.1), h]
  exact ext (hperm.eq_of_pairwise (fun _ _ _ _ hab hba => absurd hba (List.lt_asymm hab))
    m.ascending m'.ascending)

theorem entries_perm_of_find? {m : Index α} {k : Text} {v : α} (h : m.find? k = some v) :
    m.entries.Perm ((k, v) :: m.entries.filter fun e => e.1 ≠ k) := by
  have hsame : m.insert k v = m := eq_of_find?_eq fun x => by
    rw [find?_insert]
    by_cases hx : x = k
    · rw [if_pos hx, hx, h]
    · rw [if_neg hx]
  have hperm := m.entries_insert_perm k v
  rwa [hsame] at hperm

theorem filter_entries_of_find? {m : Index α} {k : Text} (h : m.find? k = none) :
    (m.entries.filter fun e => e.1 ≠ k) = m.entries := by
  refine List.filter_eq_self.2 fun e he => ?_
  have hne : e.1 ≠ k := by
    rintro rfl
    exact nomatch h.symm.trans (find?_eq_some_iff.2 he)
  simpa using hne

/-! ## Lists of entries -/

theorem entries_foldl_insert (l : List (Text × α)) (m : Index α) :
    (l.foldl (fun m e => m.insert e.1 e.2) m).entries =
      l.foldl (fun rest e => place e.1 e.2 rest) m.entries := by
  induction l generalizing m with
  | nil => rfl
  | cons e l ih => exact ih (m.insert e.1 e.2)

/-- Placing entries that ascend above those that stand there puts them behind. -/
theorem foldl_place_of_ascending {l front : List (Text × α)}
    (h : (front ++ l).Pairwise fun a b => a.1 < b.1) :
    l.foldl (fun rest e => place e.1 e.2 rest) front = front ++ l := by
  induction l generalizing front with
  | nil => simp
  | cons e l ih =>
    have habove : ∀ x ∈ front, x.1 < e.1 := fun x hx =>
      (List.pairwise_append.1 h).2.2 x hx e List.mem_cons_self
    rw [List.foldl_cons, place_of_forall_lt habove, ih (by simpa using h), List.append_assoc,
      List.singleton_append]

@[simp] theorem ofList_entries (m : Index α) : ofList m.entries = m := by
  ext1
  rw [ofList, entries_foldl_insert, entries_empty,
    foldl_place_of_ascending (by simpa using m.ascending), List.nil_append]

/-- What is found in the index of a list is the last entry for its key. -/
theorem find?_ofList (l : List (Text × α)) (k : Text) :
    (ofList l).find? k = l.reverse.lookup k := by
  have hrun : ∀ (l : List (Text × α)) (m : Index α),
      (l.foldl (fun m e => m.insert e.1 e.2) m).find? k = (l.reverse.lookup k).or (m.find? k) := by
    intro l
    induction l with
    | nil => intro m; rfl
    | cons e l ih =>
      intro m
      rw [List.foldl_cons, ih, find?_insert, List.reverse_cons, List.lookup_append,
        Option.or_assoc, lookup_cons_eq]
      by_cases hk : k = e.1
      · rw [if_pos hk, if_pos hk, Option.some_or]
      · rw [if_neg hk, if_neg hk, List.lookup_nil, Option.none_or]
  rw [ofList, hrun, find?_empty, Option.or_none]

/-- What is found in the index of a list is the entry behind which its key does not come again. -/
theorem find?_ofList_eq_some_iff {l : List (Text × α)} {k : Text} {v : α} :
    (ofList l).find? k = some v ↔
      ∃ front back, l = front ++ (k, v) :: back ∧ ∀ e ∈ back, e.1 ≠ k := by
  rw [find?_ofList, List.lookup_eq_some_iff]
  constructor
  · rintro ⟨back, front, hsplit, hback⟩
    refine ⟨front.reverse, back.reverse, ?_, fun e he => ?_⟩
    · rw [← List.reverse_reverse l, hsplit, List.reverse_append, List.reverse_cons,
        List.append_assoc, List.singleton_append]
    · exact (bne_iff_ne.1 (hback e (List.mem_reverse.1 he))).symm
  · rintro ⟨front, back, rfl, hback⟩
    refine ⟨back.reverse, front.reverse, ?_, fun e he => ?_⟩
    · rw [List.reverse_append, List.reverse_cons, List.append_assoc, List.singleton_append]
    · exact bne_iff_ne.2 (hback e (List.mem_reverse.1 he)).symm

theorem find?_ofList_of_nodup {l : List (Text × α)} (h : (l.map (·.1)).Nodup) {k : Text} {v : α} :
    (ofList l).find? k = some v ↔ (k, v) ∈ l := by
  rw [find?_ofList_eq_some_iff]
  constructor
  · rintro ⟨front, back, rfl, -⟩
    exact List.mem_append_right _ List.mem_cons_self
  · intro hmem
    obtain ⟨front, back, rfl⟩ := List.append_of_mem hmem
    refine ⟨front, back, rfl, fun e he heq => ?_⟩
    rw [List.map_append, List.map_cons] at h
    exact (List.nodup_cons.1 (List.nodup_append.1 h).2.1).1 (List.mem_map.2 ⟨e, he, heq⟩)

/-- The order of a list without repeated keys does not matter for its index. -/
theorem ofList_eq_of_perm {l l' : List (Text × α)} (hperm : l'.Perm l)
    (h : (l.map (·.1)).Nodup) : ofList l' = ofList l := by
  have h' : (l'.map (·.1)).Nodup := (hperm.map _).nodup_iff.2 h
  refine eq_of_find?_eq fun k => Option.ext fun v => ?_
  rw [find?_ofList_of_nodup h, find?_ofList_of_nodup h', hperm.mem_iff]

theorem find?_ofList_append_of_ne {front middle back : List (Text × α)} {k : Text}
    (h : ∀ e ∈ middle, e.1 ≠ k) :
    (ofList (front ++ middle ++ back)).find? k = (ofList (front ++ back)).find? k := by
  have hmiddle : middle.reverse.lookup k = none := by
    rw [List.lookup_eq_none_iff]
    exact fun e he => bne_iff_ne.2 (h e (List.mem_reverse.1 he)).symm
  simp only [find?_ofList, List.reverse_append, List.lookup_append, hmiddle, Option.none_or]

theorem mem_keys_ofList {l : List (Text × α)} {k : Text} :
    k ∈ (ofList l).keys ↔ k ∈ l.map (·.1) := by
  rw [mem_keys_iff, find?_ofList, List.lookup_isSome_iff, List.mem_map]
  simp only [List.mem_reverse, beq_iff_eq]
  exact ⟨fun ⟨e, he, hk⟩ => ⟨e, he, hk.symm⟩, fun ⟨e, he, hk⟩ => ⟨e, he, hk.symm⟩⟩

theorem mem_of_mem_entries_ofList {l : List (Text × α)} {e : Text × α}
    (h : e ∈ (ofList l).entries) : e ∈ l := by
  have hfound : (ofList l).find? e.1 = some e.2 := find?_eq_some_iff.2 h
  rw [find?_ofList] at hfound
  obtain ⟨front, back, hsplit, -⟩ := List.lookup_eq_some_iff.1 hfound
  have hmem : e ∈ l.reverse := by
    rw [hsplit]
    simp
  exact List.mem_reverse.1 hmem

theorem find?_ofList_filter (l : List (Text × α)) {q : Text → Bool} {k : Text} (h : q k = true) :
    (ofList (l.filter fun e => q e.1)).find? k = (ofList l).find? k := by
  rw [find?_ofList, find?_ofList, ← List.filter_reverse, lookup_filter q _ h]

/-! ## Parts of an index -/

/-- The entries whose keys satisfy `q`. -/
def restrict (m : Index α) (q : Text → Bool) : Index α :=
  ⟨m.entries.filter fun e => q e.1, m.ascending.filter _⟩

theorem find?_restrict (m : Index α) (q : Text → Bool) (k : Text) :
    (m.restrict q).find? k = if q k = true then m.find? k else none := by
  split_ifs with hk
  · exact lookup_filter q m.entries hk
  · refine List.lookup_eq_none_iff.2 fun e he => bne_iff_ne.2 ?_
    rintro rfl
    exact hk (List.mem_filter.1 he).2

theorem filter_entries_congr {m m' : Index α} {q : Text → Bool}
    (h : ∀ k, q k = true → m.find? k = m'.find? k) :
    (m.entries.filter fun e => q e.1) = m'.entries.filter fun e => q e.1 := by
  have hsame : m.restrict q = m'.restrict q := eq_of_find?_eq fun k => by
    rw [find?_restrict, find?_restrict]
    split_ifs with hk
    · exact h k hk
    · rfl
  exact congrArg entries hsame

/-- The entries below a key, under the key and above it. -/
theorem entries_split (m : Index α) (k : Text) :
    m.entries = (m.entries.filter fun e => e.1 < k) ++ (m.find? k).toList.map (fun v => (k, v)) ++
      m.entries.filter fun e => k < e.1 := by
  obtain ⟨l, hl⟩ := m
  simp only [find?]
  induction l with
  | nil => rfl
  | cons e rest ih =>
    obtain ⟨k', v⟩ := e
    have hhead := (List.pairwise_cons.1 hl).1
    have hrest := ih (List.pairwise_cons.1 hl).2
    by_cases hlt : k' < k
    · have hnot : ¬ k < k' := List.lt_asymm hlt
      have hne : k ≠ k' := (ne_of_lt hlt).symm
      rw [lookup_cons_eq, if_neg hne]
      simpa [hlt, hnot] using hrest
    -- The key is not above the head, so all of the rest stands above the key.
    have habove : ∀ e ∈ rest, k < e.1 := by
      intro e he
      by_cases hgt : k < k'
      · exact List.lt_trans hgt (hhead e he)
      · exact eq_of_not_lt hlt hgt ▸ hhead e he
    have hlower : (rest.filter fun e => e.1 < k) = [] := by
      refine List.filter_eq_nil_iff.2 fun e he => ?_
      simpa using List.lt_asymm (habove e he)
    have hupper : (rest.filter fun e => k < e.1) = rest :=
      List.filter_eq_self.2 fun e he => by simpa using habove e he
    by_cases hgt : k < k'
    · have hnone : rest.lookup k = none :=
        List.lookup_eq_none_iff.2 fun e he => bne_iff_ne.2 (ne_of_lt (habove e he))
      rw [lookup_cons_eq, if_neg (ne_of_lt hgt), hnone]
      simp [hlt, hgt, hlower, hupper]
    · obtain rfl := eq_of_not_lt hlt hgt
      rw [lookup_cons_eq, if_pos rfl]
      simp [hlower, hupper]

end Index

end Roster
