import Roster.Text.Basic

/-!
# Indexes

An index lists values under texts, in ascending order of the texts and each text once. Texts are
compared by code points, which is also the order of their UTF-8 bytes.

* `insert` puts a value under a key and replaces what stood there.
* `find?` looks a key up.
-/

namespace Roster

/-- The entries under ascending keys with `v` under `k`, which replaces an entry for `k`. -/
def Index.place {α : Type} (k : Text) (v : α) : List (Text × α) → List (Text × α)
  | [] => [(k, v)]
  | (k', v') :: rest =>
    if k < k' then (k, v) :: (k', v') :: rest
    else if k' < k then (k', v') :: place k v rest
    else (k', v) :: rest

theorem Index.mem_place {α : Type} {k : Text} {v : α} {e : Text × α} {l : List (Text × α)}
    (h : e ∈ Index.place k v l) : e.1 = k ∨ ∃ e' ∈ l, e'.1 = e.1 := by
  induction l with
  | nil =>
    simp only [place, List.mem_singleton] at h
    exact .inl (by rw [h])
  | cons head rest ih =>
    obtain ⟨k', v'⟩ := head
    simp only [place] at h
    split at h
    · rcases List.mem_cons.1 h with rfl | h
      · exact .inl rfl
      · exact .inr ⟨e, h, rfl⟩
    · split at h
      · rcases List.mem_cons.1 h with rfl | h
        · exact .inr ⟨_, List.mem_cons_self, rfl⟩
        · rcases ih h with h | ⟨e', he', h⟩
          · exact .inl h
          · exact .inr ⟨e', List.mem_cons_of_mem _ he', h⟩
      · rcases List.mem_cons.1 h with rfl | h
        · exact .inr ⟨(k', v'), List.mem_cons_self, rfl⟩
        · exact .inr ⟨e, List.mem_cons_of_mem _ h, rfl⟩

theorem Index.place_ascending {α : Type} (k : Text) (v : α) {l : List (Text × α)}
    (h : l.Pairwise fun a b => a.1 < b.1) :
    (Index.place k v l).Pairwise fun a b => a.1 < b.1 := by
  induction l with
  | nil => simp [place]
  | cons head rest ih =>
    obtain ⟨k', v'⟩ := head
    have hhead := (List.pairwise_cons.1 h).1
    have hrest := (List.pairwise_cons.1 h).2
    simp only [place]
    split
    · next hlt =>
      refine List.pairwise_cons.2 ⟨fun e he => ?_, h⟩
      rcases List.mem_cons.1 he with rfl | he
      · exact hlt
      · exact List.lt_trans hlt (hhead e he)
    · split
      · next hgt =>
        refine List.pairwise_cons.2 ⟨fun e he => ?_, ih hrest⟩
        rcases Index.mem_place he with h | ⟨e', he', h⟩
        · exact h ▸ hgt
        · exact h ▸ hhead e' he'
      · exact List.pairwise_cons.2 ⟨hhead, hrest⟩

/-- Values under texts; the texts ascend, so each occurs once. -/
structure Index (α : Type) where
  /-- The keys with their values. -/
  entries : List (Text × α)
  /-- Every key is smaller than those after it. -/
  ascending : entries.Pairwise fun a b => a.1 < b.1

namespace Index

variable {α : Type}

/-- The index without entries. -/
def empty : Index α := ⟨[], .nil⟩

instance : Inhabited (Index α) := ⟨empty⟩

/-- Puts `v` under `k`; an entry for `k` is replaced. -/
def insert (m : Index α) (k : Text) (v : α) : Index α :=
  ⟨place k v m.entries, place_ascending k v m.ascending⟩

/-- The value under `k`. -/
def find? (m : Index α) (k : Text) : Option α := m.entries.lookup k

/-- The index of a list of entries; of two with one key the later stays. -/
def ofList (l : List (Text × α)) : Index α := l.foldl (fun m e => m.insert e.1 e.2) empty

/-- The number of entries. -/
def size (m : Index α) : Nat := m.entries.length

/-- The keys in ascending order. -/
def keys (m : Index α) : List Text := m.entries.map (·.1)

/-- The values in the order of their keys. -/
def values (m : Index α) : List α := m.entries.map (·.2)

@[ext] theorem ext {m m' : Index α} (h : m.entries = m'.entries) : m = m' := by
  cases m; cases m'; simp_all

@[simp] theorem entries_empty : (empty : Index α).entries = [] := rfl

@[simp] theorem entries_insert (m : Index α) (k : Text) (v : α) :
    (m.insert k v).entries = place k v m.entries := rfl

end Index

end Roster
