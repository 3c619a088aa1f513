import Mathlib.Data.List.Forall2
import Mathlib.Data.List.Nodup
import Mathlib.Data.List.Perm.Basic
import Roster.Pool
import Roster.Proofs.Index

/-!
# Pools lose, repeat and swap nothing

Whatever the order in which tasks start, end and are collected, a pool answers one outcome for each
service, and the outcomes stand in the order of the services.

**The invariant** (`Accounts`). The moves of a history tell which tasks have been started, finished
and collected. Together with the tasks that still wait, run or have ended they account for every
task of the listing. The register holds the tickets of the tasks that have not been collected, and
what was collected is the outcome of its own ticket.

**Theorem (`History.accounts`).** The invariant holds in every state that a history leads to.

**Theorem (`outcomes_of_perm`).** Once everything is collected, the outcomes are those of the
services in the order of the listing, whatever sorted arrangement of the collected pairs is taken.

**Theorem (`run_follows`).** What a schedule leads to, a history leads to, and a run collects all
tasks (`run_isDone`). Each outcome is what the work on its service gave (`outcomes_worked`).
-/

namespace Roster.Pool

variable {possible : Service → Ending → Prop}

/-! ## What the moves of a history tell -/

/-- The tasks that were started. -/
def started (moves : List Move) : List Task :=
  moves.filterMap fun
    | .start t => some t
    | _ => none

/-- The tasks that were finished, with their endings. -/
def finished (moves : List Move) : List (Task × Ending) :=
  moves.filterMap fun
    | .finish t e => some (t, e)
    | _ => none

/-- The ids that were collected, with the endings of their tasks. -/
def joined (moves : List Move) : List (Nat × Ending) :=
  moves.filterMap fun
    | .collect id e => some (id, e)
    | _ => none

section Snoc

variable (moves : List Move) (t : Task) (e : Ending) (id : Nat)

@[simp] theorem started_nil : started [] = [] := rfl
@[simp] theorem finished_nil : finished [] = [] := rfl
@[simp] theorem joined_nil : joined [] = [] := rfl

@[simp] theorem started_start : started (moves ++ [.start t]) = started moves ++ [t] := by
  simp [started]
@[simp] theorem finished_start : finished (moves ++ [.start t]) = finished moves := by
  simp [finished]
@[simp] theorem joined_start : joined (moves ++ [.start t]) = joined moves := by
  simp [joined]

@[simp] theorem started_finish : started (moves ++ [.finish t e]) = started moves := by
  simp [started]
@[simp] theorem finished_finish :
    finished (moves ++ [.finish t e]) = finished moves ++ [(t, e)] := by
  simp [finished]
@[simp] theorem joined_finish : joined (moves ++ [.finish t e]) = joined moves := by
  simp [joined]

@[simp] theorem started_collect : started (moves ++ [.collect id e]) = started moves := by
  simp [started]
@[simp] theorem finished_collect : finished (moves ++ [.collect id e]) = finished moves := by
  simp [finished]
@[simp] theorem joined_collect :
    joined (moves ++ [.collect id e]) = joined moves ++ [(id, e)] := by
  simp [joined]

end Snoc

/-! ## Ids and tickets -/

theorem ids_tasks (ids : Numbering) (l : Listing) :
    (tasks ids l).map Task.id = (List.range l.length).map ids.id := by
  rw [tasks, List.map_map, List.range_eq_range', ← List.zipIdx_map_snd 0 l, List.map_map]
  rfl

theorem ids_tasks_nodup (ids : Numbering) (l : Listing) : ((tasks ids l).map Task.id).Nodup := by
  rw [ids_tasks]
  exact List.Nodup.map (fun i j => ids.distinct i j) List.nodup_range

theorem ids_tickets (ids : Numbering) (l : Listing) :
    (tickets ids l).map (·.1) = (tasks ids l).map Task.id := by
  rw [tickets, tasks, List.map_map, List.map_map]
  rfl

theorem lookup_tickets {ids : Numbering} {l : Listing} {id : Nat}
    (h : id ∈ (tasks ids l).map Task.id) : ∃ k, (tickets ids l).lookup id = some k := by
  rw [← ids_tickets] at h
  obtain ⟨x, hx, rfl⟩ := List.mem_map.1 h
  exact Option.isSome_iff_exists.1 (List.lookup_isSome_iff.2 ⟨x, hx, beq_self_eq_true _⟩)

/-! ## The invariant -/

/-- Every task of a listing is accounted for after the moves that led to a state. -/
structure Accounts (possible : Service → Ending → Prop) (ids : Numbering) (workers : Nat)
    (l : Listing) (moves : List Move) (p : Pool) : Prop where
  limit : p.limit = max workers 1
  running_le : p.running.length ≤ p.limit
  waiting : (p.waiting ++ started moves).Perm (tasks ids l)
  running : (p.running ++ (finished moves).map (·.1)).Perm (started moves)
  ended : (p.ended ++ joined moves).Perm ((finished moves).map fun x => (x.1.id, x.2))
  register : p.register = (tickets ids l).filter fun x => x.1 ∉ (joined moves).map (·.1)
  collected : p.collected.map some = (joined moves).map fun x =>
    ((tickets ids l).lookup x.1).map fun k => (k.place, x.2.outcome k.service)
  own : ∀ x ∈ finished moves, possible x.1.service x.2

theorem perm_move {α : Type} (front back l : List α) (x : α) :
    (front ++ back ++ (l ++ [x])).Perm (front ++ x :: back ++ l) := by
  rw [← List.append_assoc]
  refine List.perm_append_comm.trans ?_
  simpa using List.perm_middle.symm

theorem perm_grow {α : Type} {l l' l'' : List α} (h : (l ++ l').Perm l'') (x : α) :
    (l ++ [x] ++ l').Perm (l'' ++ [x]) := by
  refine List.Perm.trans ?_ (h.append_right [x])
  rw [List.append_assoc, List.append_assoc]
  exact List.perm_append_comm.append_left l

theorem nodup_of_subperm {α : Type} {l l' : List α} (h : l.Subperm l') (hl' : l'.Nodup) :
    l.Nodup := by
  obtain ⟨l'', hperm, hsub⟩ := h
  exact hperm.nodup_iff.1 (hsub.nodup hl')

namespace Accounts

variable {ids : Numbering} {workers : Nat} {l : Listing} {moves : List Move} {p : Pool}

theorem init (ids : Numbering) (workers : Nat) (l : Listing) :
    Accounts possible ids workers l [] (start ids workers l) where
  limit := rfl
  running_le := Nat.zero_le _
  waiting := by rw [started_nil, List.append_nil]; exact .refl _
  running := .refl _
  ended := .refl _
  register := by simp [start]
  collected := rfl
  own := by simp

/-- The ids of ended and of collected tasks, taken together, are ids of different tasks. -/
theorem ids_ended (h : Accounts possible ids workers l moves p) :
    ((p.ended ++ joined moves).map (·.1)).Subperm ((tasks ids l).map Task.id) := by
  have hended : ((p.ended ++ joined moves).map (·.1)).Perm
      (((finished moves).map (·.1)).map Task.id) := by
    simpa [Function.comp_def] using h.ended.map (·.1)
  have hrunning : ((finished moves).map (·.1)).Subperm (started moves) :=
    (List.sublist_append_right _ _).subperm.trans h.running.subperm
  have hwaiting : (started moves).Subperm (tasks ids l) :=
    (List.sublist_append_right _ _).subperm.trans h.waiting.subperm
  obtain ⟨rest, hrest, hsub⟩ := hrunning.trans hwaiting
  exact hended.subperm.trans ⟨rest.map Task.id, hrest.map _, hsub.map _⟩

/-- A task that is being collected has its ticket in the register still. -/
theorem lookup_register (h : Accounts possible ids workers l moves p) {id : Nat} {e : Ending}
    (hmem : (id, e) ∈ p.ended) :
    ∃ k, (tickets ids l).lookup id = some k ∧ p.register.lookup id = some k := by
  have hids := h.ids_ended
  rw [List.map_append] at hids
  have htask : id ∈ (tasks ids l).map Task.id :=
    hids.subset (List.mem_append_left _ (List.mem_map.2 ⟨_, hmem, rfl⟩))
  obtain ⟨k, hk⟩ := lookup_tickets htask
  have hnodup := nodup_of_subperm hids (ids_tasks_nodup ids l)
  have hfresh : id ∉ (joined moves).map (·.1) := fun hj =>
    (List.nodup_append.1 hnodup).2.2 id (List.mem_map.2 ⟨_, hmem, rfl⟩) id hj rfl
  refine ⟨k, hk, ?_⟩
  rw [h.register,
    lookup_filter (fun x => x ∉ (joined moves).map (·.1)) _ (by simpa using hfresh), hk]

/-- **Each step keeps the accounts.** -/
theorem step (h : Accounts possible ids workers l moves p) {move : Move} {q : Pool}
    (hstep : Step possible p move q) : Accounts possible ids workers l (moves ++ [move]) q := by
  cases hstep with
  | start front back t free waits =>
    refine ⟨h.limit, ?_, ?_, ?_, by simpa using h.ended, by rw [joined_start]; exact h.register,
      by simpa using h.collected, by simpa using h.own⟩
    · rw [List.length_append]
      exact free
    · have hwaiting := h.waiting
      rw [waits] at hwaiting
      rw [started_start]
      exact (perm_move front back _ t).trans hwaiting
    · rw [started_start, finished_start]
      exact perm_grow h.running t
  | finish front back t e runs ends =>
    have hrunning := h.running
    have hle := h.running_le
    rw [runs] at hrunning hle
    refine ⟨h.limit, ?_, by simpa using h.waiting, ?_, ?_, by rw [joined_finish]; exact h.register,
      by simpa using h.collected, ?_⟩
    · simp only [List.length_append, List.length_cons] at hle ⊢
      omega
    · rw [finished_finish, started_finish, List.map_append, List.map_singleton]
      exact (perm_move front back _ t).trans hrunning
    · rw [finished_finish, joined_finish, List.map_append, List.map_singleton]
      exact perm_grow h.ended (t.id, e)
    · intro x hx
      rw [finished_finish, List.mem_append, List.mem_singleton] at hx
      rcases hx with hx | rfl
      · exact h.own x hx
      · exact ends
  | collect front back id e done =>
    have hended := h.ended
    rw [done] at hended
    have hmem : (id, e) ∈ p.ended := by simp [done]
    -- A task is collected once, so the register still knows the place under its number.
    obtain ⟨k, hk, hregister⟩ := h.lookup_register hmem
    have hcollect : (({ p with ended := front ++ back } : Pool).collect id e) =
        { p with
          ended := front ++ back
          register := p.register.filter fun x => x.1 ≠ id
          collected := p.collected ++ [(k.place, e.outcome k.service)] } := by
      simp [Pool.collect, hregister]
    rw [hcollect]
    refine ⟨h.limit, h.running_le, by simpa using h.waiting, by simpa using h.running, ?_, ?_, ?_,
      by simpa using h.own⟩
    · rw [joined_collect, finished_collect]
      exact (perm_move front back _ (id, e)).trans hended
    · simp only [joined_collect, h.register, List.filter_filter, List.map_append]
      refine List.filter_congr fun x _ => ?_
      by_cases hx : x.1 = id <;> simp [hx]
    · simp [h.collected, hk]

end Accounts

/-- **The invariant of histories.** -/
theorem History.accounts {ids : Numbering} {workers : Nat} {l : Listing} {moves : List Move}
    {p : Pool} (h : History possible (start ids workers l) moves p) :
    Accounts possible ids workers l moves p := by
  induction h with
  | nil => exact Accounts.init ids workers l
  | snoc before last ih => exact ih.step last

/-! ## Everything is collected -/

/-- The places of the services with the outcomes of their tasks. -/
def noted (l : Listing) (endings : List Ending) : List (Nat × Outcome) :=
  (l.zipIdx.zip endings).map fun x => (x.1.2, x.2.outcome x.1.1.name)

theorem places_noted {l : Listing} {endings : List Ending} (h : endings.length = l.length) :
    (noted l endings).map (·.1) = List.range l.length := by
  have hfst : (l.zipIdx.zip endings).map (·.1) = l.zipIdx :=
    List.map_fst_zip (by simp [h])
  rw [noted, List.map_map, List.range_eq_range', ← List.zipIdx_map_snd 0 l]
  conv_rhs => rw [← hfst, List.map_map]
  rfl

theorem outcomes_noted (l : Listing) (endings : List Ending) :
    (noted l endings).map (·.2) = List.zipWith (fun s e => e.outcome s.name) l endings := by
  rw [noted, List.map_map, ← List.zipIdx_map_fst 0 l, List.zipWith_map_left,
    ← List.map_uncurry_zip_eq_zipWith]
  simp only [List.zipIdx_map_fst, Function.comp_def]
  exact List.map_congr_left fun x _ => rfl

/-- The only arrangement of the noted pairs that ascends by place is that of the listing. -/
theorem eq_noted_of_sorted {l : Listing} {endings : List Ending} (h : endings.length = l.length)
    {sorted : List (Nat × Outcome)} (hperm : sorted.Perm (noted l endings))
    (hsorted : sorted.Pairwise fun a b => a.1 ≤ b.1) : sorted = noted l endings := by
  have hplaces := places_noted h
  have hnodup : ((noted l endings).map (·.1)).Nodup := hplaces ▸ List.nodup_range
  have hascending : (noted l endings).Pairwise fun a b => a.1 ≤ b.1 := by
    refine List.pairwise_map.1 (?_ : ((noted l endings).map (·.1)).Pairwise (· ≤ ·))
    rw [hplaces]
    exact List.pairwise_le_range
  refine hperm.eq_of_pairwise (fun a b ha hb hab hba => ?_) hsorted hascending
  exact List.inj_on_of_nodup_map hnodup (hperm.subset ha) hb (Nat.le_antisymm hab hba)

theorem lookup_tickets_place (ids : Numbering) {l : Listing} {x : Service × Nat}
    (h : x ∈ l.zipIdx) : (tickets ids l).lookup (ids.id x.2) = some ⟨x.2, x.1.name⟩ := by
  have hmem : (ids.id x.2, (⟨x.2, x.1.name⟩ : Ticket)) ∈ tickets ids l :=
    List.mem_map.2 ⟨x, h, rfl⟩
  have hnodup : ((tickets ids l).map (·.1)).Nodup := ids_tickets ids l ▸ ids_tasks_nodup ids l
  obtain ⟨front, back, heq⟩ := List.append_of_mem hmem
  refine List.lookup_eq_some_iff.2 ⟨front, back, heq, fun y hy => bne_iff_ne.2 fun hid => ?_⟩
  rw [heq, List.map_append, List.nodup_append] at hnodup
  exact hnodup.2.2 _ (List.mem_map_of_mem hy) _ (List.mem_map_of_mem List.mem_cons_self) hid.symm

/-- Finished tasks take their endings along when they are arranged like the listing. -/
theorem exists_arrangement {α β : Type} {f : α → β} {l : List α} {l' : List β}
    (h : (l.map f).Perm l') : ∃ arranged : List α, arranged.map f = l' ∧ arranged.Perm l := by
  have hcomp := h.symm
  rw [← congrFun₂ (List.eq_map_comp_perm f) l' l] at hcomp
  obtain ⟨arranged, rfl, hperm⟩ := hcomp
  exact ⟨arranged, rfl, hperm⟩

/-- The finished tasks of a listing, collected by their ids, are noted at their places. -/
theorem map_lookup_tickets (ids : Numbering) (l : Listing) (endings : List Ending) :
    (((tasks ids l).zip endings).map fun x =>
      ((tickets ids l).lookup x.1.id).map fun k => (k.place, x.2.outcome k.service)) =
    (noted l endings).map some := by
  rw [tasks, List.zip_map_left, noted, List.map_map, List.map_map]
  refine List.map_congr_left fun x hx => ?_
  have hplace := lookup_tickets_place ids (List.of_mem_zip hx).1
  simp [hplace]

/-- Once everything is collected, each service has one ending. The finished tasks are those of the
services with their endings, and the collected pairs are the outcomes at their places. -/
theorem Accounts.settled {ids : Numbering} {workers : Nat} {l : Listing} {moves : List Move}
    {p : Pool} (h : Accounts possible ids workers l moves p) (hdone : p.isDone = true) :
    ∃ endings, List.Forall₂ possible l endings ∧
      (started moves).Perm (tasks ids l) ∧
      (finished moves).Perm ((tasks ids l).zip endings) ∧
      p.collected.Perm (noted l endings) := by
  simp only [isDone, Bool.and_eq_true, List.isEmpty_iff] at hdone
  obtain ⟨⟨hwaiting, hrunning⟩, hended⟩ := hdone
  have hstarted : (started moves).Perm (tasks ids l) := by simpa [hwaiting] using h.waiting
  have hfinished : ((finished moves).map (·.1)).Perm (tasks ids l) := by
    simpa [hrunning] using h.running.trans hstarted
  have hjoined : (joined moves).Perm ((finished moves).map fun x => (x.1.id, x.2)) := by
    simpa [hended] using h.ended
  -- The tasks were finished in any order. Put in that of the listing they give the endings.
  obtain ⟨arranged, hfst, harranged⟩ := exists_arrangement hfinished
  have hzip : arranged = (tasks ids l).zip (arranged.map (·.2)) := by
    rw [← hfst, List.zip_map', List.map_id']
  refine ⟨arranged.map (·.2), ?_, hstarted, hzip ▸ harranged.symm, ?_⟩
  · have hservices : arranged.map (fun x => x.1.service) = l := by
      have hmap := congrArg (List.map Task.service) hfst
      rw [List.map_map, tasks, List.map_map] at hmap
      exact hmap.trans (List.zipIdx_map_fst 0 l)
    rw [← hservices, List.forall₂_map_left_iff, List.forall₂_map_right_iff, List.forall₂_same]
    exact fun x hx => h.own x (harranged.subset hx)
  · have hcollected : (p.collected.map some).Perm ((noted l (arranged.map (·.2))).map some) := by
      rw [h.collected, ← map_lookup_tickets ids, ← hzip]
      have hpairs := hjoined.trans (harranged.symm.map fun x => (x.1.id, x.2))
      simpa [Function.comp_def] using hpairs.map fun x =>
        ((tickets ids l).lookup x.1).map fun k => (k.place, x.2.outcome k.service)
    simpa using hcollected.filterMap id

/-- The outcomes of services whose tasks ended in these ways, in the order of the listing. -/
def ownOutcomes (l : Listing) (endings : List Ending) : List Outcome :=
  List.zipWith (fun s e => e.outcome s.name) l endings

/-- **The outcomes stand in the order of the listing.** It does not matter in which way the
collected pairs are sorted by their places. -/
theorem outcomes_of_perm {l : Listing} {endings : List Ending} (h : endings.length = l.length)
    {collected sorted : List (Nat × Outcome)} (hcollected : collected.Perm (noted l endings))
    (hperm : sorted.Perm collected) (hsorted : sorted.Pairwise fun a b => a.1 ≤ b.1) :
    sorted.map (·.2) = ownOutcomes l endings := by
  rw [eq_noted_of_sorted h (hperm.trans hcollected) hsorted, outcomes_noted, ownOutcomes]

theorem outcomes_eq {p : Pool} {l : Listing} {endings : List Ending}
    (h : endings.length = l.length) (hcollected : p.collected.Perm (noted l endings)) :
    p.outcomes = ownOutcomes l endings := by
  refine outcomes_of_perm h hcollected (List.mergeSort_perm _ _) ?_
  have hsorted : (p.collected.mergeSort fun a b => a.1 ≤ b.1).Pairwise
      fun a b => decide (a.1 ≤ b.1) = true := by
    refine List.pairwise_mergeSort (fun a b c hab hbc => ?_) (fun a b => ?_) _
    · simp only [decide_eq_true_eq] at hab hbc ⊢
      omega
    · simp only [Bool.or_eq_true, decide_eq_true_eq]
      omega
  exact hsorted.imp of_decide_eq_true

/-! ## Following a schedule -/

variable {σ : Type} {work : Service → σ → Ending × σ}

/-- An ending that the work on a service may have in some state. -/
def MayEnd (work : Service → σ → Ending × σ) (service : Service) (e : Ending) : Prop :=
  ∃ s, (work service s).1 = e

/-- Tasks with the endings that they have when they are worked on in this order, and the state
behind the last one. -/
def worked (work : Service → σ → Ending × σ) : List Task → σ → List (Task × Ending) × σ
  | [], s => ([], s)
  | t :: rest, s =>
    let (e, s) := work t.service s
    let (done, s) := worked work rest s
    ((t, e) :: done, s)

theorem worked_append (work : Service → σ → Ending × σ) (front back : List Task) (s : σ) :
    worked work (front ++ back) s =
      ((worked work front s).1 ++ (worked work back (worked work front s).2).1,
        (worked work back (worked work front s).2).2) := by
  induction front generalizing s with
  | nil => rfl
  | cons t front ih => simp [worked, ih]

theorem exists_split {α : Type} {l : List α} {i : Nat} {x : α} (h : l[i]? = some x) :
    ∃ front back, l = front ++ x :: back ∧ l.eraseIdx i = front ++ back := by
  obtain ⟨hi, rfl⟩ := List.getElem?_eq_some_iff.1 h
  refine ⟨l.take i, l.drop (i + 1), ?_, List.eraseIdx_eq_take_drop_succ l i⟩
  rw [← List.drop_eq_getElem_cons hi, List.take_append_drop]

/-- A state of the pool and of the work that a history leads to, in which tasks are worked on when
they are finished. -/
def Follows (work : Service → σ → Ending × σ) (first : Pool) (s₀ : σ) (moves : List Move)
    (p : Pool) (s : σ) : Prop :=
  History (MayEnd work) first moves p ∧
    worked work ((finished moves).map (·.1)) s₀ = (finished moves, s)

/-- A turn is a step or nothing. -/
theorem Follows.take {first p : Pool} {s₀ s : σ} {moves : List Move}
    (h : Follows work first s₀ moves p s) (turn : Turn) :
    ∃ moves', Follows work first s₀ moves' (p.take work s turn).1 (p.take work s turn).2 := by
  obtain ⟨hhistory, hworked⟩ := h
  -- A turn whose index is out of range does nothing, and neither does a start without room.
  cases turn with
  | start i =>
    rw [Pool.take]
    split
    · next t hwaits =>
      split_ifs with hfree
      · obtain ⟨front, back, hsplit, herase⟩ := exists_split hwaits
        refine ⟨moves ++ [.start t], .snoc hhistory ?_, by simpa using hworked⟩
        rw [herase]
        exact .start p front back t hfree hsplit
      · exact ⟨moves, hhistory, hworked⟩
    · exact ⟨moves, hhistory, hworked⟩
  | finish i =>
    rw [Pool.take]
    split
    · next t hruns =>
      obtain ⟨front, back, hsplit, herase⟩ := exists_split hruns
      refine ⟨moves ++ [.finish t (work t.service s).1], .snoc hhistory ?_, ?_⟩
      · rw [herase]
        exact .finish p front back t _ hsplit ⟨s, rfl⟩
      · rw [finished_finish, List.map_append, worked_append, hworked]
        rfl
    · exact ⟨moves, hhistory, hworked⟩
  | collect i =>
    rw [Pool.take]
    split
    · next id e hdone =>
      obtain ⟨front, back, hsplit, herase⟩ := exists_split hdone
      refine ⟨moves ++ [.collect id e], .snoc hhistory ?_, by simpa using hworked⟩
      rw [herase]
      exact .collect p front back id e hsplit
    · exact ⟨moves, hhistory, hworked⟩

/-- **What a schedule leads to, a history leads to.** -/
theorem Follows.follow {first p : Pool} {s₀ s : σ} {moves : List Move}
    (h : Follows work first s₀ moves p s) (turns : List Turn) :
    ∃ moves', Follows work first s₀ moves' (follow work turns p s).1 (follow work turns p s).2 := by
  induction turns generalizing p s moves with
  | nil => exact ⟨moves, h⟩
  | cons turn turns ih =>
    obtain ⟨moves', h'⟩ := h.take turn
    exact ih h'

/-! ## A run comes to its end -/

/-- The number of tasks that are not collected. -/
def unfinished (p : Pool) : Nat := p.waiting.length + p.running.length + p.ended.length

theorem isDone_iff (p : Pool) : p.isDone = true ↔ p.unfinished = 0 := by
  simp [isDone, unfinished, List.length_eq_zero_iff, and_assoc]

@[simp] theorem limit_collect (p : Pool) (id : Nat) (e : Ending) :
    (p.collect id e).limit = p.limit := by
  rw [Pool.collect]
  split <;> rfl

@[simp] theorem unfinished_collect (p : Pool) (id : Nat) (e : Ending) :
    (p.collect id e).unfinished = p.unfinished := by
  rw [Pool.collect]
  split <;> rfl

theorem limit_take (p : Pool) (s : σ) (turn : Turn) : (p.take work s turn).1.limit = p.limit := by
  cases turn <;> rw [Pool.take] <;> split <;> try split_ifs
  all_goals simp

theorem unfinished_take_le (p : Pool) (s : σ) (turn : Turn) :
    (p.take work s turn).1.unfinished ≤ p.unfinished := by
  cases turn with
  | start i =>
    rw [Pool.take]
    split
    · next t hwaits =>
      obtain ⟨hi, -⟩ := List.getElem?_eq_some_iff.1 hwaits
      split_ifs
      · simp only [unfinished, List.length_eraseIdx_of_lt hi, List.length_append,
          List.length_singleton]
        omega
      · exact Nat.le_refl _
    · exact Nat.le_refl _
  | finish i =>
    rw [Pool.take]
    split
    · next t hruns =>
      obtain ⟨hi, -⟩ := List.getElem?_eq_some_iff.1 hruns
      simp only [unfinished, List.length_eraseIdx_of_lt hi, List.length_append,
        List.length_singleton]
      omega
    · exact Nat.le_refl _
  | collect i =>
    rw [Pool.take]
    split
    · next id e hdone =>
      obtain ⟨hi, -⟩ := List.getElem?_eq_some_iff.1 hdone
      show (Pool.collect _ id e).unfinished ≤ p.unfinished
      rw [unfinished_collect]
      simp only [unfinished, List.length_eraseIdx_of_lt hi]
      omega
    · exact Nat.le_refl _

/-- A turn that starts a task leaves none waiting unless there is one at work. -/
theorem running_take_start {p : Pool} (s : σ) (h : 0 < p.limit) :
    (p.take work s (.start 0)).1.waiting = [] ∨ (p.take work s (.start 0)).1.running ≠ [] := by
  cases hwaiting : p.waiting with
  | nil => exact .inl (by simp [take, hwaiting])
  | cons t rest =>
    right
    by_cases hfree : p.running.length < p.limit
    · simp [take, hwaiting, hfree]
    · have hbusy : p.running ≠ [] := by
        rintro hnil
        rw [hnil] at hfree
        exact hfree h
      simpa [take, hwaiting, hfree] using hbusy

theorem ended_take_finish {p : Pool} (s : σ) (h : p.waiting = [] ∨ p.running ≠ []) :
    (p.take work s (.finish 0)).1.unfinished = 0 ∨ (p.take work s (.finish 0)).1.ended ≠ [] := by
  cases hrunning : p.running with
  | cons t rest => exact .inr (by simp [take, hrunning])
  | nil =>
    have hwaiting : p.waiting = [] := h.resolve_right fun hne => hne hrunning
    cases hended : p.ended with
    | nil => exact .inl (by simp [take, unfinished, hrunning, hwaiting, hended])
    | cons x rest => exact .inr (by simp [take, hrunning, hended])

theorem unfinished_take_collect {p : Pool} (s : σ) (h : p.unfinished = 0 ∨ p.ended ≠ []) :
    (p.take work s (.collect 0)).1.unfinished = p.unfinished - 1 := by
  cases hended : p.ended with
  | nil =>
    have hzero : p.unfinished = 0 := h.resolve_right fun hne => hne hended
    simp [take, hended, hzero]
  | cons x rest =>
    have htake : (p.take work s (.collect 0)).1.unfinished =
        (({ p with ended := rest } : Pool).collect x.1 x.2).unfinished := by
      simp [take, hended]
    rw [htake, unfinished_collect]
    simp only [unfinished, hended, List.length_cons]
    omega

theorem unfinished_oneByOne (n : Nat) {p : Pool} (s : σ) (hlimit : 0 < p.limit)
    (hn : p.unfinished ≤ n) : (follow work (oneByOne n) p s).1.unfinished = 0 := by
  induction n generalizing p s with
  | zero => exact Nat.le_zero.1 hn
  | succ n ih =>
    let started := p.take work s (.start 0)
    let finished := started.1.take work started.2 (.finish 0)
    let collected := finished.1.take work finished.2 (.collect 0)
    have hround : follow work (oneByOne (n + 1)) p s =
        follow work (oneByOne n) collected.1 collected.2 := by
      simp [oneByOne, List.replicate_succ, follow, started, finished, collected]
    have hstarted : started.1.unfinished ≤ p.unfinished := unfinished_take_le p s _
    have hfinished : finished.1.unfinished ≤ started.1.unfinished := unfinished_take_le _ _ _
    have hcollected : collected.1.unfinished = finished.1.unfinished - 1 :=
      unfinished_take_collect _ (ended_take_finish _ (running_take_start s hlimit))
    have hsame : collected.1.limit = p.limit := by
      rw [limit_take, limit_take, limit_take]
    rw [hround]
    exact ih collected.2 (hsame ▸ hlimit) (by omega)

theorem limit_follow (turns : List Turn) (p : Pool) (s : σ) :
    (follow work turns p s).1.limit = p.limit := by
  induction turns generalizing p s with
  | nil => rfl
  | cons turn turns ih => exact (ih _ _).trans (limit_take p s turn)

theorem unfinished_follow_le (turns : List Turn) (p : Pool) (s : σ) :
    (follow work turns p s).1.unfinished ≤ p.unfinished := by
  induction turns generalizing p s with
  | nil => exact Nat.le_refl _
  | cons turn turns ih => exact Nat.le_trans (ih _ _) (unfinished_take_le p s turn)

theorem follow_append (turns turns' : List Turn) (p : Pool) (s : σ) :
    follow work (turns ++ turns') p s =
      follow work turns' (follow work turns p s).1 (follow work turns p s).2 := by
  induction turns generalizing p s with
  | nil => rfl
  | cons turn turns ih => exact ih _ _

/-- **A run collects all tasks,** whatever the schedule. -/
theorem run_isDone (work : Service → σ → Ending × σ) (schedule : Schedule) (workers : Nat)
    (l : Listing) (s : σ) : (run work schedule workers l s).1.isDone = true := by
  rw [isDone_iff, run, follow_append]
  have hlimit : 0 < (start schedule.ids workers l).limit :=
    Nat.lt_of_lt_of_le Nat.zero_lt_one (Nat.le_max_right workers 1)
  have hall : (start schedule.ids workers l).unfinished = l.length := by
    simp [start, unfinished, tasks]
  refine unfinished_oneByOne _ _ (by rw [limit_follow]; exact hlimit) ?_
  exact Nat.le_trans (unfinished_follow_le _ _ _) (Nat.le_of_eq hall)

/-- **A run is a history** from the start, in which the tasks are worked on in the order in which
they are finished. -/
theorem run_follows (work : Service → σ → Ending × σ) (schedule : Schedule) (workers : Nat)
    (l : Listing) (s : σ) :
    ∃ moves, Follows work (start schedule.ids workers l) s moves
      (run work schedule workers l s).1 (run work schedule workers l s).2 :=
  Follows.follow ⟨.nil _, rfl⟩ _

/-! ## Every outcome is worked for -/

/-- The ending of a task is what the work on its service gives behind the work on those in front. -/
theorem mem_worked {order : List Task} {s : σ} {t : Task} {e : Ending}
    (h : (t, e) ∈ (worked work order s).1) : ∃ earlier later, order = earlier ++ t :: later ∧
      e = (work t.service (worked work earlier s).2).1 := by
  induction order generalizing s with
  | nil => exact nomatch h
  | cons t' order ih =>
    rcases List.mem_cons.1 h with heq | h
    · obtain ⟨rfl, rfl⟩ := Prod.mk.inj heq
      exact ⟨[], order, rfl, rfl⟩
    · obtain ⟨earlier, later, rfl, rfl⟩ := ih h
      exact ⟨t' :: earlier, later, rfl, rfl⟩

theorem services_tasks (ids : Numbering) (l : Listing) : (tasks ids l).map Task.service = l := by
  rw [tasks, List.map_map]
  exact List.zipIdx_map_fst 0 l

theorem mem_ownOutcomes (ids : Numbering) {l : Listing} {endings : List Ending} {o : Outcome}
    (h : o ∈ ownOutcomes l endings) :
    ∃ x ∈ (tasks ids l).zip endings, o = x.2.outcome x.1.service.name := by
  rw [ownOutcomes, ← services_tasks ids l, List.zipWith_map_left, ← List.map_uncurry_zip_eq_zipWith] at h
  obtain ⟨x, hx, rfl⟩ := List.mem_map.1 h
  exact ⟨x, hx, rfl⟩

/-- **The outcomes of a run are worked for,** one service after the other in some order: each is
what the work on its service gave behind the work on those in front. -/
theorem outcomes_worked (work : Service → σ → Ending × σ) (schedule : Schedule) (workers : Nat)
    (l : Listing) (s : σ) :
    ∃ order : List Task, (order.map Task.service).Perm l ∧
      (run work schedule workers l s).2 = (worked work order s).2 ∧
      ∀ o ∈ (run work schedule workers l s).1.outcomes, ∃ earlier t later,
        order = earlier ++ t :: later ∧
        o = (work t.service (worked work earlier s).2).1.outcome t.service.name := by
  obtain ⟨moves, hhistory, hworked⟩ := run_follows work schedule workers l s
  obtain ⟨endings, hown, -, hfinished, hcollected⟩ :=
    hhistory.accounts.settled (run_isDone work schedule workers l s)
  refine ⟨(finished moves).map (·.1), ?_, (congrArg Prod.snd hworked).symm, fun o ho => ?_⟩
  · have htasks : ((tasks schedule.ids l).zip endings).map (·.1) = tasks schedule.ids l :=
      List.map_fst_zip (by simp [tasks, hown.length_eq])
    have hperm := (hfinished.map (·.1)).map Task.service
    rwa [htasks, services_tasks] at hperm
  · rw [outcomes_eq hown.length_eq.symm hcollected] at ho
    obtain ⟨⟨t, e⟩, hx, rfl⟩ := mem_ownOutcomes schedule.ids ho
    have hmem : (t, e) ∈ (worked work ((finished moves).map (·.1)) s).1 := by
      rw [hworked]
      exact hfinished.symm.subset hx
    obtain ⟨earlier, later, hsplit, rfl⟩ := mem_worked hmem
    exact ⟨earlier, t, later, hsplit, rfl⟩

-- The second task is the first to end, by a crash, and to be collected.
example : (run (fun s (n : Nat) => (if s.name = ['b'] then .crashed ['x']
      else .returned (.silent s.name), n + 1))
    { turns := [.start 0, .start 0, .finish 1, .collect 0] } 2
    [⟨['a'], []⟩, ⟨['b'], []⟩] 0).1.outcomes = [.silent ['a'], .failed ['b'] ['x']] := by
  cbv

end Roster.Pool
