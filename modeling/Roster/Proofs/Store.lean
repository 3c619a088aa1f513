import Mathlib.Tactic.SplitIfs
import Roster.Proofs.Index
import Roster.Store

/-!
# Writing changes one file or none

A write first makes directories and then one file. Directories only come where nothing is, so they
cover no file; and the file is opened before anything is put into it, so a write that is refused
has changed none.

**Theorem (`file?_of_write_refused`).** A write that is refused leaves all files as they are.

**Theorem (`write_done`).** A write that succeeds leaves its text to be read at its path, and all
other files as they are. Whether it succeeds does not depend on the text
(`write_refusal_irrelevant`).
-/

namespace Roster.Store

/-- The text of the file at a place. -/
def file? (s : Store) (p : Place) : Option Text :=
  match s.at? p with
  | some (.file content) => some content
  | _ => none

/-! ## Entries -/

theorem at?_put (s : Store) (p q : Place) (e : Entry) :
    (s.put p e).at? q =
      if q = [] then some .directory else if q = p then some e else s.at? q := by
  by_cases hnil : q = []
  · subst hnil
    rfl
  have hempty : q.isEmpty = false := by simpa using hnil
  simp only [at?, put, hempty, if_neg hnil, Bool.false_eq_true, if_false]
  rw [lookup_cons_eq]
  by_cases hq : q = p
  · rw [if_pos hq, if_pos hq]
  · rw [if_neg hq, if_neg hq, lookup_filter (fun old => decide (old ≠ p)) _ (by simpa using hq)]

theorem at?_put_of_directory {s : Store} {p q : Place} {e : Entry}
    (hp : s.at? p ≠ some .directory) (hq : s.at? q = some .directory) :
    (s.put p e).at? q = some .directory := by
  have hne : q ≠ p := by
    rintro rfl
    exact hp hq
  rw [at?_put, if_neg hne, hq, ite_self]

theorem ne_nil_of_at? {s : Store} {p : Place} (h : s.at? p ≠ some .directory) : p ≠ [] := by
  rintro rfl
  exact h rfl

theorem file?_put_self {s : Store} {p : Place} (content : Text)
    (h : s.at? p ≠ some .directory) : (s.put p (.file content)).file? p = some content := by
  rw [file?, at?_put, if_neg (ne_nil_of_at? h), if_pos rfl]

theorem file?_put_of_ne {p q : Place} (s : Store) (e : Entry) (h : q ≠ p) :
    (s.put p e).file? q = s.file? q := by
  rw [file?, at?_put, if_neg h]
  by_cases hnil : q = []
  · subst hnil
    rfl
  · rw [if_neg hnil, file?]

theorem file?_put_directory {s : Store} {p : Place} (h : s.at? p = none) (q : Place) :
    (s.put p .directory).file? q = s.file? q := by
  by_cases hq : q = p
  · subst hq
    have hnil : q ≠ [] := ne_nil_of_at? (by rw [h]; nofun)
    rw [file?, file?, at?_put, if_neg hnil, if_pos rfl, h]
  · exact file?_put_of_ne s .directory hq

/-! ## Directories -/

theorem makeDirectory_ok {s s' : Store} {parts : List Path.Part}
    (h : s.makeDirectory parts = .ok s') :
    ∃ p, s.at? p = none ∧ s' = s.put p .directory := by
  simp only [makeDirectory, bind, Except.bind] at h
  split at h
  · exact nomatch h
  split at h
  · exact nomatch h
  next place _ =>
  split at h
  · next hnone =>
    exact ⟨place, hnone, (Except.ok.inj h).symm⟩
  · exact nomatch h

theorem file?_makeDirectory {s s' : Store} {parts : List Path.Part}
    (h : s.makeDirectory parts = .ok s') (q : Place) : s'.file? q = s.file? q := by
  obtain ⟨p, hp, rfl⟩ := makeDirectory_ok h
  exact file?_put_directory hp q

/-- **Making directories changes no file,** even if it is refused on its way. -/
theorem file?_makeUpward (s : Store) (upward : List Path.Part) (q : Place) :
    (s.makeUpward upward).1.file? q = s.file? q := by
  induction upward generalizing s with
  | nil => rfl
  | cons part above ih =>
    rw [makeUpward]
    split
    · next made hmade => exact file?_makeDirectory hmade q
    · have hrest := ih s
      split
      · next s' r hmade =>
        rwa [hmade] at hrest
      · next s' hmade =>
        rw [hmade] at hrest
        split
        · next made hlast => exact (file?_makeDirectory hlast q).trans hrest
        · exact hrest
    · rfl

theorem file?_makeDirectories (s : Store) (parts : List Path.Part) (q : Place) :
    (s.makeDirectories parts).1.file? q = s.file? q :=
  file?_makeUpward s parts.reverse q

/-! ## Opening and reading -/

/-- Looking up a path finds the same place after a file was put where no directory is. -/
theorem follow_put {s : Store} {p : Place} (content : Text) (hp : s.at? p ≠ some .directory)
    {parts : List Path.Part} {start q : Place} (h : s.follow start parts = .ok q) :
    (s.put p (.file content)).follow start parts = .ok q := by
  induction parts generalizing start with
  | nil => exact h
  | cons part rest ih =>
    have henter : s.at? start = some .directory := by
      simp only [follow, enter] at h
      cases hstart : s.at? start with
      | none =>
        rw [hstart] at h
        exact nomatch h
      | some e =>
        cases e with
        | directory => rfl
        | file text =>
          rw [hstart] at h
          exact nomatch h
    have henter' := at?_put_of_directory (e := .file content) hp henter
    simp only [follow, enter, henter, bind, Except.bind] at h
    simp only [follow, enter, henter', bind, Except.bind]
    cases part with
    | root => exact ih h
    | here => exact ih h
    | up => exact ih h
    | name t =>
      simp only at h ⊢
      split_ifs at h ⊢ with hlong
      exact ih h

theorem follow_names {s : Store} {start place : Place} {names : List Text}
    (h : s.follow start (names.map .name) = .ok place) : place = start ++ names := by
  induction names generalizing start with
  | nil =>
    obtain rfl := Except.ok.inj h
    rw [List.append_nil]
  | cons t names ih =>
    simp only [List.map_cons, follow, bind, Except.bind] at h
    split at h
    · exact nomatch h
    · split_ifs at h
      rw [ih h, List.append_assoc, List.singleton_append]

theorem checked_ok {p p' : Path} (h : checked p = .ok p') : p' = p := by
  rw [checked] at h
  split_ifs at h
  exact (Except.ok.inj h).symm

/-- A file is opened at the place of its path, where no directory is, and is empty then. -/
theorem create_ok {s s' : Store} {p : Path} {place : Place} (h : s.create p = .ok (place, s')) :
    checked p = .ok p ∧ endsWithSlash p = false ∧ s.follow [] (steps p) = .ok place ∧
      s.at? place ≠ some .directory ∧ s' = s.put place (.file []) := by
  simp only [create, bind, Except.bind] at h
  cases hchecked : checked p with
  | error r =>
    rw [hchecked] at h
    exact nomatch h
  | ok p' =>
    obtain rfl := checked_ok hchecked
    simp only [hchecked] at h
    split at h
    · exact nomatch h
    split at h
    · exact nomatch h
    split at h
    · split_ifs at h with hslash
      split at h
      · exact nomatch h
      next found hfound =>
      split at h
      · exact nomatch h
      · next hfree =>
        obtain ⟨rfl, rfl⟩ := Prod.mk.inj (Except.ok.inj h)
        exact ⟨rfl, by simpa using hslash, hfound, hfree, rfl⟩
    · exact nomatch h

theorem read_put {s : Store} {p : Path} {place : Place} (content : Text)
    (hchecked : checked p = .ok p) (hslash : endsWithSlash p = false)
    (hplace : s.follow [] (steps p) = .ok place) (hfree : s.at? place ≠ some .directory) :
    (s.put place (.file content)).read p = .ok content := by
  have hfollow := follow_put content hfree hplace
  have hat : (s.put place (.file content)).at? place = some (.file content) := by
    rw [at?_put, if_neg (ne_nil_of_at? hfree), if_pos rfl]
  simp [read, locate, bind, Except.bind, hchecked, hfollow, hat, hslash]

/-! ## Writing -/

theorem put_put (s : Store) (p : Place) (e e' : Entry) : (s.put p e).put p e' = s.put p e' := by
  simp [put]

/-- **A write that is refused changes no file.** -/
theorem file?_of_write_refused {s s' : Store} {p : Path} {content : Text} {r : Refusal}
    (h : s.write p content = (s', .error r)) (q : Place) : s'.file? q = s.file? q := by
  cases hparts : p.parentParts? with
  | none =>
    simp only [write, hparts] at h
    split at h
    · cases h
      rfl
    · cases h
  | some parts =>
    have hmade := file?_makeDirectories s parts q
    simp only [write, hparts] at h
    split at h
    · cases h
      exact hmade
    · split at h
      · cases h
        exact hmade
      · cases h

/-- **A write that succeeds leaves its text** at the place of its path, and changes no other
file. -/
theorem write_done {s s' : Store} {p : Path} {content : Text}
    (h : s.write p content = (s', .ok ())) :
    s'.read p = .ok content ∧ ∃ place, s'.follow [] (steps p) = .ok place ∧
      s'.file? place = some content ∧ ∀ q ≠ place, s'.file? q = s.file? q := by
  simp only [write] at h
  split at h
  · exact nomatch (Prod.mk.inj h).2
  split at h
  · exact nomatch (Prod.mk.inj h).2
  next place opened hopened =>
  obtain ⟨rfl, -⟩ := Prod.mk.inj h
  obtain ⟨hchecked, hslash, hplace, hfree, rfl⟩ := create_ok hopened
  rw [put_put]
  refine ⟨read_put content hchecked hslash hplace hfree, place, follow_put content hfree hplace,
    file?_put_self content hfree, fun q hq => ?_⟩
  rw [file?_put_of_ne _ _ hq]
  split
  · next parts _ => exact file?_makeDirectories s parts q
  · rfl

/-- Whether a write is refused does not depend on its text. -/
theorem write_refusal_irrelevant (s : Store) (p : Path) (content content' : Text) :
    (s.write p content).2 = (s.write p content').2 := by
  simp only [write]
  split
  · rfl
  · split <;> rfl

end Roster.Store
