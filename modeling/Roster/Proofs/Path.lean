import Mathlib.Tactic.SplitIfs
import Roster.Config
import Roster.Proofs.Text.Cutting

/-!
# Where the result is written

The name of the output file is cut out of whatever was given for it, and put behind the snippets
directory. Neither slashes nor dots lead out of that directory.

* `LastComponent` says which component a path ends with, told on its text: slashes and single dots
  may follow it.

**Theorem (`fileName?_of_last`).** The file name of a path is its last component, unless that leads
upward.

**Theorem (`parts_join`).** A component that is put behind a directory is one part more.

**Theorem (`outputPath_inside`).** The result lies in the snippets directory, under the last
component of the given file or the default name.

A path is cut at its last slash. What follows that is the last component, or it is nothing or a dot
and the search goes on in front of the slash (`lastComponent_or_unnamed`).
-/

namespace Roster.Path

variable {p front tail name : Text}

/-! ## Named parts -/

/-- The root or the dot that a path starts with. -/
def lead (p : Path) : List Part :=
  if isAbsolute p then [.root]
  else if (Text.splitOn '/' p).head? = some ['.'] then [.here]
  else []

/-- The other parts of a path. -/
def named (p : Path) : List Part := (Text.splitOn '/' p).filterMap partOf?

theorem isAbsolute_iff : isAbsolute p = true ↔ ∃ rest, p = '/' :: rest := by
  unfold isAbsolute
  split
  · simp
  · next hslash =>
    simp only [Bool.false_eq_true, false_iff, not_exists]
    exact hslash

theorem parts_eq (p : Path) : parts p = lead p ++ named p := by
  unfold parts lead
  dsimp only
  split
  · rfl
  · next hslash hpieces =>
    rw [if_neg fun h => (isAbsolute_iff.1 h).elim hslash, named, hpieces]
    rfl
  · next path _ _ hslash hdot =>
    have hhead : (Text.splitOn '/' path).head? ≠ some ['.'] := by
      intro hhead
      obtain ⟨pieces, hpieces⟩ := List.head?_eq_some_iff.1 hhead
      exact hdot pieces hpieces
    rw [if_neg fun h => (isAbsolute_iff.1 h).elim hslash, if_neg hhead]
    rfl

@[simp] theorem named_nil : named [] = [] := rfl

theorem named_append_slash (p q : Path) : named (p ++ '/' :: q) = named p ++ named q := by
  rw [named, Text.splitOn_append_sep, List.filterMap_append]
  rfl

theorem named_of_not_mem (h : '/' ∉ p) : named p = (partOf? p).toList := by
  rw [named, Text.splitOn_of_not_mem h]
  cases hpart : partOf? p <;> simp [hpart]

theorem lead_append_slash (hp : p ≠ []) (q : Path) : lead (p ++ '/' :: q) = lead p := by
  have habsolute : isAbsolute (p ++ '/' :: q) = isAbsolute p := by
    cases p with
    | nil => exact absurd rfl hp
    | cons c rest =>
      by_cases hc : c = '/'
      · subst hc
        rfl
      · simp [isAbsolute, hc]
  rw [lead, lead, habsolute, Text.splitOn_append_sep,
    List.head?_append_of_ne_nil _ (Text.splitOn_ne_nil '/' p)]

/-- What stands behind a slash adds its named parts. -/
theorem parts_append_slash (hp : p ≠ []) (q : Path) :
    parts (p ++ '/' :: q) = parts p ++ named q := by
  rw [parts_eq, parts_eq, lead_append_slash hp, named_append_slash, List.append_assoc]

/-! ## Directories and what follows a component -/

/-- The text is empty or ends with a slash. -/
def IsDirectory (front : Text) : Prop := front = [] ∨ ∃ above, front = above ++ ['/']

theorem named_directory_append (h : IsDirectory front) (q : Path) :
    named (front ++ q) = named front ++ named q := by
  rcases h with rfl | ⟨above, rfl⟩
  · rfl
  · rw [List.append_assoc, List.singleton_append, named_append_slash, named_append_slash above []]
    simp

theorem parts_directory_append (h : IsDirectory front) (hne : front ≠ []) (q : Path) :
    parts (front ++ q) = parts front ++ named q := by
  rcases h with rfl | ⟨above, rfl⟩
  · exact absurd rfl hne
  rw [List.append_assoc, List.singleton_append]
  by_cases habove : above = []
  · subst habove
    have hroot (t : Path) : parts ('/' :: t) = .root :: named t := by
      rw [parts_eq, lead, if_pos (isAbsolute_iff.2 ⟨t, rfl⟩)]
      exact congrArg (Part.root :: ·) (named_append_slash [] t)
    exact hroot q
  · rw [parts_append_slash habove, parts_append_slash habove []]
    simp

/-- Slashes with nothing or a single dot behind each: they may follow a component. -/
inductive Trailing : Text → Prop where
  | nil : Trailing []
  | slash {tail : Text} (h : Trailing tail) : Trailing ('/' :: tail)
  | dot {tail : Text} (h : Trailing tail) : Trailing ('/' :: '.' :: tail)

theorem Trailing.append {tail' : Text} (h : Trailing tail) (h' : Trailing tail') :
    Trailing (tail ++ tail') := by
  induction h with
  | nil => exact h'
  | slash _ ih => exact .slash ih
  | dot _ ih => exact .dot ih

/-- What may follow a component names nothing. -/
theorem Trailing.named_append (h : Trailing tail) (p : Path) : named (p ++ tail) = named p := by
  induction h generalizing p with
  | nil => rw [List.append_nil]
  | @slash tail _ ih =>
    have htail := ih []
    rw [List.nil_append] at htail
    rw [named_append_slash, htail]
    simp
  | @dot tail _ ih =>
    have htail := ih ['.']
    rw [List.singleton_append] at htail
    rw [named_append_slash, htail]
    simp [named_of_not_mem, partOf?]

/-! ## The last component -/

/-- The text stands between slashes and is more than a dot. -/
structure IsComponent (name : Text) : Prop where
  slash : '/' ∉ name
  nonempty : name ≠ []
  dot : name ≠ ['.']

/-- The path ends with the component, apart from slashes and single dots behind it. -/
def LastComponent (p : Path) (name : Text) : Prop :=
  ∃ front tail, p = front ++ (name ++ tail) ∧ IsDirectory front ∧ IsComponent name ∧ Trailing tail

/-- The part that a component stands for. -/
def partOf (name : Text) : Part := if name = ['.', '.'] then .up else .name name

theorem IsComponent.named (h : IsComponent name) : named name = [partOf name] := by
  rw [named_of_not_mem h.slash, partOf?, if_neg (by simp [h.nonempty, h.dot]), partOf]
  split_ifs <;> rfl

theorem IsComponent.not_isAbsolute (h : IsComponent name) : ¬ isAbsolute name = true := by
  rw [isAbsolute_iff]
  rintro ⟨rest, rfl⟩
  exact h.slash List.mem_cons_self

theorem IsComponent.parts (h : IsComponent name) : parts name = [partOf name] := by
  have hlead : lead name = [] := by
    rw [lead, if_neg h.not_isAbsolute, Text.splitOn_of_not_mem h.slash, List.head?_cons, if_neg]
    simpa using h.dot
  rw [parts_eq, hlead, h.named, List.nil_append]

theorem LastComponent.getLast?_parts (h : LastComponent p name) :
    (parts p).getLast? = some (partOf name) := by
  obtain ⟨front, tail, rfl, hfront, hname, htail⟩ := h
  have hnamed : Path.named (front ++ (name ++ tail)) = Path.named front ++ [partOf name] := by
    rw [← List.append_assoc, htail.named_append, named_directory_append hfront, hname.named]
  rw [parts_eq, hnamed, ← List.append_assoc, List.getLast?_concat]

theorem LastComponent.isComponent (h : LastComponent p name) : IsComponent name := by
  obtain ⟨front, tail, -, -, hname, -⟩ := h
  exact hname

theorem LastComponent.append_tail (h : LastComponent p name) (htail : Trailing tail) :
    LastComponent (p ++ tail) name := by
  obtain ⟨front, tail', rfl, hfront, hname, htail'⟩ := h
  exact ⟨front, tail' ++ tail, by simp, hfront, hname, htail'.append htail⟩

theorem LastComponent.directory_append (h : LastComponent p name) (hfront : IsDirectory front) :
    LastComponent (front ++ p) name := by
  obtain ⟨front', tail, rfl, hfront', hname, htail⟩ := h
  refine ⟨front ++ front', tail, by simp, ?_, hname, htail⟩
  rcases hfront' with rfl | ⟨above, rfl⟩
  · rwa [List.append_nil]
  · exact .inr ⟨front ++ above, by simp⟩

/-- A text without slash is the last component of what it ends, or it names nothing. -/
theorem lastComponent_or_blank (hfront : IsDirectory front) (h : '/' ∉ name) :
    LastComponent (front ++ name) name ∨ name = [] ∨ name = ['.'] := by
  by_cases hnil : name = []
  · exact .inr (.inl hnil)
  by_cases hdot : name = ['.']
  · exact .inr (.inr hdot)
  exact .inl ⟨front, [], by simp, hfront, ⟨h, hnil, hdot⟩, .nil⟩

/-- **A path ends with a component or names nothing.** -/
theorem lastComponent_or_unnamed (p : Path) : (∃ name, LastComponent p name) ∨ named p = [] := by
  induction hlength : p.length using Nat.strong_induction_on generalizing p with
  | _ n ih =>
    subst hlength
    by_cases hslash : '/' ∈ p
    · obtain ⟨front, back, rfl, hback⟩ := Text.exists_last_of_mem hslash
      have hfront := ih front.length (by simp) front rfl
      have hdirectory : IsDirectory (front ++ ['/']) := .inr ⟨front, rfl⟩
      rcases lastComponent_or_blank hdirectory hback with hlast | hblank
      · left
        rw [List.append_assoc] at hlast
        exact ⟨back, hlast⟩
      -- What follows the last slash names nothing.
      have htrailing : Trailing ('/' :: back) := by
        rcases hblank with rfl | rfl
        · exact .slash .nil
        · exact .dot .nil
      rcases hfront with ⟨name, hname⟩ | hnone
      · exact .inl ⟨name, hname.append_tail htrailing⟩
      · right
        rw [htrailing.named_append, hnone]
    · have hdirectory : IsDirectory [] := .inl rfl
      rcases lastComponent_or_blank hdirectory hslash with hlast | hblank
      · exact .inl ⟨p, hlast⟩
      · right
        rcases hblank with rfl | rfl <;> rfl

/-- **The file name is the last component,** unless that leads upward. -/
theorem fileName?_of_last (h : LastComponent p name) :
    fileName? p = if name = ['.', '.'] then none else some name := by
  rw [fileName?, h.getLast?_parts, partOf]
  split_ifs <;> rfl

theorem fileName?_of_no_last (h : ¬ ∃ name, LastComponent p name) : fileName? p = none := by
  have hnone : named p = [] := (lastComponent_or_unnamed p).resolve_left h
  rw [fileName?, parts_eq, hnone, List.append_nil, lead]
  split_ifs <;> rfl

/-! ## Joining -/

/-- **A component that is put behind a directory is one part more.** -/
theorem parts_join (directory : Path) (h : IsComponent name) :
    parts (join directory name) = parts directory ++ [partOf name] := by
  rw [join, if_neg h.not_isAbsolute, ← h.named]
  by_cases hempty : directory = []
  · subst hempty
    rw [if_pos (by rfl), List.nil_append, h.parts, h.named]
    rfl
  by_cases hslash : directory.getLast? = some '/'
  · have hdirectory : IsDirectory directory := .inr (List.getLast?_eq_some_iff.1 hslash)
    rw [if_pos (by simp [hslash]), parts_directory_append hdirectory hempty]
  · rw [if_neg (by simp [hempty, hslash]), parts_append_slash hempty]

end Roster.Path

namespace Roster.Config

open Roster.Path

theorem isComponent_defaultOutput : IsComponent defaultOutput := by
  constructor <;> decide

/-- The name under which the result is written. -/
def outputName (c : Config) : Text := (fileName? c.outputFile).getD defaultOutput

theorem outputPath_eq (c : Config) : c.outputPath = join c.snippetsDir c.outputName := rfl

theorem outputName_of_last {c : Config} {last : Text} (h : LastComponent c.outputFile last) :
    c.outputName = if last = ['.', '.'] then defaultOutput else last := by
  rw [outputName, fileName?_of_last h]
  split_ifs <;> rfl

theorem outputName_of_no_last {c : Config} (h : ¬ ∃ last, LastComponent c.outputFile last) :
    c.outputName = defaultOutput := by
  rw [outputName, fileName?_of_no_last h]
  rfl

/-- The name is a component and does not lead upward. -/
theorem isComponent_outputName (c : Config) :
    IsComponent c.outputName ∧ c.outputName ≠ ['.', '.'] := by
  have hdefault : IsComponent defaultOutput ∧ defaultOutput ≠ ['.', '.'] :=
    ⟨isComponent_defaultOutput, by decide⟩
  by_cases h : ∃ last, LastComponent c.outputFile last
  · obtain ⟨last, hlast⟩ := h
    rw [outputName_of_last hlast]
    split_ifs with hup
    · exact hdefault
    · exact ⟨hlast.isComponent, hup⟩
  · rw [outputName_of_no_last h]
    exact hdefault

theorem parts_outputPath (c : Config) :
    parts c.outputPath = parts c.snippetsDir ++ [.name c.outputName] := by
  obtain ⟨hname, hup⟩ := isComponent_outputName c
  rw [outputPath_eq, parts_join _ hname, partOf, if_neg hup]

/-- **The result never leaves the snippets directory.** Whatever is given as the output file, the
result is written to a file directly in that directory. Its name is the last component of what is
given, or the default one if there is no such component or it leads upward. What stands in front of
the last component does not matter. -/
theorem outputPath_inside :
    (∀ c : Config, ∃ name, c.outputPath = join c.snippetsDir name ∧
      parts c.outputPath = parts c.snippetsDir ++ [.name name] ∧
      '/' ∉ name ∧ name ≠ [] ∧ name ≠ ['.'] ∧ name ≠ ['.', '.'] ∧
      (∀ last, LastComponent c.outputFile last →
        name = if last = ['.', '.'] then defaultOutput else last) ∧
      ((¬ ∃ last, LastComponent c.outputFile last) → name = defaultOutput)) ∧
    (∀ c : Config, parentParts? c.outputPath = some (parts c.snippetsDir)) ∧
    ∀ (c : Config) (directory directory' file last : Text),
      IsDirectory directory → IsDirectory directory' → LastComponent file last →
      outputPath { c with outputFile := directory ++ file } =
        outputPath { c with outputFile := directory' ++ file } := by
  refine ⟨?_, ?_, ?_⟩
  · intro c
    obtain ⟨hname, hup⟩ := isComponent_outputName c
    exact ⟨c.outputName, outputPath_eq c, parts_outputPath c, hname.slash, hname.nonempty,
      hname.dot, hup, fun _ => outputName_of_last, outputName_of_no_last⟩
  · intro c
    rw [parentParts?, parts_outputPath, List.reverse_concat]
    simp
  · intro c directory directory' file last h h' hlast
    have hsame : fileName? (directory ++ file) = fileName? (directory' ++ file) := by
      rw [fileName?_of_last (hlast.directory_append h),
        fileName?_of_last (hlast.directory_append h')]
    simp only [outputPath, hsame]

/-- A file that is told by an absolute path, with slashes and a dot behind its name. -/
theorem outputPath_inside_absolute :
    LastComponent "a.json/.//".toList "a.json".toList ∧
    outputPath { default with outputFile := "/etc/../".toList ++ "a.json/.//".toList } =
      outputPath { default with outputFile := [] ++ "a.json/.//".toList } ∧
    outputPath { default with outputFile := "/etc/../".toList ++ "a.json/.//".toList } =
      "snippets/a.json".toList := by
  have hlast : LastComponent "a.json/.//".toList "a.json".toList :=
    ⟨[], "/.//".toList, rfl, .inl rfl, ⟨by decide, by decide, by decide⟩,
      .dot (.slash (.slash .nil))⟩
  have hetc : IsDirectory "/etc/../".toList := .inr ⟨"/etc/..".toList, rfl⟩
  refine ⟨hlast, ?_, by decide⟩
  exact outputPath_inside.2.2 default "/etc/../".toList [] "a.json/.//".toList "a.json".toList hetc
    (.inl rfl) hlast

end Roster.Config
