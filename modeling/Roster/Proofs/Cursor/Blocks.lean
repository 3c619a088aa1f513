import Mathlib.Data.List.Induction
import Roster.Cursor
import Roster.Proofs.Text.Cutting
import Roster.Proofs.Text.Lines
import Roster.Proofs.Text.Lowercase

/-!
# Open blocks

In all languages but YAML the lines are read upward until one of them is a hit or a stop. Told
downward, this leaves no trace of the order in which the two are looked for.

* `Hits` and `Stops` say which lines these are, by what they mention when they are trimmed and in
  lower case.
* `Open` says that some line is a hit and no line below it is a stop.

**Theorem (`isContext_iff_open`).** The end of a text is a context exactly if its lines are open.

**Theorem (`lowest_hit_decides`).** A line that is both counts as a hit, and what stands above a
stop that is no hit has no say.

**Theorem (`typing_on_stays_open`).** An open block of JSON or Terraform stays open while no line is
written that starts with a closing bracket.

The induction is on the lines from the last one, which is the one that is read first
(`open_concat`). What is written behind a text changes its last line before that line is trimmed and
turned into lower case; a hit stays a hit because lower case keeps what a piece of the line
mentions, and a line does not become a stop because its first character stays.
-/

namespace Roster.Cursor

variable {language : Language} {ls above below : List Text} {line : Text}

/-! ## Hits and stops -/

/-- The line names a principal as the language writes it. YAML has rules of its own. -/
def Hits (language : Language) (line : Text) : Prop :=
  match language with
  | .json =>
    ("\"principal\"".toList <:+: line ∨ "\"notprincipal\"".toList <:+: line) ∧
      ('{' ∈ line ∨ ':' ∈ line)
  | .terraform => "principal".toList <:+: line ∧ '=' ∈ line ∧ '{' ∈ line
  | .typescript =>
    "serviceprincipal(".toList <:+: line ∨ "assumedby:".toList <:+: line ∨
      "principal:".toList <:+: line
  | .python =>
    "serviceprincipal(".toList <:+: line ∨ "assumed_by=".toList <:+: line ∨
      "principal=".toList <:+: line
  | .yaml => False

/-- The line ends what a principal stands in, as the language writes it. -/
def Stops (language : Language) (line : Text) : Prop :=
  match language with
  | .json | .terraform => ['}'] <+: line ∨ [']'] <+: line
  | .typescript => "class".toList <:+: line ∨ "interface".toList <:+: line
  | .python => "class ".toList <+: line ∨ "def ".toList <+: line ∨ [')'] <+: line
  | .yaml => False

/-- Some line is a hit and no line below it is a stop. -/
def Open (language : Language) (ls : List Text) : Prop :=
  ∃ above line below, ls = above ++ line :: below ∧ Hits language (folded line) ∧
    ∀ l ∈ below, ¬ Stops language (folded l)

theorem jsonHit_iff : jsonHit line = true ↔ Hits .json line := by
  simp [jsonHit, Hits, Text.occursIn_iff]

theorem terraformHit_iff : terraformHit line = true ↔ Hits .terraform line := by
  simp [terraformHit, Hits, Text.occursIn_iff, and_assoc]

theorem closesBlock_iff : closesBlock line = true ↔ ['}'] <+: line ∨ [']'] <+: line := by
  simp [closesBlock, Text.startsWith_iff]

theorem typescriptHit_iff : typescriptHit line = true ↔ Hits .typescript line := by
  simp [typescriptHit, Hits, Text.occursIn_iff, or_assoc]

theorem typescriptStop_iff : typescriptStop line = true ↔ Stops .typescript line := by
  simp [typescriptStop, Stops, Text.occursIn_iff]

theorem pythonHit_iff : pythonHit line = true ↔ Hits .python line := by
  simp [pythonHit, Hits, Text.occursIn_iff, or_assoc]

theorem pythonStop_iff : pythonStop line = true ↔ Stops .python line := by
  simp [pythonStop, Stops, Text.startsWith_iff, or_assoc]

instance (language : Language) (line : Text) : Decidable (Hits language line) :=
  match language with
  | .json => decidable_of_iff _ jsonHit_iff
  | .yaml => inferInstanceAs (Decidable False)
  | .terraform => decidable_of_iff _ terraformHit_iff
  | .typescript => decidable_of_iff _ typescriptHit_iff
  | .python => decidable_of_iff _ pythonHit_iff

instance (language : Language) (line : Text) : Decidable (Stops language line) :=
  match language with
  | .json | .terraform => decidable_of_iff _ closesBlock_iff
  | .yaml => inferInstanceAs (Decidable False)
  | .typescript => decidable_of_iff _ typescriptStop_iff
  | .python => decidable_of_iff _ pythonStop_iff

/-! ## Open lines -/

theorem not_open_nil : ¬ Open language [] := by
  rintro ⟨above, line, below, h, -⟩
  simp at h

/-- Lines are open below a place, or above it and nothing below it is a stop. -/
theorem open_append :
    Open language (above ++ below) ↔
      Open language below ∨ (Open language above ∧ ∀ l ∈ below, ¬ Stops language (folded l)) := by
  constructor
  · rintro ⟨front, line, back, hsplit, hhit, hback⟩
    -- The hit stands behind the place, or in front of it.
    rcases List.append_eq_append_iff.1 hsplit with ⟨gap, -, hbelow⟩ | ⟨gap, habove, hrest⟩
    · left
      exact ⟨gap, line, back, hbelow, hhit, hback⟩
    cases gap with
    | nil =>
      left
      exact ⟨[], line, back, hrest.symm, hhit, hback⟩
    | cons l gap =>
      right
      obtain ⟨rfl, rfl⟩ := List.cons.inj hrest
      constructor
      · refine ⟨front, line, gap, habove, hhit, ?_⟩
        intro l hl
        exact hback l (List.mem_append_left _ hl)
      · intro l hl
        exact hback l (List.mem_append_right _ hl)
  · intro h
    rcases h with ⟨front, line, back, rfl, hhit, hback⟩ | ⟨habove, hbelow⟩
    · exact ⟨above ++ front, line, back, by simp, hhit, hback⟩
    · obtain ⟨front, line, back, rfl, hhit, hback⟩ := habove
      refine ⟨front, line, back ++ below, by simp, hhit, ?_⟩
      intro l hl
      rcases List.mem_append.1 hl with hl | hl
      · exact hback l hl
      · exact hbelow l hl

theorem open_singleton : Open language [line] ↔ Hits language (folded line) := by
  constructor
  · rintro ⟨front, l, back, hsplit, hhit, -⟩
    obtain ⟨rfl, hrest⟩ | ⟨-, hback⟩ := List.singleton_eq_append_iff.1 hsplit
    · obtain ⟨rfl, -⟩ := List.cons.inj hrest
      exact hhit
    · exact nomatch hback
  · intro hhit
    exact ⟨[], line, [], rfl, hhit, by simp⟩

/-- **One line more.** It is a hit, or no stop and the lines above it are open. -/
theorem open_concat :
    Open language (ls ++ [line]) ↔
      Hits language (folded line) ∨ (Open language ls ∧ ¬ Stops language (folded line)) := by
  rw [open_append, open_singleton]
  simp

theorem open_behind_stop (hstop : Stops language (folded line))
    (hhit : ¬ Hits language (folded line)) :
    Open language (above ++ line :: below) ↔ Open language below := by
  have habove : ¬ Open language (above ++ [line]) := by
    rw [open_concat]
    intro h
    rcases h with hline | ⟨-, hnot⟩
    · exact hhit hline
    · exact hnot hstop
  rw [List.append_cons, open_append]
  simp [habove]

/-- Reading upward until a line is a hit or a stop tells whether lines are open. -/
theorem scan_iff {hit stop : Text → Bool} (hhit : ∀ l, hit l = true ↔ Hits language l)
    (hstop : ∀ l, stop l = true ↔ Stops language l) (ls : List Text) :
    scan hit stop (ls.reverse.map folded) = true ↔ Open language ls := by
  induction ls using List.reverseRecOn with
  | nil => simp [scan, not_open_nil]
  | append_singleton ls line ih =>
    have hscan : scan hit stop ((ls ++ [line]).reverse.map folded) =
        (hit (folded line) || (!stop (folded line) && scan hit stop (ls.reverse.map folded))) := by
      simp [scan]
    rw [hscan, open_concat, Bool.or_eq_true, Bool.and_eq_true, Bool.not_eq_true', hhit, ih,
      ← Bool.not_eq_true, hstop, and_comm]

/-- **The end of a text is a context** exactly if its lines are open. -/
theorem isContext_iff_open (h : language ≠ .yaml) (t : Text) :
    isContext language t = true ↔ Open language (Text.lines t) := by
  cases language with
  | json => exact scan_iff (fun _ => jsonHit_iff) (fun _ => closesBlock_iff) _
  | yaml => exact absurd rfl h
  | terraform => exact scan_iff (fun _ => terraformHit_iff) (fun _ => closesBlock_iff) _
  | typescript => exact scan_iff (fun _ => typescriptHit_iff) (fun _ => typescriptStop_iff) _
  | python => exact scan_iff (fun _ => pythonHit_iff) (fun _ => pythonStop_iff) _

/-- **The lowest line that is a hit or a stop decides,** and it decides for a context if it is a
hit. Outside YAML the end of a text is a context exactly if some line is a hit and no line below it
is a stop. A line that is both is a hit, and whatever stands above a stop that is no hit may be
replaced. -/
theorem lowest_hit_decides {language : Language} (h : language ≠ .yaml) :
    (∀ t, isContext language t = true ↔
      ∃ above line below, Text.lines t = above ++ line :: below ∧ Hits language (folded line) ∧
        ∀ l ∈ below, ¬ Stops language (folded l)) ∧
    (∀ t above line below, Text.lines t = above ++ line :: below → Hits language (folded line) →
      Stops language (folded line) → (∀ l ∈ below, ¬ Stops language (folded l)) →
      isContext language t = true) ∧
    ∀ t t' above above' below stop,
      Text.lines t = above ++ stop :: below → Text.lines t' = above' ++ stop :: below →
      Stops language (folded stop) → ¬ Hits language (folded stop) →
      isContext language t = isContext language t' := by
  refine ⟨isContext_iff_open h, ?_, ?_⟩
  · intro t above line below ht hhit _ hbelow
    exact (isContext_iff_open h t).2 ⟨above, line, below, ht, hhit, hbelow⟩
  · intro t t' above above' below stop ht ht' hstop hhit
    rw [Bool.eq_iff_iff, isContext_iff_open h, isContext_iff_open h, ht, ht',
      open_behind_stop hstop hhit, open_behind_stop hstop hhit]

/-- A closing bracket in front of a principal does not hide it, and one on a line of its own hides
what stands above it. -/
theorem lowest_hit_decides_closing :
    isContext .json "Statement\n\x7d , \"Principal\": \x7b\n  \"Service\": \"".toList = true ∧
    isContext .json "\"Principal\": \x7b\n  ]\n\"Action\": \"".toList =
      isContext .json "Statement\n\n  ]\n\"Action\": \"".toList := by
  have hjson : Language.json ≠ .yaml := by decide
  obtain ⟨-, hboth, habove⟩ := lowest_hit_decides hjson
  refine ⟨?_, ?_⟩
  · exact hboth _ ["Statement".toList] "\x7d , \"Principal\": \x7b".toList
      ["  \"Service\": \"".toList] rfl (by decide) (by decide) (by decide)
  · exact habove _ _ ["\"Principal\": \x7b".toList] ["Statement".toList, []]
      ["\"Action\": \"".toList] "  ]".toList rfl rfl (by decide) (by decide)

/-! ## Typing on -/

/-- The line starts with a closing bracket, white space apart. -/
def Closes (line : Text) : Prop := ['}'] <+: Text.trim line ∨ [']'] <+: Text.trim line

instance (line : Text) : Decidable (Closes line) := inferInstanceAs (Decidable (_ ∨ _))

theorem singleton_prefix_iff {c : Char} {t : Text} : [c] <+: t ↔ t.head? = some c := by
  cases t with
  | nil => simp
  | cons d rest => simp [List.cons_prefix_cons, eq_comm]

theorem closes_iff :
    Closes line ↔ (Text.trim line).head? = some '}' ∨ (Text.trim line).head? = some ']' := by
  rw [Closes, singleton_prefix_iff, singleton_prefix_iff]

theorem stops_iff_closes (h : language = .json ∨ language = .terraform) :
    Stops language (folded line) ↔ Closes line := by
  have hstops : Stops language (folded line) ↔
      ['}'] <+: folded line ∨ [']'] <+: folded line := by
    rcases h with rfl | rfl <;> rfl
  rw [hstops, closes_iff, singleton_prefix_iff, singleton_prefix_iff, folded,
    Text.head?_lowercase_iff (by decide), Text.head?_lowercase_iff (by decide)]

theorem Hits.mono {line' : Text} (hline : Hits language line)
    (h : ∀ mark, Text.NoSigma mark → mark <:+: line → mark <:+: line') : Hits language line' := by
  have hchar (c : Char) (hc : Text.NoSigma [c]) (hmem : c ∈ line) : c ∈ line' := by
    rw [← List.singleton_infix_iff] at hmem ⊢
    exact h [c] hc hmem
  cases language with
  | json =>
    obtain ⟨hname, hopens⟩ := hline
    constructor
    · exact hname.imp (h _ (by decide)) (h _ (by decide))
    · exact hopens.imp (hchar '{' (by decide)) (hchar ':' (by decide))
  | yaml => exact hline
  | terraform =>
    obtain ⟨hname, hgiven, hopens⟩ := hline
    exact ⟨h _ (by decide) hname, hchar '=' (by decide) hgiven, hchar '{' (by decide) hopens⟩
  | typescript | python =>
    rcases hline with hline | hline | hline
    · exact .inl (h _ (by decide) hline)
    · exact .inr (.inl (h _ (by decide) hline))
    · exact .inr (.inr (h _ (by decide) hline))

theorem not_hits_nil : ¬ Hits language [] := by
  cases language <;> simp [Hits]

theorem hits_append (h : Hits language (folded line)) (more : Text) :
    Hits language (folded (line ++ more)) := by
  by_cases hblank : Text.allBlank line = true
  · have hfolded : folded line = [] := by
      rw [folded, Text.trim_of_blanks (Text.allBlank_iff.1 hblank)]
      rfl
    rw [hfolded] at h
    exact absurd h not_hits_nil
  · rw [Bool.not_eq_true] at hblank
    apply h.mono
    intro mark hmark hinside
    exact Text.infix_lowercase hmark (Text.trim_prefix_append hblank more).isInfix hinside

/-- A line that goes on starts with a closing bracket only if it did before, or if it was blank and
a bracket is put behind it. -/
theorem closes_append {more : Text} (h : Closes (line ++ more)) :
    Closes line ∨ (Text.allBlank line = true ∧ Closes more) := by
  by_cases hblank : Text.allBlank line = true
  · right
    rw [Closes, Text.trim_blanks_append (Text.allBlank_iff.1 hblank)] at h
    exact ⟨hblank, h⟩
  · left
    rw [Bool.not_eq_true] at hblank
    rwa [closes_iff, Text.head?_trim_append hblank, ← closes_iff] at h

/-- **Typing on leaves an open block open.** In JSON and in Terraform a context stays one when a
text is put behind it, if no line of that text but the first starts with a closing bracket, and the
first one does not either or goes on a line that is more than white space. -/
theorem typing_on_stays_open {language : Language} (h : language = .json ∨ language = .terraform)
    {t more : Text} (ht : isContext language t = true)
    (hfirst : (∃ c ∈ (Text.lines t).getLastD [], Text.isBlank c = false) ∨
      ¬ Closes ((Text.lines more).headD []))
    (hrest : ∀ l ∈ (Text.lines more).tail, ¬ Closes l) :
    isContext language (t ++ more) = true := by
  have hyaml : language ≠ .yaml := by rcases h with rfl | rfl <;> decide
  rw [isContext_iff_open hyaml] at ht ⊢
  rcases List.eq_nil_or_concat' (Text.lines t) with hnil | ⟨above, last, hlines⟩
  · exact absurd hnil (Text.lines_ne_nil t)
  have hbelow : ∀ l ∈ (Text.lines more).tail, ¬ Stops language (folded l) := by
    intro l hl
    rw [stops_iff_closes h]
    exact hrest l hl
  rw [hlines, List.getLastD_concat] at hfirst
  rw [hlines, open_concat] at ht
  rw [Text.lines_append_of_last hlines]
  rcases ht with hhit | ⟨habove, hstop⟩
  · exact ⟨above, _, _, rfl, hits_append hhit _, hbelow⟩
  · rw [open_append]
    right
    refine ⟨habove, ?_⟩
    intro l hl
    rcases List.mem_cons.1 hl with rfl | hl
    -- The last line goes on, and becomes no stop.
    · rw [stops_iff_closes h] at hstop ⊢
      intro hcloses
      rcases closes_append hcloses with hlast | ⟨hblank, hmore⟩
      · exact hstop hlast
      · rcases hfirst with hsome | hnot
        · rw [← Text.allBlank_eq_false_iff, hblank] at hsome
          exact nomatch hsome
        · exact hnot hmore
    · exact hbelow l hl

/-- A hit that is a stop as well stays a hit when it goes on, though the sigma at its end changes
its lower case; and a blank line may go on with anything but a closing bracket. -/
theorem typing_on_stays_open_sigma :
    isContext .json "\x7d \"Principal\": \"ΑΣ".toList = true ∧
    isContext .json ("\x7d \"Principal\": \"ΑΣ".toList ++ "Α\x7d\n  x".toList) = true ∧
    isContext .terraform "principals = \x7b\n  ".toList = true ∧
    isContext .terraform ("principals = \x7b\n  ".toList ++ "type \x7d\n  x]".toList) = true := by
  have hjson : isContext .json "\x7d \"Principal\": \"ΑΣ".toList = true := by decide +kernel
  have hterraform : isContext .terraform "principals = \x7b\n  ".toList = true := by decide +kernel
  refine ⟨hjson, ?_, hterraform, ?_⟩
  · refine typing_on_stays_open (.inl rfl) hjson (.inl ?_) (by decide +kernel)
    exact Text.allBlank_eq_false_iff.1 (by decide +kernel)
  · exact typing_on_stays_open (.inr rfl) hterraform (.inr (by decide +kernel)) (by decide +kernel)

end Roster.Cursor
