import Mathlib.Data.List.TakeWhile
import Mathlib.Tactic.SplitIfs
import Roster.Cursor

/-!
# Which lines make a principal context in YAML

The lines are read upward with two registers: whether a service key has been seen, and the
indentation of the nearest principal key. What the scan finds can be said without it.

* `Joined` says which lines make a context: a principal line with a service line below it, or one
  above it with nothing in between that ends the block.

**Theorem (`scan_above_iff`).** Above a principal line the scan looks for a service line, and what
it passes on its way belongs to the nearest principal line below.

**Theorem (`principal_block_decides`).** The scan answers whether the lines are joined. That it
stops at a deeper service line does not matter, nor how such a line is indented, nor anything above a
marker.

There are two inductions over the lines. The one above the principal line generalises that line,
because each further principal line takes its place; the one below it carries whether a service line
has been seen, which decides alone as soon as a principal line comes (`scan_of_seen`).
-/

namespace Roster.Cursor.Yaml

/-! ## Kinds of lines -/

theorem head?_of_startsWith {c : Char} {lead t : Text}
    (h : Text.startsWith (c :: lead) t = true) : t.head? = some c := by
  obtain ⟨rest, rfl⟩ := Text.startsWith_iff.1 h
  rfl

theorem head?_of_isService {line : Text} (h : isService line = true) :
    (folded line).head? = some 's' :=
  head?_of_startsWith h

theorem head?_of_isPrincipal {line : Text} (h : isPrincipal line = true) :
    (folded line).head? = some 'p' :=
  head?_of_startsWith h

theorem head?_of_isMarker {line : Text} (h : isMarker line = true) :
    (folded line).head? = some '-' ∨ (folded line).head? = some '.' :=
  ((Bool.or_eq_true _ _).mp h).imp head?_of_startsWith head?_of_startsWith

/-- A line is of one kind at most. -/
theorem isPrincipal_of_isService {line : Text} (h : isService line = true) :
    isPrincipal line = false := by
  refine Bool.eq_false_iff.2 fun hprincipal => ?_
  have hheads := (head?_of_isService h).symm.trans (head?_of_isPrincipal hprincipal)
  exact absurd hheads (by decide)

theorem isMarker_of_isService {line : Text} (h : isService line = true) :
    isMarker line = false := by
  refine Bool.eq_false_iff.2 fun hmarker => ?_
  rcases head?_of_isMarker hmarker with hhead | hhead
  all_goals exact absurd ((head?_of_isService h).symm.trans hhead) (by decide)

theorem isMarker_of_isPrincipal {line : Text} (h : isPrincipal line = true) :
    isMarker line = false := by
  refine Bool.eq_false_iff.2 fun hmarker => ?_
  rcases head?_of_isMarker hmarker with hhead | hhead
  all_goals exact absurd ((head?_of_isPrincipal h).symm.trans hhead) (by decide)

theorem isService_of_isPrincipal {line : Text} (h : isPrincipal line = true) :
    isService line = false :=
  Bool.eq_false_iff.2 fun hservice => nomatch (isPrincipal_of_isService hservice).symm.trans h

theorem isService_of_isMarker {line : Text} (h : isMarker line = true) : isService line = false :=
  Bool.eq_false_iff.2 fun hservice => nomatch (isMarker_of_isService hservice).symm.trans h

theorem isPrincipal_of_isMarker {line : Text} (h : isMarker line = true) :
    isPrincipal line = false :=
  Bool.eq_false_iff.2 fun hprincipal => nomatch (isMarker_of_isPrincipal hprincipal).symm.trans h

theorem isMarker_of_blank {line : Text} (h : folded line = []) : isMarker line = false := by
  rw [isMarker, h]
  rfl

theorem folded_of_allBlank {line : Text} (h : Text.allBlank line = true) : folded line = [] := by
  have htrim : Text.trimStart line = [] := by
    rw [Text.trimStart, List.dropWhile_eq_nil_iff]
    exact List.all_eq_true.1 h
  rw [folded, Text.trim, htrim]
  rfl

theorem exists_indent_of_isPrincipal {line : Text} (h : isPrincipal line = true) :
    ∃ m, indent? line = some m := by
  rw [indent?]
  split_ifs with hblank
  · have hhead := head?_of_isPrincipal h
    rw [folded_of_allBlank hblank] at hhead
    exact nomatch hhead
  · exact ⟨_, rfl⟩

theorem deeper_iff {i : Option Nat} {m : Nat} :
    deeper i (some m) = true ↔ ∃ n, i = some n ∧ m < n := by
  cases i with
  | none => simp [deeper]
  | some n => simp [deeper]

/-! ## Steps of the scan -/

/-- The line ends what stands above the nearest principal line, or a document. -/
def stops (principal : Option (Option Nat)) (line : Text) : Bool :=
  ((principal.map fun p => !deeper (indent? line) p).getD false && !(folded line).isEmpty) ||
    isMarker line

/-- Once both keys have been seen nothing changes the answer. -/
theorem scan_of_seen (p : Option Nat) (upward : List Text) : scan ⟨true, some p⟩ upward = true := by
  induction upward generalizing p with
  | nil => rfl
  | cons line above ih =>
    rw [scan]
    split_ifs
    · rfl
    · exact ih (indent? line)
    · rfl
    · rfl
    · exact ih p

theorem scan_service {line : Text} (h : isService line = true) (seen : Seen) (above : List Text) :
    scan seen (line :: above) = (seen.principal.isSome || scan ⟨true, none⟩ above) := by
  obtain ⟨service, principal⟩ := seen
  have hprincipal := isPrincipal_of_isService h
  have hmarker := isMarker_of_isService h
  cases principal with
  | none => simp [scan, h, hprincipal, hmarker]
  | some p =>
    have hrest := scan_of_seen p above
    simp [scan, h, hprincipal, hmarker, Seen.both, hrest]

theorem scan_principal {line : Text} (h : isPrincipal line = true) (seen : Seen)
    (above : List Text) :
    scan seen (line :: above) = scan ⟨seen.service, some (indent? line)⟩ above := by
  simp [scan, h, isService_of_isPrincipal h]

theorem scan_other {line : Text} (hservice : isService line = false)
    (hprincipal : isPrincipal line = false) (seen : Seen) (above : List Text) :
    scan seen (line :: above) =
      if stops seen.principal line then seen.both else scan seen above := by
  rw [scan, stops]
  by_cases hlevel : ((seen.principal.map fun p => !deeper (indent? line) p).getD false &&
    !(folded line).isEmpty) = true
  · simp only [hservice, hprincipal, hlevel, Bool.or_false, Bool.false_and, Bool.false_eq_true,
      if_false, if_true, Bool.true_or, Seen.both]
  · simp only [hservice, hprincipal, hlevel, Bool.or_false, Bool.false_and, Bool.false_eq_true,
      if_false, Bool.false_or, Seen.both]

/-! ## Above a principal line -/

/-- The principal line that is nearest below, if `principal` is the last of them and `between` the
lines from there on, read upward. -/
def nearest (principal : Text) (between : List Text) : Text :=
  (between.filter isPrincipal).getLast?.getD principal

/-- A line belongs to a principal line below it: it is blank, or a principal line too, or no marker
and indented deeper. -/
def Belongs (principal line : Text) : Prop :=
  folded line = [] ∨ isPrincipal line = true ∨
    isMarker line = false ∧
      ∃ n m, indent? line = some n ∧ indent? principal = some m ∧ m < n

/-- Every line belongs to the nearest principal line below it. -/
def Unbroken (principal : Text) (between : List Text) : Prop :=
  ∀ front line back, between = front ++ line :: back → Belongs (nearest principal front) line

theorem unbroken_nil (principal : Text) : Unbroken principal [] := by
  intro front line back h
  simp at h

theorem nearest_cons (principal line : Text) (between : List Text) :
    nearest principal (line :: between) =
      nearest (if isPrincipal line then line else principal) between := by
  rw [nearest, nearest, List.filter_cons]
  split_ifs
  · rw [List.getLast?_cons, Option.getD_some]
  · rfl

theorem unbroken_cons {principal line : Text} {between : List Text} :
    Unbroken principal (line :: between) ↔
      Belongs principal line ∧ Unbroken (if isPrincipal line then line else principal) between := by
  constructor
  · intro h
    refine ⟨h [] line between rfl, fun front line' back hsplit => ?_⟩
    have hbelongs := h (line :: front) line' back (by rw [hsplit]; rfl)
    rwa [nearest_cons] at hbelongs
  · rintro ⟨hline, hrest⟩ front line' back hsplit
    cases front with
    | nil =>
      obtain ⟨rfl, -⟩ := List.cons.inj hsplit
      exact hline
    | cons head front =>
      obtain ⟨rfl, hbetween⟩ := List.cons.inj hsplit
      rw [nearest_cons]
      exact hrest front line' back hbetween

/-- Of the lines that are no keys those pass that belong to the principal line. -/
theorem stops_eq_false_iff {principal line : Text} (hprincipal : isPrincipal principal = true)
    (hline : isPrincipal line = false) :
    stops (some (indent? principal)) line = false ↔ Belongs principal line := by
  obtain ⟨m, hm⟩ := exists_indent_of_isPrincipal hprincipal
  have hdeeper := deeper_iff (i := indent? line) (m := m)
  simp only [stops, hm, Option.map_some, Option.getD_some, Bool.or_eq_false_iff,
    Bool.and_eq_false_iff, Bool.not_eq_false', List.isEmpty_iff]
  constructor
  · rintro ⟨hdeep | hblank, hmarker⟩
    · obtain ⟨n, hn, hlt⟩ := hdeeper.1 hdeep
      exact .inr (.inr ⟨hmarker, n, m, hn, hm, hlt⟩)
    · exact .inl hblank
  · rintro (hblank | hkey | ⟨hmarker, n, m', hn, hm', hlt⟩)
    · exact ⟨.inr hblank, isMarker_of_blank hblank⟩
    · exact nomatch hline.symm.trans hkey
    · obtain rfl := Option.some.inj (hm.symm.trans hm')
      exact ⟨.inl (hdeeper.2 ⟨n, hn, hlt⟩), hmarker⟩

/-- Some line is a service line, and those in front of it belong to the nearest principal line. -/
def ReachesService (principal : Text) (above : List Text) : Prop :=
  ∃ between service rest, above = between ++ service :: rest ∧ isService service = true ∧
    Unbroken principal between

theorem reachesService_of_service {principal line : Text} (h : isService line = true)
    (above : List Text) : ReachesService principal (line :: above) :=
  ⟨[], line, above, rfl, h, unbroken_nil principal⟩

/-- A line that is no service line has to be passed. -/
theorem reachesService_cons {principal line : Text} {above : List Text}
    (h : isService line = false) :
    ReachesService principal (line :: above) ↔ Belongs principal line ∧
      ReachesService (if isPrincipal line then line else principal) above := by
  constructor
  · rintro ⟨between, service, rest, hsplit, hservice, hunbroken⟩
    cases between with
    | nil =>
      obtain ⟨rfl, -⟩ := List.cons.inj hsplit
      exact nomatch h.symm.trans hservice
    | cons head between =>
      obtain ⟨rfl, habove⟩ := List.cons.inj hsplit
      obtain ⟨hline, hrest⟩ := unbroken_cons.1 hunbroken
      exact ⟨hline, between, service, rest, habove, hservice, hrest⟩
  · rintro ⟨hline, between, service, rest, rfl, hservice, hrest⟩
    exact ⟨line :: between, service, rest, rfl, hservice, unbroken_cons.2 ⟨hline, hrest⟩⟩

/-- **Above a principal line** the scan answers whether it reaches a service line. -/
theorem scan_above_iff {principal : Text} (h : isPrincipal principal = true) (above : List Text) :
    scan ⟨false, some (indent? principal)⟩ above = true ↔ ReachesService principal above := by
  induction above generalizing principal with
  | nil =>
    constructor
    · intro hscan
      exact nomatch hscan
    · rintro ⟨between, service, rest, hsplit, -⟩
      simp at hsplit
  | cons line above ih =>
    by_cases hservice : isService line = true
    · rw [scan_service hservice]
      exact ⟨fun _ => reachesService_of_service hservice above, fun _ => rfl⟩
    rw [Bool.not_eq_true] at hservice
    rw [reachesService_cons hservice]
    by_cases hprincipal : isPrincipal line = true
    · rw [scan_principal hprincipal, if_pos hprincipal, ih hprincipal]
      exact ⟨fun hreaches => ⟨.inr (.inl hprincipal), hreaches⟩, fun hreaches => hreaches.2⟩
    · rw [Bool.not_eq_true] at hprincipal
      have hpasses := stops_eq_false_iff h hprincipal
      rw [scan_other hservice hprincipal, hprincipal, if_neg Bool.false_ne_true, ← ih h]
      cases hstop : stops (some (indent? principal)) line with
      | true =>
        refine ⟨fun hscan => (nomatch hscan), fun ⟨hbelongs, _⟩ => ?_⟩
        exact nomatch hstop.symm.trans (hpasses.2 hbelongs)
      | false => exact ⟨fun hscan => ⟨hpasses.1 hstop, hscan⟩, fun ⟨_, hscan⟩ => hscan⟩

/-! ## Below the first principal line -/

/-- The lines, read upward, put a service line and a principal line together: no marker stands below
the first principal line, and a service line stands below it too or can be reached above it. -/
def Joined (upward : List Text) : Prop :=
  ∃ below principal above, upward = below ++ principal :: above ∧ isPrincipal principal = true ∧
    (∀ line ∈ below, isPrincipal line = false ∧ isMarker line = false) ∧
    ((∃ line ∈ below, isService line = true) ∨ ReachesService principal above)

/-- The same when a service line may have been seen below the lines. -/
def JoinedWith (service : Bool) (upward : List Text) : Prop :=
  ∃ below principal above, upward = below ++ principal :: above ∧ isPrincipal principal = true ∧
    (∀ line ∈ below, isPrincipal line = false ∧ isMarker line = false) ∧
    ((service = true ∨ ∃ line ∈ below, isService line = true) ∨ ReachesService principal above)

theorem joinedWith_false {upward : List Text} : JoinedWith false upward ↔ Joined upward := by
  simp [JoinedWith, Joined]

theorem joinedWith_principal {line : Text} (h : isPrincipal line = true) (service : Bool)
    (above : List Text) :
    JoinedWith service (line :: above) ↔ service = true ∨ ReachesService line above := by
  constructor
  · rintro ⟨below, principal, above', hsplit, hprincipal, hbelow, hjoined⟩
    cases below with
    | nil =>
      obtain ⟨rfl, rfl⟩ := List.cons.inj hsplit
      simpa using hjoined
    | cons head below =>
      obtain ⟨rfl, -⟩ := List.cons.inj hsplit
      exact nomatch h.symm.trans (hbelow line List.mem_cons_self).1
  · intro hjoined
    exact ⟨[], line, above, rfl, h, fun _ hmem => (nomatch hmem), by simpa using hjoined⟩

theorem joinedWith_other {line : Text} (h : isPrincipal line = false) (service : Bool)
    (above : List Text) :
    JoinedWith service (line :: above) ↔
      isMarker line = false ∧ JoinedWith (service || isService line) above := by
  constructor
  · rintro ⟨below, principal, above', hsplit, hprincipal, hbelow, hjoined⟩
    cases below with
    | nil =>
      obtain ⟨rfl, -⟩ := List.cons.inj hsplit
      exact nomatch h.symm.trans hprincipal
    | cons head below =>
      obtain ⟨rfl, habove⟩ := List.cons.inj hsplit
      refine ⟨(hbelow line List.mem_cons_self).2, below, principal, above', habove, hprincipal,
        fun line' hmem => hbelow line' (List.mem_cons_of_mem _ hmem), ?_⟩
      simpa [or_assoc] using hjoined
  · rintro ⟨hmarker, below, principal, above', rfl, hprincipal, hbelow, hjoined⟩
    refine ⟨line :: below, principal, above', rfl, hprincipal, fun line' hmem => ?_, ?_⟩
    · rcases List.mem_cons.1 hmem with rfl | hmem
      · exact ⟨h, hmarker⟩
      · exact hbelow line' hmem
    · simpa [or_assoc] using hjoined

theorem scan_below_iff (service : Bool) (upward : List Text) :
    scan ⟨service, none⟩ upward = true ↔ JoinedWith service upward := by
  induction upward generalizing service with
  | nil =>
    constructor
    · intro hscan
      simp [scan, Seen.both] at hscan
    · rintro ⟨below, principal, above, hsplit, -⟩
      simp at hsplit
  | cons line above ih =>
    by_cases hprincipal : isPrincipal line = true
    · rw [scan_principal hprincipal, joinedWith_principal hprincipal, ← scan_above_iff hprincipal]
      cases service with
      | true => simp [scan_of_seen]
      | false => simp
    rw [Bool.not_eq_true] at hprincipal
    rw [joinedWith_other hprincipal, ← ih]
    by_cases hservice : isService line = true
    · rw [scan_service hservice, isMarker_of_isService hservice]
      simp [hservice]
    rw [Bool.not_eq_true] at hservice
    rw [scan_other hservice hprincipal]
    simp [stops, hservice, Seen.both]

/-! ## What does not matter -/

/-- The scan that goes on at a service line, however deep it is. -/
def scanOn (seen : Seen) : List Text → Bool
  | [] => seen.both
  | line :: above =>
    let seen := { seen with service := seen.service || isService line }
    if isPrincipal line then scanOn { seen with principal := some (indent? line) } above
    else if stops seen.principal line then seen.both
    else scanOn seen above

theorem scanOn_of_seen (p : Option Nat) (upward : List Text) :
    scanOn ⟨true, some p⟩ upward = true := by
  induction upward generalizing p with
  | nil => rfl
  | cons line above ih =>
    rw [scanOn]
    split_ifs
    · exact ih (indent? line)
    · rfl
    · exact ih p

/-- **Nothing is gained by stopping early** at a service line. -/
theorem scanOn_eq_scan (seen : Seen) (upward : List Text) :
    scanOn seen upward = scan seen upward := by
  induction upward generalizing seen with
  | nil => rfl
  | cons line above ih =>
    obtain ⟨service, principal⟩ := seen
    by_cases hprincipal : isPrincipal line = true
    · have hservice := isService_of_isPrincipal hprincipal
      rw [scan_principal hprincipal, scanOn]
      simp only [hprincipal, hservice, Bool.or_false, if_true, ih]
    by_cases hservice : isService line = true
    · rw [scan_service hservice, scanOn]
      simp only [hprincipal, hservice, Bool.or_true, Bool.false_eq_true, if_false]
      cases principal with
      | none => simp [stops, isMarker_of_isService hservice, ih]
      | some p =>
        rw [scanOn_of_seen]
        split_ifs <;> rfl
    · rw [Bool.not_eq_true] at hprincipal hservice
      rw [scan_other hservice hprincipal, scanOn]
      simp only [hprincipal, hservice, Bool.or_false, Bool.false_eq_true, if_false, ih]

/-- What the scan makes of lines does not depend on how they continue, if it makes the same of both
continuations. -/
theorem scan_append_congr {rest rest' : List Text} (h : ∀ seen, scan seen rest = scan seen rest')
    (seen : Seen) (front : List Text) : scan seen (front ++ rest) = scan seen (front ++ rest') := by
  induction front generalizing seen with
  | nil => exact h seen
  | cons line front ih => simp only [List.cons_append, scan, ih]

theorem scan_marker {mark : Text} (h : isMarker mark = true) (seen : Seen) (above : List Text) :
    scan seen (mark :: above) = seen.both := by
  have hstop : stops seen.principal mark = true := by rw [stops, h, Bool.or_true]
  rw [scan_other (isService_of_isMarker h) (isPrincipal_of_isMarker h), if_pos hstop]

/-! ## Texts -/

/-- The lines of a text around one of them, read upward. -/
theorem isContext_yaml_of_lines {t line : Text} {above below : List Text}
    (h : Text.lines t = above ++ line :: below) :
    isContext .yaml t = scan ⟨false, none⟩ (below.reverse ++ line :: above.reverse) := by
  rw [isContext, h]
  simp

/-- **A service line and a principal line make a context** if they are joined, and only then. The
answer is the same when the scan goes on at a deeper service line. A service line may stand for
another one, whatever its indentation, and whatever stands above a marker may be replaced. -/
theorem principal_block_decides :
    (∀ t, isContext .yaml t = true ↔ Joined (Text.lines t).reverse) ∧
    (∀ seen upward, scanOn seen upward = scan seen upward) ∧
    (∀ t t' above below service service',
      Text.lines t = above ++ service :: below → Text.lines t' = above ++ service' :: below →
      isService service = true → isService service' = true →
      isContext .yaml t = isContext .yaml t') ∧
    ∀ t t' above above' below mark,
      Text.lines t = above ++ mark :: below → Text.lines t' = above' ++ mark :: below →
      isMarker mark = true → isContext .yaml t = isContext .yaml t' := by
  refine ⟨fun t => ?_, scanOn_eq_scan, fun t t' above below service service' ht ht' h h' => ?_,
    fun t t' above above' below mark ht ht' h => ?_⟩
  · rw [← joinedWith_false, ← scan_below_iff]
    rfl
  · rw [isContext_yaml_of_lines ht, isContext_yaml_of_lines ht']
    refine scan_append_congr (fun seen => ?_) _ _
    rw [scan_service h, scan_service h']
  · rw [isContext_yaml_of_lines ht, isContext_yaml_of_lines ht']
    refine scan_append_congr (fun seen => ?_) _ _
    rw [scan_marker h, scan_marker h]

/-- A service line may stand to the left of the principal line, and what a marker marks off has no
say. -/
theorem principal_block_decides_dedented :
    isContext .yaml "  Principal:\nService: x".toList = true ∧
    isContext .yaml "  Principal:\nService: x".toList =
      isContext .yaml "  Principal:\n    service: ".toList ∧
    isContext .yaml "Principal:\n Service:\n--- \nOther:".toList =
      isContext .yaml "--- \nOther:".toList := by
  obtain ⟨hjoined, -, hservice, hmarker⟩ := principal_block_decides
  refine ⟨(hjoined _).2 ?_, ?_, ?_⟩
  · refine ⟨["Service: x".toList], "  Principal:".toList, [], rfl, by decide, ?_,
      .inl ⟨_, List.mem_cons_self, by decide⟩⟩
    intro line hline
    obtain rfl := List.mem_singleton.1 hline
    exact ⟨by decide, by decide⟩
  · exact hservice _ _ ["  Principal:".toList] [] "Service: x".toList "    service: ".toList rfl rfl
      (by decide) (by decide)
  · exact hmarker _ _ ["Principal:".toList, " Service:".toList] [] ["Other:".toList] "--- ".toList
      rfl rfl (by decide)

end Roster.Cursor.Yaml
