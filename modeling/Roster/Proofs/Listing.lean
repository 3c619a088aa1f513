import Mathlib.Data.List.Induction
import Mathlib.Data.List.Nodup
import Roster.Service

/-!
# Which services a page lists

The rows of a table are read from top to bottom into a list that is changed in place: a name that
comes again keeps its position and gets the link of the new row.

* `Lists` says which service a row lists, and `ListsAll` which services rows list, in their order.
  A row that lists none is passed over.
* `Collects` says what a listing of services that may repeat is. It leaves no choice
  (`Collects.unique`).

**Theorem (`collects_ofServices`).** Services that are added one after the other are collected.

**Theorem (`page_lists_rows`).** A page lists what the rows of its first table list.

The induction is on the services from the last one, so a step adds a service behind those that were
collected (`Collects.add`).
-/

namespace Roster.Listing

variable {base : Url}

/-! ## Rows -/

/-- The row lists the service: there are at least seven cells, the first link in the seventh one says
"yes" and leads to the page, and the text of the first cell is the name. -/
def Lists (base : Url) (row : Html.Node) (s : Service) : Prop :=
  ∃ first role link href url,
    (row.inside "td").head? = some first ∧ (row.inside "td")[6]? = some role ∧
    (role.inside "a").head? = some link ∧
    Text.lowercase (Text.trim link.plain) = "yes".toList ∧
    link.attribute? "href" = some href ∧ base.join href = .ok url ∧
    s = ⟨Text.trim first.plain, url.toText⟩

/-- The rows list the services, in their order and no others. -/
inductive ListsAll (base : Url) : List Html.Node → List Service → Prop where
  | nil : ListsAll base [] []
  | skip {row : Html.Node} {rows : List Html.Node} {services : List Service}
      (hrow : ∀ s, ¬ Lists base row s) (hrows : ListsAll base rows services) :
      ListsAll base (row :: rows) services
  | keep {row : Html.Node} {rows : List Html.Node} {s : Service} {services : List Service}
      (hrow : Lists base row s) (hrows : ListsAll base rows services) :
      ListsAll base (row :: rows) (s :: services)

theorem toOption_eq_some_iff {ε α : Type} {x : Except ε α} {a : α} :
    x.toOption = some a ↔ x = .ok a := by
  cases x <;> simp [Except.toOption]

theorem pageOf?_eq_some_iff {role : Html.Node} {page : Text} :
    pageOf? base role = some page ↔
      ∃ link, (role.inside "a").head? = some link ∧
        Text.lowercase (Text.trim link.plain) = affirmative ∧
        ∃ href, link.attribute? "href" = some href ∧
          ∃ url, base.join href = .ok url ∧ url.toText = page := by
  simp [pageOf?, Option.bind_eq_some_iff, toOption_eq_some_iff]

theorem service?_eq_some_iff {row : Html.Node} {s : Service} :
    service? base row = some s ↔ Lists base row s := by
  simp only [service?, Option.bind_eq_bind, Option.bind_eq_some_iff, pageOf?_eq_some_iff,
    Option.some.injEq]
  constructor
  · rintro ⟨first, hfirst, role, hrole, _, ⟨link, hlink, hyes, href, hhref, url, hurl, rfl⟩, rfl⟩
    exact ⟨first, role, link, href, url, hfirst, hrole, hlink, hyes, hhref, hurl, rfl⟩
  · rintro ⟨first, role, link, href, url, hfirst, hrole, hlink, hyes, hhref, hurl, rfl⟩
    exact ⟨first, hfirst, role, hrole, _, ⟨link, hlink, hyes, href, hhref, url, hurl, rfl⟩, rfl⟩

theorem listsAll_iff {rows : List Html.Node} {services : List Service} :
    ListsAll base rows services ↔ rows.filterMap (service? base) = services := by
  constructor
  · intro h
    induction h with
    | nil => rfl
    | @skip row rows services hrow _ ih =>
      have hnone : service? base row = none := by
        rw [Option.eq_none_iff_forall_ne_some]
        exact fun s hs => hrow s (service?_eq_some_iff.1 hs)
      rw [List.filterMap_cons_none hnone, ih]
    | keep hrow _ ih => rw [List.filterMap_cons_some (service?_eq_some_iff.2 hrow), ih]
  · rintro rfl
    induction rows with
    | nil => exact .nil
    | cons row rows ih =>
      cases hrow : service? base row with
      | none =>
        rw [List.filterMap_cons_none hrow]
        refine .skip (fun s hs => ?_) ih
        exact nomatch hrow.symm.trans (service?_eq_some_iff.2 hs)
      | some s =>
        rw [List.filterMap_cons_some hrow]
        exact .keep (service?_eq_some_iff.1 hrow) ih

/-! ## Collecting services -/

/-- The service is the last one with its name. -/
def LastOf (services : List Service) (s : Service) : Prop :=
  ∃ front back, services = front ++ s :: back ∧ ∀ s' ∈ back, s'.name ≠ s.name

/-- What a listing of services that may repeat is: it has their names, each once, in the order of
the first positions, and each with the last service of that name. -/
structure Collects (services : List Service) (l : Listing) : Prop where
  distinct : (l.map Service.name).Nodup
  names : ∀ name, name ∈ l.map Service.name ↔ name ∈ services.map Service.name
  ordered : (l.map Service.name).Pairwise fun a b =>
    (services.map Service.name).idxOf a < (services.map Service.name).idxOf b
  latest : ∀ s ∈ l, LastOf services s

/-- Adding a service puts it in the place of one with its name, or behind all others. -/
theorem add_cases (l : Listing) (s : Service) :
    (s.name ∉ l.map Service.name ∧ add l s = l ++ [s]) ∨
      ∃ front listed back, l = front ++ listed :: back ∧ listed.name = s.name ∧
        add l s = front ++ s :: back := by
  induction l with
  | nil => exact .inl ⟨List.not_mem_nil, rfl⟩
  | cons listed rest ih =>
    unfold add
    by_cases hname : listed.name = s.name
    · rw [if_pos hname]
      exact .inr ⟨[], listed, rest, rfl, hname, rfl⟩
    · rw [if_neg hname]
      rcases ih with ⟨hnew, hadd⟩ | ⟨front, former, back, rfl, hformer, hadd⟩
      · refine .inl ⟨?_, by rw [hadd, List.cons_append]⟩
        rw [List.map_cons, List.mem_cons, not_or]
        exact ⟨Ne.symm hname, hnew⟩
      · exact .inr ⟨listed :: front, former, back, rfl, hformer, by rw [hadd, List.cons_append]⟩

theorem LastOf.append {services : List Service} {s : Service} (h : LastOf services s)
    {next : Service} (hne : s.name ≠ next.name) : LastOf (services ++ [next]) s := by
  obtain ⟨front, back, rfl, hback⟩ := h
  refine ⟨front, back ++ [next], by simp, ?_⟩
  intro s' hs'
  rcases List.mem_append.1 hs' with hs' | hs'
  · exact hback s' hs'
  · rw [List.mem_singleton.1 hs']
    exact Ne.symm hne

theorem lastOf_concat (services : List Service) (s : Service) : LastOf (services ++ [s]) s :=
  ⟨services, [], rfl, fun _ h => nomatch h⟩

/-- One more name at the end moves no first position. -/
theorem ordered_concat {names all : List Text} (next : Text) (hmem : ∀ a ∈ names, a ∈ all)
    (h : names.Pairwise fun a b => all.idxOf a < all.idxOf b) :
    names.Pairwise fun a b => (all ++ [next]).idxOf a < (all ++ [next]).idxOf b := by
  refine h.imp_of_mem ?_
  intro a b ha hb hlt
  rwa [List.idxOf_append_of_mem (hmem a ha), List.idxOf_append_of_mem (hmem b hb)]

namespace Collects

variable {services : List Service} {l : Listing}

theorem init : Collects [] [] where
  distinct := .nil
  names _ := Iff.rfl
  ordered := .nil
  latest _ h := nomatch h

theorem concat (h : Collects services l) {s : Service} (hnew : s.name ∉ l.map Service.name) :
    Collects (services ++ [s]) (l ++ [s]) := by
  have hservices : s.name ∉ services.map Service.name := fun hmem => hnew ((h.names _).2 hmem)
  refine ⟨?_, fun name => ?_, ?_, fun s' hs' => ?_⟩
  · rw [List.map_append, List.map_singleton, ← List.concat_eq_append]
    exact h.distinct.concat hnew
  · rw [List.map_append, List.map_append, List.mem_append, List.mem_append, h.names]
  · rw [List.map_append, List.map_append, List.map_singleton, List.pairwise_append]
    refine ⟨ordered_concat s.name (fun a => (h.names a).1) h.ordered, List.pairwise_singleton _ _, ?_⟩
    intro a ha b hb
    obtain rfl := List.mem_singleton.1 hb
    have hfirst := (h.names a).1 ha
    rw [List.idxOf_append_of_mem hfirst, List.idxOf_append_of_notMem hservices]
    exact Nat.lt_add_right _ (List.idxOf_lt_length_of_mem hfirst)
  · rcases List.mem_append.1 hs' with hs' | hs'
    · refine (h.latest s' hs').append fun heq => hnew ?_
      exact heq ▸ List.mem_map_of_mem hs'
    · rw [List.mem_singleton.1 hs']
      exact lastOf_concat services s

theorem replace {front back : List Service} {listed s : Service}
    (h : Collects services (front ++ listed :: back)) (hname : listed.name = s.name) :
    Collects (services ++ [s]) (front ++ s :: back) := by
  have hsame : (front ++ s :: back).map Service.name =
      (front ++ listed :: back).map Service.name := by simp [hname]
  have hothers : s.name ∉ (front ++ back).map Service.name := by
    have hdistinct := h.distinct
    rw [List.map_append, List.map_cons, hname, List.nodup_middle, List.nodup_cons,
      ← List.map_append] at hdistinct
    exact hdistinct.1
  refine ⟨hsame ▸ h.distinct, fun name => ?_, ?_, fun s' hs' => ?_⟩
  · have hknown : s.name ∈ services.map Service.name := (h.names _).1 (by simp [hname])
    rw [hsame, h.names, List.map_append, List.mem_append, List.map_singleton, List.mem_singleton]
    exact ⟨.inl, fun hmem => hmem.elim id fun heq => heq ▸ hknown⟩
  · rw [hsame, List.map_append]
    exact ordered_concat s.name (fun a => (h.names a).1) h.ordered
  · rcases List.mem_cons.1 (List.perm_middle.mem_iff.1 hs') with rfl | hother
    · exact lastOf_concat services s'
    · have hlisted : s' ∈ front ++ listed :: back :=
        List.perm_middle.mem_iff.2 (List.mem_cons_of_mem _ hother)
      refine (h.latest s' hlisted).append fun heq => hothers ?_
      exact heq ▸ List.mem_map_of_mem hother

/-- **One service more.** -/
theorem add (h : Collects services l) (s : Service) :
    Collects (services ++ [s]) (Listing.add l s) := by
  rcases add_cases l s with ⟨hnew, hadd⟩ | ⟨front, listed, back, rfl, hname, hadd⟩
  · rw [hadd]
    exact h.concat hnew
  · rw [hadd]
    exact h.replace hname

end Collects

/-- **Services that are added one after the other are collected.** -/
theorem collects_ofServices (services : List Service) : Collects services (ofServices services) := by
  induction services using List.reverseRecOn with
  | nil => exact .init
  | append_singleton services s ih =>
    rw [ofServices, List.foldl_append]
    exact ih.add s

theorem LastOf.find? {services : List Service} {s : Service} (h : LastOf services s) :
    services.reverse.find? (fun s' => s'.name = s.name) = some s := by
  obtain ⟨front, back, rfl, hback⟩ := h
  rw [List.find?_eq_some_iff_append]
  refine ⟨by simp, back.reverse, front.reverse, by simp, fun s' hs' => ?_⟩
  simpa using hback s' (List.mem_reverse.1 hs')

/-- **Services are collected in one way only.** -/
theorem Collects.unique {services : List Service} {l l' : Listing} (h : Collects services l)
    (h' : Collects services l') : l = l' := by
  have hmem : ∀ name, name ∈ l.map Service.name ↔ name ∈ l'.map Service.name := fun name =>
    (h.names name).trans (h'.names name).symm
  have hperm : (l.map Service.name).Perm (l'.map Service.name) :=
    (List.perm_ext_iff_of_nodup h.distinct h'.distinct).2 hmem
  have hnames : l.map Service.name = l'.map Service.name :=
    hperm.eq_of_pairwise (fun _ _ _ _ hab hba => absurd hba (Nat.lt_asymm hab)) h.ordered h'.ordered
  have hlength : l.length = l'.length := by simpa using congrArg List.length hnames
  refine List.ext_getElem hlength fun i hi hi' => ?_
  have hname : l[i].name = l'[i].name := by
    have hat := congrArg (·[i]?) hnames
    simpa [hi, hi'] using hat
  have hfound := (h.latest _ (List.getElem_mem hi)).find?
  have hfound' := (h'.latest _ (List.getElem_mem hi')).find?
  rw [hname, hfound'] at hfound
  exact (Option.some.inj hfound).symm

/-! ## Pages -/

theorem ofPage_of_no_table {html : Text} (h : (Html.parse html).elements "table" = []) :
    ofPage base html = [] := by
  rw [ofPage, rows, h]
  rfl

theorem rows_of_table {html : Text} {table : Html.Node} {others : List Html.Node}
    (h : (Html.parse html).elements "table" = table :: others) :
    rows (Html.parse html) = (table.inside "tr").tail := by
  rw [rows, h, List.head?_cons]
  exact List.drop_one

theorem ofPage_of_listsAll {html : Text} {services : List Service}
    (h : ListsAll base (rows (Html.parse html)) services) :
    ofPage base html = ofServices services := by
  rw [ofPage, listsAll_iff.1 h]

/-- **A page lists what the rows of its first table list.** Without a table it lists nothing. The
rows below the first one list services, and the listing of the page is the one way to collect these.
What other rows there are does not matter: pages have the same listing if their rows list the same
services, whatever rows that list none stand between. -/
theorem page_lists_rows (base : Url) (html : Text) :
    ((Html.parse html).elements "table" = [] → ofPage base html = []) ∧
    (∀ table others, (Html.parse html).elements "table" = table :: others →
      ∃ services, ListsAll base (table.inside "tr").tail services ∧
        ∀ l, Collects services l ↔ l = ofPage base html) ∧
    (∀ html' services, ListsAll base (rows (Html.parse html)) services →
      ListsAll base (rows (Html.parse html')) services → ofPage base html' = ofPage base html) := by
  refine ⟨ofPage_of_no_table, fun table others htable => ?_, fun html' services h h' => ?_⟩
  · obtain ⟨services, hservices⟩ :
        ∃ services, ListsAll base (table.inside "tr").tail services := ⟨_, listsAll_iff.2 rfl⟩
    refine ⟨services, hservices, fun l => ?_⟩
    rw [← rows_of_table htable] at hservices
    rw [ofPage_of_listsAll hservices]
    constructor
    · exact fun h => h.unique (collects_ofServices services)
    · rintro rfl
      exact collects_ofServices services
  · rw [ofPage_of_listsAll h, ofPage_of_listsAll h']

/-! ## A page with a repeated name -/

/-- The address that links are relative to. -/
def smallBase : Url := ⟨"http".toList, some { host := ['h'] }, .segments [[]], none, none⟩

/-- A row with seven cells whose link says "yes". -/
def writtenRow (name href : String) : String :=
  "<tr><td>" ++ name ++ "<td><td><td><td><td><td><a href=" ++ href ++ ">Yes</a>"

/-- A page with one name in two rows. -/
def repeatingPage : Text :=
  ("<table><tr>" ++ writtenRow "A" "#1" ++ writtenRow "B" "#2" ++ writtenRow "A" "#3").toList

/-- The same page with a row of a single cell that has the name too. -/
def interruptedPage : Text :=
  ("<table><tr>" ++ writtenRow "A" "#1" ++ writtenRow "B" "#2" ++ "<tr><td>A" ++
    writtenRow "A" "#3").toList

/-- The services that the rows of both pages list. -/
def repeatedServices : List Service :=
  [⟨['A'], "http://h/#1".toList⟩, ⟨['B'], "http://h/#2".toList⟩, ⟨['A'], "http://h/#3".toList⟩]

/-- The repeated name keeps its first position and gets its last link, and the row of a single cell
changes nothing. -/
theorem page_lists_rows_interrupted :
    Collects repeatedServices (ofPage smallBase interruptedPage) ∧
    ofPage smallBase interruptedPage =
      [⟨['A'], "http://h/#3".toList⟩, ⟨['B'], "http://h/#2".toList⟩] ∧
    ofPage smallBase repeatingPage = ofPage smallBase interruptedPage := by
  have hrows : (rows (Html.parse interruptedPage)).filterMap (service? smallBase) =
      repeatedServices := by decide +kernel
  have hrows' : (rows (Html.parse repeatingPage)).filterMap (service? smallBase) =
      repeatedServices := by decide +kernel
  obtain ⟨-, hlisted, hskipped⟩ := page_lists_rows smallBase interruptedPage
  refine ⟨?_, ?_, hskipped _ _ (listsAll_iff.2 hrows) (listsAll_iff.2 hrows')⟩
  · cases htable : (Html.parse interruptedPage).elements "table" with
    | nil =>
      have hnone : rows (Html.parse interruptedPage) = [] := by
        rw [rows, htable]
        rfl
      rw [hnone] at hrows
      exact nomatch hrows
    | cons table others =>
      obtain ⟨services, hservices, hcollects⟩ := hlisted table others htable
      rw [← rows_of_table htable, listsAll_iff, hrows] at hservices
      rw [hservices]
      exact (hcollects _).2 rfl
  · rw [ofPage_of_listsAll (listsAll_iff.2 hrows)]
    decide

end Roster.Listing
