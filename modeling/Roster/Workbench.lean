import Roster.Run
import Roster.Service
import Roster.Suggestion

/-!
# Workbenches

A workbench holds what can be collected, merged, written, loaded and suggested by hand, one step
after the other.

* `Workbench.perform` makes one step and shows its result.
* `Workbench.performAll` makes steps in their order.
-/

namespace Roster

/-- The state of work by hand. -/
structure Workbench where
  documentation : Report := Index.empty
  policy : Report := Index.empty
  merged : Merged := Index.empty
  catalog : Catalog := .empty
  store : Store := .empty
  events : List Event := []

namespace Workbench

/-- A step of work by hand. -/
inductive Step where
  | mention (service : Text) (mention : Mention)
  | page (service url html : Text)
  | policyMention (service : Text) (mention : Mention)
  | script (script url : Text)
  | merge
  | write (path : Path)
  | put (path : Path) (content : Text)
  | load (path : Path)
  | complete (document : Text) (line column : Nat) (language : Language)

/-- What a step shows. -/
inductive Shown where
  | report (r : Report)
  | merged (m : Merged) (s : Summary)
  | file (content : Text)
  | principals (l : List Text)
  | nothing

/-- Collects a mention of the documentation, if there is one. -/
def addDocumentation (w : Workbench) (service : Text) (mention? : Option Mention) : Workbench :=
  match mention? with
  | some mention =>
    { w with documentation := w.documentation.insert (Name.key service) mention }
  | none => w

/-- Takes the report of a script for that of the policy generator. -/
def takeScript (w : Workbench) (script url : Text) : Except Error Shown × Workbench :=
  match Policy.report script url with
  | .ok (found, event) =>
    (.ok (.report found), { w with policy := found, events := w.events ++ [event] })
  | .error e => (.error e, { w with policy := Index.empty })

/-- Writes the merged records and shows the file. -/
def writeMerged (w : Workbench) (p : Path) : Except Error Shown × Workbench :=
  let (store, result) := Run.write w.store p w.merged
  let w := { w with store }
  match result.bind fun _ => store.read p with
  | .ok content => (.ok (.file content), w)
  | .error r => (.error (.store r), w)

/-- Loads a catalog; one that cannot be read leaves none. -/
def loadCatalog (w : Workbench) (p : Path) : Except Error Shown × Workbench :=
  match Catalog.load w.store p with
  | .ok catalog => (.ok (.principals catalog.principals), { w with catalog })
  | .error e => (.error e, { w with catalog := .empty })

/-- Makes a step. -/
def perform (w : Workbench) : Step → Except Error Shown × Workbench
  | .mention service mention =>
    let w := w.addDocumentation service (some mention)
    (.ok (.report w.documentation), w)
  | .page service url html =>
    let w := w.addDocumentation service ((Page.principal? html).map (⟨·, url⟩))
    (.ok (.report w.documentation), w)
  | .policyMention service mention =>
    let w := { w with policy := w.policy.insert service mention }
    (.ok (.report w.policy), w)
  | .script script url => w.takeScript script url
  | .merge =>
    let merged := Merged.ofReports w.documentation w.policy
    (.ok (.merged merged (.of merged)), { w with merged })
  | .write path => w.writeMerged path
  | .put path content => (.ok .nothing, { w with store := (w.store.write path content).1 })
  | .load path => w.loadCatalog path
  | .complete document line column language =>
    (.ok (match w.catalog.suggest? language document line column with
      | some l => .principals l
      | none => .nothing), w)

/-- Makes steps in their order and shows the result of each. -/
def performAll (w : Workbench) : List Step → List (Except Error Shown) × Workbench
  | [] => ([], w)
  | step :: rest =>
    let (shown, w) := w.perform step
    let (others, w) := performAll w rest
    (shown :: others, w)

end Workbench

end Roster
