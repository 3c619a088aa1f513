import Roster.Config
import Roster.Cursor
import Roster.Merged.Written

/-!
# Catalogs and suggestions

A catalog holds the principals that may be suggested: those of a file with merged records, in
ascending order and each once. They are suggested for a cursor that stands where one belongs.

* `Catalog.load` reads the catalog in a file.
* `Catalog.suggest?` suggests its principals for a cursor.
* `Suggestion.principals` does both for a document in a store.
-/

namespace Roster

/-! ## Catalogs -/

/-- Principals in ascending order, each once. -/
structure Catalog where
  index : Index Unit

namespace Catalog

/-- The catalog without principals. -/
def empty : Catalog := ⟨Index.empty⟩

/-- The principals of merged records; an empty one is none. -/
def ofMerged (m : Merged) : Catalog :=
  let principals := m.values.map (·.principal)
  ⟨Index.ofList ((principals.filter fun p => !p.isEmpty).map fun p => (p, ()))⟩

/-- The principals in ascending order. -/
def principals (c : Catalog) : List Text := c.index.keys

/-- The catalog of a text that holds merged records. -/
def read (document : Text) : Except Json.ReadError Catalog :=
  (Merged.read document).map ofMerged

/-- The catalog in a file of a store. -/
def load (s : Store) (p : Path) : Except Error Catalog :=
  match s.read p with
  | .error r => .error (.store r)
  | .ok content => (read content).mapError .json

/-- The principals of the catalog, if the cursor stands where one belongs. -/
def suggest? (c : Catalog) (language : Language) (document : Text) (line column : Nat) :
    Option (List Text) :=
  if Cursor.isContext language (Cursor.textBefore document line column) then some c.principals
  else none

end Catalog

/-! ## Suggestions -/

/-- A cursor in a document, and where the principals to suggest are. -/
structure Suggestion where
  file : Path
  line : Nat
  column : Nat
  language? : Option Language
  catalog? : Option Path
deriving DecidableEq, Inhabited

namespace Suggestion

/-- The language that was told, or that of the file. -/
def language (q : Suggestion) : Except Error Language :=
  match q.language?.or (Language.ofPath? q.file) with
  | some l => .ok l
  | none => .error (.unknownLanguage q.file)

/-- The principals to suggest. Unless the cursor stands where one belongs the catalog is not looked
at; unless another one was told it is the result of a run. -/
def principals (q : Suggestion) (s : Store) (c : Config) : Except Error (List Text) := do
  let language ← q.language
  let document ← (s.read q.file).mapError .store
  if Cursor.isContext language (Cursor.textBefore document q.line q.column) then
    (Catalog.load s (q.catalog?.getD c.outputPath)).map Catalog.principals
  else .ok []

end Suggestion

end Roster
