import Roster.Html.Node

/-!
# Documents under construction

While a document is read its elements are moved about. They are kept in a list in the order in
which they were made, each with its parent and its children, and are named by their place in it.
Number zero is the document itself.

* `Draft.append` puts a node at the end of another one.
* `Draft.insertBefore` puts a node in front of another one.
* `Draft.toDocument` is the document that has been built.
-/

namespace Roster.Html

/-- The languages whose elements occur in a document. -/
inductive Namespace where
  | html
  | svg
  | math
deriving DecidableEq, Inhabited

/-- What a node of a draft is. -/
inductive Draft.Kind where
  | document
  | text (t : Text)
  | element (space : Namespace) (name : String) (attributes : List Attribute)
deriving Inhabited

/-- A node of a draft with its place in the tree. -/
structure Draft.Item where
  kind : Draft.Kind
  parent : Option Nat := none
  children : Array Nat := #[]
deriving Inhabited

/-- The nodes of a document in the order in which they were made. -/
structure Draft where
  items : Array Draft.Item
deriving Inhabited

namespace Draft

/-- The draft of an empty document. -/
def empty : Draft := ⟨#[⟨.document, none, #[]⟩]⟩

/-- The number of the document itself. -/
def root : Nat := 0

/-- The number of the node that is made next. -/
def next (d : Draft) : Nat := d.items.size

/-- Makes a node that belongs nowhere yet. -/
def make (d : Draft) (kind : Kind) : Draft := ⟨d.items.push ⟨kind, none, #[]⟩⟩

/-- Changes one node. -/
def change (d : Draft) (n : Nat) (f : Item → Item) : Draft := ⟨d.items.modify n f⟩

/-- The parent of a node. -/
def parent? (d : Draft) (n : Nat) : Option Nat := d.items[n]?.bind (·.parent)

/-- Takes a node away from its parent. -/
def detach (d : Draft) (n : Nat) : Draft :=
  match d.parent? n with
  | none => d
  | some p =>
    (d.change p fun i => { i with children := i.children.filter (· ≠ n) }).change n
      fun i => { i with parent := none }

/-- Puts a node behind the children of another one. -/
def append (d : Draft) (p n : Nat) : Draft :=
  ((d.detach n).change p fun i => { i with children := i.children.push n }).change n
    fun i => { i with parent := some p }

/-- The children with `n` in front of `sibling`. -/
def placeBefore (sibling n : Nat) (children : Array Nat) : Array Nat :=
  children.foldl (fun l c => if c = sibling then (l.push n).push c else l.push c) #[]

/-- Puts a node in front of another one; nothing happens if that belongs nowhere. -/
def insertBefore (d : Draft) (sibling n : Nat) : Draft :=
  let d := d.detach n
  match d.parent? sibling with
  | none => d
  | some p =>
    (d.change p fun i => { i with children := placeBefore sibling n i.children }).change n
      fun i => { i with parent := some p }

/-- Moves all children of a node behind those of another one. -/
def moveChildren (d : Draft) (source target : Nat) : Draft :=
  match d.items[source]? with
  | none => d
  | some i => i.children.foldl (fun d n => d.append target n) d

/-! ## Reading -/

/-- The namespace and name of an element. -/
def label? (d : Draft) (n : Nat) : Option (Namespace × String) :=
  match d.items[n]? with
  | some ⟨.element space name _, _, _⟩ => some (space, name)
  | _ => none

/-- The tree of a node; `depth` bounds how deep it goes. -/
def tree (d : Draft) : (depth : Nat) → Nat → List Node
  | 0, _ => []
  | depth + 1, n =>
    match d.items[n]? with
    | none => []
    | some i =>
      match i.kind with
      | .text t => [.text t]
      | .element _ name attributes =>
        [.element n name attributes (i.children.toList.flatMap (d.tree depth))]
      | .document => i.children.toList.flatMap (d.tree depth)

/-- The trees of the children of a node. -/
def childTrees (d : Draft) (n : Nat) : List Node :=
  ((d.items[n]?.map (·.children)).getD #[]).toList.flatMap (d.tree d.items.size)

/-- The nodes that belong nowhere, the document itself apart. -/
def strays (d : Draft) : List Nat :=
  (List.range d.items.size).filter fun n => n ≠ root && (d.parent? n).isNone

/-- The document. -/
def toDocument (d : Draft) : Document where
  content := d.childTrees root
  replaced := d.strays.flatMap d.childTrees

end Draft

end Roster.Html
