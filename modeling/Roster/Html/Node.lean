import Roster.Html.Token

/-!
# Documents

A document is a tree of elements and text. Elements are numbered in the order in which they were
made while the document was read; that is also the order in which the whole document is searched.
Inside one element the search goes from start to end.

* `Node.plain` joins the text of a node, nothing put between.
* `Node.elements` lists the elements inside a node from start to end.
* `Document.elements` lists the elements of a document as they were made.
-/

namespace Roster.Html

/-- A piece of a document: text, or an element with its number, name, attributes and content. -/
inductive Node where
  | text (t : Text)
  | element (number : Nat) (name : String) (attributes : List Attribute) (content : List Node)

instance : Inhabited Node := ⟨.text []⟩

namespace Node

mutual

/-- The text of a node. -/
def plain : Node → Text
  | .text t => t
  | .element _ _ _ content => textOf content

/-- The text of nodes, joined. -/
def textOf : List Node → Text
  | [] => []
  | n :: ns => n.plain ++ textOf ns

end

mutual

/-- The elements of a node, itself included, each before those inside it. -/
def elements : Node → List Node
  | .text _ => []
  | .element number name attributes content =>
    .element number name attributes content :: elementsOf content

/-- The elements of nodes. -/
def elementsOf : List Node → List Node
  | [] => []
  | n :: ns => n.elements ++ elementsOf ns

end

/-- The number of an element. -/
def number : Node → Nat
  | .text _ => 0
  | .element number _ _ _ => number

/-- An element with a name. -/
def isNamed (name : String) : Node → Bool
  | .text _ => false
  | .element _ own _ _ => own = name

/-- The elements with a name inside a node, from start to end. -/
def inside (name : String) : Node → List Node
  | .text _ => []
  | .element _ _ _ content => (elementsOf content).filter (isNamed name)

/-- The value of an attribute. -/
def attribute? (name : String) : Node → Option Text
  | .text _ => none
  | .element _ _ attributes _ => (attributes.find? fun a => a.name = name).map (·.value)

end Node

/-- A document: its top nodes, and what was inside a body that a frameset has replaced. -/
structure Document where
  content : List Node
  replaced : List Node := []
deriving Inhabited

/-- The elements with a name, in the order in which they were made. Those inside a replaced body
are found too. -/
def Document.elements (d : Document) (name : String) : List Node :=
  ((Node.elementsOf (d.content ++ d.replaced)).filter (Node.isNamed name)).mergeSort fun a b =>
    a.number ≤ b.number

end Roster.Html
