import Roster.Text.Basic

/-!
# Tokens of HTML

What an HTML text is made of: tags, text, document types and comments. Text comes in runs that are
either all white space or free of it, because white space is often treated differently.
-/

namespace Roster.Html

/-- An attribute of a tag. -/
structure Attribute where
  name : String
  value : Text
deriving DecidableEq, Inhabited

/-- A tag: its name in small letters, its attributes, each name once, and whether it ends with a
slash. -/
structure Tag where
  name : String
  attributes : List Attribute := []
  selfClosing : Bool := false
deriving DecidableEq, Inhabited

/-- The value of an attribute. -/
def Tag.attribute? (tag : Tag) (name : String) : Option Text :=
  (tag.attributes.find? fun a => a.name = name).map (·.value)

/-- Two tags with the same name and the same attributes, in any order. -/
def Tag.same (a b : Tag) : Bool :=
  a.name = b.name && a.attributes.length = b.attributes.length &&
    a.attributes.all b.attributes.contains

/-- A document type. -/
structure Doctype where
  name : Option Text := none
  publicId : Option Text := none
  systemId : Option Text := none
  broken : Bool := false
deriving DecidableEq, Inhabited

/-- A piece of an HTML text. -/
inductive Token where
  | blank (t : Text)
  | text (t : Text)
  | nul
  | startTag (tag : Tag)
  | endTag (tag : Tag)
  | comment
  | doctype (d : Doctype)
  | finish
deriving DecidableEq, Inhabited

/-- White space of HTML. -/
def isHtmlSpace (c : Char) : Bool :=
  c = ' ' || c = '\t' || c = '\n' || c = '\x0c' || c = '\r'

/-- What kind of run a character belongs to: white space, other text, or none. -/
inductive RunKind where
  | blank
  | text
  | nul
deriving DecidableEq

/-- The kind of run that a character belongs to. -/
def RunKind.of (c : Char) : RunKind :=
  if c = '\x00' then .nul else if isHtmlSpace c then .blank else .text

/-- The token of a run. -/
def RunKind.token : RunKind → Text → Token
  | .blank, t => .blank t
  | .text, t => .text t
  | .nul, _ => .nul

/-- The runs of a text. Each zero character is a token of its own. -/
def runs : Text → List Token
  | [] => []
  | c :: rest =>
    match RunKind.of c, runs rest with
    | .blank, .blank t :: more => .blank (c :: t) :: more
    | .text, .text t :: more => .text (c :: t) :: more
    | kind, more => kind.token [c] :: more

end Roster.Html
