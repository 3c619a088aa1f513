import Roster.Html.Entity
import Roster.Html.Token

/-!
# Reading tokens

One step reads the next piece of an HTML text: a run of text, a tag, a comment or a document type.
How the text behind some start tags is read depends on the element that they open.

* `next` reads the next piece where tags are understood.
* `rawText` reads up to the end tag of an element whose content has no tags.
* `scriptText` does so for scripts, in which comments can hide an end tag.
-/

namespace Roster.Html

/-- The text with every line end written as one line feed. -/
def unifyLines : Text → Text
  | [] => []
  | '\r' :: '\n' :: rest => '\n' :: unifyLines rest
  | '\r' :: rest => '\n' :: unifyLines rest
  | c :: rest => c :: unifyLines rest

/-- White space inside a tag. -/
def isTagSpace (c : Char) : Bool := c = ' ' || c = '\t' || c = '\n' || c = '\x0c'

/-- The text with the replacement character for each zero character. -/
def replaceNul (t : Text) : Text := t.map fun c => if c = '\x00' then replacement else c

/-- The form of a name in a tag: small letters, and no zero character. -/
def nameOf (t : Text) : String := String.ofList (Text.asciiLower (replaceNul t))

/-! ## Tags -/

/-- The text behind the first `mark`, with the text in front of it. -/
def upTo? (mark : Char) (t : Text) : Option (Text × Text) :=
  match t.dropWhile (· ≠ mark) with
  | [] => none
  | _ :: after => some (t.takeWhile (· ≠ mark), after)

/-- Reads the value of an attribute behind its equals sign. -/
def readValue? (t : Text) : Option (Text × Text) :=
  match t.dropWhile isTagSpace with
  | [] => none
  | '"' :: rest => upTo? '"' rest
  | '\'' :: rest => upTo? '\'' rest
  | t =>
    let ends := fun c => isTagSpace c || c = '>'
    some (t.takeWhile fun c => !ends c, t.dropWhile fun c => !ends c)

/-- The attribute with a written name and value. -/
def attributeOf (name value : Text) : Attribute :=
  ⟨nameOf name, decode true (replaceNul value)⟩

/-- Adds an attribute, unless its name is taken. -/
def addAttribute (attributes : List Attribute) (a : Attribute) : List Attribute :=
  if attributes.any fun old => old.name = a.name then attributes else attributes ++ [a]

/-- Reads the attributes of a tag and its end; answers them, whether the tag ends with a slash, and
the text behind it. A tag that does not end is none. Each round passes a character at least and
takes one off `clock`, which bounds how many rounds there are. -/
def readAttributes? :
    (clock : Text) → List Attribute → Text → Option (List Attribute × Bool × Text)
  | [], _, _ => none
  | _ :: clock, attributes, t =>
    match t.dropWhile isTagSpace with
    | [] => none
    | '>' :: rest => some (attributes, false, rest)
    | '/' :: '>' :: rest => some (attributes, true, rest)
    | '/' :: rest => readAttributes? clock attributes rest
    | c :: rest =>
      let ends := fun c => isTagSpace c || c = '/' || c = '>' || c = '='
      let name := c :: rest.takeWhile fun c => !ends c
      let rest := rest.dropWhile fun c => !ends c
      match rest.dropWhile isTagSpace with
      | '=' :: rest =>
        match readValue? rest with
        | none => none
        | some (value, rest) =>
          readAttributes? clock (addAttribute attributes (attributeOf name value)) rest
      | rest => readAttributes? clock (addAttribute attributes (attributeOf name [])) rest

/-- Reads a tag from its name on, with the text behind it. -/
def readTag? (t : Text) : Option (Tag × Text) :=
  let ends := fun c => isTagSpace c || c = '/' || c = '>'
  let name := t.takeWhile fun c => !ends c
  let rest := t.dropWhile fun c => !ends c
  (readAttributes? t [] rest).map fun (attributes, selfClosing, rest) =>
    (⟨nameOf name, attributes, selfClosing⟩, rest)

/-! ## Comments -/

/-- The text behind a comment, from behind its opening on. -/
def afterComment (t : Text) : Text :=
  let rec go : Text → Text
    | [] => []
    | '-' :: '-' :: '>' :: rest => rest
    | '-' :: '-' :: '!' :: '>' :: rest => rest
    | _ :: rest => go rest
  match t with
  | '>' :: rest => rest
  | '-' :: '>' :: rest => rest
  | t => go t

/-- The text behind the next closing bracket of a tag. -/
def afterBracket (t : Text) : Text := ((upTo? '>' t).map (·.2)).getD []

/-! ## Document types -/

/-- What follows a word in any case, at the start of a text. -/
def afterWord? : (word : Text) → Text → Option Text
  | [], t => some t
  | _ :: _, [] => none
  | w :: ws, c :: cs => if w = c.toLower then afterWord? ws cs else none

/-- A document type that is read no further: all up to the next bracket is passed over. -/
def endDoctype (d : Doctype) (t : Text) : Doctype × Text := (d, afterBracket t)

/-- Reads an identifier in quotes. An identifier that a bracket or the end cuts short breaks the
document type: the flag says so. -/
def readQuoted? (t : Text) : Option (Text × Bool × Text) :=
  match t with
  | q :: rest =>
    if q = '"' || q = '\'' then
      let id := replaceNul (rest.takeWhile fun c => c ≠ q && c ≠ '>')
      match rest.dropWhile fun c => c ≠ q && c ≠ '>' with
      | [] => some (id, true, [])
      | c :: after => if c = q then some (id, false, after) else some (id, true, c :: after)
    else none
  | [] => none

/-- Reads the system identifier, which may be missing behind a public one. -/
def readSystem (d : Doctype) (required : Bool) (t : Text) : Doctype × Text :=
  match t.dropWhile isTagSpace with
  | [] => ({ d with broken := true }, [])
  | '>' :: rest => ({ d with broken := required }, rest)
  | t =>
    match readQuoted? t with
    | none => endDoctype { d with broken := true } t
    | some (id, cut, rest) =>
      let d := { d with systemId := some id, broken := cut }
      match rest.dropWhile isTagSpace with
      | [] => ({ d with broken := true }, [])
      | '>' :: rest => (d, rest)
      | rest => endDoctype d rest

/-- Reads the public identifier, and the system identifier behind it. -/
def readPublic (d : Doctype) (t : Text) : Doctype × Text :=
  match t.dropWhile isTagSpace with
  | [] => ({ d with broken := true }, [])
  | '>' :: rest => ({ d with broken := true }, rest)
  | t =>
    match readQuoted? t with
    | none => endDoctype { d with broken := true } t
    | some (id, true, rest) => endDoctype { d with publicId := some id, broken := true } rest
    | some (id, false, rest) => readSystem { d with publicId := some id } false rest

/-- Reads a document type behind its keyword. -/
def readDoctype (t : Text) : Doctype × Text :=
  match t.dropWhile isTagSpace with
  | [] => ({ broken := true }, [])
  | '>' :: rest => ({ broken := true }, rest)
  | t =>
    let ends := fun c => isTagSpace c || c = '>'
    let name := replaceNul (t.takeWhile fun c => !ends c)
    let d : Doctype := { name := some (Text.asciiLower name) }
    match (t.dropWhile fun c => !ends c).dropWhile isTagSpace with
    | [] => ({ d with broken := true }, [])
    | '>' :: rest => (d, rest)
    | rest =>
      match afterWord? "public".toList rest, afterWord? "system".toList rest with
      | some rest, _ => readPublic d rest
      | none, some rest => readSystem d true rest
      | none, none => endDoctype { d with broken := true } rest

/-! ## Pieces -/

/-- The tokens of text that may hold references. -/
def textTokens (t : Text) : List Token := runs (decode false t)

/-- Reads behind an opening bracket and an exclamation mark. In foreign content this may be a
section of plain text. -/
def nextDeclaration (inForeign : Bool) (t : Text) : List Token × Text :=
  match t with
  | '-' :: '-' :: rest => ([.comment], afterComment rest)
  | t =>
    match afterWord? "doctype".toList t with
    | some rest =>
      let (d, rest) := readDoctype rest
      ([.doctype d], rest)
    | none =>
      match inForeign, Text.after? "[CDATA[".toList t with
      | true, some rest =>
        match Text.cutAt? "]]>".toList rest with
        | some (content, rest) => (runs content, rest)
        | none => (runs rest, [])
      | _, _ => ([.comment], afterBracket t)

/-- Reads the next piece of a text that is not empty. A tag or end tag that does not end is
dropped. -/
def next (inForeign : Bool) (t : Text) : List Token × Text :=
  match t with
  | '<' :: '!' :: rest => nextDeclaration inForeign rest
  | '<' :: '?' :: rest => ([.comment], afterBracket rest)
  | '<' :: '/' :: [] => (runs ['<', '/'], [])
  | '<' :: '/' :: '>' :: rest => ([], rest)
  | '<' :: '/' :: c :: rest =>
    if Text.isAsciiLetter c then
      match readTag? (c :: rest) with
      | some (tag, rest) => ([.endTag tag], rest)
      | none => ([], [])
    else ([.comment], afterBracket (c :: rest))
  | '<' :: c :: rest =>
    if Text.isAsciiLetter c then
      match readTag? (c :: rest) with
      | some (tag, rest) => ([.startTag tag], rest)
      | none => ([], [])
    else ([.text ['<']], c :: rest)
  | '<' :: [] => ([.text ['<']], [])
  | t => (textTokens (t.takeWhile (· ≠ '<')), t.dropWhile (· ≠ '<'))

/-! ## Content without tags -/

/-- The text starts with the end tag of an element, up to its name and one sign behind it. -/
def atEndTag (name : Text) (t : Text) : Bool :=
  match t with
  | '<' :: '/' :: rest =>
    match afterWord? name rest with
    | some (c :: _) => isTagSpace c || c = '/' || c = '>'
    | _ => false
  | _ => false

/-- The text in front of the end tag of an element, and the rest from that tag on. -/
def rawText (name : Text) : Text → Text × Text
  | [] => ([], [])
  | c :: rest =>
    if atEndTag name (c :: rest) then ([], c :: rest)
    else
      let (content, rest) := rawText name rest
      (c :: content, rest)

/-- How deep the reading of a script is in comments: outside, inside one, or in a script inside
one. -/
inductive Depth where
  | outside
  | comment
  | script
deriving DecidableEq

/-- The text starts with `mark`, the name of scripts and one sign behind it. -/
def atScriptTag (mark : Text) (t : Text) : Bool :=
  match (Text.after? mark t).bind (afterWord? "script".toList) with
  | some (c :: _) => isTagSpace c || c = '/' || c = '>'
  | _ => false

/-- The depth behind a character of a comment, the text from that character on, and how many dashes
stood in front of it, up to two. Two dashes and a bracket end the comment; the tags of a script
inside it change the depth. -/
def Depth.behind (depth : Depth) (dashes : Nat) (c : Char) (t : Text) : Depth :=
  match depth with
  | .outside => .outside
  | .comment =>
    if c = '>' && dashes = 2 then .outside
    else if atScriptTag ['<'] t then .script
    else .comment
  | .script =>
    if c = '>' && dashes = 2 then .outside
    else if atScriptTag ['<', '/'] t then .comment
    else .script

/-- The text of a script in front of its end tag, and the rest from that tag on. -/
def scriptText : (depth : Depth) → (dashes : Nat) → Text → Text × Text
  | _, _, [] => ([], [])
  | .outside, _, '<' :: '!' :: '-' :: '-' :: rest =>
    let (content, rest) := scriptText .comment 2 rest
    ('<' :: '!' :: '-' :: '-' :: content, rest)
  | depth, dashes, c :: rest =>
    if depth ≠ .script && atScriptTag ['<', '/'] (c :: rest) then ([], c :: rest)
    else
      let (content, rest) :=
        scriptText (depth.behind dashes c (c :: rest)) (if c = '-' then min 2 (dashes + 1) else 0)
          rest
      (c :: content, rest)

end Roster.Html
