import Roster.Path

/-!
# Languages of documents

Principals are suggested in documents of five languages. The language is told by its name or by the
extension of the file.
-/

namespace Roster

/-- The language of a document. -/
inductive Language where
  | json
  | yaml
  | terraform
  | typescript
  | python
deriving DecidableEq, Inhabited

namespace Language

/-- The usual name of a language. -/
def name : Language → Text
  | .json => "json".toList
  | .yaml => "yaml".toList
  | .terraform => "terraform".toList
  | .typescript => "typescript".toList
  | .python => "python".toList

/-- The language with a name, in any case; some have a short name too. -/
def ofName? (t : Text) : Option Language :=
  let t := Text.asciiLower t
  if t = "json".toList then some .json
  else if t = "yaml".toList || t = "yml".toList then some .yaml
  else if t = "terraform".toList || t = "tf".toList then some .terraform
  else if t = "typescript".toList || t = "ts".toList then some .typescript
  else if t = "python".toList || t = "py".toList then some .python
  else none

/-- The language of files with an extension, in any case. -/
def ofExtension? (t : Text) : Option Language :=
  let t := Text.asciiLower t
  if t = "json".toList then some .json
  else if t = "yaml".toList || t = "yml".toList then some .yaml
  else if t = "tf".toList then some .terraform
  else if t = "ts".toList then some .typescript
  else if t = "py".toList then some .python
  else none

/-- The language of a file. -/
def ofPath? (p : Path) : Option Language := (Path.extension? p).bind ofExtension?

/-- What is said of a name that no language has. -/
def unsupported (t : Text) : Text := "unsupported language: ".toList ++ Text.asciiLower t

end Language

end Roster
