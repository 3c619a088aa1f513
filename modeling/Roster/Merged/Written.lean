import Roster.Json.Record
import Roster.Json.Value
import Roster.Merged.Basic

/-!
# The written form of merged records

Merged records are written as a JSON object with one member for each key. The fields of a record
stand in ascending order of their names.

* `Merged.toText` is the text of the file.
* `Merged.read` reads such a text, or any other that holds records in either of their two forms.
-/

namespace Roster

open Json

/-! ## Writing -/

/-- A record as a JSON object. -/
def Record.toJson (r : Record) : Value :=
  .object [("originalNames".toList, .array (r.names.map .text)),
    ("reference_url".toList, .text r.reference),
    ("servicePrincipal".toList, .text r.principal),
    ("sources".toList, .array (r.sources.map fun s => .text s.name))]

/-- Merged records as a JSON object. -/
def Merged.toJson (m : Merged) : Value := .object (m.entries.map fun e => (e.1, e.2.toJson))

/-- The text of a file with merged records. -/
def Merged.toText (m : Merged) : Text := m.toJson.ascii

/-! ## Reading -/

namespace Record

/-- The fields of a record that have been given so far. -/
structure Draft where
  names : Option (List Text) := none
  reference : Option Text := none
  principal : Option Text := none
  sources : Option (List Source) := none

/-- Reads the names of a record. -/
def readNames : Reader (List Text) := readList (readText "a string".toList)

/-- Reads a text field of a record. -/
def readField : Reader Text := readText "a string".toList

/-- Reads the name of a source. -/
def readSource : Reader Source :=
  readVariant (Source.documentation.name, .documentation)
    (Source.policyGenerator.name, .policyGenerator)

/-- Reads a member of a record that is written as an object. -/
def readMember (key : Text) (d : Draft) (t : Text) : Except Fault (Draft × Text) :=
  if key = "originalNames".toList then do
    let (v, rest) ← readOnce key d.names readNames t
    .ok ({ d with names := v }, rest)
  else if key = "reference_url".toList then do
    let (v, rest) ← readOnce key d.reference readField t
    .ok ({ d with reference := v }, rest)
  else if key = "servicePrincipal".toList then do
    let (v, rest) ← readOnce key d.principal readField t
    .ok ({ d with principal := v }, rest)
  else if key = "sources".toList then do
    let (v, rest) ← readOnce key d.sources (readList readSource) t
    .ok ({ d with sources := v }, rest)
  else passUnknown d t

/-- What a record that is written as an array should have been. -/
def expectedFields : Text := "struct ServiceEntry with 4 elements".toList

/-- Reads a record: an object, or an array of the four fields. -/
def read (t : Text) : Except Fault (Record × Text) :=
  match skipSpace t with
  | [] => fail .endInValue [] 0
  | '[' :: rest => do
    let (names, rest) ← Json.readField 0 expectedFields readNames rest
    let (reference, rest) ← Json.readField 1 expectedFields readField rest
    let (principal, rest) ← Json.readField 2 expectedFields readField rest
    let (sources, rest) ← Json.readField 3 expectedFields (readList readSource) rest
    let rest ← closeFields rest
    .ok (⟨names, reference, principal, sources⟩, rest)
  | '{' :: rest => do
    let (d, rest) ← readMembers readMember ('{' :: rest) true {} rest
    let names ← require "originalNames".toList rest d.names
    let reference ← require "reference_url".toList rest d.reference
    let principal ← require "servicePrincipal".toList rest d.principal
    let sources ← require "sources".toList rest d.sources
    .ok (⟨names, reference, principal, sources⟩, rest)
  | t => failType "struct ServiceEntry".toList t

end Record

/-- The merged records that a text holds. -/
def Merged.read (document : Text) : Except ReadError Merged :=
  (readDocument (readIndex Record.read) document).map Index.ofList

end Roster
