import Roster.Http.Fetch
import Roster.Json.Record
import Roster.Mention
import Roster.Principal
import Roster.Trace

/-!
# The policy generator

The script of the policy generator assigns a JSON object to a variable. The object starts behind
the assignment and ends with the last closing brace in front of the next assignment of that kind,
or of the script (`payload?`).

This payload has a map of services under arbitrary keys. A service that declares a prefix that is
not empty has a principal; a service of any other shape is passed over (`services`).

The principals are reported under the names of their services (`report`); all of them refer to the
script. Of two services with one name the one with the later key counts.

The script is requested a few times until it comes. What it holds is not worth another attempt, and
a failure leaves an empty report.

* `Policy.collect` makes the attempts with any way to fetch.
* `Policy.fetch` makes them on a network.
-/

namespace Roster.Policy

open Json

/-! ## The payload of a script -/

/-- The assignment in front of the payload. -/
def marker : Text := "app.PolicyEditorConfig=".toList

/-- What stands behind the first marker, up to the next one. -/
def behindMarker? (script : Text) : Option Text :=
  (Text.cutAt? marker script).map fun (_, rest) =>
    match Text.cutAt? marker rest with
    | some (piece, _) => piece
    | none => rest

/-- The text up to its last closing brace; one is added to a text without any. -/
def closeObject (t : Text) : Text :=
  let kept := Text.dropEndWhile (· ≠ '}') t
  if kept.isEmpty then t ++ ['}'] else kept

/-- The payload of a script, if it has the marker. -/
def payload? (script : Text) : Option Text := (behindMarker? script).map closeObject

/-! ## Services -/

/-- A service with its principal. -/
structure Listed where
  name : Text
  principal : Text
deriving DecidableEq, Inhabited

/-- An optional text: a string or null. -/
def optionalText? : Value → Option (Option Text)
  | .null => some none
  | .text t => some (some t)
  | _ => none

/-- An optional text that may also be missing. -/
def fieldText? : Option Value → Option (Option Text)
  | none => some none
  | some v => optionalText? v

/-- The declared prefix and name of a service: fields of an object, or the items of an array. -/
def declared? : Value → Option (Option Text × Option Text)
  | .object members => do
    let lead ← fieldText? (members.lookup "StringPrefix".toList)
    let name ← fieldText? (members.lookup "name".toList)
    some (lead, name)
  | .array items =>
    if 2 < items.length then none
    else do
      let lead ← fieldText? items[0]?
      let name ← fieldText? items[1]?
      some (lead, name)
  | _ => none

/-- The service that a value declares; a service without a name has its prefix as name. -/
def listed? (v : Value) : Option Listed :=
  match declared? v with
  | some (some lead, name) =>
    if lead.isEmpty then none else some ⟨name.getD lead, lead ++ Principal.suffix⟩
  | _ => none

/-! ## The map of services -/

/-- What a payload that is written as an array should have been. -/
def expectedFields : Text := "struct PolicyEditorConfig with 1 element".toList

/-- Reads the map of services, in which values are nested two levels less deep than in a text. -/
def readServices : Reader (List (Text × Value)) := readIndex (readValue (maxNesting - 2))

/-- Reads a member of the payload. -/
def readMember (key : Text) (given : Option (List (Text × Value))) (t : Text) :
    Except Fault (Option (List (Text × Value)) × Text) :=
  if key = "serviceMap".toList then readOnce key given readServices t else passUnknown given t

/-- Reads the payload: an object with the map of services, or an array of that map. -/
def readPayload (t : Text) : Except Fault (List (Text × Value) × Text) :=
  match skipSpace t with
  | [] => fail .endInValue [] 0
  | '[' :: rest => do
    let (services, rest) ← readField 0 expectedFields readServices rest
    let rest ← closeFields rest
    .ok (services, rest)
  | '{' :: rest => do
    let (given, rest) ← readMembers readMember ('{' :: rest) true none rest
    let services ← require "serviceMap".toList rest given
    .ok (services, rest)
  | t => failType "struct PolicyEditorConfig".toList t

/-- The services of a payload, in the order of their keys. -/
def services (payload : Text) : Except ReadError (List Listed) :=
  (readDocument readPayload payload).map fun services => services.filterMap fun e => listed? e.2

/-! ## The report -/

/-- The services as a report that refers to one address. -/
def reportOf (reference : Text) (listed : List Listed) : Report :=
  Index.ofList (listed.map fun l => (l.name, ⟨l.principal, reference⟩))

/-- How many different principals the services have. -/
def countPrincipals (listed : List Listed) : Nat :=
  (Index.ofList (listed.map fun l => (l.principal, ()))).size

/-- The report of a script, and what is told about it. -/
def report (script reference : Text) : Except Error (Report × Event) := do
  match payload? script with
  | none => .error .noPayload
  | some payload =>
    match services payload with
    | .error e => .error (.json e)
    | .ok listed => .ok (reportOf reference listed, .policyFound (countPrincipals listed))

/-! ## Attempts -/

/-- How many attempts are made. -/
def maxAttempts : Nat := 3

variable {σ : Type}

/-- Makes at most `left` attempts, of which the first has the number `attempt`. -/
def attempts (next : σ → Except Error Text × σ) (reference : Text) :
    (attempt left : Nat) → σ → Report × List Event × σ
  | _, 0, s => (Index.empty, [], s)
  | attempt, left + 1, s =>
    let (script, s) := next s
    match script.bind fun script => report script reference with
    | .ok (found, event) => (found, [event], s)
    | .error e =>
      if !e.isFetch then (Index.empty, [.policyUnreadable e.message], s)
      else if left = 0 then (Index.empty, [.policyGivenUp attempt e.message], s)
      else
        let (found, events, s) := attempts next reference (attempt + 1) left s
        (found, .policyAttemptFailed attempt e.message :: events, s)

/-- Makes all attempts. -/
def collect (next : σ → Except Error Text × σ) (reference : Text) (s : σ) :
    Report × List Event × σ :=
  attempts next reference 1 maxAttempts s

/-- Fetches the report of the policy generator. -/
def fetch (net : Http.Network) (url : Text) (t : Trace) : Report × Trace :=
  let (found, events, v) := collect (fun v => Http.fetch net v url) url t.visits
  (found, (t.visiting v).tell events)

end Roster.Policy
