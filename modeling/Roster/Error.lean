import Roster.Http.Failure
import Roster.Json.Fault
import Roster.Store
import Roster.Text.Quoted
import Roster.Url.Basic

/-!
# Errors

Everything that can make a run or one of its steps fail, with its wording. Errors of requests are
those after which another attempt may succeed.

The program ends with a diagnostic of the error that stopped it (`Error.diagnostic`): the kind of
the error and what it is about.
-/

namespace Roster

/-- Why a step failed. -/
inductive Error where
  | fetch (url : Text) (failure : Http.Failure)
  | status (url : Text) (code : Nat)
  | noPayload
  | json (e : Json.ReadError)
  | badUrl (f : Url.Fault)
  | noWorkers
  | noTimeout
  | tooManyWorkers
  | unknownLanguage (p : Path)
  | store (r : Store.Refusal)
deriving DecidableEq

namespace Error

/-- What is wrong with a configuration. -/
def configText? : Error → Option Text
  | .noWorkers => some "--workers must be at least 1".toList
  | .noTimeout => some "--timeout-secs must be at least 1".toList
  | .unknownLanguage p => some ("can't infer the language of ".toList ++ p)
  | _ => none

/-- The wording of an error. -/
def message (e : Error) : Text :=
  match e with
  | .fetch url failure =>
    "Request to ".toList ++ url ++ " failed: ".toList ++ failure.message
  | .status url code =>
    "Request to ".toList ++ url ++ " returned ".toList ++ Http.statusText code
  | .noPayload => "Couldn't find the policy generator config in the fetched content.".toList
  | .json e => "Json Error: ".toList ++ e.message
  | .badUrl f => "Invalid URL: ".toList ++ f.message
  | .store r => "Io Error: ".toList ++ r.message
  | .tooManyWorkers => "a pool cannot have so many workers".toList
  | e => "Invalid configuration: ".toList ++ e.configText?.getD []

/-- A request failed. -/
def isFetch : Error → Bool
  | .fetch _ _ => true
  | .status _ _ => true
  | _ => false

end Error

/-! ## Diagnostics -/

/-- Named parts between braces. -/
def Diagnostic.parts (name : String) (parts : List (String × Text)) : Text :=
  let shown := parts.map fun (k, v) => k.toList ++ ": ".toList ++ v
  name.toList ++ " \x7b ".toList ++ Text.joinWith [',', ' '] shown ++ " \x7d".toList

/-- A part between parentheses. -/
def Diagnostic.about (name : String) (part : Text) : Text := name.toList ++ '(' :: part ++ [')']

/-- The diagnostic of a refusal of a store. -/
def Store.Refusal.diagnostic (r : Store.Refusal) : Text :=
  let known := [("kind", r.kind), ("message", Text.quoted r.reason)]
  match r.code? with
  | some code => Diagnostic.parts "Os" (("code", Text.ofNat code) :: known)
  | none => Diagnostic.parts "Error" known

/-- The diagnostic of a text that is no JSON. -/
def Json.ReadError.diagnostic (e : Json.ReadError) : Text :=
  Diagnostic.about "Error" (Text.quoted e.complaint.message ++ ", line: ".toList ++
    Text.ofNat e.position.line ++ ", column: ".toList ++ Text.ofNat e.position.column)

namespace Error

/-- The diagnostic of an error. -/
def diagnostic (e : Error) : Text :=
  match e with
  | .fetch url failure =>
    Diagnostic.parts "Fetch" [("url", Text.quoted url), ("source", Text.quoted failure.message)]
  | .status url code =>
    Diagnostic.parts "HttpStatus" [("url", Text.quoted url), ("status", Text.ofNat code)]
  | .noPayload => Diagnostic.about "MissingPayload" (Text.quoted "policy generator config".toList)
  | .json e => Diagnostic.about "Json" e.diagnostic
  | .badUrl f => Diagnostic.about "InvalidUrl" f.name
  | .store r => Diagnostic.about "Io" r.diagnostic
  | .tooManyWorkers => e.message
  | e => Diagnostic.about "Config" (Text.quoted (e.configText?.getD []))

end Error

end Roster
