import Roster.Mention
import Roster.Principal

/-!
# Merging the sources

The reports of the two sources are merged into one record for each key of a principal. The
documentation comes first. The first mention under a key decides the principal and the reference;
every further one adds its name, and one of the policy generator also adds its marker.

* `Merged.ofReports` merges two reports.
* `Summary.of` tells how many records there are, and how many of them come from which source.
-/

namespace Roster

/-! ## Records -/

/-- What is known of one service. -/
structure Record where
  names : List Text
  reference : Text
  principal : Text
  sources : List Source
deriving DecidableEq, Inhabited

/-- The record that a first mention opens. -/
def Record.of (source : Source) (name : Text) (mention : Mention) : Record :=
  ⟨[name], mention.reference, mention.principal, [source]⟩

/-- The record with another name of the documentation, which leaves no further marker. -/
def Record.addDocumentation (r : Record) (name : Text) : Record :=
  { r with names := r.names ++ [name] }

/-- The record with another name of the policy generator and its marker. -/
def Record.addPolicy (r : Record) (name : Text) : Record :=
  { r with names := r.names ++ [name], sources := r.sources ++ [.policyGenerator] }

/-- Records under the keys of their principals. -/
abbrev Merged := Index Record

/-! ## Merging -/

namespace Merged

/-- Adds a mention of the documentation. -/
def addDocumentation (m : Merged) (name : Text) (mention : Mention) : Merged :=
  let key := Principal.key mention.principal
  match m.find? key with
  | some r => m.insert key (r.addDocumentation name)
  | none => m.insert key (.of .documentation name mention)

/-- Adds a mention of the policy generator. -/
def addPolicy (m : Merged) (name : Text) (mention : Mention) : Merged :=
  let key := Principal.key mention.principal
  match m.find? key with
  | some r => m.insert key (r.addPolicy name)
  | none => m.insert key (.of .policyGenerator name mention)

/-- The records of both reports. -/
def ofReports (documentation policy : Report) : Merged :=
  let records := documentation.entries.foldl (fun m e => addDocumentation m e.1 e.2) Index.empty
  policy.entries.foldl (fun m e => addPolicy m e.1 e.2) records

end Merged

/-! ## Summaries -/

/-- The number of records by their source markers. -/
structure Summary where
  total : Nat
  documentationOnly : Nat
  policyOnly : Nat
  both : Nat
deriving DecidableEq, Inhabited

/-- Counts the records with one marker of each kind and those with several markers. -/
def Summary.of (m : Merged) : Summary where
  total := m.size
  documentationOnly := m.values.countP fun r => r.sources = [.documentation]
  policyOnly := m.values.countP fun r => r.sources = [.policyGenerator]
  both := m.values.countP fun r => 1 < r.sources.length

end Roster
