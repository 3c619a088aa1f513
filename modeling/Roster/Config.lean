import Roster.Error
import Roster.Language

/-!
# Configurations

What a run is told: where the pages are, how hard to try, and where the result goes.
-/

namespace Roster

/-- The settings of a run. -/
structure Config where
  outputFile : Text
  workers : Nat
  snippetsDir : Path
  docsBase : Text
  servicesPage : Text
  policyUrl : Text
  timeoutSecs : Nat
  retryDelayMs : Nat
deriving DecidableEq

namespace Config

/-- The file name of the result, unless another one is given. -/
def defaultOutput : Text := "service-principals.json".toList

/-- The settings of a run that is told nothing. -/
def default : Config where
  outputFile := defaultOutput
  workers := 10
  snippetsDir := "snippets".toList
  docsBase := "https://docs.aws.amazon.com/IAM/latest/UserGuide/".toList
  servicesPage := "reference_aws-services-that-work-with-iam.html".toList
  policyUrl := "https://awspolicygen.s3.amazonaws.com/js/policies.js".toList
  timeoutSecs := 30
  retryDelayMs := 1000

instance : Inhabited Config := ⟨default⟩

/-- A run needs a worker and some time for each request. -/
def validate (c : Config) : Except Error Unit :=
  if c.workers = 0 then .error .noWorkers
  else if c.timeoutSecs = 0 then .error .noTimeout
  else .ok ()

/-- The file of the result: only the file name of the setting counts, and it lies in the snippets
directory. -/
def outputPath (c : Config) : Path :=
  Path.join c.snippetsDir ((Path.fileName? c.outputFile).getD defaultOutput)

end Config

end Roster
