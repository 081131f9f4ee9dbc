import Runlet.Infrastructure.Crawl

/-!
# Execution rows

The rows of `db/models/execution.py` around the execution of a check, and the credentials and
login states of `db/models/systems.py`.  Texts that no modelled function reads (budgets, artifact
locations, cookies) are left out.
-/

namespace Runlet

open KeyedTable

structure ExecutionRequest where
  id : UUID
  requestSource : String
  systemHint : String
  pageHint : Option String := none
  checkGoal : String
  strictness : String := "balanced"
  timeBudgetMs : ℕ := 20000
  templateCode : Option String := none
  templateVersion : Option String := none
  carrierHint : Option String := none
  templateParams : Option Json := none

instance : Keyed UUID ExecutionRequest := ⟨ExecutionRequest.id⟩

structure ExecutionPlan where
  id : UUID
  executionRequestId : UUID
  resolvedSystemId : Option UUID := none
  resolvedPageAssetId : Option UUID := none
  resolvedPageCheckId : Option UUID := none
  executionTrack : String
  authPolicy : String
  modulePlanId : Option UUID := none
  deriving DecidableEq

instance : Keyed UUID ExecutionPlan := ⟨ExecutionPlan.id⟩

structure ExecutionRun where
  id : UUID
  executionPlanId : UUID
  status : String
  authStatus : Option String := none
  failureCategory : Option String := none
  assetVersion : Option String := none
  createdAt : DateTime := 0
  deriving DecidableEq

instance : Keyed UUID ExecutionRun := ⟨ExecutionRun.id⟩

structure ExecutionArtifact where
  id : UUID
  executionRunId : UUID
  artifactKind : String
  deriving DecidableEq

instance : Keyed UUID ExecutionArtifact := ⟨ExecutionArtifact.id⟩

structure SystemCredential where
  id : UUID
  systemId : UUID
  loginUrl : String
  loginUsernameEncrypted : String
  loginPasswordEncrypted : String
  loginAuthType : String
  loginSelectors : Option Json := none
  secretRef : Option String := none

instance : Keyed UUID SystemCredential := ⟨SystemCredential.id⟩

structure AuthState where
  id : UUID
  systemId : UUID
  status : String := "pending"
  storageState : Option Json := none
  authMode : String
  isValid : Bool := false
  validatedAt : Option DateTime := none
  expiresAt : Option DateTime := none

instance : Keyed UUID AuthState := ⟨AuthState.id⟩

end Runlet
