import Runlet.AssetCompiler.TemplateRegistry
import Runlet.ControlPlane.Resolution
import Runlet.ControlPlane.Service
import Runlet.Jobs.PublishedJobTrigger
import Runlet.Shared.RequiredText

/-!
# Check requests

`CreateCheckRequest` of `control_plane/schemas.py` and `submit_check_request` of
`control_plane/service.py`: the validation of a request, the reasons for which it is refused, and
the rows an accepted one leaves behind (a request, a plan and a queued job).

A validated request is a structure whose texts carry that they were stripped and are not empty, so
that only the service's own checks are left to model.
-/

namespace Runlet

open KeyedTable

inductive CarrierHint where
  | table
  | list
  deriving DecidableEq, Repr

def CarrierHint.value : CarrierHint → String
  | .table => "table"
  | .list => "list"

/-- The arguments of `submit_check_request`. -/
structure CheckRequestArguments where
  systemHint : String
  pageHint : Option String := none
  checkGoal : String
  strictness : String := "balanced"
  timeBudgetMs : Int := 20000
  requestSource : String := "api"
  templateCode : Option String := none
  templateVersion : Option String := none
  carrierHint : Option CarrierHint := none
  templateParams : Option Json := none

/-- The template fields of a request, which come together. -/
structure TemplateMetadata where
  templateCode : RequiredText
  templateVersion : RequiredText
  carrierHint : CarrierHint
  templateParams : Option Json

structure CreateCheckRequest where
  systemHint : RequiredText
  pageHint : Option RequiredText
  checkGoal : RequiredText
  strictness : RequiredText
  timeBudgetMs : ℕ
  timeBudgetMs_pos : 0 < timeBudgetMs
  requestSource : RequiredText
  template : Option TemplateMetadata

namespace CreateCheckRequest

/-- The names of the template fields that are required and absent. -/
def missingFields (templateCode templateVersion : Option RequiredText)
    (carrierHint : Option CarrierHint) : List String :=
  (if templateCode.isNone then ["template_code"] else []) ++
    (if templateVersion.isNone then ["template_version"] else []) ++
      if carrierHint.isNone then ["carrier_hint"] else []

/-- `validate_template_metadata_consistency`. -/
def templateMetadata (templateCode templateVersion : Option RequiredText)
    (carrierHint : Option CarrierHint) (templateParams : Option Json) :
    Except String (Option TemplateMetadata) :=
  match templateCode, templateVersion, carrierHint, templateParams with
  | none, none, none, none => .ok none
  | some code, some version, some carrier, params => .ok (some ⟨code, version, carrier, params⟩)
  | code, version, carrier, _ =>
    .error ("template metadata is incomplete, missing required field(s): " ++
      Text.joinWith ", " (missingFields code version carrier))

/-- The positive number of milliseconds, or the refusal of it. -/
def validatePositiveInt (value : Int) : Except String { n : ℕ // 0 < n } :=
  if h : value ≤ 0 then .error "value must be greater than 0"
  else .ok ⟨value.toNat, by omega⟩

/-- The validated request, or the message of the first field that is refused. -/
def ofArguments (arguments : CheckRequestArguments) : Except String CreateCheckRequest := do
  let systemHint ← validateRequiredText arguments.systemHint
  let checkGoal ← validateRequiredText arguments.checkGoal
  let strictness ← validateRequiredText arguments.strictness
  let requestSource ← validateRequiredText arguments.requestSource
  let timeBudget ← validatePositiveInt arguments.timeBudgetMs
  let template ← templateMetadata (normalizeOptionalText arguments.templateCode)
    (normalizeOptionalText arguments.templateVersion) arguments.carrierHint arguments.templateParams
  pure
    { systemHint := systemHint
      pageHint := normalizeOptionalText arguments.pageHint
      checkGoal := checkGoal
      strictness := strictness
      timeBudgetMs := timeBudget.1
      timeBudgetMs_pos := timeBudget.2
      requestSource := requestSource
      template := template }

def pageHintText (payload : CreateCheckRequest) : Option String :=
  payload.pageHint.map RequiredText.text

end CreateCheckRequest

/-- Why a request is refused: by its validation, or with a status code. -/
inductive CheckRequestError where
  | invalid (message : String)
  | http (statusCode : ℕ) (detail : String)
  deriving DecidableEq, Repr

structure CheckRequestAccepted where
  requestId : UUID
  planId : UUID
  pageCheckId : Option UUID
  executionTrack : String
  authPolicy : String
  jobId : UUID
  deriving DecidableEq

namespace ControlPlane

open Resolution

def defaultAuthPolicy : String := "server_injected"

def precompiledTrack : String := "precompiled"

def realtimeProbeTrack : String := "realtime_probe"

/-! ## Refusing -/

section Refuse

variable (payload : CreateCheckRequest) (db : Db)

/-- `_assert_readonly_template_request`, as the test that it raises on. -/
def readonlyTemplate : Bool :=
  match payload.template with
  | none => true
  | some template =>
    (TemplateRegistry.getTemplate template.templateCode.text template.templateVersion.text).any
      TemplateDefinition.readonly

/-- The resolution of the request. -/
def resolutionOf [AliasTies] : CheckResolution :=
  resolvePageAssetAndCheck payload.systemHint.text payload.pageHintText payload.checkGoal.text db

/-- The retired target of the request. -/
def retiredTargetOf [AliasTies] (resolution : CheckResolution) : Option RetiredResolutionTarget :=
  resolveRetiredPageAssetOrCheck payload.systemHint.text (resolution.system.map System.id)
    payload.pageHintText payload.checkGoal.text db

/-- The detail with which a request for a retired target is refused. -/
def retiredDetail [AliasTies] (resolution : CheckResolution) : Option String :=
  if resolution.pageAsset.any fun asset => asset.lifecycleStatus.retired then
    some "asset is retired"
  else
    match resolution.pageCheck with
    | some check => if check.lifecycleStatus.retired then some "page check is retired" else none
    | none =>
      (retiredTargetOf payload db resolution).map fun target =>
        if target.pageCheck.isSome then "page check is retired" else "asset is retired"

/-- The error with which a request is refused. -/
def refusal [AliasTies] : Option CheckRequestError :=
  if !readonlyTemplate payload then some (.http 422 "readonly template required")
  else
    match retiredDetail payload db (resolutionOf payload db) with
    | some detail => some (.http 409 detail)
    | none =>
      if (resolutionOf payload db).missReason = some .elementAssetMissing then
        some (.http 409 "element asset is missing")
      else none

end Refuse

/-! ## Accepting -/

/-- `create_execution_request`. -/
def createExecutionRequest (ids : IdSource) (payload : CreateCheckRequest) (db : Db) : Db × UUID :=
  ({ db with
      executionRequests := db.executionRequests.insert ids fun id =>
        { id := id
          requestSource := payload.requestSource.text
          systemHint := payload.systemHint.text
          pageHint := payload.pageHintText
          checkGoal := payload.checkGoal.text
          strictness := payload.strictness.text
          timeBudgetMs := payload.timeBudgetMs
          templateCode := payload.template.map fun t => t.templateCode.text
          templateVersion := payload.template.map fun t => t.templateVersion.text
          carrierHint := payload.template.map fun t => t.carrierHint.value
          templateParams := payload.template.bind fun t => t.templateParams } },
    db.executionRequests.nextKey ids)

/-- `create_execution_plan`, for the row it writes. -/
def createExecutionPlan (ids : IdSource) (plan : UUID → ExecutionPlan)
    (hplan : ∀ id, key (plan id) = id) (db : Db) : Db × UUID :=
  ({ db with executionPlans := db.executionPlans.insert ids plan hplan },
    db.executionPlans.nextKey ids)

/-- The plan of an accepted request. -/
def planRow (requestId : UUID) (systemId pageAssetId pageCheckId modulePlanId : Option UUID)
    (track : String) (id : UUID) : ExecutionPlan :=
  { id := id
    executionRequestId := requestId
    resolvedSystemId := systemId
    resolvedPageAssetId := pageAssetId
    resolvedPageCheckId := pageCheckId
    executionTrack := track
    authPolicy := defaultAuthPolicy
    modulePlanId := modulePlanId }

theorem key_planRow (requestId : UUID) (systemId pageAssetId pageCheckId modulePlanId : Option UUID)
    (track : String) (id : UUID) :
    key (planRow requestId systemId pageAssetId pageCheckId modulePlanId track id) = id := rfl

/-- The payload of the job of an accepted request. -/
def runCheckPayload (requestId planId : UUID) (pageCheckId : Option UUID) (track : String) :
    JobPayload :=
  { executionPlanId := .uuid planId
    executionRequestId := .uuid requestId
    pageCheckId := pageCheckId.elim .absent .uuid
    executionTrack := some track }

/-- `_accept_check_request`: one commit of a request, its plan and its job. -/
def acceptCheckRequest (ids : IdSource) (now : DateTime) (payload : CreateCheckRequest)
    (systemId pageAssetId pageCheckId modulePlanId : Option UUID) (track : String) (db : Db) :
    Db × CheckRequestAccepted :=
  let (requested, requestId) := createExecutionRequest ids payload db
  let (planned, planId) := createExecutionPlan ids
    (planRow requestId systemId pageAssetId pageCheckId modulePlanId track)
    (key_planRow requestId systemId pageAssetId pageCheckId modulePlanId track) requested
  (enqueueJob ids now runCheckJobType (runCheckPayload requestId planId pageCheckId track) planned,
    { requestId := requestId
      planId := planId
      pageCheckId := pageCheckId
      executionTrack := track
      authPolicy := defaultAuthPolicy
      jobId := planned.queuedJobs.nextKey ids })

/-- The track of a resolution. -/
def executionTrackOf (resolution : CheckResolution) : String :=
  if resolution.pageCheck.isSome then precompiledTrack else realtimeProbeTrack

/-- Accept the request as it was resolved. -/
def acceptResolved (ids : IdSource) (now : DateTime) (payload : CreateCheckRequest)
    (resolution : CheckResolution) (db : Db) : Db × CheckRequestAccepted :=
  acceptCheckRequest ids now payload (resolution.system.map System.id)
    (resolution.pageAsset.map PageAsset.id) (resolution.pageCheck.map PageCheck.id)
    (resolution.pageCheck.bind PageCheck.modulePlanId) (executionTrackOf resolution) db

/-! ## Submitting -/

/-- `submit_check_request`, for a validated request. -/
def submitPayload [AliasTies] (ids : IdSource) (now : DateTime) (payload : CreateCheckRequest) (db : Db) :
    Db × Except CheckRequestError CheckRequestAccepted :=
  match refusal payload db with
  | some error => (db, .error error)
  | none =>
    let (db, accepted) := acceptResolved ids now payload (resolutionOf payload db) db
    (db, .ok accepted)

/-- `submit_check_request`. -/
def submitCheckRequest [AliasTies] (ids : IdSource) (now : DateTime) (arguments : CheckRequestArguments)
    (db : Db) : Db × Except CheckRequestError CheckRequestAccepted :=
  match CreateCheckRequest.ofArguments arguments with
  | .error message => (db, .error (.invalid message))
  | .ok payload => submitPayload ids now payload db

/-- **What is submitted** is what the arguments are validated to. -/
theorem submitCheckRequest_eq [AliasTies] (ids : IdSource) (now : DateTime)
    (arguments : CheckRequestArguments) (db : Db) :
    (∃ message, CreateCheckRequest.ofArguments arguments = .error message ∧
        submitCheckRequest ids now arguments db = (db, .error (.invalid message))) ∨
      ∃ payload, CreateCheckRequest.ofArguments arguments = .ok payload ∧
        submitCheckRequest ids now arguments db = submitPayload ids now payload db := by
  unfold submitCheckRequest
  cases CreateCheckRequest.ofArguments arguments with
  | error message => exact Or.inl ⟨message, rfl, rfl⟩
  | ok payload => exact Or.inr ⟨payload, rfl, rfl⟩

/-- An accepted request was validated, and its payload was accepted. -/
theorem submitCheckRequest_eq_ok_iff [AliasTies] {ids : IdSource} {now : DateTime}
    {arguments : CheckRequestArguments} {db db' : Db} {accepted : CheckRequestAccepted} :
    submitCheckRequest ids now arguments db = (db', .ok accepted) ↔
      ∃ payload, CreateCheckRequest.ofArguments arguments = .ok payload ∧
        submitPayload ids now payload db = (db', .ok accepted) := by
  rcases submitCheckRequest_eq ids now arguments db with ⟨message, harguments, h⟩ |
    ⟨payload, harguments, h⟩
  · rw [h, harguments]
    refine iff_of_false (fun heq => nomatch (Prod.mk.inj heq).2) ?_
    rintro ⟨payload, heq, -⟩
    cases heq
  · rw [h, harguments]
    constructor
    · exact fun heq => ⟨payload, rfl, heq⟩
    · rintro ⟨payload', heq, hsubmitted⟩
      rwa [Except.ok.inj heq]

/-- A request that is refused, by its validation or later, writes nothing. -/
theorem submitCheckRequest_of_error [AliasTies] {ids : IdSource} {now : DateTime}
    {arguments : CheckRequestArguments} {db db' : Db} {error : CheckRequestError}
    (h : submitCheckRequest ids now arguments db = (db', .error error)) : db' = db := by
  rcases submitCheckRequest_eq ids now arguments db with ⟨message, -, hsubmit⟩ |
    ⟨payload, -, hsubmit⟩
  · exact (Prod.mk.inj (hsubmit.symm.trans h)).1.symm
  · rw [hsubmit] at h
    unfold submitPayload at h
    split at h
    · exact (Prod.mk.inj h).1.symm
    · exact nomatch (Prod.mk.inj h).2

end ControlPlane

end Runlet
