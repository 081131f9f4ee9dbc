import Runlet.ControlPlane.Service
import Runlet.Library.Writes
import Runlet.Runtime.SchedulerRuntime
import Runlet.Shared.RequiredText

/-!
# Setting the policies of a system

`upsert_system_auth_policy`, `upsert_system_crawl_policy` and `refresh_auth` of
`control_plane/service.py`, with the repository functions they call.  A policy belongs to a system
by a unique column, so setting it is a find-or-create of the row of the system.

Whether a schedule can be parsed is asked of a third-party package; the answer is a parameter.  The
auth mode, the captcha provider and the crawl scope are validated here; the first two are columns
that nothing else reads, and are not kept.
-/

namespace Runlet

open KeyedTable

/-- `_validate_allowed_text`. -/
def validateAllowedText (allowed : List String) (fieldName value : String) :
    Except String { text : String // text ∈ allowed } :=
  match validateRequiredText value with
  | .error e => .error e
  | .ok required =>
    if h : Text.lower required.text ∈ allowed then .ok ⟨Text.lower required.text, h⟩
    else .error (fieldName ++ " must be one of: " ++
      Text.joinWith ", " (allowed.insertionSort (· ≤ ·)))

def allowedAuthModes : List String := ["none", "image_captcha", "slider_captcha", "sms_captcha"]

/-- The values of `CrawlScope`. -/
def crawlScopes : List String := ["full", "incremental"]

structure UpdateSystemAuthPolicy where
  enabled : Bool
  scheduleExpr : RequiredText
  authMode : { text : String // text ∈ allowedAuthModes }
  captchaProvider : RequiredText

structure UpdateSystemCrawlPolicy where
  enabled : Bool
  scheduleExpr : RequiredText
  crawlScope : { text : String // text ∈ crawlScopes }

def UpdateSystemAuthPolicy.ofArguments (enabled : Bool)
    (scheduleExpr authMode captchaProvider : String) : Except String UpdateSystemAuthPolicy := do
  let scheduleExpr ← validateRequiredText scheduleExpr
  let authMode ← validateAllowedText allowedAuthModes "auth_mode" authMode
  let captchaProvider ← validateRequiredText captchaProvider
  pure ⟨enabled, scheduleExpr, authMode, captchaProvider⟩

def UpdateSystemCrawlPolicy.ofArguments (enabled : Bool) (scheduleExpr crawlScope : String) :
    Except String UpdateSystemCrawlPolicy := do
  let scheduleExpr ← validateRequiredText scheduleExpr
  let crawlScope ← validateAllowedText crawlScopes "crawl_scope" crawlScope
  pure ⟨enabled, scheduleExpr, crawlScope⟩

namespace ControlPlane

def resolveRuntimePolicyState (enabled : Bool) : RuntimePolicyState :=
  if enabled then .active else .paused

/-- `validate_policy_schedule_expr`. -/
def validatePolicyScheduleExpr (cronParses : String → Bool) (scheduleExpr : String) :
    Except String Unit :=
  if cronParses scheduleExpr then .ok () else .error s!"invalid schedule expression: {scheduleExpr}"

/-! ## The rows -/

def ofSystem (systemId : UUID) (policy : RuntimePolicy) : Bool :=
  policy.systemId = systemId

/-- A new row, before it is given its columns. -/
def newPolicy (systemId id : UUID) : RuntimePolicy where
  id := id
  systemId := systemId
  scheduleExpr := ""

/-- The columns that every policy is given. -/
def setPolicy (enabled : Bool) (scheduleExpr : String) (policy : RuntimePolicy) : RuntimePolicy :=
  { policy with
    enabled := enabled
    state := resolveRuntimePolicyState enabled
    scheduleExpr := scheduleExpr }

def setAuthPolicy (payload : UpdateSystemAuthPolicy) (policy : SystemAuthPolicy) :
    SystemAuthPolicy :=
  ⟨setPolicy payload.enabled payload.scheduleExpr.text policy.toRuntimePolicy⟩

def setCrawlPolicy (payload : UpdateSystemCrawlPolicy) (policy : SystemCrawlPolicy) :
    SystemCrawlPolicy where
  toRuntimePolicy := setPolicy payload.enabled payload.scheduleExpr.text policy.toRuntimePolicy
  crawlScope := payload.crawlScope.1

/-- `upsert_system_auth_policy` of the repository. -/
def upsertAuthPolicyRow (ids : IdSource) (systemId : UUID) (payload : UpdateSystemAuthPolicy)
    (policies : Table SystemAuthPolicy) : Table SystemAuthPolicy × SystemAuthPolicy :=
  policies.upsert ids (fun policy => ofSystem systemId policy.toRuntimePolicy)
    (fun id => ⟨newPolicy systemId id⟩) (setAuthPolicy payload)

/-- `upsert_system_crawl_policy` of the repository. -/
def upsertCrawlPolicyRow (ids : IdSource) (systemId : UUID) (payload : UpdateSystemCrawlPolicy)
    (policies : Table SystemCrawlPolicy) : Table SystemCrawlPolicy × SystemCrawlPolicy :=
  policies.upsert ids (fun policy => ofSystem systemId policy.toRuntimePolicy)
    (fun id => { toRuntimePolicy := newPolicy systemId id }) (setCrawlPolicy payload)

section Rows

variable (ids : IdSource) (systemId : UUID)

theorem writes_upsertAuthPolicyRow (payload : UpdateSystemAuthPolicy)
    (policies : Table SystemAuthPolicy) :
    Table.Writes (fun policy => ofSystem systemId policy.toRuntimePolicy) policies
        (upsertAuthPolicyRow ids systemId payload policies).1
        (upsertAuthPolicyRow ids systemId payload policies).2 ∧
      (upsertAuthPolicyRow ids systemId payload policies).2.enabled = payload.enabled := by
  refine ⟨Table.writes_upsert (fun _ h => h) fun id => decide_eq_true rfl, ?_⟩
  unfold upsertAuthPolicyRow Table.upsert
  split <;> rfl

theorem writes_upsertCrawlPolicyRow (payload : UpdateSystemCrawlPolicy)
    (policies : Table SystemCrawlPolicy) :
    Table.Writes (fun policy => ofSystem systemId policy.toRuntimePolicy) policies
        (upsertCrawlPolicyRow ids systemId payload policies).1
        (upsertCrawlPolicyRow ids systemId payload policies).2 ∧
      (upsertCrawlPolicyRow ids systemId payload policies).2.enabled = payload.enabled := by
  refine ⟨Table.writes_upsert (fun _ h => h) fun id => decide_eq_true rfl, ?_⟩
  unfold upsertCrawlPolicyRow Table.upsert
  split <;> rfl

end Rows

/-! ## The requests -/

def upsertSystemAuthPolicy (cronParses : String → Bool) (ids : IdSource) (systemId : UUID)
    (payload : UpdateSystemAuthPolicy) (db : Db) : Transacted SystemAuthPolicy :=
  match db.systems.get? systemId with
  | none => (db, .error "system not found")
  | some _ =>
    match validatePolicyScheduleExpr cronParses payload.scheduleExpr.text with
    | .error e => (db, .error e)
    | .ok () =>
      let written := upsertAuthPolicyRow ids systemId payload db.systemAuthPolicies
      ({ db with systemAuthPolicies := written.1 }, .ok written.2)

def upsertSystemCrawlPolicy (cronParses : String → Bool) (ids : IdSource) (systemId : UUID)
    (payload : UpdateSystemCrawlPolicy) (db : Db) : Transacted SystemCrawlPolicy :=
  match db.systems.get? systemId with
  | none => (db, .error "system not found")
  | some _ =>
    match validatePolicyScheduleExpr cronParses payload.scheduleExpr.text with
    | .error e => (db, .error e)
    | .ok () =>
      let written := upsertCrawlPolicyRow ids systemId payload db.systemCrawlPolicies
      ({ db with systemCrawlPolicies := written.1 }, .ok written.2)

/-- `refresh_auth`. -/
def refreshAuth (ids : IdSource) (now : DateTime) (systemId : UUID) (db : Db) : Transacted UUID :=
  match db.systems.get? systemId with
  | none => (db, .error "system not found")
  | some system =>
    (enqueueJob ids now SchedulerRuntime.authRefreshJobType { systemId := .uuid system.id } db,
      .ok (db.queuedJobs.nextKey ids))

end ControlPlane

end Runlet
