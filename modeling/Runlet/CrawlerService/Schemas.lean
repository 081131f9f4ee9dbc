import Runlet.CrawlerService.NavigationTargets

/-!
# The records of navigation targets

The part of `crawler_service/schemas.py` about navigation targets and state probing: the literals a
field may hold, and `NavigationTargetResult`, whose validator ties the reason of a refusal to the
status.  A record that was validated carries the fact.
-/

namespace Runlet

inductive NavigationTargetKind where
  | pageRoute
  | menuExpand
  | tabSwitch
  | expandPanel
  | treeExpand
  | paginateProbe
  | openModal
  | openDrawer
  | filterExpand
  | toggleView
  deriving DecidableEq, Repr

inductive NavigationMaterializationStatus where
  | discovered
  | queued
  | applied
  | notApplied
  | blocked
  | duplicate
  deriving DecidableEq, Repr

inductive NavigationTargetRejectionReason where
  | duplicateTarget
  | totalBudgetExhausted
  | routeBudgetExhausted
  | kindBudgetExhausted
  | parentBudgetExhausted
  | blockedByPermission
  | unsafeActionRejected
  | stateTransitionNotApplied
  deriving DecidableEq, Repr

def NavigationTargetKind.text : NavigationTargetKind → String
  | .pageRoute => "page_route"
  | .menuExpand => "menu_expand"
  | .tabSwitch => "tab_switch"
  | .expandPanel => "expand_panel"
  | .treeExpand => "tree_expand"
  | .paginateProbe => "paginate_probe"
  | .openModal => "open_modal"
  | .openDrawer => "open_drawer"
  | .filterExpand => "filter_expand"
  | .toggleView => "toggle_view"

def NavigationMaterializationStatus.text : NavigationMaterializationStatus → String
  | .discovered => "discovered"
  | .queued => "queued"
  | .applied => "applied"
  | .notApplied => "not_applied"
  | .blocked => "blocked"
  | .duplicate => "duplicate"

def NavigationTargetRejectionReason.text : NavigationTargetRejectionReason → String
  | .duplicateTarget => "duplicate_target"
  | .totalBudgetExhausted => "total_budget_exhausted"
  | .routeBudgetExhausted => "route_budget_exhausted"
  | .kindBudgetExhausted => "kind_budget_exhausted"
  | .parentBudgetExhausted => "parent_budget_exhausted"
  | .blockedByPermission => "blocked_by_permission"
  | .unsafeActionRejected => "unsafe_action_rejected"
  | .stateTransitionNotApplied => "state_transition_not_applied"

def NavigationTargetKind.ofText? : String → Option NavigationTargetKind
  | "page_route" => some .pageRoute
  | "menu_expand" => some .menuExpand
  | "tab_switch" => some .tabSwitch
  | "expand_panel" => some .expandPanel
  | "tree_expand" => some .treeExpand
  | "paginate_probe" => some .paginateProbe
  | "open_modal" => some .openModal
  | "open_drawer" => some .openDrawer
  | "filter_expand" => some .filterExpand
  | "toggle_view" => some .toggleView
  | _ => none

def NavigationMaterializationStatus.ofText? : String → Option NavigationMaterializationStatus
  | "discovered" => some .discovered
  | "queued" => some .queued
  | "applied" => some .applied
  | "not_applied" => some .notApplied
  | "blocked" => some .blocked
  | "duplicate" => some .duplicate
  | _ => none

def NavigationTargetRejectionReason.ofText? : String → Option NavigationTargetRejectionReason
  | "duplicate_target" => some .duplicateTarget
  | "total_budget_exhausted" => some .totalBudgetExhausted
  | "route_budget_exhausted" => some .routeBudgetExhausted
  | "kind_budget_exhausted" => some .kindBudgetExhausted
  | "parent_budget_exhausted" => some .parentBudgetExhausted
  | "blocked_by_permission" => some .blockedByPermission
  | "unsafe_action_rejected" => some .unsafeActionRejected
  | "state_transition_not_applied" => some .stateTransitionNotApplied
  | _ => none

/-- `ALLOWED_STATE_PROBE_ACTIONS`. -/
def allowedStateProbeActions : List String :=
  ["tab_switch", "expand_panel", "open_modal", "open_drawer", "toggle_view", "paginate_probe",
    "tree_expand"]

/-- `allowed_reasons_by_status.get(status)`. -/
def allowedReasonsByStatus :
    NavigationMaterializationStatus → Option (List NavigationTargetRejectionReason)
  | .blocked => some [.totalBudgetExhausted, .routeBudgetExhausted, .kindBudgetExhausted,
      .parentBudgetExhausted, .blockedByPermission, .unsafeActionRejected]
  | .duplicate => some [.duplicateTarget]
  | .notApplied => some [.stateTransitionNotApplied]
  | _ => none

def successStatuses : List NavigationMaterializationStatus :=
  [.discovered, .queued, .applied]

/-- `validate_status_reason_combination`: the message of the first check that fails. -/
def validateStatusReasonCombination (status : NavigationMaterializationStatus)
    (reason : Option NavigationTargetRejectionReason) (detail : Option String) : Option String :=
  if (allowedReasonsByStatus status).isSome ∧ reason = none then
    some "rejection_reason is required for blocked, duplicate, and not_applied targets"
  else if status ∈ successStatuses ∧ reason.isSome then
    some "rejection_reason must be empty unless the target was rejected or not applied"
  else if status ∈ successStatuses ∧ detail.isSome then
    some "rejection_detail must be empty for discovered, queued, and applied targets"
  else if reason.any fun r => r ∉ (allowedReasonsByStatus status).getD [] then
    some "rejection_reason does not match materialization_status semantics"
  else none

structure NavigationTargetResult where
  targetKey : String
  targetKind : NavigationTargetKind
  routeHint : Option String := none
  locatorCandidates : List Json := []
  stateContext : List (String × Json)
  parentTargetKey : Option String := none
  discoverySource : Option String := none
  safetyLevel : String := "readonly"
  materializationStatus : NavigationMaterializationStatus := .discovered
  rejectionReason : Option NavigationTargetRejectionReason := none
  rejectionDetail : Option String := none
  metadata : List (String × Json)
  valid : validateStatusReasonCombination materializationStatus rejectionReason rejectionDetail =
    none

/-- A value that is refused: not one of the literals of a field, or not valid as a whole. -/
inductive NavigationTargetError where
  | literal (field value : String)
  | invalid (message : String)
  deriving DecidableEq

/-- A text that is one of the literals of a field. -/
def readLiteral {α : Type} (field : String) (ofText? : String → Option α) (text : String) :
    Except NavigationTargetError α :=
  match ofText? text with
  | some a => .ok a
  | none => .error (.literal field text)

/-- The same for a text that may be missing. -/
def readOptionalLiteral {α : Type} (field : String) (ofText? : String → Option α) :
    Option String → Except NavigationTargetError (Option α)
  | none => .ok none
  | some text => (readLiteral field ofText? text).map some

/-- The record of a target whose literals were read, when its reason goes with its status. -/
def NavigationTargetResult.ofLiterals (target : NavigationTarget) (kind : NavigationTargetKind)
    (status : NavigationMaterializationStatus) (reason : Option NavigationTargetRejectionReason) :
    Except NavigationTargetError NavigationTargetResult :=
  match h : validateStatusReasonCombination status reason target.rejectionDetail with
  | some message => .error (.invalid message)
  | none => .ok
    { targetKey := target.targetKey
      targetKind := kind
      routeHint := target.routeHint
      locatorCandidates := target.locatorCandidates
      stateContext := target.stateContext
      parentTargetKey := target.parentTargetKey
      discoverySource := target.discoverySource
      safetyLevel := target.safetyLevel
      materializationStatus := status
      rejectionReason := reason
      rejectionDetail := target.rejectionDetail
      metadata := target.metadata
      valid := h }

/-- `NavigationTargetResult.model_validate(target.to_record())`. -/
def NavigationTargetResult.modelValidate (target : NavigationTarget) :
    Except NavigationTargetError NavigationTargetResult := do
  let kind ← readLiteral "target_kind" NavigationTargetKind.ofText? target.targetKind
  let status ← readLiteral "materialization_status" NavigationMaterializationStatus.ofText?
    target.materializationStatus
  let reason ← readOptionalLiteral "rejection_reason" NavigationTargetRejectionReason.ofText?
    target.rejectionReason
  ofLiterals target kind status reason

/-- Status and reason of a target are literals that go together. -/
def NavigationTarget.PassesValidator (target : NavigationTarget) : Prop :=
  ∃ status reason,
    NavigationMaterializationStatus.ofText? target.materializationStatus = some status ∧
      readOptionalLiteral "rejection_reason" NavigationTargetRejectionReason.ofText?
        target.rejectionReason = .ok reason ∧
      validateStatusReasonCombination status reason target.rejectionDetail = none

/-- **A target that passes is recorded, unless its kind is not one of the literals.** -/
theorem exists_modelValidate_iff {target : NavigationTarget} (h : target.PassesValidator) :
    (∃ record, NavigationTargetResult.modelValidate target = .ok record) ↔
      ∃ kind, NavigationTargetKind.ofText? target.targetKind = some kind := by
  obtain ⟨status, reason, hstatus, hreason, hvalid⟩ := h
  unfold NavigationTargetResult.modelValidate
  cases hkind : NavigationTargetKind.ofText? target.targetKind with
  | none =>
    refine iff_of_false ?_ ?_
    · rintro ⟨record, hrecord⟩
      rw [readLiteral, hkind] at hrecord
      cases hrecord
    · rintro ⟨kind, hsome⟩
      cases hsome
  | some kind =>
    refine iff_of_true ?_ ⟨kind, rfl⟩
    rw [readLiteral, hkind, readLiteral, hstatus, hreason]
    change ∃ record, NavigationTargetResult.ofLiterals target kind status reason = .ok record
    unfold NavigationTargetResult.ofLiterals
    split
    · rename_i message hmessage
      rw [hvalid] at hmessage
      cases hmessage
    · exact ⟨_, rfl⟩

end Runlet
