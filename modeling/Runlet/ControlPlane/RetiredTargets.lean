import Runlet.ControlPlane.AliasResolution
import Runlet.ControlPlane.CheckRequests

/-!
# Requests for retired targets

A request whose page was retired, or whose check was, is to be refused with a conflict and not
probed.  The service asks a second query for it, `resolve_retired_page_asset_or_check`, when the
first one found no check.

The second query does not ask the navigation aliases, and looks only at the first asset that the
intent aliases lead to and at the first one that the page fields lead to.  So a retired asset that
only a navigation alias names is probed, and so is one behind a newer or more trusted asset.
`retired_isRejected_iff` says for which requests the rule holds.
-/

namespace Runlet

open KeyedTable RowQuery

namespace ControlPlane

open Resolution

section Rule

variable (db : Db) (payload : CreateCheckRequest)

/-- The hints of a request, as the queries compare them. -/
abbrev goalOf : String :=
  normalizedHint payload.checkGoal.text

abbrev systemHintOf : String :=
  normalizedHint payload.systemHint.text

/-- The asset is retired, or it has a retired check for the goal. -/
def IsRetiredTarget (goal : String) (asset : PageAsset) : Prop :=
  asset.lifecycleStatus ≠ .active ∨
    ∃ check ∈ db.pageChecks, isRetiredCheckOf goal asset check = true

/-- The request names a retired target of the system: no active asset with an active check matches,
and a safe asset matches that is retired or has a retired check. -/
structure NamesRetired (system : System) (pageHint : String) : Prop where
  resolved : resolveSystem payload.systemHint.text db = some system
  hinted : payload.pageHintText = some pageHint
  inactive : ∀ asset check, Names db system.id (goalOf payload) asset check →
    ¬ MatchesHint db (systemHintOf payload) (normalizedHint pageHint) (goalOf payload) asset
  retired : ∃ asset ∈ db.pageAssets, isSafeAssetOf system.id asset = true ∧
    MatchesHint db (systemHintOf payload) (normalizedHint pageHint) (goalOf payload) asset ∧
    IsRetiredTarget db (goalOf payload) asset

/-- The request is refused as one for a retired target, and nothing is written. -/
def RejectedAsRetired [AliasTies] (ids : IdSource) (now : DateTime) : Prop :=
  ∃ detail ∈ ["asset is retired", "page check is retired"],
    submitPayload ids now payload db = (db, .error (.http 409 detail))

/-- Requests for retired targets are refused. -/
def RetiredIsRejected [AliasTies] (ids : IdSource) (now : DateTime) : Prop :=
  ∀ system pageHint, NamesRetired db payload system pageHint →
    RejectedAsRetired db payload ids now

/-- The second query comes to a retired target: the first safe asset that an intent alias leads to,
the alias active or not, is one; or the first safe asset that the page fields lead to. -/
def RetiredComesFirst [AliasTies] (system : System) (pageHint : String) : Prop :=
  (∃ m, IsFirst aliasOrder (aliasRows (isSafeAssetOf system.id)
      (matchesIntent (goalOf payload) pageHint (systemHintOf payload)) db) m ∧
        IsRetiredTarget db (goalOf payload) m.1) ∨
    ∃ asset, IsFirst pageOrder (pageRows (isSafeAssetOf system.id) pageHint db) asset ∧
      IsRetiredTarget db (goalOf payload) asset

end Rule

/-! ## What the first query answers -/

section Answered

variable {db : Db} {system : System} {systemHint pageHint goal : String}

/-- Where nothing active matches, no check is answered. -/
theorem pageCheck_eq_none_of_inactive [AliasTies]
    (hinactive : ∀ asset check, Names db system.id goal asset check →
      ¬ MatchesHint db systemHint pageHint goal asset) :
    (resolveInSystem db system systemHint pageHint goal).pageCheck = none := by
  cases hc : (resolveInSystem db system systemHint pageHint goal).pageCheck with
  | none => rfl
  | some check =>
    obtain ⟨asset, ha⟩ := exists_asset_of_resolveInSystem hc
    exact absurd (matchesHint_of_resolveInSystem ha).2
      (hinactive asset check (names_of_resolveInSystem ha hc))

theorem not_retired_of_resolveInSystem [AliasTies] :
    ((resolveInSystem db system systemHint pageHint goal).pageAsset.any
      fun asset => asset.lifecycleStatus.retired) = false := by
  cases ha : (resolveInSystem db system systemHint pageHint goal).pageAsset with
  | none => rfl
  | some asset =>
    have hactive := (matchesHint_of_resolveInSystem ha).1
    rw [Option.any_some, AssetLifecycleStatus.retired_eq_false_iff]
    exact (isActiveAssetOf_iff.mp hactive).2.2

end Answered

/-! ## What the second query answers -/

section Second

variable {db : Db} {goal pageHint systemHint : String} {systemId : UUID}

theorem isSome_buildRetiredResolutionTarget_iff {asset : PageAsset} :
    (buildRetiredResolutionTarget db asset goal).isSome = true ↔ IsRetiredTarget db goal asset := by
  unfold buildRetiredResolutionTarget IsRetiredTarget
  split
  · rename_i h
    exact iff_of_true rfl (Or.inl h)
  · rename_i h
    rw [Option.isSome_map, or_iff_right h]
    cases hfirst : db.pageChecks.first? (isRetiredCheckOf goal asset) with
    | none =>
      rw [Table.first?_eq_none_iff] at hfirst
      refine iff_of_false Bool.false_ne_true ?_
      rintro ⟨check, hcheck, hretired⟩
      rw [hfirst check hcheck] at hretired
      exact Bool.false_ne_true hretired
    | some check =>
      exact iff_of_true rfl ⟨check, Table.mem_of_first? hfirst, Table.pred_of_first? hfirst⟩

/-- Rows of intent aliases that tie are one row. -/
theorem eq_of_tie_aliasRows [AliasTies] {assets : PageAsset → Bool} {aliases : IntentAlias → Bool}
    {m m' : PageAsset × IntentAlias} (hm : m ∈ aliasRows assets aliases db)
    (hm' : m' ∈ aliasRows assets aliases db) (h : aliasOrder.before m m' = false)
    (h' : aliasOrder.before m' m = false) : m = m' := by
  obtain ⟨⟨ha, -⟩, hr, -⟩ := mem_aliasRows.mp hm
  obtain ⟨⟨ha', -⟩, hr', -⟩ := mem_aliasRows.mp hm'
  obtain ⟨h, h'⟩ := SortOrder.tie_of_andThen h h'
  obtain ⟨h, h'⟩ := SortOrder.tie_of_andThen h h'
  have hids := AliasTies.ids_eq m m' h h'
  exact Prod.ext (Table.eq_of_key_eq ha ha' hids.1) (Table.eq_of_key_eq hr hr' hids.2)

theorem eq_of_tie_pageRows {assets : PageAsset → Bool} {asset asset' : PageAsset}
    (ha : asset ∈ pageRows assets pageHint db) (ha' : asset' ∈ pageRows assets pageHint db)
    (h : pageOrder.before asset asset' = false) (h' : pageOrder.before asset' asset = false) :
    asset = asset' := by
  obtain ⟨h, h'⟩ := SortOrder.tie_of_andThen h h'
  exact Table.eq_of_key_eq (mem_pageRows.mp ha).1.1 (mem_pageRows.mp ha').1.1
    (SortOrder.eq_of_ascending h h')

theorem isSome_retiredTargetByAlias_iff [AliasTies] :
    (retiredTargetByAlias (some systemId) db systemHint pageHint goal).isSome = true ↔
      ∃ m, IsFirst aliasOrder
        (aliasRows (isSafeAssetOf systemId) (matchesIntent goal pageHint systemHint) db) m ∧
          IsRetiredTarget db goal m.1 := by
  have hfirst : ∀ m, firstBy aliasOrder (aliasRows (isSafeAssetOf systemId)
      (matchesIntent goal pageHint systemHint) db) = some m ↔ _ := fun m =>
    firstBy_eq_some_iff fun a ha b hb => eq_of_tie_aliasRows ha hb
  unfold retiredTargetByAlias assetByAlias
  rw [show isSafeAssetIn (some systemId) = isSafeAssetOf systemId from rfl]
  cases h : firstBy aliasOrder (aliasRows (isSafeAssetOf systemId)
      (matchesIntent goal pageHint systemHint) db) with
  | none =>
    refine iff_of_false Bool.false_ne_true ?_
    rintro ⟨m, hm, -⟩
    rw [(hfirst m).mpr hm] at h
    exact absurd h (Option.some_ne_none m)
  | some m =>
    rw [Option.map_some, Option.bind_some, isSome_buildRetiredResolutionTarget_iff]
    constructor
    · exact fun hretired => ⟨m, (hfirst m).mp h, hretired⟩
    · rintro ⟨m', hm', hretired⟩
      rw [(hfirst m').mpr hm', Option.some_inj] at h
      rwa [← h]

theorem isSome_retiredTargetByPage_iff :
    (retiredTargetByPage db systemId pageHint goal).isSome = true ↔
      ∃ asset, IsFirst pageOrder (pageRows (isSafeAssetOf systemId) pageHint db) asset ∧
        IsRetiredTarget db goal asset := by
  have hfirst : ∀ asset, firstBy pageOrder (pageRows (isSafeAssetOf systemId) pageHint db) =
      some asset ↔ _ := fun asset =>
    firstBy_eq_some_iff fun a ha b hb => eq_of_tie_pageRows ha hb
  unfold retiredTargetByPage assetByPage
  cases h : firstBy pageOrder (pageRows (isSafeAssetOf systemId) pageHint db) with
  | none =>
    refine iff_of_false Bool.false_ne_true ?_
    rintro ⟨asset, hasset, -⟩
    rw [(hfirst asset).mpr hasset] at h
    exact absurd h (Option.some_ne_none asset)
  | some asset =>
    rw [Option.bind_some, isSome_buildRetiredResolutionTarget_iff]
    constructor
    · exact fun hretired => ⟨asset, (hfirst asset).mp h, hretired⟩
    · rintro ⟨asset', hasset', hretired⟩
      rw [(hfirst asset').mpr hasset', Option.some_inj] at h
      rwa [← h]

end Second

/-! ## The rule -/

section Holds

variable {db : Db} {payload : CreateCheckRequest} {system : System} {pageHint : String}

theorem resolutionOf_eq [AliasTies] (h : NamesRetired db payload system pageHint) :
    resolutionOf payload db = resolveInSystem db system (systemHintOf payload)
      (normalizedHint pageHint) (goalOf payload) := by
  unfold resolutionOf resolvePageAssetAndCheck
  rw [h.resolved, h.hinted]

/-- The second query finds a target exactly when a retired one comes first. -/
theorem isSome_retiredTargetOf_iff [AliasTies] (h : NamesRetired db payload system pageHint) :
    (retiredTargetOf payload db (resolutionOf payload db)).isSome = true ↔
      RetiredComesFirst db payload system (normalizedHint pageHint) := by
  have hsystem : (resolutionOf payload db).system.map System.id = some system.id := by
    rw [resolutionOf_eq h, system_resolveInSystem, Option.map_some]
  unfold retiredTargetOf resolveRetiredPageAssetOrCheck RetiredComesFirst
  rw [hsystem, h.hinted, ← isSome_retiredTargetByAlias_iff, ← isSome_retiredTargetByPage_iff]
  simp only
  split
  · rename_i target htarget
    rw [htarget]
    exact iff_of_true rfl (Or.inl rfl)
  · rename_i hnone
    rw [hnone]
    exact (or_iff_right Bool.false_ne_true).symm

theorem retiredDetail_eq [AliasTies] (h : NamesRetired db payload system pageHint) :
    retiredDetail payload db (resolutionOf payload db) =
      (retiredTargetOf payload db (resolutionOf payload db)).map fun target =>
        if target.pageCheck.isSome then "page check is retired" else "asset is retired" := by
  unfold retiredDetail
  rw [resolutionOf_eq h, not_retired_of_resolveInSystem, if_neg Bool.false_ne_true,
    pageCheck_eq_none_of_inactive h.inactive]

/-- **One request.**  It is refused as one for a retired target exactly when its template is
readonly and a retired target comes first in the second query. -/
theorem rejectedAsRetired_iff [AliasTies] (h : NamesRetired db payload system pageHint) {ids : IdSource}
    {now : DateTime} :
    RejectedAsRetired db payload ids now ↔
      readonlyTemplate payload = true ∧
        RetiredComesFirst db payload system (normalizedHint pageHint) := by
  rw [← isSome_retiredTargetOf_iff h]
  unfold RejectedAsRetired submitPayload refusal
  rw [retiredDetail_eq h]
  cases hreadonly : readonlyTemplate payload with
  | false =>
    refine iff_of_false ?_ fun hand => Bool.false_ne_true hand.1
    rintro ⟨detail, -, hresult⟩
    simp at hresult
  | true =>
    cases htarget : retiredTargetOf payload db (resolutionOf payload db) with
    | some target =>
      refine iff_of_true ?_ ⟨rfl, rfl⟩
      refine ⟨if target.pageCheck.isSome then "page check is retired" else "asset is retired",
        ?_, rfl⟩
      split
      · exact List.mem_cons_of_mem _ List.mem_cons_self
      · exact List.mem_cons_self
    | none =>
      refine iff_of_false ?_ fun hand => Bool.false_ne_true hand.2
      rintro ⟨detail, hdetail, hresult⟩
      rw [Option.map_none] at hresult
      by_cases hmissing : (resolutionOf payload db).missReason = some .elementAssetMissing
      · -- refused, but because the element asset is missing
        simp only [hmissing, Bool.not_true, Bool.false_eq_true, if_false, if_true, Prod.mk.injEq,
          Except.error.injEq, CheckRequestError.http.injEq, true_and] at hresult
        rw [← hresult] at hdetail
        simp at hdetail
      · simp [hmissing] at hresult

variable (db payload) in
/-- **Requests for retired targets** are refused as such exactly when the second query comes to a
retired target first (and the template of the request, if it has one, is a readonly one). -/
theorem retired_isRejected_iff [AliasTies] (ids : IdSource) (now : DateTime) :
    RetiredIsRejected db payload ids now ↔
      ∀ system pageHint, NamesRetired db payload system pageHint →
        readonlyTemplate payload = true ∧
          RetiredComesFirst db payload system (normalizedHint pageHint) :=
  forall_congr' fun _ => forall_congr' fun _ => forall_congr' fun h => rejectedAsRetired_iff h

end Holds

/-! ## A retired page in the menu -/

section Sample

local instance : AliasTies := AliasTies.byKeys

def retiredSystem : System :=
  { id := 1, code := "crm", name := "CRM", baseUrl := "https://crm" }

def retiredAsset : PageAsset :=
  { id := 3, systemId := 1, pageId := 2, assetKey := "crm.users", assetVersion := "v1",
    lifecycleStatus := .retiredMissing }

def retiredAlias : PageNavigationAlias :=
  { id := 6, systemId := 1, pageAssetId := 3, aliasType := "leaf", aliasText := "Users",
    leafText := some "Users", displayChain := some "Users", chainComplete := true,
    source := "menu" }

/-- A retired asset that only a navigation alias names. -/
def retiredDb : Db where
  systems := .single retiredSystem
  pages := .single { id := 2, systemId := 1, routePath := "/users" }
  pageAssets := .single retiredAsset
  pageNavigationAliases := .single retiredAlias

def apiText (text : String) (stripped : Text.strip text = text := by decide)
    (nonempty : text ≠ "" := by decide) : RequiredText :=
  ⟨text, stripped, nonempty⟩

def usersRequest : CreateCheckRequest where
  systemHint := apiText "crm"
  pageHint := some (apiText "Users")
  checkGoal := apiText "page_open"
  strictness := apiText "balanced"
  timeBudgetMs := 20000
  timeBudgetMs_pos := by decide
  requestSource := apiText "api"
  template := none

theorem namesRetired_users : NamesRetired retiredDb usersRequest retiredSystem "Users" where
  resolved := by
    refine Table.first?_eq_some_iff.mpr ⟨List.mem_singleton.mpr rfl, by decide +kernel, ?_⟩
    intro row hrow _
    rw [List.mem_singleton.mp hrow]
  hinted := rfl
  inactive _ check h := absurd h.check_mem (Table.notMem_empty check)
  retired :=
    ⟨retiredAsset, List.mem_singleton.mpr rfl, by decide +kernel,
      Or.inl ⟨retiredAlias, List.mem_singleton.mpr rfl, rfl, by decide +kernel⟩,
      Or.inl (by decide)⟩

/-- The request is accepted, for a probe. -/
theorem refusal_users : refusal usersRequest retiredDb = none := by
  decide +kernel

/-- A page that was retired is probed. -/
theorem retired_isRejected_fails :
    ¬ ∀ (db : Db) (payload : CreateCheckRequest) (ids : IdSource) (now : DateTime),
      RetiredIsRejected db payload ids now := by
  intro h
  obtain ⟨detail, -, hresult⟩ :=
    h retiredDb usersRequest IdSource.ascending 0 _ _ namesRetired_users
  unfold submitPayload at hresult
  rw [refusal_users] at hresult
  exact nomatch hresult

end Sample

end ControlPlane

end Runlet
