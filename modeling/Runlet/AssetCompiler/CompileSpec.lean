import Runlet.AssetCompiler.RetirementSpec
import Runlet.AssetCompiler.PageLoopInvariant
import Runlet.AssetCompiler.SwitchSpec

/-!
# What a compile does

A compile of a promoted snapshot is its loop over the pages, the retirement, and an audit row.  This
file puts the two halves together: the tables the compile leaves alone (`outsideCompile`), what
becomes of each asset and check (`get?_pageAssets_compilePromoted`,
`pageChecks_compilePromoted`), and which aliases and jobs it names in its decisions, in terms of
the rows it retired and brought back.
-/

namespace Runlet

open KeyedTable

namespace AssetCompiler

/-! ## What the decisions name -/

section Decisions

variable {cx : CompileContext} {db : Db}

theorem activeAssetKey_eq_some {id : UUID} {assetKey : String} :
    activeAssetKey (activeTruth cx.system.id db) id = some assetKey ↔
      ∃ a, IsActiveAsset cx db a ∧ a.id = id ∧ a.assetKey = assetKey := by
  unfold activeAssetKey
  rw [Option.map_eq_some_iff]
  constructor
  · rintro ⟨a, ha, rfl⟩
    exact ⟨a, mem_activeTruth_assets.mp (List.mem_of_find?_eq_some ha),
      by simpa using List.find?_some ha, rfl⟩
  · rintro ⟨a, ha, rfl, rfl⟩
    cases hfind : (activeTruth cx.system.id db).assets.find? fun asset => asset.id = a.id with
    | none =>
      have hno := List.find?_eq_none.mp hfind a (mem_activeTruth_assets.mpr ha)
      simp at hno
    | some b =>
      have hb := mem_activeTruth_assets.mp (List.mem_of_find?_eq_some hfind)
      have hid : b.id = a.id := by simpa using List.find?_some hfind
      exact ⟨b, rfl, by rw [hb.eq ha hid]⟩

theorem IsActiveCheck.eq {a b : PageAsset} {c d : PageCheck} (hc : IsActiveCheck cx db a c)
    (hd : IsActiveCheck cx db b d) (h : c.id = d.id) : a = b ∧ c = d := by
  have hcd : c = d := Table.eq_of_key_eq hc.2.1 hd.2.1 h
  subst hcd
  exact ⟨hc.1.eq hd.1 (hc.2.2.1.symm.trans hd.2.2.1), rfl⟩

theorem checkTarget_eq_some {id : UUID} {assetKey checkCode : String} :
    checkTarget (activeTruth cx.system.id db) id = some (assetKey, checkCode) ↔
      ∃ a c, IsActiveCheck cx db a c ∧ c.id = id ∧ a.assetKey = assetKey ∧
        c.checkCode = checkCode := by
  unfold checkTarget
  rw [Option.bind_eq_some_iff]
  constructor
  · rintro ⟨c, hfind, hmap⟩
    obtain ⟨b, hbc⟩ := mem_activeTruth_checks.mp (List.mem_of_find?_eq_some hfind)
    obtain ⟨k, hk, heq⟩ := Option.map_eq_some_iff.mp hmap
    obtain ⟨rfl, rfl⟩ := Prod.mk.inj heq
    obtain ⟨a, ha, hid, hkey⟩ := activeAssetKey_eq_some.mp hk
    have hab : a = b := ha.eq hbc.1 (hid.trans hbc.2.2.1)
    rw [hab] at hkey
    exact ⟨b, c, hbc, by simpa using List.find?_some hfind, hkey, rfl⟩
  · rintro ⟨a, c, hac, rfl, rfl, rfl⟩
    cases hfind : (activeTruth cx.system.id db).checks.find? fun check => check.id = c.id with
    | none =>
      have hno := List.find?_eq_none.mp hfind c (mem_activeTruth_checks.mpr ⟨a, hac⟩)
      simp at hno
    | some d =>
      obtain ⟨b, hbd⟩ := mem_activeTruth_checks.mp (List.mem_of_find?_eq_some hfind)
      have hid : d.id = c.id := by simpa using List.find?_some hfind
      obtain ⟨rfl, rfl⟩ := hbd.eq hac hid
      refine ⟨d, rfl, Option.map_eq_some_iff.mpr ⟨b.assetKey, ?_, rfl⟩⟩
      exact activeAssetKey_eq_some.mpr ⟨b, hac.1, hac.2.2.1.symm, rfl⟩

variable {gate : QualityGateDecision} {reactivated : List UUID} {st : RetireState}

/-- A check that was brought back and is kept. -/
def IsResumed (reactivated : List UUID) (st : RetireState) (id : UUID) : Prop :=
  id ∈ reactivated ∧ id ∉ st.retiredCheckIds

theorem mem_resumeCheckIds {id : UUID} :
    id ∈ reactivated.eraseDups.filter (fun id => id ∉ st.retiredCheckIds.eraseDups) ↔
      IsResumed reactivated st id := by
  rw [List.mem_filter, List.mem_eraseDups, decide_eq_true_eq, List.mem_eraseDups]
  rfl

/-- **The jobs to pause**: the active ones on a check that was retired. -/
theorem mem_publishedJobIdsToPause {active : ActiveTruth} {id : UUID} :
    id ∈ (cascadeDecisions active gate reactivated st).publishedJobIdsToPause ↔
      ∃ job ∈ st.db.publishedJobs, job.pageCheckId ∈ st.retiredCheckIds ∧ job.state = .active ∧
        job.id = id := by
  change id ∈ (queryPublishedJobsToPause st.retiredCheckIds.eraseDups st.db).map (·.id) ↔ _
  unfold queryPublishedJobsToPause
  rw [List.mem_map]
  refine exists_congr fun job => ?_
  rw [Table.mem_select, Bool.and_eq_true, decide_eq_true_eq, decide_eq_true_eq,
    List.mem_eraseDups, and_assoc, and_assoc]

/-- **The jobs to resume**: those on a check that was brought back which the program paused. -/
theorem mem_publishedJobIdsToResume {active : ActiveTruth} {id : UUID} :
    id ∈ (cascadeDecisions active gate reactivated st).publishedJobIdsToResume ↔
      ∃ job ∈ st.db.publishedJobs, IsResumed reactivated st job.pageCheckId ∧
        job.state = .paused ∧ isSystemPausedJob job = true ∧ job.id = id := by
  change id ∈ (queryPublishedJobsToResume (reactivated.eraseDups.filter
    fun id => id ∉ st.retiredCheckIds.eraseDups) st.db).map (·.id) ↔ _
  unfold queryPublishedJobsToResume
  rw [List.mem_map]
  refine exists_congr fun job => ?_
  rw [List.mem_filter, Table.mem_select, Bool.and_eq_true, decide_eq_true_eq, decide_eq_true_eq,
    mem_resumeCheckIds, and_assoc, and_assoc, and_assoc]

theorem mem_checkTargetSet {targets : List (String × String)} {target : String × String} :
    target ∈ checkTargetSet targets ↔ target ∈ targets ∧ target.1 ≠ "" ∧ target.2 ≠ "" := by
  unfold checkTargetSet
  rw [List.mem_filter]
  simp

/-- An active asset under the key of an alias was retired. -/
def RetiresKey (cx : CompileContext) (db : Db) (st : RetireState) (assetKey : String) : Prop :=
  assetKey ≠ "" ∧ ∃ a, IsActiveAsset cx db a ∧ a.id ∈ st.retiredAssetIds ∧ a.assetKey = assetKey

/-- An active check under the key and the code of an alias is one of those selected. -/
def TargetsAlias (cx : CompileContext) (db : Db) (selected : UUID → Prop) (row : IntentAlias) :
    Prop :=
  row.assetKey ≠ "" ∧ row.checkAlias ≠ "" ∧ ∃ a c, IsActiveCheck cx db a c ∧ selected c.id ∧
    a.assetKey = row.assetKey ∧ c.checkCode = row.checkAlias

theorem mem_targets {ids : List UUID} {row : IntentAlias} :
    (row.assetKey, row.checkAlias) ∈
        checkTargetSet (ids.filterMap (checkTarget (activeTruth cx.system.id db))) ↔
      TargetsAlias cx db (· ∈ ids) row := by
  rw [mem_checkTargetSet, List.mem_filterMap]
  unfold TargetsAlias
  constructor
  · rintro ⟨⟨id, hid, htarget⟩, hkey, hcode⟩
    obtain ⟨a, c, hac, rfl, hk, hc⟩ := checkTarget_eq_some.mp htarget
    exact ⟨hkey, hcode, a, c, hac, hid, hk, hc⟩
  · rintro ⟨hkey, hcode, a, c, hac, hid, hk, hc⟩
    exact ⟨⟨c.id, hid, checkTarget_eq_some.mpr ⟨a, c, hac, rfl, hk, hc⟩⟩, hkey, hcode⟩

/-- **The aliases to disable**: the active ones of a retired asset, or of a retired check. -/
theorem mem_aliasIdsToDisable {id : UUID} :
    id ∈ (cascadeDecisions (activeTruth cx.system.id db) gate reactivated st).aliasIdsToDisable ↔
      ∃ row ∈ st.db.intentAliases, row.isActive = true ∧
        (RetiresKey cx db st row.assetKey ∨ TargetsAlias cx db (· ∈ st.retiredCheckIds) row) ∧
        row.id = id := by
  change id ∈ queryAliasIdsToDisable
    (st.retiredAssetIds.eraseDups.filterMap (activeAssetKey (activeTruth cx.system.id db)))
    (st.retiredCheckIds.eraseDups.filterMap (checkTarget (activeTruth cx.system.id db))) st.db ↔ _
  have hkeys : ∀ k, k ∈ st.retiredAssetIds.eraseDups.filterMap
      (activeAssetKey (activeTruth cx.system.id db)) ↔
        ∃ a, IsActiveAsset cx db a ∧ a.id ∈ st.retiredAssetIds ∧ a.assetKey = k := by
    intro k
    rw [List.mem_filterMap]
    constructor
    · rintro ⟨i, hi, hk⟩
      obtain ⟨a, ha, rfl, hkey⟩ := activeAssetKey_eq_some.mp hk
      exact ⟨a, ha, List.mem_eraseDups.mp hi, hkey⟩
    · rintro ⟨a, ha, hi, hkey⟩
      exact ⟨a.id, List.mem_eraseDups.mpr hi, activeAssetKey_eq_some.mpr ⟨a, ha, rfl, hkey⟩⟩
  have hselected : TargetsAlias cx db (· ∈ st.retiredCheckIds.eraseDups) =
      TargetsAlias cx db (· ∈ st.retiredCheckIds) := by
    simp only [List.mem_eraseDups]
  unfold queryAliasIdsToDisable
  dsimp only
  rw [List.mem_map]
  refine exists_congr fun row => ?_
  rw [List.mem_filter, Table.mem_select, Bool.and_eq_true, Bool.or_eq_true, decide_eq_true_eq,
    decide_eq_true_eq, decide_eq_true_eq, mem_targets, hselected, List.mem_filter,
    List.mem_append, hkeys, decide_eq_true_eq]
  unfold RetiresKey
  constructor
  · rintro ⟨⟨⟨hrow, -, hactive⟩, hcase⟩, hid⟩
    exact ⟨hrow, hactive, hcase.imp_left And.symm, hid⟩
  · rintro ⟨hrow, hactive, hcase, hid⟩
    refine ⟨⟨⟨hrow, ?_, hactive⟩, hcase.imp_left And.symm⟩, hid⟩
    rcases hcase with hkey | htarget
    · exact Or.inl hkey.2
    · rw [← hselected, ← mem_targets] at htarget
      exact Or.inr (List.mem_map.mpr ⟨_, htarget, rfl⟩)

/-- **The aliases to enable**: those of a check that was brought back which the program disabled. -/
theorem mem_aliasIdsToEnable {id : UUID} :
    id ∈ (cascadeDecisions (activeTruth cx.system.id db) gate reactivated st).aliasIdsToEnable ↔
      ∃ row ∈ st.db.intentAliases, row.isActive = false ∧ isSystemDisabledAlias row = true ∧
        TargetsAlias cx db (IsResumed reactivated st) row ∧ row.id = id := by
  change id ∈ queryAliasIdsToEnable ((reactivated.eraseDups.filter
    fun id => id ∉ st.retiredCheckIds.eraseDups).filterMap
      (checkTarget (activeTruth cx.system.id db))) st.db ↔ _
  have hselected : TargetsAlias cx db (· ∈ reactivated.eraseDups.filter
      fun id => id ∉ st.retiredCheckIds.eraseDups) = TargetsAlias cx db (IsResumed reactivated st) := by
    simp only [mem_resumeCheckIds]
  unfold queryAliasIdsToEnable
  dsimp only
  rw [List.mem_map]
  refine exists_congr fun row => ?_
  rw [List.mem_filter, Table.mem_select, Bool.and_eq_true, Bool.and_eq_true, decide_eq_true_eq,
    decide_eq_true_eq, mem_targets, hselected, Bool.not_eq_true']
  constructor
  · rintro ⟨⟨⟨hrow, -, hactive⟩, htarget, hsystem⟩, hid⟩
    exact ⟨hrow, hactive, hsystem, htarget, hid⟩
  · rintro ⟨hrow, hactive, hsystem, htarget, hid⟩
    refine ⟨⟨⟨hrow, ?_, hactive⟩, htarget, hsystem⟩, hid⟩
    rw [← hselected, ← mem_targets] at htarget
    exact List.mem_map.mpr ⟨_, htarget, rfl⟩

end Decisions

/-! ## The database after the retirement -/

section Retired

variable (cx : CompileContext) (gate : QualityGateDecision) (db : Db)

theorem outsideRetirement_retireMissing :
    outsideRetirement (retireMissing cx gate db).db = outsideRetirement db :=
  (retireMissing_inv cx db gate).outside

theorem get?_pageAssets_retireMissing (id : UUID) :
    (retireMissing cx gate db).db.pageAssets.get? id =
      (db.pageAssets.get? id).map fun a =>
        if id ∈ (retireMissing cx gate db).retiredAssetIds then retireAsset cx a else a :=
  (retireMissing_inv cx db gate).assets id

/-- What the retirement does to a check, given the identifiers it retired. -/
structure CheckSettled (ids : List UUID) (c c' : PageCheck) : Prop where
  pageAssetId : c'.pageAssetId = c.pageAssetId
  checkCode : c'.checkCode = c.checkCode
  lifecycle : (c.id ∉ ids ∧ c'.lifecycle = c.lifecycle) ∨
    (c.id ∈ ids ∧ ∃ reason, c'.lifecycle = Lifecycle.retire reason cx.now cx.snapshot.id)

theorem pageChecks_retireMissing :
    Table.Evolves (CheckSettled cx (retireMissing cx gate db).retiredCheckIds) (fun _ => False)
      db.pageChecks (retireMissing cx gate db).db.pageChecks := by
  have hrecord : ∀ (p : PageCheck → Bool) (c : PageCheck),
      (Table.rewrite p (recordDerivedDependencies db) c).pageAssetId = c.pageAssetId ∧
        (Table.rewrite p (recordDerivedDependencies db) c).checkCode = c.checkCode ∧
        (Table.rewrite p (recordDerivedDependencies db) c).id = c.id ∧
        (Table.rewrite p (recordDerivedDependencies db) c).lifecycle = c.lifecycle := by
    intro p c
    unfold Table.rewrite
    split <;> exact ⟨rfl, rfl, rfl, rfl⟩
  have hretired := (retireMissing_inv cx db gate).checks
  have hsettled : ∀ (p : PageCheck → Bool) (c c' : PageCheck),
      CheckRetired cx (retireMissing cx gate db).retiredCheckIds
          (Table.rewrite p (recordDerivedDependencies db) c) c' →
        CheckSettled cx (retireMissing cx gate db).retiredCheckIds c c' := by
    intro p c c' h
    obtain ⟨hasset, hcode, hid, hlife⟩ := hrecord p c
    unfold CheckRetired at h
    rw [hid] at h
    rcases h with ⟨hnot, rfl⟩ | ⟨hin, reason, rfl⟩
    · exact ⟨hasset, hcode, Or.inl ⟨hnot, hlife⟩⟩
    · exact ⟨hasset, hcode, Or.inr ⟨hin, reason, rfl⟩⟩
  constructor
  · intro c hc
    obtain ⟨c', hc', hk, hkept⟩ := hretired.kept _ (List.mem_map_of_mem hc)
    rw [Table.key_rewrite (key_recordDerivedDependencies db)] at hk
    exact ⟨c', hc', hk, hsettled _ c c' hkept⟩
  · intro c' hc'
    rcases hretired.source c' hc' with ⟨d, hd, hk, hkept⟩ | ⟨-, hfalse⟩
    · obtain ⟨c, hc, rfl⟩ := List.mem_map.mp hd
      rw [Table.key_rewrite (key_recordDerivedDependencies db)] at hk
      exact Or.inl ⟨c, hc, hk, hsettled _ c c' hkept⟩
    · exact hfalse.elim

end Retired

/-! ## The database after a compile -/

section Compiled

/-- A database without the tables a compile writes. -/
def outsideCompile (db : Db) : Db :=
  { outsideLoop db with audits := .empty }

variable (cx : CompileContext) (outcome : SwitchOutcome) (db : Db)

/-- The retirement of a compile. -/
def retirement : RetireState :=
  retireMissing cx (qualityGate cx db) (compilePages cx db).db

/-- The decisions of a compile. -/
def compileDecisions : CascadeDecisions :=
  cascadeDecisions (activeTruth cx.system.id (compilePages cx db).db) (qualityGate cx db)
    (compilePages cx db).reactivatedCheckIds (retirement cx db)

theorem compilePromoted_eq :
    compilePromoted cx outcome db =
      (writeAudit cx (retirement cx db) (compileDecisions cx db),
        compileResult cx outcome (compilePages cx db) (retirement cx db)
          (compileDecisions cx db)) := rfl

/-- Nothing but the assets and the checks changes after the loop. -/
theorem outsideRetirement_retirement :
    outsideRetirement (retirement cx db).db = outsideRetirement (compilePages cx db).db :=
  outsideRetirement_retireMissing cx _ _

theorem outsideLoop_compilePages : outsideLoop (compilePages cx db).db = outsideLoop db := by
  obtain ⟨H, -, hinv⟩ := compilePages_inv cx db
  exact hinv.outside

theorem outsideCompile_compilePromoted :
    outsideCompile (compilePromoted cx outcome db).1 = outsideCompile db := by
  have hretired := congrArg (fun x : Db => outsideCompile x) (outsideRetirement_retirement cx db)
  have hloop := congrArg (fun x : Db => { x with audits := .empty })
    (outsideLoop_compilePages cx db)
  exact Eq.trans hretired hloop

theorem intentAliases_retirement :
    (retirement cx db).db.intentAliases = (compilePages cx db).db.intentAliases := by
  have h := congrArg Db.intentAliases (outsideRetirement_retirement cx db)
  exact h

theorem publishedJobs_retirement : (retirement cx db).db.publishedJobs = db.publishedJobs := by
  have hretired := congrArg Db.publishedJobs (outsideRetirement_retirement cx db)
  have hloop := congrArg Db.publishedJobs (outsideLoop_compilePages cx db)
  exact Eq.trans hretired hloop

/-- A compile disables and enables no alias. -/
theorem intentAliases_compilePromoted :
    (compilePromoted cx outcome db).1.intentAliases = (compilePages cx db).db.intentAliases :=
  intentAliases_retirement cx db

theorem publishedJobs_compilePromoted :
    (compilePromoted cx outcome db).1.publishedJobs = db.publishedJobs :=
  publishedJobs_retirement cx db

/-- **What becomes of an asset.** -/
theorem get?_pageAssets_compilePromoted (id : UUID) :
    (compilePromoted cx outcome db).1.pageAssets.get? id =
      ((compilePages cx db).db.pageAssets.get? id).map fun a =>
        if id ∈ (retirement cx db).retiredAssetIds then retireAsset cx a else a :=
  get?_pageAssets_retireMissing cx _ _ id

/-- **What becomes of the checks.** -/
theorem pageChecks_compilePromoted :
    Table.Evolves (CheckSettled cx (retirement cx db).retiredCheckIds) (fun _ => False)
      (compilePages cx db).db.pageChecks (compilePromoted cx outcome db).1.pageChecks :=
  pageChecks_retireMissing cx _ _

end Compiled

/-! ## A whole call -/

section Call

open CurrentStateSwitch

variable (ids : IdSource) (now : DateTime) (db : Db)

/-- What a successful call returns: the snapshot was set aside, or it was compiled. -/
inductive CompileCase (snapshot : CrawlSnapshot) (system : System) :
    Db × CompileSnapshotResult → Prop where
  | skipped (switched : Switched) (hcase : SwitchCase ids now db snapshot switched)
      (houtcome : switched.result.outcome ≠ .promoted) :
      CompileCase snapshot system
        (switched.db, skippedResult snapshot switched.result.outcome)
  | promoted (switched : Switched) (hcase : SwitchCase ids now db snapshot switched)
      (houtcome : switched.result.outcome = .promoted) :
      CompileCase snapshot system
        (compilePromoted (compileContext ids now system snapshot switched.db) .promoted
          switched.db)

variable {ids now db}

/-- **What a successful call is.** -/
theorem compileSnapshot_cases {id : UUID} {returned : Db × CompileSnapshotResult}
    (h : compileSnapshot ids now id db = .ok returned) :
    ∃ snapshot system, db.crawlSnapshots.get? id = some snapshot ∧
      db.systems.get? snapshot.systemId = some system ∧
      CompileCase ids now db snapshot system returned := by
  unfold compileSnapshot at h
  cases hsnapshot : db.crawlSnapshots.get? id with
  | none =>
    rw [hsnapshot] at h
    exact absurd h (by simp)
  | some snapshot =>
    rw [hsnapshot] at h
    dsimp only at h
    cases hsystem : db.systems.get? snapshot.systemId with
    | none =>
      rw [hsystem] at h
      exact absurd h (by simp)
    | some system =>
      rw [hsystem] at h
      dsimp only at h
      have hid : snapshot.id = id := Table.key_of_get? hsnapshot
      refine ⟨snapshot, system, rfl, hsystem, ?_⟩
      cases happly : applyCurrentStateSwitch ids now snapshot.id db with
      | error e =>
        rw [happly] at h
        exact absurd h (by simp [bind, Except.bind])
      | ok switched =>
        obtain ⟨draft, hdraft, hcase⟩ := applyCurrentStateSwitch_cases happly
        rw [hid, hsnapshot, Option.some_inj] at hdraft
        subst hdraft
        rw [happly] at h
        simp only [bind, Except.bind, pure, Except.pure] at h
        split at h
        · rename_i houtcome
          rw [← Except.ok.inj h]
          exact .skipped switched hcase houtcome
        · rename_i houtcome
          rw [not_not] at houtcome
          rw [← Except.ok.inj h, houtcome]
          exact .promoted switched hcase houtcome

/-- A call in which the switch succeeds succeeds. -/
theorem compileSnapshot_of_switch {snapshot : CrawlSnapshot} {system : System}
    {switched : Switched} (hsnapshot : db.crawlSnapshots.get? snapshot.id = some snapshot)
    (hsystem : db.systems.get? snapshot.systemId = some system)
    (happly : applyCurrentStateSwitch ids now snapshot.id db = .ok switched) :
    ∃ returned, compileSnapshot ids now snapshot.id db = .ok returned := by
  unfold compileSnapshot
  rw [hsnapshot]
  dsimp only
  rw [hsystem]
  dsimp only
  rw [happly]
  simp only [bind, Except.bind, pure, Except.pure]
  split
  · exact ⟨_, rfl⟩
  · exact ⟨_, rfl⟩

/-- The snapshots after a call are those of the switch. -/
theorem CompileCase.crawlSnapshots {snapshot : CrawlSnapshot} {system : System}
    {returned : Db × CompileSnapshotResult}
    (h : CompileCase ids now db snapshot system returned) :
    ∃ switched, SwitchCase ids now db snapshot switched ∧
      returned.1.crawlSnapshots = switched.db.crawlSnapshots := by
  cases h with
  | skipped switched hcase => exact ⟨switched, hcase, rfl⟩
  | promoted switched hcase =>
    refine ⟨switched, hcase, ?_⟩
    have houtside := congrArg Db.crawlSnapshots (outsideCompile_compilePromoted
      (compileContext ids now system snapshot switched.db) .promoted switched.db)
    exact houtside

end Call

/-! ## Sequences of calls -/

structure CompileCall where
  ids : IdSource
  now : DateTime
  snapshotId : UUID

namespace CompileCall

variable (call : CompileCall)

/-- What a call commits. -/
def step (db : Db) (call : CompileCall) : Db :=
  match compileSnapshot call.ids call.now call.snapshotId db with
  | .error _ => db
  | .ok (db, _) => db

/-- What a call compiles, and from which database, when its snapshot is promoted. -/
def promotedContext (db : Db) : Option (CompileContext × Db) :=
  match db.crawlSnapshots.get? call.snapshotId with
  | none => none
  | some snapshot =>
    match db.systems.get? snapshot.systemId with
    | none => none
    | some system =>
      match CurrentStateSwitch.applyCurrentStateSwitch call.ids call.now snapshot.id db with
      | .error _ => none
      | .ok switched =>
        if switched.result.outcome = .promoted then
          some (compileContext call.ids call.now system snapshot switched.db, switched.db)
        else none

theorem compileSnapshot_of_promotedContext {db db' : Db} {cx : CompileContext}
    (h : call.promotedContext db = some (cx, db')) :
    compileSnapshot call.ids call.now call.snapshotId db =
      .ok (compilePromoted cx .promoted db') := by
  unfold promotedContext at h
  unfold compileSnapshot
  cases hsnapshot : db.crawlSnapshots.get? call.snapshotId with
  | none =>
    rw [hsnapshot] at h
    exact absurd h (by simp)
  | some snapshot =>
    rw [hsnapshot] at h
    dsimp only at h ⊢
    cases hsystem : db.systems.get? snapshot.systemId with
    | none =>
      rw [hsystem] at h
      exact absurd h (by simp)
    | some system =>
      rw [hsystem] at h
      dsimp only at h ⊢
      cases happly : CurrentStateSwitch.applyCurrentStateSwitch call.ids call.now snapshot.id db with
      | error e =>
        rw [happly] at h
        exact absurd h (by simp)
      | ok switched =>
        rw [happly] at h
        dsimp only at h
        split at h
        · rename_i houtcome
          obtain ⟨rfl, rfl⟩ := Prod.mk.inj (Option.some_inj.mp h)
          simp only [bind, Except.bind, pure, Except.pure]
          rw [if_neg (not_not.mpr houtcome), houtcome]
        · exact absurd h (by simp)

/-- A call that promotes nothing fails, or returns what the switch leaves. -/
theorem compileSnapshot_of_promotedContext_none {db : Db} (h : call.promotedContext db = none) :
    (∃ e, compileSnapshot call.ids call.now call.snapshotId db = .error e) ∨
      ∃ snapshot switched, CurrentStateSwitch.SwitchCase call.ids call.now db snapshot switched ∧
        compileSnapshot call.ids call.now call.snapshotId db =
          .ok (switched.db, skippedResult snapshot switched.result.outcome) := by
  unfold promotedContext at h
  unfold compileSnapshot
  cases hsnapshot : db.crawlSnapshots.get? call.snapshotId with
  | none => exact Or.inl ⟨_, rfl⟩
  | some snapshot =>
    rw [hsnapshot] at h
    dsimp only at h ⊢
    cases hsystem : db.systems.get? snapshot.systemId with
    | none => exact Or.inl ⟨_, rfl⟩
    | some system =>
      rw [hsystem] at h
      dsimp only at h ⊢
      cases happly : CurrentStateSwitch.applyCurrentStateSwitch call.ids call.now snapshot.id db with
      | error e => exact Or.inl ⟨e, rfl⟩
      | ok switched =>
        rw [happly] at h
        dsimp only at h
        split at h
        · exact absurd h (Option.some_ne_none _)
        · rename_i houtcome
          obtain ⟨draft, hdraft, hcase⟩ := CurrentStateSwitch.applyCurrentStateSwitch_cases happly
          have hid : snapshot.id = call.snapshotId := Table.key_of_get? hsnapshot
          rw [hid, hsnapshot, Option.some_inj] at hdraft
          subst hdraft
          refine Or.inr ⟨snapshot, switched, hcase, ?_⟩
          simp only [bind, Except.bind, pure, Except.pure]
          rw [if_pos houtcome]

/-- **What is compiled**: a snapshot of the database, after it was promoted. -/
theorem promotedContext_cases {db db' : Db} {cx : CompileContext}
    (h : call.promotedContext db = some (cx, db')) :
    ∃ snapshot system switched, db.crawlSnapshots.get? call.snapshotId = some snapshot ∧
      db.systems.get? snapshot.systemId = some system ∧
      CurrentStateSwitch.SwitchCase call.ids call.now db snapshot switched ∧
      switched.result.outcome = .promoted ∧
      cx = compileContext call.ids call.now system snapshot switched.db ∧ db' = switched.db := by
  unfold promotedContext at h
  split at h
  · exact absurd h (by simp)
  · rename_i snapshot hsnapshot
    split at h
    · exact absurd h (by simp)
    · rename_i system hsystem
      split at h
      · exact absurd h (by simp)
      · rename_i switched happly
        split at h
        · rename_i houtcome
          obtain ⟨rfl, rfl⟩ := Prod.mk.inj (Option.some_inj.mp h)
          obtain ⟨draft, hdraft, hcase⟩ := CurrentStateSwitch.applyCurrentStateSwitch_cases happly
          have hid : snapshot.id = call.snapshotId := Table.key_of_get? hsnapshot
          rw [hid, hsnapshot, Option.some_inj] at hdraft
          subst hdraft
          exact ⟨snapshot, system, switched, hsnapshot, hsystem, hcase, houtcome, rfl, rfl⟩
        · exact absurd h (by simp)

theorem step_of_promotedContext {db db' : Db} {cx : CompileContext}
    (h : call.promotedContext db = some (cx, db')) :
    step db call = (compilePromoted cx .promoted db').1 := by
  unfold step
  rw [compileSnapshot_of_promotedContext call h]

/-- `P` holds at every turn of the loop over the pages, of the page and the database before it. -/
def Turns (P : CompileContext → Page → Db → Prop) (db : Db) (call : CompileCall) : Prop :=
  match call.promotedContext db with
  | none => True
  | some (cx, db) =>
    Run.Along (compilePage cx) (fun st page => P cx page st.db) { db := db } cx.pages

instance (P : CompileContext → Page → Db → Prop) [∀ cx page db, Decidable (P cx page db)]
    (db : Db) (call : CompileCall) : Decidable (Turns P db call) := by
  unfold Turns
  split <;> infer_instance

theorem Turns.mono {P Q : CompileContext → Page → Db → Prop}
    (h : ∀ cx page db, P cx page db → Q cx page db) {db : Db} {call : CompileCall}
    (hP : Turns P db call) : Turns Q db call := by
  unfold Turns at hP ⊢
  split
  · trivial
  · rename_i cx db' heq
    rw [heq] at hP
    exact Run.Along.mono (fun (st : CompileState) page => h cx page st.db) hP

end CompileCall

end AssetCompiler

end Runlet
