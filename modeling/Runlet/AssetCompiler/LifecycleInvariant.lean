import Runlet.AssetCompiler.Compiled

/-!
# The lifecycle invariant

From an empty asset store, whatever snapshots of whatever systems are compiled: no active check
belongs to a retired asset, a row says why, when and by which snapshot it was retired exactly when
it is, every page of a compiled snapshot has an active asset, and the audit row of a compile lists
the rows it retired.

The loop brings the rows of a page back only when the snapshot is good (`isHighQualityFullSnapshot`),
and a snapshot may be active without being good: a snapshot that was active from the start.  What
saves such a snapshot is that its system has no retired asset (`NoneRetiredUnderPoor`), because only
good snapshots retire, and a system has one active snapshot at a time.
-/

namespace Runlet

open KeyedTable

namespace AssetCompiler

open CurrentStateSwitch (AtMostOneActive SwitchCase snapshotCore isHighQualitySnapshot)

/-! ## The invariant -/

/-- Every active check belongs to an active asset. -/
def ChecksUnderActive (db : Db) : Prop :=
  ∀ c ∈ db.pageChecks, c.lifecycleStatus = .active →
    ∃ a ∈ db.pageAssets, a.id = c.pageAssetId ∧ a.lifecycleStatus = .active

/-- A system whose active snapshot is not good has no retired asset. -/
def NoneRetiredUnderPoor (db : Db) : Prop :=
  ∀ s ∈ db.crawlSnapshots, s.state = .active → isHighQualityFullSnapshot s = false →
    ∀ a ∈ db.pageAssets, a.systemId = s.systemId → a.lifecycleStatus = .active

/-- What is needed of the active snapshots. -/
structure CurrentInv (db : Db) : Prop where
  poor : NoneRetiredUnderPoor db
  atMostOneActive : AtMostOneActive db

structure LifecycleInv (db : Db) : Prop extends CurrentInv db where
  assets : ∀ a ∈ db.pageAssets, a.lifecycle.WellFormed
  checks : ∀ c ∈ db.pageChecks, c.lifecycle.WellFormed
  under : ChecksUnderActive db

theorem LifecycleInv.of_empty {db : Db} (hassets : db.pageAssets = .empty)
    (hchecks : db.pageChecks = .empty) (hone : AtMostOneActive db) : LifecycleInv db := by
  have hnoAsset : ∀ a, a ∉ db.pageAssets := fun a => by rw [hassets]; exact Table.notMem_empty a
  have hnoCheck : ∀ c, c ∉ db.pageChecks := fun c => by rw [hchecks]; exact Table.notMem_empty c
  exact ⟨⟨fun _ _ _ _ a ha => absurd ha (hnoAsset a), hone⟩, fun a ha => absurd ha (hnoAsset a),
    fun c hc => absurd hc (hnoCheck c), fun c hc => absurd hc (hnoCheck c)⟩

/-- A retired asset has no active check. -/
theorem ChecksUnderActive.not_active {db : Db} (h : ChecksUnderActive db) {a : PageAsset}
    (ha : a ∈ db.pageAssets) (hretired : a.lifecycleStatus.retired = true) {c : PageCheck}
    (hc : c ∈ db.pageChecks) (hid : c.pageAssetId = a.id) : c.lifecycleStatus ≠ .active := by
  intro hactive
  obtain ⟨b, hb, hbid, hbactive⟩ := h c hc hactive
  rw [Table.eq_of_key_eq hb ha (hbid.trans hid)] at hbactive
  exact (AssetLifecycleStatus.retired_eq_true_iff _).mp hretired hbactive

/-! ## The switch -/

theorem isHighQualityFullSnapshot_core {s s' : CrawlSnapshot}
    (h : snapshotCore s = snapshotCore s') :
    isHighQualityFullSnapshot s = isHighQualityFullSnapshot s' := by
  have hcore := congrArg isHighQualityFullSnapshot h
  exact hcore

/-- The score a switch asks for is above the score the gate asks for. -/
theorem isHighQualityFullSnapshot_of_high {s : CrawlSnapshot} (h : isHighQualitySnapshot s = true) :
    isHighQualityFullSnapshot s = true := by
  unfold isHighQualitySnapshot at h
  unfold isHighQualityFullSnapshot
  rw [Bool.and_eq_true] at h ⊢
  refine ⟨h.1, ?_⟩
  cases hscore : s.qualityScore with
  | none =>
    rw [hscore] at h
    exact absurd h.2 (by simp)
  | some score =>
    rw [hscore, Option.any_some, decide_eq_true_eq] at h
    rw [Option.any_some, decide_eq_true_eq]
    have hmin : Reconciliation.qualityGateMinScore ≤ 9 / 10 := by
      unfold Reconciliation.qualityGateMinScore
      norm_num
    exact le_trans hmin h.2

section Switch

variable {ids : IdSource} {now : DateTime} {db : Db} {draft : CrawlSnapshot}
  {switched : Switched}

theorem pageAssets_switch (hcase : SwitchCase ids now db draft switched) :
    switched.db.pageAssets = db.pageAssets := by
  have houtside := congrArg Db.pageAssets (hcase.outsideSwitch_eq hcase.db_mem)
  exact houtside

theorem pageChecks_switch (hcase : SwitchCase ids now db draft switched) :
    switched.db.pageChecks = db.pageChecks := by
  have houtside := congrArg Db.pageChecks (hcase.outsideSwitch_eq hcase.db_mem)
  exact houtside

theorem CurrentInv.switch (h : CurrentInv db) (hdraft : draft ∈ db.crawlSnapshots)
    (hcase : SwitchCase ids now db draft switched) : CurrentInv switched.db := by
  refine ⟨?_, hcase.atMostOneActive hdraft h.atMostOneActive _ hcase.db_mem⟩
  intro s hs hactive hpoor
  rw [pageAssets_switch hcase]
  rcases hcase.active_source hdraft hs hactive with hmem | ⟨hcore, hhigh⟩
  · exact h.poor s hmem hactive hpoor
  · rw [isHighQualityFullSnapshot_core hcore, isHighQualityFullSnapshot_of_high hhigh] at hpoor
    exact Bool.noConfusion hpoor

theorem LifecycleInv.switch (h : LifecycleInv db) (hdraft : draft ∈ db.crawlSnapshots)
    (hcase : SwitchCase ids now db draft switched) : LifecycleInv switched.db := by
  refine ⟨h.toCurrentInv.switch hdraft hcase, pageAssets_switch hcase ▸ h.assets,
    pageChecks_switch hcase ▸ h.checks, ?_⟩
  intro c hc hactive
  rw [pageChecks_switch hcase] at hc
  rw [pageAssets_switch hcase]
  exact h.under c hc hactive

end Switch

/-! ## The compile of a promoted snapshot -/

/-- What the compile of a promoted snapshot starts from. -/
structure Promoted (cx : CompileContext) (db : Db) : Prop where
  pages : PagesIn cx db
  systemId : cx.system.id = cx.snapshot.systemId
  active : ∃ r ∈ db.crawlSnapshots, r.state = .active ∧ snapshotCore r = snapshotCore cx.snapshot

theorem Promoted.of_switch {ids : IdSource} {now : DateTime} {db : Db} {draft : CrawlSnapshot}
    {system : System} {switched : Switched} (hdraft : draft ∈ db.crawlSnapshots)
    (hsystem : db.systems.get? draft.systemId = some system)
    (hcase : SwitchCase ids now db draft switched)
    (houtcome : switched.result.outcome = .promoted) :
    Promoted (compileContext ids now system draft switched.db) switched.db where
  pages := pagesIn_compileContext ids now system draft
  systemId := Table.key_of_get? hsystem
  active := hcase.promoted_active hdraft houtcome

section Compile

variable {cx : CompileContext} {db : Db}

variable (cx) in
theorem crawlSnapshots_compilePages : (compilePages cx db).db.crawlSnapshots = db.crawlSnapshots := by
  have h := congrArg Db.crawlSnapshots (outsideLoop_compilePages cx db)
  exact h

theorem crawlSnapshots_compilePromoted (outcome : SwitchOutcome) :
    (compilePromoted cx outcome db).1.crawlSnapshots = db.crawlSnapshots := by
  have h := congrArg Db.crawlSnapshots (outsideCompile_compilePromoted cx outcome db)
  exact h

variable (cx) in
/-- An asset that was active is active after the loop. -/
theorem exists_active_compilePages {a : PageAsset} (ha : a ∈ db.pageAssets)
    (hactive : a.lifecycleStatus = .active) :
    ∃ a' ∈ (compilePages cx db).db.pageAssets, a'.id = a.id ∧ a'.lifecycleStatus = .active := by
  obtain ⟨H, -, hinv⟩ := compilePages_inv cx db
  obtain ⟨a', ha', hid, hkept⟩ := hinv.assets.evolves.kept a ha
  refine ⟨a', ha', hid, ?_⟩
  have hlife := LifecycleKept.of_active cx hkept.lifecycle hactive
  exact (congrArg Lifecycle.status hlife).trans hactive

/-- If the assets of a system were all active, they are after the loop. -/
theorem active_compilePages_of_all {systemId : UUID}
    (hall : ∀ a ∈ db.pageAssets, a.systemId = systemId → a.lifecycleStatus = .active)
    {a : PageAsset} (ha : a ∈ (compilePages cx db).db.pageAssets) (hsystem : a.systemId = systemId) :
    a.lifecycleStatus = .active := by
  obtain ⟨H, -, hinv⟩ := compilePages_inv cx db
  rcases hinv.assets.evolves.source a ha with ⟨a₀, ha₀, -, hkept⟩ | ⟨-, hnew⟩
  · have hactive := hall a₀ ha₀ (hkept.systemId.symm.trans hsystem)
    have hlife := LifecycleKept.of_active cx hkept.lifecycle hactive
    exact (congrArg Lifecycle.status hlife).trans hactive
  · exact congrArg Lifecycle.status hnew.lifecycle

/-- **The asset of a page of the snapshot is active after the loop.** -/
theorem TouchedAsset.isActive (h : CurrentInv db) (hpromoted : Promoted cx db) {page : Page}
    {a : PageAsset} (htouched : TouchedAsset cx page a)
    (ha : a ∈ (compilePages cx db).db.pageAssets) : a.lifecycleStatus = .active := by
  by_cases hgood : isHighQualityFullSnapshot cx.snapshot = true
  · exact htouched.active hgood
  · -- A poor snapshot finds no retired asset in its system.
    rw [Bool.not_eq_true] at hgood
    obtain ⟨r, hr, hactive, hcore⟩ := hpromoted.active
    have hsystem : r.systemId = cx.system.id :=
      (congrArg CrawlSnapshot.systemId hcore).trans hpromoted.systemId.symm
    refine active_compilePages_of_all (fun a₀ ha₀ hsys => ?_) ha htouched.systemId
    exact h.poor r hr hactive ((isHighQualityFullSnapshot_core hcore).trans hgood) a₀ ha₀
      (hsys.trans hsystem.symm)

theorem CurrentInv.compilePages (h : CurrentInv db) :
    CurrentInv (AssetCompiler.compilePages cx db).db := by
  constructor
  · intro s hs hactive hpoor a ha hsystem
    rw [crawlSnapshots_compilePages] at hs
    exact active_compilePages_of_all (h.poor s hs hactive hpoor) ha hsystem
  · intro a ha b hb
    rw [crawlSnapshots_compilePages] at ha hb
    exact h.atMostOneActive a ha b hb

/-- **The loop keeps the invariant.** -/
theorem LifecycleInv.compilePages (h : LifecycleInv db) (hpromoted : Promoted cx db) :
    LifecycleInv (AssetCompiler.compilePages cx db).db := by
  obtain ⟨H, -, hinv⟩ := compilePages_inv cx db
  refine ⟨h.toCurrentInv.compilePages, ?_, ?_, ?_⟩
  · intro a ha
    rcases hinv.assets.evolves.source a ha with ⟨a₀, ha₀, -, hkept⟩ | ⟨-, hnew⟩
    · exact LifecycleKept.wellFormed cx hkept.lifecycle (h.assets a₀ ha₀)
    · rw [hnew.lifecycle]
      exact Lifecycle.wellFormed_alive
  · intro c hc
    rcases hinv.checks.evolves.source c hc with ⟨c₀, hc₀, -, hkept⟩ | ⟨-, hnew⟩
    · exact LifecycleKept.wellFormed cx hkept.lifecycle (h.checks c₀ hc₀)
    · rw [hnew.lifecycle]
      exact Lifecycle.wellFormed_alive
  · intro c hc hactive
    rcases check_cases hc with hmem | ⟨w, a, hfirst, htouched⟩
    · obtain ⟨a, ha, hid, haactive⟩ := h.under c hmem hactive
      obtain ⟨a', ha', hid', haactive'⟩ := exists_active_compilePages cx ha haactive
      exact ⟨a', ha', hid'.trans hid, haactive'⟩
    · obtain ⟨q, hasset, -⟩ := touchedAsset_of_first? htouched.page_mem hfirst
      have ha := Table.mem_of_first? hfirst
      exact ⟨a, ha, htouched.pageAssetId.symm, hasset.isActive h.toCurrentInv hpromoted ha⟩

/-! ## The retirement -/

theorem mem_pageAssets_compilePromoted (outcome : SwitchOutcome) {a' : PageAsset} :
    a' ∈ (compilePromoted cx outcome db).1.pageAssets ↔
      ∃ a ∈ (compilePages cx db).db.pageAssets,
        a' = if a.id ∈ (retirement cx db).retiredAssetIds then retireAsset cx a else a := by
  constructor
  · intro ha'
    have hget := Table.get?_key ha'
    rw [get?_pageAssets_compilePromoted, Option.map_eq_some_iff] at hget
    obtain ⟨a, ha, heq⟩ := hget
    have hid : a.id = key a' := Table.key_of_get? ha
    rw [← hid] at heq
    exact ⟨a, Table.mem_of_get? ha, heq.symm⟩
  · rintro ⟨a, ha, rfl⟩
    have hget := get?_pageAssets_compilePromoted cx outcome db a.id
    rw [show (compilePages cx db).db.pageAssets.get? a.id = some a from Table.get?_key ha,
      Option.map_some] at hget
    exact Table.mem_of_get? hget

theorem mem_retirement_assets {id : UUID} :
    id ∈ (retirement cx db).retiredAssetIds ↔ (qualityGate cx db).allowRetirement = true ∧
      ∃ a, IsActiveAsset cx (compilePages cx db).db a ∧
        AssetMissing cx (compilePages cx db).db a ∧ a.id = id :=
  mem_retiredAssetIds cx _ _

theorem mem_retirement_checks {id : UUID} :
    id ∈ (retirement cx db).retiredCheckIds ↔ (qualityGate cx db).allowRetirement = true ∧
      ∃ a c, IsActiveCheck cx (compilePages cx db).db a c ∧
        (AssetMissing cx (compilePages cx db).db a ∨ CheckUnmet cx (compilePages cx db).db a c) ∧
        c.id = id :=
  mem_retiredCheckIds cx _ _

/-- The asset of a page of the snapshot is not retired. -/
theorem TouchedAsset.notMem_retirement (hpages : PagesIn cx db) {page : Page} {a : PageAsset}
    (htouched : TouchedAsset cx page a) (ha : a ∈ (compilePages cx db).db.pageAssets) :
    a.id ∉ (retirement cx db).retiredAssetIds := by
  intro hmem
  obtain ⟨-, b, hb, hmissing, hid⟩ := mem_retirement_assets.mp hmem
  rw [Table.eq_of_key_eq hb.1 ha hid] at hmissing
  exact htouched.not_missing hpages.compilePages hmissing

/-- An active check of an asset that is retired is retired. -/
theorem mem_retirement_checks_of_asset {a : PageAsset} {c : PageCheck}
    (ha : a ∈ (compilePages cx db).db.pageAssets) (hc : c ∈ (compilePages cx db).db.pageChecks)
    (hid : c.pageAssetId = a.id) (hactive : c.lifecycleStatus = .active)
    (hretired : a.id ∈ (retirement cx db).retiredAssetIds) :
    c.id ∈ (retirement cx db).retiredCheckIds := by
  obtain ⟨hgate, b, hb, hmissing, hba⟩ := mem_retirement_assets.mp hretired
  have hab : b = a := Table.eq_of_key_eq hb.1 ha hba
  rw [hab] at hb hmissing
  exact mem_retirement_checks.mpr ⟨hgate, a, c, ⟨hb, hc, hid, hactive⟩, Or.inl hmissing, rfl⟩

theorem CurrentInv.compilePromoted (h : CurrentInv db) (hpromoted : Promoted cx db)
    (outcome : SwitchOutcome) :
    CurrentInv (AssetCompiler.compilePromoted cx outcome db).1 := by
  constructor
  · intro s hs hactive hpoor a' ha' hsystem
    rw [crawlSnapshots_compilePromoted] at hs
    obtain ⟨a, ha, rfl⟩ := (mem_pageAssets_compilePromoted outcome).mp ha'
    by_cases hretired : a.id ∈ (retirement cx db).retiredAssetIds
    · -- The gate was open, so the active snapshot of the system is good.
      rw [if_pos hretired] at hsystem
      obtain ⟨hgate, b, hb, -, hid⟩ := mem_retirement_assets.mp hretired
      obtain ⟨r, hr, hractive, hcore⟩ := hpromoted.active
      rw [Table.eq_of_key_eq hb.1 ha hid] at hb
      have hrs : r.systemId = s.systemId :=
        ((congrArg CrawlSnapshot.systemId hcore).trans hpromoted.systemId.symm).trans
          (hb.2.1.symm.trans hsystem)
      rw [← h.atMostOneActive r hr s hs hractive hactive hrs,
        isHighQualityFullSnapshot_core hcore, isHighQuality_of_gate hgate] at hpoor
      exact Bool.noConfusion hpoor
    · rw [if_neg hretired] at hsystem ⊢
      rw [← crawlSnapshots_compilePages cx] at hs
      exact h.compilePages.poor s hs hactive hpoor a ha hsystem
  · intro a ha b hb
    rw [crawlSnapshots_compilePromoted] at ha hb
    exact h.atMostOneActive a ha b hb

/-- **The retirement keeps the invariant.** -/
theorem LifecycleInv.compilePromoted (h : LifecycleInv db) (hpromoted : Promoted cx db)
    (outcome : SwitchOutcome) :
    LifecycleInv (AssetCompiler.compilePromoted cx outcome db).1 := by
  have hloop := h.compilePages hpromoted
  have hchecks := pageChecks_compilePromoted cx outcome db
  refine ⟨h.toCurrentInv.compilePromoted hpromoted outcome, ?_, ?_, ?_⟩
  · intro a' ha'
    obtain ⟨a, ha, rfl⟩ := (mem_pageAssets_compilePromoted outcome).mp ha'
    split
    · exact Lifecycle.wellFormed_retire _ _ _
    · exact hloop.assets a ha
  · intro c' hc'
    rcases hchecks.source c' hc' with ⟨c, hc, -, hsettled⟩ | ⟨-, hfalse⟩
    · rcases hsettled.lifecycle with ⟨-, heq⟩ | ⟨-, reason, heq⟩
      · rw [heq]
        exact hloop.checks c hc
      · rw [heq]
        exact Lifecycle.wellFormed_retire _ _ _
    · exact hfalse.elim
  · intro c' hc' hactive
    rcases hchecks.source c' hc' with ⟨c, hc, -, hsettled⟩ | ⟨-, hfalse⟩
    · have hstatus : c'.lifecycle.status = .active := hactive
      rcases hsettled.lifecycle with ⟨hnot, heq⟩ | ⟨-, reason, heq⟩
      · rw [heq] at hstatus
        obtain ⟨a, ha, hid, haactive⟩ := hloop.under c hc hstatus
        have hkept : a.id ∉ (retirement cx db).retiredAssetIds := fun hretired =>
          hnot (mem_retirement_checks_of_asset ha hc hid.symm hstatus hretired)
        refine ⟨a, (mem_pageAssets_compilePromoted outcome).mpr ⟨a, ha, (if_neg hkept).symm⟩, ?_,
          haactive⟩
        exact hid.trans hsettled.pageAssetId.symm
      · rw [heq] at hstatus
        exact AssetLifecycleStatus.noConfusion hstatus
    · exact hfalse.elim

/-- **Every page of the snapshot has an active asset.** -/
theorem exists_activeAsset (h : LifecycleInv db) (hpromoted : Promoted cx db)
    (outcome : SwitchOutcome) {page : Page} (hpage : page ∈ cx.pages) :
    ∃ a ∈ (AssetCompiler.compilePromoted cx outcome db).1.pageAssets,
      a.systemId = cx.system.id ∧ a.assetKey = assetKeyOf cx page ∧
        a.lifecycleStatus = .active := by
  obtain ⟨q, a, htouched, hindex, hfirst⟩ := exists_touchedAsset db hpage
  have ha := Table.mem_of_first? hfirst
  have hkey : assetKeyOf cx q = assetKeyOf cx page := congrArg Prod.snd hindex
  exact ⟨a, (mem_pageAssets_compilePromoted outcome).mpr ⟨a, ha,
    (if_neg (htouched.notMem_retirement hpromoted.pages ha)).symm⟩, htouched.systemId,
    htouched.assetKey.trans hkey, htouched.isActive h.toCurrentInv hpromoted ha⟩

end Compile

/-! ## The audit row -/

/-- An asset that is active in one database and retired in the next. -/
def AssetTurned (db db' : Db) (id : UUID) : Prop :=
  (∃ a ∈ db.pageAssets, a.id = id ∧ a.lifecycleStatus = .active) ∧
    ∃ a ∈ db'.pageAssets, a.id = id ∧ a.lifecycleStatus.retired = true

/-- A check that is active in one database and retired in the next. -/
def CheckTurned (db db' : Db) (id : UUID) : Prop :=
  (∃ c ∈ db.pageChecks, c.id = id ∧ c.lifecycleStatus = .active) ∧
    ∃ c ∈ db'.pageChecks, c.id = id ∧ c.lifecycleStatus.retired = true

/-- The audit row a compile writes. -/
structure AuditRow (cx : CompileContext) (db db' : Db) (row : AssetReconciliationAudit) : Prop where
  mem : row ∈ db'.audits
  fresh : ∀ other ∈ db.audits, other.id ≠ row.id
  only : ∀ other ∈ db'.audits, other ∈ db.audits ∨ other = row
  snapshotId : row.snapshotId = cx.snapshot.id
  nodup_assets : row.retiredAssetIds.Nodup
  nodup_checks : row.retiredCheckIds.Nodup
  /-- The assets are the ones that the compile found active and left retired. -/
  assets : ∀ id, id ∈ row.retiredAssetIds ↔ AssetTurned db db' id
  /-- The checks are the ones that were active when the loop over the pages was done, among them
  those that the loop created or brought back, and that the compile left retired. -/
  checks : ∀ id, id ∈ row.retiredCheckIds ↔ CheckTurned (compilePages cx db).db db' id
  /-- None of the checks that the compile found active and left retired is missing. -/
  checks_before : ∀ id, CheckTurned db db' id → id ∈ row.retiredCheckIds

section Audit

variable {cx : CompileContext} {db : Db} (outcome : SwitchOutcome)

theorem mem_retirement_assets_iff_turned (hpages : PagesIn cx db) (id : UUID) :
    id ∈ (retirement cx db).retiredAssetIds ↔
      AssetTurned db (compilePromoted cx outcome db).1 id := by
  constructor
  · intro hretired
    obtain ⟨-, a, ha, hmissing, rfl⟩ := mem_retirement_assets.mp hretired
    refine ⟨?_, retireAsset cx a, ?_, rfl, rfl⟩
    · rcases asset_cases ha.1 with hmem | ⟨page, htouched⟩
      · exact ⟨a, hmem, rfl, ha.2.2⟩
      · exact absurd hmissing (htouched.not_missing hpages.compilePages)
    · exact (mem_pageAssets_compilePromoted outcome).mpr ⟨a, ha.1, (if_pos hretired).symm⟩
  · rintro ⟨⟨a, ha, rfl, hactive⟩, b', hb', hid, hretired⟩
    obtain ⟨a', ha', hid', hactive'⟩ := exists_active_compilePages cx ha hactive
    obtain ⟨b, hb, rfl⟩ := (mem_pageAssets_compilePromoted outcome).mp hb'
    by_cases hmem : b.id ∈ (retirement cx db).retiredAssetIds
    · rw [if_pos hmem] at hid
      have hbid : b.id = a.id := hid
      rwa [← hbid]
    · rw [if_neg hmem] at hid hretired
      rw [Table.eq_of_key_eq hb ha' (hid.trans hid'.symm), hactive'] at hretired
      exact Bool.noConfusion hretired

theorem mem_retirement_checks_iff_turned (id : UUID) :
    id ∈ (retirement cx db).retiredCheckIds ↔
      CheckTurned (compilePages cx db).db (compilePromoted cx outcome db).1 id := by
  have hchecks := pageChecks_compilePromoted cx outcome db
  constructor
  · intro hretired
    obtain ⟨-, a, c, hac, -, rfl⟩ := mem_retirement_checks.mp hretired
    obtain ⟨c', hc', hid, hsettled⟩ := hchecks.kept c hac.2.1
    refine ⟨⟨c, hac.2.1, rfl, hac.2.2.2⟩, c', hc', hid, ?_⟩
    rcases hsettled.lifecycle with ⟨hnot, -⟩ | ⟨-, reason, heq⟩
    · exact absurd hretired hnot
    · have hstatus : c'.lifecycleStatus = .retiredMissing := congrArg Lifecycle.status heq
      rw [hstatus]
      rfl
  · rintro ⟨⟨c, hc, rfl, hactive⟩, c', hc', hid, hretired⟩
    have hsettled := Table.Evolves.of_mem hchecks hc hc' hid
    rcases hsettled.lifecycle with ⟨-, heq⟩ | ⟨hmem, -⟩
    · have hstatus : c'.lifecycleStatus = c.lifecycleStatus := congrArg Lifecycle.status heq
      rw [hstatus, hactive] at hretired
      exact Bool.noConfusion hretired
    · exact hmem

theorem CheckTurned.compilePages {db' : Db} {id : UUID} (h : CheckTurned db db' id) :
    CheckTurned (AssetCompiler.compilePages cx db).db db' id := by
  obtain ⟨⟨c, hc, hid, hactive⟩, hretired⟩ := h
  obtain ⟨H, -, hinv⟩ := compilePages_inv cx db
  obtain ⟨c', hc', hid', hkept⟩ := hinv.checks.evolves.kept c hc
  refine ⟨⟨c', hc', Eq.trans hid' hid, ?_⟩, hretired⟩
  have hlife := LifecycleKept.of_active cx hkept.lifecycle hactive
  exact (congrArg Lifecycle.status hlife).trans hactive

/-- **The audit row lists what the compile retired.** -/
theorem exists_auditRow (hpages : PagesIn cx db) :
    ∃ row, AuditRow cx db (compilePromoted cx outcome db).1 row := by
  have houtside : (retirement cx db).db.audits = db.audits := by
    have hretired := congrArg Db.audits (outsideRetirement_retirement cx db)
    have hloop := congrArg Db.audits (outsideLoop_compilePages cx db)
    exact Eq.trans hretired hloop
  have heq : ∀ row, row ∈ (compilePromoted cx outcome db).1.audits ↔
      row ∈ db.audits ∨ row = _ := fun row => by
    rw [← houtside]
    exact Table.mem_insert
  refine ⟨_, (heq _).mpr (Or.inr rfl), ?_, fun other => (heq other).mp, rfl, Dict.nodup_eraseDups _,
    Dict.nodup_eraseDups _, ?_, ?_, ?_⟩
  · intro other hother
    rw [← houtside] at hother
    exact Table.key_ne_nextKey _ cx.ids hother
  · intro id
    exact List.mem_eraseDups.trans (mem_retirement_assets_iff_turned outcome hpages id)
  · intro id
    exact List.mem_eraseDups.trans (mem_retirement_checks_iff_turned outcome id)
  · intro id hturned
    exact List.mem_eraseDups.mpr
      ((mem_retirement_checks_iff_turned outcome id).mpr hturned.compilePages)

end Audit

/-! ## Runs -/

/-- What a call leaves behind. -/
structure LifecycleGuarantee (db : Db) (call : CompileCall) : Prop where
  /-- No active check belongs to a retired asset. -/
  under : ∀ a ∈ (call.step db).pageAssets, a.lifecycleStatus.retired = true →
    ∀ c ∈ (call.step db).pageChecks, c.pageAssetId = a.id → c.lifecycleStatus ≠ .active
  assets : ∀ a ∈ (call.step db).pageAssets, a.lifecycle.WellFormed
  checks : ∀ c ∈ (call.step db).pageChecks, c.lifecycle.WellFormed
  /-- Before the compile, the switch changes snapshots and their archive only. -/
  switched : ∀ cx db', call.promotedContext db = some (cx, db') →
    CurrentStateSwitch.outsideSwitch db' = CurrentStateSwitch.outsideSwitch db
  /-- Every page of the compiled snapshot has an active asset under its key. -/
  pages : ∀ cx db', call.promotedContext db = some (cx, db') →
    ∀ page ∈ db.pages, page.snapshotId = some call.snapshotId →
      ∃ a ∈ (call.step db).pageAssets, a.systemId = cx.system.id ∧
        a.assetKey = assetKeyOf cx page ∧ a.lifecycleStatus = .active
  audit : ∀ cx db', call.promotedContext db = some (cx, db') →
    ∃ row, AuditRow cx db' (call.step db) row

theorem LifecycleInv.step {db : Db} (h : LifecycleInv db) (call : CompileCall) :
    LifecycleInv (call.step db) := by
  unfold CompileCall.step
  cases hcompile : compileSnapshot call.ids call.now call.snapshotId db with
  | error e => exact h
  | ok returned =>
    obtain ⟨draft, system, hget, hsystem, hcase⟩ := compileSnapshot_cases hcompile
    have hdraft := Table.mem_of_get? hget
    cases hcase with
    | skipped switched hswitch houtcome => exact h.switch hdraft hswitch
    | promoted switched hswitch houtcome =>
      exact (h.switch hdraft hswitch).compilePromoted
        (Promoted.of_switch hdraft hsystem hswitch houtcome) .promoted

theorem lifecycleGuarantee {db : Db} (h : LifecycleInv db) (call : CompileCall) :
    LifecycleGuarantee db call := by
  have hafter := h.step call
  refine ⟨fun a ha hretired c hc hid => hafter.under.not_active ha hretired hc hid, hafter.assets,
    hafter.checks, ?_, ?_, ?_⟩
  · intro cx db' hcontext
    obtain ⟨draft, system, switched, -, -, hswitch, -, -, rfl⟩ :=
      call.promotedContext_cases hcontext
    exact hswitch.outsideSwitch_eq hswitch.db_mem
  · intro cx db' hcontext page hpage hid
    rw [call.step_of_promotedContext hcontext]
    obtain ⟨draft, system, switched, hget, hsystem, hswitch, houtcome, rfl, rfl⟩ :=
      call.promotedContext_cases hcontext
    have hdraft := Table.mem_of_get? hget
    have houtside := congrArg Db.pages (hswitch.outsideSwitch_eq hswitch.db_mem)
    have hpages : switched.db.pages = db.pages := houtside
    have hdraftId : draft.id = call.snapshotId := Table.key_of_get? hget
    refine exists_activeAsset (h.switch hdraft hswitch)
      (Promoted.of_switch hdraft hsystem hswitch houtcome) _ ?_
    exact mem_snapshotPages.mpr ⟨hpages ▸ hpage, hdraftId ▸ hid⟩
  · intro cx db' hcontext
    rw [call.step_of_promotedContext hcontext]
    obtain ⟨draft, system, switched, hget, hsystem, hswitch, houtcome, rfl, rfl⟩ :=
      call.promotedContext_cases hcontext
    exact exists_auditRow _ (Promoted.of_switch (Table.mem_of_get? hget) hsystem hswitch
      houtcome).pages

/-- **The lifecycle invariant**, over every sequence of compiles out of an empty asset store. -/
theorem lifecycle_invariant {db : Db} (hassets : db.pageAssets = .empty)
    (hchecks : db.pageChecks = .empty) (hone : AtMostOneActive db) (calls : List CompileCall) :
    Run.Along CompileCall.step LifecycleGuarantee db calls :=
  Run.along_of_invariant (fun _ call h => h.step call) (fun _ call h => lifecycleGuarantee h call)
    calls (LifecycleInv.of_empty hassets hchecks hone)

/-! ## A page that vanishes and returns -/

namespace LifecycleSample

def snapshot (id : UUID) (state : SnapshotState) : CrawlSnapshot where
  id := id
  systemId := 1
  crawlType := "full"
  qualityScore := some 1
  state := state
  startedAt := 0

def page (id snapshotId : UUID) (routePath : String) : Page where
  id := id
  systemId := 1
  snapshotId := some snapshotId
  routePath := routePath

/-- A system whose second snapshot lacks one of four pages. -/
def db : Db :=
  { systems := .single { id := 1, code := "erp", name := "ERP", baseUrl := "/" }
    crawlSnapshots :=
      ⟨[snapshot 10 .active, snapshot 11 .draft, snapshot 12 .draft], by decide⟩
    pages := ⟨[page 20 10 "/a", page 21 10 "/b", page 22 10 "/c", page 23 10 "/d",
      page 24 11 "/a", page 25 11 "/b", page 26 11 "/c",
      page 27 12 "/a", page 28 12 "/b", page 29 12 "/c", page 30 12 "/d"], by decide⟩ }

def calls : List CompileCall :=
  [⟨.ascending, 1, 10⟩, ⟨.ascending, 2, 11⟩, ⟨.ascending, 3, 12⟩]

end LifecycleSample

theorem lifecycle_invariant_sample :
    AtMostOneActive LifecycleSample.db ∧
      Run.Along CompileCall.step LifecycleGuarantee LifecycleSample.db LifecycleSample.calls :=
  have hone : AtMostOneActive LifecycleSample.db := by decide
  ⟨hone, lifecycle_invariant rfl rfl hone _⟩

end AssetCompiler

end Runlet
