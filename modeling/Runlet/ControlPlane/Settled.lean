import Runlet.ControlPlane.Cascades
import Runlet.AssetCompiler.AssetKeys
import Runlet.AssetCompiler.LifecycleInvariant

/-!
# When the cascades of a snapshot are settled

A compile retires assets and checks, and names the aliases and the jobs that have to follow.  The
names are worked out from the rows that are active when the compile starts, so what one compile
names and does not switch off is never named again.

`JobsSettled` and `AliasesSettled` say that nothing is left over for a snapshot: no active job is on
a check that the snapshot retired, and no active alias names an asset that it retired.  A compile
with its cascades keeps both (`JobsSettled.cascaded`, `AliasesSettled.cascaded`); a compile without
them keeps both for every snapshot but its own (`JobsSettled.compiled`, `AliasesSettled.compiled`).
-/

namespace Runlet

open KeyedTable

namespace ControlPlane

open AssetCompiler

/-! ## Settled databases -/

/-- The row is retired, and it was this snapshot that retired it. -/
def RetiredBy (snapshotId : UUID) (l : Lifecycle) : Prop :=
  l.status.retired = true ∧ l.retiredBySnapshotId = some snapshotId

/-- No active job is on a check that the snapshot retired. -/
def JobsSettled (snapshotId : UUID) (db : Db) : Prop :=
  ∀ job ∈ db.publishedJobs, job.state = .active → ∀ c ∈ db.pageChecks, c.id = job.pageCheckId →
    ¬ RetiredBy snapshotId c.lifecycle

/-- No active alias names an asset of the system that the snapshot retired. -/
def AliasesSettled (systemId snapshotId : UUID) (db : Db) : Prop :=
  ∀ row ∈ db.intentAliases, row.isActive = true → ∀ a ∈ db.pageAssets, a.systemId = systemId →
    a.assetKey = row.assetKey → ¬ RetiredBy snapshotId a.lifecycle

/-- The assets of a system are told apart by their keys, and each has one. -/
structure KeysSound (systemId : UUID) (db : Db) : Prop where
  ne_empty : ∀ a ∈ db.pageAssets, a.systemId = systemId → a.assetKey ≠ ""
  unique : ∀ a ∈ db.pageAssets, ∀ b ∈ db.pageAssets, a.systemId = systemId →
    b.systemId = systemId → a.assetKey = b.assetKey → a = b

instance (snapshotId : UUID) (l : Lifecycle) : Decidable (RetiredBy snapshotId l) := by
  unfold RetiredBy
  infer_instance

instance (snapshotId : UUID) (db : Db) : Decidable (JobsSettled snapshotId db) := by
  unfold JobsSettled
  infer_instance

instance (systemId snapshotId : UUID) (db : Db) :
    Decidable (AliasesSettled systemId snapshotId db) := by
  unfold AliasesSettled
  infer_instance

theorem RetiredBy.retired {snapshotId : UUID} {l : Lifecycle} (h : RetiredBy snapshotId l) :
    l.status ≠ .active :=
  (AssetLifecycleStatus.retired_eq_true_iff _).mp h.1

section Compile

variable {cx : CompileContext} {db : Db} {snapshotId : UUID}

/-! ## The rows that a snapshot has retired -/

/-- A check that another snapshot has retired is retired after the loop only if it was before. -/
theorem exists_check_before {c : PageCheck} (hc : c ∈ (compilePages cx db).db.pageChecks)
    (hretired : RetiredBy snapshotId c.lifecycle) :
    ∃ c₀ ∈ db.pageChecks, c₀.id = c.id ∧ RetiredBy snapshotId c₀.lifecycle := by
  obtain ⟨H, -, hinv⟩ := compilePages_inv cx db
  rcases hinv.checks.evolves.source c hc with ⟨c₀, hc₀, hid, hkept⟩ | ⟨-, hnew⟩
  · have hlife := LifecycleKept.of_retired cx hkept.lifecycle hretired.retired
    exact ⟨c₀, hc₀, hid, hlife ▸ hretired⟩
  · exact absurd (congrArg Lifecycle.status hnew.lifecycle) hretired.retired

/-- An asset that is retired after the loop was so before it. -/
theorem exists_asset_before {a : PageAsset} (ha : a ∈ (compilePages cx db).db.pageAssets)
    (hretired : RetiredBy snapshotId a.lifecycle) :
    ∃ a₀ ∈ db.pageAssets, a₀.systemId = a.systemId ∧ a₀.assetKey = a.assetKey ∧
      RetiredBy snapshotId a₀.lifecycle := by
  obtain ⟨H, -, hinv⟩ := compilePages_inv cx db
  rcases hinv.assets.evolves.source a ha with ⟨a₀, ha₀, -, hkept⟩ | ⟨-, hnew⟩
  · have hlife := LifecycleKept.of_retired cx hkept.lifecycle hretired.retired
    exact ⟨a₀, ha₀, hkept.systemId.symm, hkept.assetKey.symm, hlife ▸ hretired⟩
  · exact absurd (congrArg Lifecycle.status hnew.lifecycle) hretired.retired

/-- A check that is retired by a snapshot after a compile was so before it, or the compile retired
it. -/
theorem check_retiredBy_cases {outcome : SwitchOutcome} {c' : PageCheck}
    (hc' : c' ∈ (compilePromoted cx outcome db).1.pageChecks)
    (hretired : RetiredBy snapshotId c'.lifecycle) :
    (∃ c₀ ∈ db.pageChecks, c₀.id = c'.id ∧ RetiredBy snapshotId c₀.lifecycle) ∨
      (cx.snapshot.id = snapshotId ∧ c'.id ∈ (retirement cx db).retiredCheckIds) := by
  rcases (pageChecks_compilePromoted cx outcome db).source c' hc' with
    ⟨c, hc, hid, hsettled⟩ | ⟨-, hfalse⟩
  · have hcid : c.id = c'.id := hid
    rcases hsettled.lifecycle with ⟨-, hlife⟩ | ⟨hmem, reason, hlife⟩
    · obtain ⟨c₀, hc₀, hid₀, hret₀⟩ := exists_check_before hc (hlife ▸ hretired)
      exact Or.inl ⟨c₀, hc₀, hid₀.trans hcid, hret₀⟩
    · refine Or.inr ⟨?_, hcid ▸ hmem⟩
      rw [hlife] at hretired
      exact Option.some.inj hretired.2
  · exact hfalse.elim

/-! ## Jobs -/

/-- The jobs stay: nothing is left over for another snapshot than the one compiled. -/
theorem JobsSettled.compiled (h : JobsSettled snapshotId db) (outcome : SwitchOutcome)
    (hne : cx.snapshot.id ≠ snapshotId) :
    JobsSettled snapshotId (compilePromoted cx outcome db).1 := by
  intro job hjob hactive c' hc' hid hretired
  rw [publishedJobs_compilePromoted] at hjob
  rcases check_retiredBy_cases hc' hretired with ⟨c₀, hc₀, hid₀, hret₀⟩ | ⟨heq, -⟩
  · exact h job hjob hactive c₀ hc₀ (hid₀.trans hid) hret₀
  · exact hne heq

/-- **The cascades leave no job behind**, whatever snapshot is compiled. -/
theorem JobsSettled.cascaded {service : ControlPlaneService} {now : DateTime}
    (h : JobsSettled snapshotId db) (hservice : service.publishedJobService.isSome) :
    JobsSettled snapshotId (reconciledDb cx service now db) := by
  obtain ⟨publishedJobService, hsome⟩ := Option.isSome_iff_exists.mp hservice
  intro job hjob hactive c' hc' hid hretired
  obtain ⟨job₀, hjob₀, rfl⟩ := (mem_jobs_reconciledDb hsome).mp hjob
  have hchecks : c' ∈ (compilePromoted cx .promoted db).1.pageChecks := hc'
  by_cases hpause : job₀.id ∈ (compileDecisions cx db).publishedJobIdsToPause
  · -- A job that is paused is not active.
    rw [Switch.row_of_off (a := job₀) hpause] at hactive
    exact PublishedJobState.noConfusion hactive
  · have hretiredIds : job₀.state = .active →
        job₀.pageCheckId ∉ (retirement cx db).retiredCheckIds := by
      intro hstate hmem
      refine hpause (mem_publishedJobIdsToPause.mpr ⟨job₀, ?_, hmem, hstate, rfl⟩)
      rw [publishedJobs_retirement]
      exact hjob₀
    by_cases hresume : job₀.id ∈ (compileDecisions cx db).publishedJobIdsToResume
    · -- The check of a job that is resumed was brought back by the loop and was not retired.
      obtain ⟨job₁, hjob₁, ⟨hreactivated, hnot⟩, -, -, hid₁⟩ :=
        mem_publishedJobIdsToResume.mp hresume
      rw [publishedJobs_retirement] at hjob₁
      have hsame : job₁ = job₀ := Table.eq_of_key_eq hjob₁ hjob₀ hid₁
      rw [hsame] at hreactivated hnot
      rw [Switch.row_of_on (a := job₀) hpause hresume] at hid
      have hcid : c'.id = job₀.pageCheckId := hid
      rcases (pageChecks_compilePromoted cx .promoted db).source c' hchecks with
        ⟨c, hc, hkey, hsettled⟩ | ⟨-, hfalse⟩
      · have hcid' : c.id = job₀.pageCheckId := Eq.trans hkey hcid
        have hcactive := active_of_reactivated hreactivated hc hcid'
        rcases hsettled.lifecycle with ⟨-, hlife⟩ | ⟨hmem, -⟩
        · rw [hlife] at hretired
          exact hretired.retired hcactive
        · rw [hcid'] at hmem
          exact hnot hmem
      · exact hfalse.elim
    · -- The job was active before.
      rw [Switch.row_of_notMem (a := job₀) hpause hresume] at hactive hid
      rcases check_retiredBy_cases hchecks hretired with ⟨c₀, hc₀, hid₀, hret₀⟩ | ⟨-, hmem⟩
      · exact h job₀ hjob₀ hactive c₀ hc₀ (hid₀.trans hid) hret₀
      · rw [hid] at hmem
        exact hretiredIds hactive hmem

/-! ## Assets and their keys -/

theorem KeysSound.compilePages (h : KeysSound cx.system.id db) :
    KeysSound cx.system.id (AssetCompiler.compilePages cx db).db := by
  obtain ⟨H, -, hinv⟩ := compilePages_inv cx db
  constructor
  · intro a ha hsystem
    rcases hinv.assets.evolves.source a ha with ⟨a₀, ha₀, -, hkept⟩ | ⟨-, hnew⟩
    · rw [hkept.assetKey]
      exact h.ne_empty a₀ ha₀ (hkept.systemId.symm.trans hsystem)
    · obtain ⟨page, -, hkey⟩ := hnew.assetKey
      rw [hkey]
      exact assetKeyOf_ne_empty cx page
  · intro a ha b hb hasystem hbsystem hkey
    have hbefore : ∀ x ∈ db.pageAssets, ∀ y ∈ db.pageAssets,
        assetSel (cx.system.id, a.assetKey) x = true →
          assetSel (cx.system.id, a.assetKey) y = true → x = y := by
      intro x hx y hy hxsel hysel
      rw [assetSel_iff] at hxsel hysel
      exact h.unique x hx y hy hxsel.1 hysel.1 (hxsel.2.trans hysel.2.symm)
    exact hinv.assets.written.unique disjoint_assetSel hbefore ha hb
      (assetSel_iff.mpr ⟨hasystem, rfl⟩) (assetSel_iff.mpr ⟨hbsystem, hkey.symm⟩)

theorem KeysSound.compilePromoted (h : KeysSound cx.system.id db) (outcome : SwitchOutcome) :
    KeysSound cx.system.id (AssetCompiler.compilePromoted cx outcome db).1 := by
  have hloop := h.compilePages
  have hsame : ∀ (p : Prop) [Decidable p] (a : PageAsset),
      (if p then retireAsset cx a else a).systemId = a.systemId ∧
        (if p then retireAsset cx a else a).assetKey = a.assetKey := by
    intro p _ a
    split <;> exact ⟨rfl, rfl⟩
  constructor
  · intro a' ha' hsystem
    obtain ⟨a, ha, rfl⟩ := (mem_pageAssets_compilePromoted outcome).mp ha'
    rw [(hsame _ a).1] at hsystem
    rw [(hsame _ a).2]
    exact hloop.ne_empty a ha hsystem
  · intro a' ha' b' hb' hasystem hbsystem hkey
    obtain ⟨a, ha, rfl⟩ := (mem_pageAssets_compilePromoted outcome).mp ha'
    obtain ⟨b, hb, rfl⟩ := (mem_pageAssets_compilePromoted outcome).mp hb'
    rw [(hsame _ a).1] at hasystem
    rw [(hsame _ b).1] at hbsystem
    rw [(hsame _ a).2, (hsame _ b).2] at hkey
    rw [hloop.unique a ha b hb hasystem hbsystem hkey]

/-- An asset that is retired by a snapshot after a compile was so when the loop was done, or the
compile retired it. -/
theorem asset_retiredBy_cases {outcome : SwitchOutcome} {a' : PageAsset}
    (ha' : a' ∈ (AssetCompiler.compilePromoted cx outcome db).1.pageAssets)
    (hretired : RetiredBy snapshotId a'.lifecycle) :
    ∃ a ∈ (AssetCompiler.compilePages cx db).db.pageAssets, a.systemId = a'.systemId ∧
      a.assetKey = a'.assetKey ∧
        (RetiredBy snapshotId a.lifecycle ∨
          (cx.snapshot.id = snapshotId ∧ a.id ∈ (retirement cx db).retiredAssetIds)) := by
  obtain ⟨a, ha, rfl⟩ := (mem_pageAssets_compilePromoted outcome).mp ha'
  by_cases hmem : a.id ∈ (retirement cx db).retiredAssetIds
  · rw [if_pos hmem] at hretired ⊢
    exact ⟨a, ha, rfl, rfl, Or.inr ⟨Option.some.inj hretired.2, hmem⟩⟩
  · rw [if_neg hmem] at hretired ⊢
    exact ⟨a, ha, rfl, rfl, Or.inl hretired⟩

/-! ## Aliases -/

/-- An alias that is active after the loop names no asset that a snapshot has retired: it named none
before, or the loop created it for a page whose asset is active. -/
theorem AliasesSettled.compilePages (h : AliasesSettled cx.system.id snapshotId db)
    (hkeys : KeysSound cx.system.id db) (hcurrent : CurrentInv db) (hpromoted : Promoted cx db) :
    AliasesSettled cx.system.id snapshotId (AssetCompiler.compilePages cx db).db := by
  obtain ⟨H, hH, hinv⟩ := compilePages_inv cx db
  intro row hrow hactive a ha hsystem hkey hretired
  rcases hinv.aliases.evolves.source row hrow with ⟨row₀, hrow₀, -, hcore⟩ | ⟨-, hnew⟩
  · have hactive₀ := isActive_of_aliasCore hcore
    have hkey₀ := congrArg IntentAlias.assetKey hcore
    obtain ⟨a₀, ha₀, hsystem₀, hakey₀, hret₀⟩ := exists_asset_before ha hretired
    exact h row₀ hrow₀ (hactive₀.symm.trans hactive) a₀ ha₀ (hsystem₀.trans hsystem)
      (hakey₀.trans (hkey.trans hkey₀)) hret₀
  · obtain ⟨w, hw, s, -, hwant, -⟩ := hnew.wanted
    rw [hH] at hw
    obtain ⟨q, b, htouched, hindex, hfirst⟩ := exists_touchedAsset db (mem_checkWrites.mp hw).1
    have hb := Table.mem_of_first? hfirst
    have hbactive := htouched.isActive hcurrent hpromoted hb
    have hrowkey : row.assetKey = assetKeyOf cx w.1 := by
      unfold IsWantedAlias isAliasFor at hwant
      simp only [Bool.and_eq_true, decide_eq_true_eq] at hwant
      exact hwant.2
    have hbkey : b.assetKey = a.assetKey :=
      htouched.assetKey.trans ((congrArg Prod.snd hindex).trans (hrowkey.symm.trans hkey.symm))
    have hab := hkeys.compilePages.unique b hb a ha htouched.systemId hsystem hbkey
    rw [← hab] at hretired
    exact hretired.retired hbactive

/-- The aliases stay: nothing is left over for another snapshot than the one compiled. -/
theorem AliasesSettled.compiled (h : AliasesSettled cx.system.id snapshotId db)
    (hkeys : KeysSound cx.system.id db) (hcurrent : CurrentInv db) (hpromoted : Promoted cx db)
    (outcome : SwitchOutcome) (hne : cx.snapshot.id ≠ snapshotId) :
    AliasesSettled cx.system.id snapshotId (compilePromoted cx outcome db).1 := by
  intro row hrow hactive a' ha' hsystem hkey hretired
  rw [intentAliases_compilePromoted] at hrow
  obtain ⟨a, ha, hasystem, hakey, hcase | ⟨heq, -⟩⟩ := asset_retiredBy_cases ha' hretired
  · exact h.compilePages hkeys hcurrent hpromoted row hrow hactive a ha (hasystem.trans hsystem)
      (hakey.trans hkey) hcase
  · exact hne heq

/-- **The cascades leave no alias behind**, whatever snapshot is compiled. -/
theorem AliasesSettled.cascaded {service : ControlPlaneService} {now : DateTime}
    (h : AliasesSettled cx.system.id snapshotId db) (hkeys : KeysSound cx.system.id db)
    (hcurrent : CurrentInv db) (hpromoted : Promoted cx db) :
    AliasesSettled cx.system.id snapshotId (reconciledDb cx service now db) := by
  intro row hrow hactive a' ha' hsystem hkey hretired
  obtain ⟨row₁, hrow₁, rfl⟩ := mem_aliases_reconciledDb.mp hrow
  have hassets : a' ∈ (compilePromoted cx .promoted db).1.pageAssets := ha'
  obtain ⟨a, ha, hasystem, hakey, hcase⟩ := asset_retiredBy_cases hassets hretired
  have hmine : a.systemId = cx.system.id := hasystem.trans hsystem
  by_cases hdisable : row₁.id ∈ (compileDecisions cx db).aliasIdsToDisable
  · -- An alias that is disabled is not active.
    rw [Switch.row_of_off (a := row₁) hdisable] at hactive
    exact Bool.noConfusion hactive
  · by_cases henable : row₁.id ∈ (compileDecisions cx db).aliasIdsToEnable
    · -- An alias that is enabled names the asset of a check that was brought back and was kept.
      rw [Switch.row_of_on (a := row₁) hdisable henable] at hkey
      have hkey₁ : a.assetKey = row₁.assetKey := hakey.trans hkey
      obtain ⟨row₂, hrow₂, -, -, ⟨-, -, b, c, hbc, ⟨-, hnot⟩, hbkey, -⟩, hid⟩ :=
        mem_aliasIdsToEnable.mp henable
      rw [intentAliases_retirement] at hrow₂
      rw [Table.eq_of_key_eq hrow₂ hrow₁ hid] at hbkey
      have hab := hkeys.compilePages.unique b hbc.1.1 a ha hbc.1.2.1 hmine
        (hbkey.trans hkey₁.symm)
      rw [← hab] at hcase
      rcases hcase with hbefore | ⟨-, hmem⟩
      · exact hbefore.retired hbc.1.2.2
      · exact hnot (mem_retirement_checks_of_asset hbc.1.1 hbc.2.1 hbc.2.2.1 hbc.2.2.2 hmem)
    · -- An alias that was active after the loop.
      rw [Switch.row_of_notMem (a := row₁) hdisable henable] at hactive hkey
      have hkey₁ : a.assetKey = row₁.assetKey := hakey.trans hkey
      rcases hcase with hbefore | ⟨-, hmem⟩
      · exact h.compilePages hkeys hcurrent hpromoted row₁ hrow₁ hactive a ha hmine hkey₁ hbefore
      · refine hdisable (mem_aliasIdsToDisable.mpr ⟨row₁, ?_, hactive, Or.inl ⟨?_, ?_⟩, rfl⟩)
        · rw [intentAliases_retirement]
          exact hrow₁
        · rw [← hkey₁]
          exact hkeys.compilePages.ne_empty a ha hmine
        · obtain ⟨-, b, hb, -, hid⟩ := mem_retirement_assets.mp hmem
          rw [Table.eq_of_key_eq hb.1 ha hid] at hb
          exact ⟨a, hb, hmem, hkey₁⟩

end Compile

end ControlPlane

end Runlet
