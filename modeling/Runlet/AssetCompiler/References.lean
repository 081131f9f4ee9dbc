import Runlet.AssetCompiler.CompileSpec

/-!
# The references between compiled rows

A check names its asset, and the plan that was built for it last.  The compiler never deletes an
asset or a plan, and it writes a check after the asset and the plan that the check names, so the
references hold after every compile (`ReferencesHold.compilePromoted`).
-/

namespace Runlet

open KeyedTable

namespace AssetCompiler

/-- A check names an asset that exists, and when it names a plan, one that exists. -/
structure ReferencesHold (db : Db) : Prop where
  assets : ∀ c ∈ db.pageChecks, ∃ a ∈ db.pageAssets, a.id = c.pageAssetId
  plans : ∀ c ∈ db.pageChecks, ∀ id, c.modulePlanId = some id → ∃ m ∈ db.modulePlans, m.id = id

/-- The references depend on three tables only. -/
theorem ReferencesHold.congr {db db' : Db} (h : ReferencesHold db)
    (hassets : db'.pageAssets = db.pageAssets) (hchecks : db'.pageChecks = db.pageChecks)
    (hplans : db'.modulePlans = db.modulePlans) : ReferencesHold db' := by
  constructor
  · rw [hassets, hchecks]
    exact h.assets
  · rw [hchecks, hplans]
    exact h.plans

section Loop

variable {cx : CompileContext} {page : Page}

/-- Writing an asset loses none. -/
theorem exists_compileAsset {db : Db} {a : PageAsset} (ha : a ∈ db.pageAssets) (page : Page) :
    ∃ b ∈ (compileAsset cx page db).1.pageAssets, b.id = a.id := by
  have hwrites := writes_compileAsset cx page db
  by_cases hk : key a = key (compileAsset cx page db).2.1
  · exact ⟨_, hwrites.self_mem, hk.symm⟩
  · exact ⟨a, (hwrites.mem a).mpr (Or.inr ⟨ha, hk⟩), rfl⟩

theorem ReferencesHold.compileAsset {db : Db} (h : ReferencesHold db) (page : Page) :
    ReferencesHold (AssetCompiler.compileAsset cx page db).1 where
  assets c hc := by
    obtain ⟨a, ha, hid⟩ := h.assets c hc
    obtain ⟨b, hb, hba⟩ := exists_compileAsset ha page
    exact ⟨b, hb, hba.trans hid⟩
  plans := h.plans

/-- The row of a check names the plan that was just inserted. -/
theorem modulePlanId_compiledCheck (asset : PageAsset) (st : CompileState)
    (definition : StandardCheckDefinition) :
    (compiledCheck cx page asset st definition).modulePlanId =
      some (st.db.modulePlans.nextKey cx.ids) := by
  have hrefresh : ∀ c : PageCheck,
      (refreshCheck cx page definition (st.db.modulePlans.nextKey cx.ids) c).modulePlanId =
        some (st.db.modulePlans.nextKey cx.ids) := by
    intro c
    unfold refreshCheck
    dsimp only
    split
    · rfl
    · rfl
  obtain ⟨b, hb⟩ : ∃ b, compiledCheck cx page asset st definition =
      refreshCheck cx page definition (st.db.modulePlans.nextKey cx.ids) b :=
    Table.exists_upsert_snd
  rw [hb, hrefresh]

theorem ReferencesHold.compileCheck {asset : PageAsset} {st : CompileState}
    (h : ReferencesHold st.db) (hasset : ∃ a ∈ st.db.pageAssets, a.id = asset.id)
    (definition : StandardCheckDefinition) :
    ReferencesHold (AssetCompiler.compileCheck cx page asset st definition).db := by
  have hwrites := writes_compileCheck cx page asset st definition
  constructor
  · intro c hc
    rcases (hwrites.mem c).mp hc with rfl | ⟨hmem, -⟩
    · rw [(checkRow_compileCheck cx page asset st definition).pageAssetId]
      exact hasset
    · exact h.assets c hmem
  · intro c hc id hid
    rcases (hwrites.mem c).mp hc with rfl | ⟨hmem, -⟩
    · rw [modulePlanId_compiledCheck, Option.some_inj] at hid
      exact ⟨_, Table.mem_insert_self, hid⟩
    · obtain ⟨m, hm, hmid⟩ := h.plans c hmem id hid
      exact ⟨m, Table.mem_insert_of_mem hm, hmid⟩

variable (cx page) in
theorem ReferencesHold.foldl_compileCheck {asset : PageAsset} (l : List StandardCheckDefinition)
    (st : CompileState) (h : ReferencesHold st.db)
    (hasset : ∃ a ∈ st.db.pageAssets, a.id = asset.id) :
    ReferencesHold (l.foldl (AssetCompiler.compileCheck cx page asset) st).db := by
  induction l generalizing st with
  | nil => exact h
  | cons d l ih => exact ih _ (h.compileCheck hasset d) hasset

theorem ReferencesHold.compilePage {st : CompileState} (h : ReferencesHold st.db) (page : Page) :
    ReferencesHold (AssetCompiler.compilePage cx st page).db := by
  have hasset : ∃ a ∈ (AssetCompiler.compileAsset cx page st.db).1.pageAssets,
      a.id = (AssetCompiler.compileAsset cx page st.db).2.1.id :=
    ⟨_, (writes_compileAsset cx page st.db).self_mem, rfl⟩
  have hchecks := ReferencesHold.foldl_compileCheck cx page (standardChecks cx page)
    { st with
      db := (AssetCompiler.compileAsset cx page st.db).1
      assetsUpdated :=
        if (st.db.pageAssets.first? (isAssetFor cx.system.id (assetKeyOf cx page))).isNone
        then st.assetsUpdated else st.assetsUpdated + 1
      driftStates := st.driftStates ++
        [(AssetCompiler.compileAsset cx page st.db).2.2.status] }
    (h.compileAsset page) hasset
  -- The navigation aliases, which the turn writes last, are named by no check.
  exact hchecks.congr rfl rfl rfl

variable (cx) in
theorem ReferencesHold.compilePages {db : Db} (h : ReferencesHold db) :
    ReferencesHold (AssetCompiler.compilePages cx db).db := by
  have hloop : ∀ (l : List Page) (st : CompileState), ReferencesHold st.db →
      ReferencesHold (l.foldl (AssetCompiler.compilePage cx) st).db := by
    intro l
    induction l with
    | nil => exact fun _ h => h
    | cons page l ih => exact fun st h => ih _ (h.compilePage page)
  exact hloop cx.pages { db := db } h

end Loop

/-! ## The retirement -/

section Retire

variable {cx : CompileContext} {db : Db}

/-- The retirement changes neither what a check is found by nor the plan that it names. -/
theorem exists_of_mem_retireMissing (gate : QualityGateDecision) {c : PageCheck}
    (hc : c ∈ (retireMissing cx gate db).db.pageChecks) :
    ∃ b ∈ db.pageChecks, b.id = c.id ∧ b.checkCode = c.checkCode ∧
      b.pageAssetId = c.pageAssetId ∧ b.modulePlanId = c.modulePlanId := by
  rcases (retireMissing_inv cx db gate).checks.source c hc with ⟨d, hd, -, hretired⟩ | ⟨-, hfalse⟩
  · have hrecorded : ∃ b ∈ db.pageChecks, b.id = d.id ∧ b.checkCode = d.checkCode ∧
        b.pageAssetId = d.pageAssetId ∧ b.modulePlanId = d.modulePlanId := by
      have hd' : d ∈ db.pageChecks.update _ _ (key_recordDerivedDependencies db) := hd
      obtain ⟨b, hb, rfl⟩ := Table.mem_update.mp hd'
      refine ⟨b, hb, ?_⟩
      unfold Table.rewrite
      split
      · exact ⟨rfl, rfl, rfl, rfl⟩
      · exact ⟨rfl, rfl, rfl, rfl⟩
    rcases hretired with ⟨-, rfl⟩ | ⟨-, reason, rfl⟩
    · exact hrecorded
    · exact hrecorded
  · exact hfalse.elim

theorem ReferencesHold.compilePromoted (h : ReferencesHold db) (outcome : SwitchOutcome) :
    ReferencesHold (AssetCompiler.compilePromoted cx outcome db).1 := by
  have hloop := h.compilePages cx
  have hplans := congrArg Db.modulePlans (outsideRetirement_retirement cx db)
  constructor
  · intro c hc
    obtain ⟨b, hb, -, -, hasset, -⟩ := exists_of_mem_retireMissing (qualityGate cx db) hc
    obtain ⟨a, ha, hid⟩ := hloop.assets b hb
    have hget := get?_pageAssets_compilePromoted cx outcome db a.id
    rw [show (AssetCompiler.compilePages cx db).db.pageAssets.get? a.id = some a from
      Table.get?_key ha, Option.map_some] at hget
    refine ⟨_, Table.mem_of_get? hget, (Table.key_of_get? hget).trans ?_⟩
    exact hid.trans hasset
  · intro c hc id hid
    obtain ⟨b, hb, -, -, -, hplan⟩ := exists_of_mem_retireMissing (qualityGate cx db) hc
    obtain ⟨m, hm, hmid⟩ := hloop.plans b hb id (hplan.trans hid)
    refine ⟨m, ?_, hmid⟩
    change m ∈ (retirement cx db).db.modulePlans
    rw [show (retirement cx db).db.modulePlans = (AssetCompiler.compilePages cx db).db.modulePlans
      from hplans]
    exact hm

end Retire

/-- The switch of a snapshot leaves the references. -/
theorem ReferencesHold.switch {ids : IdSource} {now : DateTime} {db : Db} {draft : CrawlSnapshot}
    {switched : Switched} (h : ReferencesHold db)
    (hswitch : CurrentStateSwitch.SwitchCase ids now db draft switched) :
    ReferencesHold switched.db := by
  have hassets := congrArg Db.pageAssets (hswitch.outsideSwitch_eq hswitch.db_mem)
  have hchecks := congrArg Db.pageChecks (hswitch.outsideSwitch_eq hswitch.db_mem)
  have hplans := congrArg Db.modulePlans (hswitch.outsideSwitch_eq hswitch.db_mem)
  exact h.congr hassets hchecks hplans

end AssetCompiler

end Runlet
