import Runlet.ControlPlane.Settled
import Runlet.AssetCompiler.Outcomes

/-!
# What a page takes down with it

A page that a good snapshot no longer shows takes its asset down, the checks of the asset, the
aliases under its key and the jobs of its checks.  When all of these were up before, all of them are
down after the compile and its cascades, with the marks by which the program finds them again
(`Withdrawn`, `withdrawn_reconciledDb`).  Nothing else comes under the asset meanwhile.
-/

namespace Runlet

open KeyedTable

namespace ControlPlane

open AssetCompiler

/-- The job is on a check of the asset. -/
def IsJobOf (db : Db) (pageAssetId : UUID) (job : PublishedJob) : Prop :=
  ∃ c ∈ db.pageChecks, c.id = job.pageCheckId ∧ c.pageAssetId = pageAssetId

/-- The asset, its checks, its aliases and the jobs of its checks are active. -/
structure IsUp (db : Db) (a : PageAsset) : Prop where
  mem : a ∈ db.pageAssets
  active : a.lifecycleStatus = .active
  checks : ∀ c ∈ db.pageChecks, c.pageAssetId = a.id → c.lifecycleStatus = .active
  aliases : ∀ row ∈ db.intentAliases, row.assetKey = a.assetKey → row.isActive = true
  jobs : ∀ job ∈ db.publishedJobs, IsJobOf db a.id job → job.state = .active

/-- No page of the snapshot is compiled onto the asset, and none shows the route of the asset. -/
structure IsWithout (cx : CompileContext) (db : Db) (a : PageAsset) : Prop where
  key : ∀ page ∈ cx.pages, assetKeyOf cx page ≠ a.assetKey
  route : AssetMissing cx db a

/-! ## Down -/

/-- A check afterwards, which is retired when it is one of the asset. -/
structure CheckDown (pageAssetId : UUID) (c c' : PageCheck) : Prop where
  pageAssetId_eq : c'.pageAssetId = c.pageAssetId
  checkCode : c'.checkCode = c.checkCode
  retired : c.pageAssetId = pageAssetId → c'.lifecycleStatus.retired = true

/-- The columns by which an alias is recognised are the same. -/
structure SameAlias (row row' : IntentAlias) : Prop where
  systemAlias : row'.systemAlias = row.systemAlias
  pageAlias : row'.pageAlias = row.pageAlias
  checkAlias : row'.checkAlias = row.checkAlias
  assetKey : row'.assetKey = row.assetKey

/-- An alias afterwards, which the program has disabled when it is under the key. -/
structure AliasDown (retiredKey : String) (row row' : IntentAlias) : Prop extends
    SameAlias row row' where
  inactive : row.assetKey = retiredKey → row'.isActive = false
  disabled : row.assetKey = retiredKey → isSystemDisabledAlias row' = true

/-- A job afterwards, which the program has paused when it is one of those. -/
structure JobDown (isOurs : PublishedJob → Prop) (job job' : PublishedJob) : Prop where
  pageCheckId : job'.pageCheckId = job.pageCheckId
  paused : isOurs job → job'.state = .paused
  marked : isOurs job → isSystemPausedJob job' = true

/-- Everything of the asset is down, and nothing has come under it. -/
structure Withdrawn (db : Db) (a : PageAsset) (db' : Db) : Prop where
  asset : ∃ a' ∈ db'.pageAssets, a'.id = a.id ∧ a'.systemId = a.systemId ∧
    a'.assetKey = a.assetKey ∧ a'.lifecycleStatus.retired = true
  keys : KeysSound a.systemId db'
  refs : ReferencesHold db'
  checks : Table.Evolves (CheckDown a.id) (fun c => c.pageAssetId ≠ a.id) db.pageChecks
    db'.pageChecks
  aliases : Table.Evolves (AliasDown a.assetKey) (fun row => row.assetKey ≠ a.assetKey)
    db.intentAliases db'.intentAliases
  jobs : Table.Evolves (JobDown (IsJobOf db a.id)) (fun _ => False) db.publishedJobs
    db'.publishedJobs

theorem SameAlias.refl (row : IntentAlias) : SameAlias row row := ⟨rfl, rfl, rfl, rfl⟩

theorem SameAlias.of_aliasCore {row row' : IntentAlias} (h : aliasCore row' = aliasCore row) :
    SameAlias row row' := by
  have hsystem := congrArg IntentAlias.systemAlias h
  have hpage := congrArg IntentAlias.pageAlias h
  have hcheck := congrArg IntentAlias.checkAlias h
  have hkey := congrArg IntentAlias.assetKey h
  exact ⟨hsystem, hpage, hcheck, hkey⟩

theorem SameAlias.trans {row row' row'' : IntentAlias} (h : SameAlias row row')
    (h' : SameAlias row' row'') : SameAlias row row'' :=
  ⟨h'.systemAlias.trans h.systemAlias, h'.pageAlias.trans h.pageAlias,
    h'.checkAlias.trans h.checkAlias, h'.assetKey.trans h.assetKey⟩

theorem SameAlias.isWantedAlias_iff {cx : CompileContext} {w : CheckWrite} {s : String}
    {row row' : IntentAlias} (h : SameAlias row row') :
    IsWantedAlias cx w s row' ↔ IsWantedAlias cx w s row := by
  unfold IsWantedAlias isAliasFor
  rw [h.systemAlias, h.pageAlias, h.checkAlias, h.assetKey]

/-- A wanted alias is under the key and the code of what is written. -/
theorem assetKey_of_isWantedAlias {cx : CompileContext} {w : CheckWrite} {s : String}
    {row : IntentAlias} (h : IsWantedAlias cx w s row) :
    row.assetKey = assetKeyOf cx w.1 ∧ row.checkAlias = w.2.checkCode := by
  unfold IsWantedAlias isAliasFor at h
  simp only [Bool.and_eq_true, decide_eq_true_eq] at h
  exact ⟨h.2, h.1.2⟩

/-- The program recognises the aliases that it has disabled. -/
theorem isSystemDisabledAlias_disableAlias (now : DateTime) (snapshotId : UUID)
    (row : IntentAlias) :
    isSystemDisabledAlias (disableAlias now snapshotId "retired_missing" row) = true := by
  have hreason : (Text.lower (Text.strip "retired_missing") ≠ "" ∧
      Text.startsWith "retired_" (Text.lower (Text.strip "retired_missing")) = true) := by
    decide +kernel
  unfold isSystemDisabledAlias disableAlias
  simp only [Option.getD_some, Option.isSome_some, hreason.2, Bool.true_and, Bool.true_or,
    Bool.and_true, decide_eq_true_eq]
  exact hreason.1

/-- The program recognises the jobs that it has paused. -/
theorem isSystemPausedJob_pauseJob (snapshotId : UUID) (job : PublishedJob) :
    isSystemPausedJob (PublishedJobs.pauseJob snapshotId "asset_retired_missing" job) = true := by
  have hreason : Text.containsText "retired"
      (Text.lower (Text.strip "asset_retired_missing")) = true := by
    decide +kernel
  unfold isSystemPausedJob PublishedJobs.pauseJob
  simp only [Option.getD_some, Option.isSome_some, hreason, Bool.true_or, Bool.and_true]

/-! ## A compile without the page -/

section Withdraw

variable {cx : CompileContext} {service : ControlPlaneService} {now : DateTime} {db : Db}
  {a : PageAsset}

theorem IsWithout.lastPage_eq_none (h : IsWithout cx db a) : lastPage cx a.assetKey = none := by
  cases hpage : lastPage cx a.assetKey with
  | none => rfl
  | some page =>
    obtain ⟨hmem, hindex⟩ := latest_assetHistory hpage
    exact absurd (congrArg Prod.snd hindex) (h.key page hmem)

theorem IsWithout.not_isSeen (h : IsWithout cx db a) : ¬ IsSeen cx db a := by
  rintro ⟨⟨page, hpage⟩, -⟩
  rw [h.lastPage_eq_none] at hpage
  exact Option.some_ne_none page hpage.symm

/-- What is written in the loop is written for another asset. -/
theorem IsWithout.ne_of_write (h : IsWithout cx db a) {w : CheckWrite}
    (hw : w ∈ checkWrites cx cx.pages) : assetKeyOf cx w.1 ≠ a.assetKey :=
  h.key w.1 (mem_checkWrites.mp hw).1

theorem losesAsset_of_isWithout (hup : IsUp db a) (hsystem : a.systemId = cx.system.id)
    (hwithout : IsWithout cx db a) : LosesAsset cx db a :=
  ⟨hup.mem, hsystem, hup.active, hwithout.route, hwithout.not_isSeen⟩

/-- The checks of the asset after the loop are those before it. -/
theorem checks_compilePages_of_isWithout (hwithout : IsWithout cx db a) (hup : IsUp db a) :
    Table.Evolves (fun c c' => c'.pageAssetId = c.pageAssetId ∧ c'.checkCode = c.checkCode ∧
        (c.pageAssetId = a.id → c'.lifecycleStatus = .active))
      (fun c => c.pageAssetId ≠ a.id) db.pageChecks (compilePages cx db).db.pageChecks := by
  obtain ⟨H, hH, hinv⟩ := compilePages_inv cx db
  have hkept := hinv.checks.evolves
  constructor
  · intro c hc
    obtain ⟨c', hc', hid, hsame⟩ := hkept.kept c hc
    refine ⟨c', hc', hid, hsame.pageAssetId, hsame.checkCode, fun hasset => ?_⟩
    have hlife := LifecycleKept.of_active cx hsame.lifecycle (hup.checks c hc hasset)
    exact (congrArg Lifecycle.status hlife).trans (hup.checks c hc hasset)
  · intro c' hc'
    rcases hkept.source c' hc' with ⟨c, hc, hid, hsame⟩ | ⟨hfresh, hnew⟩
    · refine Or.inl ⟨c, hc, hid, hsame.pageAssetId, hsame.checkCode, fun hasset => ?_⟩
      have hlife := LifecycleKept.of_active cx hsame.lifecycle (hup.checks c hc hasset)
      exact (congrArg Lifecycle.status hlife).trans (hup.checks c hc hasset)
    · refine Or.inr ⟨hfresh, fun hasset => ?_⟩
      -- A check that was created is on the asset of a page of the snapshot.
      obtain ⟨w, hw⟩ := hnew.index
      obtain ⟨-, b, hb, hbid⟩ := hinv.checks.named _ hw
      have hmem : w ∈ checkWrites cx cx.pages := by
        rw [← hH]
        exact List.mem_map_of_mem hw
      have hb' := hinv.assets.evolves.of_mem hup.mem (Table.mem_of_first? hb)
        (hbid.trans hasset)
      have hkey := (assetSel_iff.mp (Table.pred_of_first? hb)).2
      exact hwithout.ne_of_write hmem (hkey.symm.trans hb'.assetKey)

/-- **The checks go down.** -/
theorem checks_withdrawn (hup : IsUp db a) (hsystem : a.systemId = cx.system.id)
    (hwithout : IsWithout cx db a) (hpages : PagesIn cx db)
    (hgate : (qualityGate cx db).allowRetirement = true) :
    Table.Evolves (CheckDown a.id) (fun c => c.pageAssetId ≠ a.id) db.pageChecks
      (reconciledDb cx service now db).pageChecks := by
  have hlost := losesAsset_of_isWithout hup hsystem hwithout
  have hmem := mem_compilePages_of_unseen hup.mem hwithout.not_isSeen
  have hretired : a.id ∈ (retirement cx db).retiredAssetIds :=
    (mem_retiredAssetIds_iff hpages).mpr ⟨hgate, a, hlost, rfl⟩
  refine (checks_compilePages_of_isWithout hwithout hup).comp
    (pageChecks_compilePromoted cx .promoted db) ?_ ?_ fun _ => False.elim
  · rintro c hc c' hc' c'' ⟨hasset, hcode, hactive⟩ hsettled
    refine ⟨hsettled.pageAssetId.trans hasset, hsettled.checkCode.trans hcode, fun hc'a => ?_⟩
    have hid := mem_retirement_checks_of_asset hmem hc' (hasset.trans hc'a) (hactive hc'a) hretired
    rcases hsettled.lifecycle with ⟨hnot, -⟩ | ⟨-, reason, hlife⟩
    · exact absurd hid hnot
    · have hstatus : c''.lifecycleStatus = .retiredMissing := congrArg Lifecycle.status hlife
      rw [hstatus]
      rfl
  · intro c' hc' c'' hne hsettled
    rw [hsettled.pageAssetId]
    exact hne

/-- **The aliases go down.** -/
theorem aliases_withdrawn (hup : IsUp db a) (hsystem : a.systemId = cx.system.id)
    (hwithout : IsWithout cx db a) (hpages : PagesIn cx db) (hrefs : ReferencesHold db)
    (hgate : (qualityGate cx db).allowRetirement = true) (hkey : a.assetKey ≠ "") :
    Table.Evolves (AliasDown a.assetKey) (fun row => row.assetKey ≠ a.assetKey) db.intentAliases
      (reconciledDb cx service now db).intentAliases := by
  obtain ⟨H, hH, hinv⟩ := compilePages_inv cx db
  have hlost := losesAsset_of_isWithout hup hsystem hwithout
  have hcascade : Table.Evolves (fun row row' => row' = (aliasSwitch now cx.snapshot.id).row
        (compileDecisions cx db).aliasIdsToDisable (compileDecisions cx db).aliasIdsToEnable row)
      (fun _ => False) (compilePages cx db).db.intentAliases
      (reconciledDb cx service now db).intentAliases :=
    Table.Evolves.of_map Switch.key_row (fun _ => mem_aliases_reconciledDb) fun _ _ => rfl
  have hrow : ∀ row : IntentAlias, SameAlias row ((aliasSwitch now cx.snapshot.id).row
      (compileDecisions cx db).aliasIdsToDisable (compileDecisions cx db).aliasIdsToEnable row) := by
    intro row
    unfold Switch.row
    split
    · exact ⟨rfl, rfl, rfl, rfl⟩
    · split
      · exact ⟨rfl, rfl, rfl, rfl⟩
      · exact SameAlias.refl row
  refine hinv.aliases.evolves.comp hcascade ?_ ?_ fun _ => False.elim
  · rintro row hmem row' hmem' _ hcore rfl
    have hsame := SameAlias.of_aliasCore hcore
    -- An alias under the key is active, so it is among those that are disabled.
    have hoff : row.assetKey = a.assetKey →
        key row' ∈ (compileDecisions cx db).aliasIdsToDisable := by
      intro hrowkey
      refine (mem_aliasIdsToDisable_iff hpages hrefs hmem').mpr ⟨?_, hgate, ?_, Or.inl ⟨a, hlost, ?_⟩⟩
      · exact (isActive_of_aliasCore hcore).trans (hup.aliases row hmem hrowkey)
      · rw [hsame.assetKey, hrowkey]
        exact hkey
      · exact (hsame.assetKey.trans hrowkey).symm
    refine ⟨hsame.trans (hrow row'), fun hrowkey => ?_, fun hrowkey => ?_⟩
    · rw [Switch.row_of_off (hoff hrowkey)]
      rfl
    · rw [Switch.row_of_off (hoff hrowkey)]
      exact isSystemDisabledAlias_disableAlias now cx.snapshot.id row'
  · rintro row hmem _ hnew rfl
    obtain ⟨w, hw, s, -, hwanted, -⟩ := hnew.wanted
    rw [hH] at hw
    rw [(hrow row).assetKey, (assetKey_of_isWantedAlias hwanted).1]
    exact hwithout.ne_of_write hw

/-- **The jobs go down.** -/
theorem jobs_withdrawn (hup : IsUp db a) (hsystem : a.systemId = cx.system.id)
    (hwithout : IsWithout cx db a) (hpages : PagesIn cx db)
    (hgate : (qualityGate cx db).allowRetirement = true) {jobs : PublishedJobService}
    (hservice : service.publishedJobService = some jobs) :
    Table.Evolves (JobDown (IsJobOf db a.id)) (fun _ => False) db.publishedJobs
      (reconciledDb cx service now db).publishedJobs := by
  have hlost := losesAsset_of_isWithout hup hsystem hwithout
  have hmem := mem_compilePages_of_unseen hup.mem hwithout.not_isSeen
  have hretired : a.id ∈ (retirement cx db).retiredAssetIds :=
    (mem_retiredAssetIds_iff hpages).mpr ⟨hgate, a, hlost, rfl⟩
  refine Table.Evolves.of_map Switch.key_row (fun _ => mem_jobs_reconciledDb hservice)
    fun job hjob => ?_
  have hoff : IsJobOf db a.id job →
      key job ∈ (compileDecisions cx db).publishedJobIdsToPause := by
    rintro ⟨c, hc, hid, hasset⟩
    obtain ⟨c', hc', hid', hsame, -, hactive⟩ :=
      (checks_compilePages_of_isWithout hwithout hup).kept c hc
    have hcheck := mem_retirement_checks_of_asset hmem hc' (hsame.trans hasset) (hactive hasset)
      hretired
    refine mem_publishedJobIdsToPause.mpr ⟨job, ?_, ?_, hup.jobs job hjob ⟨c, hc, hid, hasset⟩, rfl⟩
    · rw [publishedJobs_retirement]
      exact hjob
    · rw [← hid, ← show c'.id = c.id from hid']
      exact hcheck
  refine ⟨?_, fun hours => ?_, fun hours => ?_⟩
  · unfold Switch.row
    split
    · rfl
    · split
      · rfl
      · rfl
  · rw [Switch.row_of_off (hoff hours)]
    rfl
  · rw [Switch.row_of_off (hoff hours)]
    exact isSystemPausedJob_pauseJob cx.snapshot.id job

variable (service now) in
/-- **Everything of the asset goes down**, and the invariants stay. -/
theorem withdrawn_reconciledDb (hup : IsUp db a) (hsystem : a.systemId = cx.system.id)
    (hkeys : KeysSound a.systemId db) (hrefs : ReferencesHold db) (hwithout : IsWithout cx db a)
    (hpages : PagesIn cx db) (hgate : (qualityGate cx db).allowRetirement = true)
    {jobs : PublishedJobService} (hservice : service.publishedJobService = some jobs) :
    Withdrawn db a (reconciledDb cx service now db) where
  asset := by
    have hlost := losesAsset_of_isWithout hup hsystem hwithout
    have hmem := mem_compilePages_of_unseen hup.mem hwithout.not_isSeen
    have hretired : a.id ∈ (retirement cx db).retiredAssetIds :=
      (mem_retiredAssetIds_iff hpages).mpr ⟨hgate, a, hlost, rfl⟩
    exact ⟨retireAsset cx a, (mem_pageAssets_compilePromoted .promoted).mpr
      ⟨a, hmem, (if_pos hretired).symm⟩, rfl, rfl, rfl, rfl⟩
  keys := by
    rw [hsystem] at hkeys ⊢
    have hcompiled := hkeys.compilePromoted .promoted
    exact ⟨hcompiled.ne_empty, hcompiled.unique⟩
  refs := (hrefs.compilePromoted .promoted).congr rfl rfl rfl
  checks := checks_withdrawn hup hsystem hwithout hpages hgate
  aliases := aliases_withdrawn hup hsystem hwithout hpages hrefs hgate
    (hkeys.ne_empty a hup.mem rfl)
  jobs := jobs_withdrawn hup hsystem hwithout hpages hgate hservice

end Withdraw

end ControlPlane

end Runlet
