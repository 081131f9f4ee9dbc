import Runlet.AssetCompiler.Outcomes
import Runlet.ControlPlane.Cascades

/-!
# One system at a time

A compile reads and writes the rows of one system: assets are found by the identifier of the
system, checks by their asset, plans and navigation aliases carry the identifier of their asset, and
published jobs follow checks.  None of these rows of another system is changed
(`leavesPage_compilePromoted`, `mem_jobs_reconciledDb_iff`).

Intent aliases carry no identifier of a system.  They are found by the texts in their columns, among
them the key of the asset, and two systems may have one key: the codes `ERP` and `erp` make the same
key for a route.  So a compile and its cascades leave the aliases of other systems alone exactly
when none of these is refreshed, disabled or enabled in place of one of its own (`TouchesAlias`).
-/

namespace Runlet

open KeyedTable

namespace AssetCompiler

/-! ## What belongs to an asset of another system -/

/-- The identifier is one of an asset of another system. -/
def IsOther (systemId : UUID) (db : Db) (id : UUID) : Prop :=
  ∃ a ∈ db.pageAssets, a.id = id ∧ a.systemId ≠ systemId

/-- Nothing that belongs to an asset is changed, its navigation aliases included. -/
structure LeavesPage (id : UUID) (db db' : Db) : Prop extends LeavesAsset id db db' where
  navigation : ∀ n : PageNavigationAlias, n.pageAssetId = id →
    (n ∈ db'.pageNavigationAliases ↔ n ∈ db.pageNavigationAliases)

theorem LeavesPage.refl (id : UUID) (db : Db) : LeavesPage id db db :=
  ⟨LeavesAsset.refl id db, fun _ _ => Iff.rfl⟩

theorem LeavesPage.trans {id : UUID} {db db' db'' : Db} (h : LeavesPage id db db')
    (h' : LeavesPage id db' db'') : LeavesPage id db db'' :=
  ⟨h.toLeavesAsset.trans h'.toLeavesAsset,
    fun n hn => (h'.navigation n hn).trans (h.navigation n hn)⟩

/-- An asset that is left alone is still one of another system. -/
theorem IsOther.of_leaves {systemId id : UUID} {db db' : Db} (h : IsOther systemId db id)
    (hleaves : LeavesAsset id db db') : IsOther systemId db' id := by
  obtain ⟨a, ha, hid, hsystem⟩ := h
  exact ⟨a, (hleaves.asset a hid).mpr ha, hid, hsystem⟩

section Loop

variable {cx : CompileContext} {db : Db} {id : UUID}

/-- The asset of a page is not an asset of another system. -/
theorem IsOther.ne_compileAsset (h : IsOther cx.system.id db id) (page : Page) :
    (compileAsset cx page db).2.1.id ≠ id := by
  intro hid
  obtain ⟨a, ha, haid, hsystem⟩ := h
  have hfirst := (writes_compileAsset cx page db).selected_of_key ha (haid.trans hid.symm)
  exact hsystem (assetSel_iff.mp (Table.pred_of_first? hfirst)).1

/-- Replacing the navigation aliases of one asset leaves those of another. -/
theorem mem_replaceNavigationAliases {pageAssetId : UUID} (hne : pageAssetId ≠ id)
    (drafts : List NavigationAliasDraft) (aliases : Table PageNavigationAlias)
    {n : PageNavigationAlias} (hn : n.pageAssetId = id) :
    n ∈ replaceNavigationAliases cx pageAssetId drafts aliases ↔ n ∈ aliases := by
  unfold replaceNavigationAliases
  have hother : ∀ b ∈ aliases, b.pageAssetId = id →
      (decide (b.pageAssetId = pageAssetId) && b.isActive) = false := by
    intro b _ hb
    rw [hb, decide_eq_false (Ne.symm hne), Bool.false_and]
  induction drafts using List.reverseRecOn with
  | nil =>
    refine Table.mem_update_of_neg (q := fun b : PageNavigationAlias => b.pageAssetId = id) hother
      ?_ hn
    exact fun _ h => h
  | append_singleton l draft ih =>
    rw [List.foldl_append, List.foldl_cons, List.foldl_nil]
    refine Table.mem_insert.trans ((or_iff_left ?_).trans ih)
    rintro rfl
    exact hne hn

/-- **A turn of the loop leaves the assets of other systems.** -/
theorem leavesPage_compilePage {st : CompileState} (h : IsOther cx.system.id st.db id)
    (page : Page) : LeavesPage id st.db (compilePage cx st page).db := by
  have hne := h.ne_compileAsset page
  refine ⟨leavesAsset_compilePage hne, fun n hn => ?_⟩
  have hchecks : ∀ (asset : PageAsset) (l : List StandardCheckDefinition) (st' : CompileState),
      (l.foldl (compileCheck cx page asset) st').db.pageNavigationAliases =
        st'.db.pageNavigationAliases := by
    intro asset l
    induction l with
    | nil => exact fun _ => rfl
    | cons d l ih => exact fun st' => ih _
  refine (mem_replaceNavigationAliases hne _ _ hn).trans ?_
  rw [hchecks]

theorem leavesPage_compilePages (h : IsOther cx.system.id db id) :
    LeavesPage id db (compilePages cx db).db := by
  have hloop : ∀ (l : List Page) (st : CompileState), IsOther cx.system.id st.db id →
      LeavesPage id st.db (l.foldl (compilePage cx) st).db := by
    intro l
    induction l with
    | nil => exact fun st _ => LeavesPage.refl id st.db
    | cons page l ih =>
      intro st hst
      have hturn := leavesPage_compilePage hst page
      exact hturn.trans (ih _ (hst.of_leaves hturn.toLeavesAsset))
  exact hloop cx.pages { db := db } h

/-! ## The retirement -/

/-- A check of an asset of another system is not one the retirement looks at. -/
theorem IsOther.not_isActiveCheck (h : IsOther cx.system.id db id) {c : PageCheck}
    (hc : c ∈ db.pageChecks) (hid : c.pageAssetId = id) {a : PageAsset} {d : PageCheck}
    (hd : IsActiveCheck cx db a d) : d.id ≠ c.id := by
  intro hdc
  obtain ⟨b, hb, hbid, hsystem⟩ := h
  have hdcheck := hd.2.2.1
  rw [Table.eq_of_key_eq hd.2.1 hc hdc, hid, ← hbid] at hdcheck
  rw [Table.eq_of_key_eq hb hd.1.1 hdcheck] at hsystem
  exact hsystem hd.1.2.1

theorem leavesPage_retireMissing (gate : QualityGateDecision) (h : IsOther cx.system.id db id) :
    LeavesPage id db (retireMissing cx gate db).db := by
  have houtside := outsideRetirement_retireMissing cx gate db
  have hinv := retireMissing_inv cx db gate
  have hnotRetired : ∀ c ∈ db.pageChecks, c.pageAssetId = id →
      c.id ∉ (retireMissing cx gate db).retiredCheckIds := by
    intro c hc hcid hmem
    obtain ⟨-, a, d, hd, -, hid⟩ := (mem_retiredCheckIds cx db gate).mp hmem
    exact h.not_isActiveCheck hc hcid hd hid
  have hrecorded : ∀ c : PageCheck, c.pageAssetId = id →
      (c ∈ (recordDependencies (activeTruth cx.system.id db).checks db).pageChecks ↔
        c ∈ db.pageChecks) := by
    have hother : ∀ b ∈ db.pageChecks, b.pageAssetId = id →
        (decide (b.id ∈ (activeTruth cx.system.id db).checks.map (·.id)) &&
          b.blockingDependencyJson.isNone) = false := by
      intro b hb hbid
      have hnot : b.id ∉ (activeTruth cx.system.id db).checks.map (·.id) := by
        intro hmem
        obtain ⟨d, hd, hdid⟩ := List.mem_map.mp hmem
        obtain ⟨a, hactive⟩ := mem_activeTruth_checks.mp hd
        exact h.not_isActiveCheck hb hbid hactive hdid
      rw [decide_eq_false hnot, Bool.false_and]
    intro c hcid
    change c ∈ db.pageChecks.update _ _ (key_recordDerivedDependencies db) ↔ _
    refine Table.mem_update_of_neg (q := fun b : PageCheck => b.pageAssetId = id) hother ?_ hcid
    exact fun _ hb => hb
  refine ⟨⟨?_, ?_, ?_, ?_⟩, ?_⟩
  · intro a haid
    have hget := get?_pageAssets_retireMissing cx gate db a.id
    have hnot : IsOther cx.system.id db a.id →
        a.id ∉ (retireMissing cx gate db).retiredAssetIds := by
      intro hother hmem
      obtain ⟨-, b, hb, -, hbid⟩ := (mem_retiredAssetIds cx db gate).mp hmem
      obtain ⟨d, hd, hdid, hsystem⟩ := hother
      rw [Table.eq_of_key_eq hd hb.1 (hdid.trans hbid.symm)] at hsystem
      exact hsystem hb.2.1
    rw [← haid] at h
    simp only [hnot h, if_false, Option.map_id'] at hget
    constructor
    · intro ha
      exact Table.mem_of_get? (hget.symm.trans (Table.get?_key ha))
    · intro ha
      exact Table.mem_of_get? (hget.trans (Table.get?_key ha))
  · intro c hcid
    rw [← hrecorded c hcid]
    constructor
    · intro hc
      rcases hinv.checks.source c hc with ⟨b, hb, hbc, hretired⟩ | ⟨-, hfalse⟩
      · have hbid : b.pageAssetId = id := by
          rcases hretired with ⟨-, rfl⟩ | ⟨-, reason, rfl⟩
          · exact hcid
          · exact hcid
        rcases hretired with ⟨-, rfl⟩ | ⟨hmem, -⟩
        · exact hb
        · exact absurd hmem (hnotRetired b ((hrecorded b hbid).mp hb) hbid)
      · exact hfalse.elim
    · intro hc
      obtain ⟨c', hc', -, hretired⟩ := hinv.checks.kept c hc
      rcases hretired with ⟨-, rfl⟩ | ⟨hmem, -⟩
      · exact hc'
      · exact absurd hmem (hnotRetired c ((hrecorded c hcid).mp hc) hcid)
  · have hsame := congrArg Db.assetSnapshots houtside
    intro s _
    exact iff_of_eq (congrArg (s ∈ ·) hsame)
  · have hsame := congrArg Db.modulePlans houtside
    intro m _
    exact iff_of_eq (congrArg (m ∈ ·) hsame)
  · have hsame := congrArg Db.pageNavigationAliases houtside
    intro n _
    exact iff_of_eq (congrArg (n ∈ ·) hsame)

/-- **A compile leaves the assets of other systems**, their checks, fingerprints, plans and
navigation aliases. -/
theorem leavesPage_compilePromoted (h : IsOther cx.system.id db id) (outcome : SwitchOutcome) :
    LeavesPage id db (compilePromoted cx outcome db).1 := by
  have hloop := leavesPage_compilePages h
  have hretire := leavesPage_retireMissing (qualityGate cx db) (h.of_leaves hloop.toLeavesAsset)
  have hall := hloop.trans hretire
  -- The audit row is none of these rows.
  exact ⟨⟨hall.asset, hall.checks, hall.fingerprints, hall.plans⟩, hall.navigation⟩

/-! ## Aliases -/

/-- The compile and its cascades change an alias: they refresh it for a page with other values, or
disable it with what it stands for, or enable it. -/
inductive TouchesAlias (cx : CompileContext) (db : Db) (row : IntentAlias) : Prop where
  | refreshed (page : Page) (hfound : IsRefreshed cx db row page)
      (hchanged : refreshIntentAlias page row ≠ row)
  | disabled (hactive : row.isActive = true)
      (hgate : (qualityGate cx db).allowRetirement = true) (hlost : LosesTarget cx db row)
  | enabled (hinactive : row.isActive = false) (hsystem : isSystemDisabledAlias row = true)
      (hrevived : RevivesTarget cx db row)

end Loop

end AssetCompiler

namespace ControlPlane

open AssetCompiler

section Reconciled

variable {cx : CompileContext} {service : ControlPlaneService} {now : DateTime} {db : Db}

theorem targets_of_aliasCore {row row' : IntentAlias} (h : aliasCore row' = aliasCore row) :
    row'.isActive = row.isActive ∧ row'.assetKey = row.assetKey ∧
      row'.checkAlias = row.checkAlias ∧
        isSystemDisabledAlias row' = isSystemDisabledAlias row := by
  have hactive := congrArg IntentAlias.isActive h
  have hkey := congrArg IntentAlias.assetKey h
  have hcode := congrArg IntentAlias.checkAlias h
  have hsystem := congrArg isSystemDisabledAlias h
  exact ⟨hactive, hkey, hcode, hsystem⟩

/-- **When an alias stays as it is.** -/
theorem mem_aliases_reconciledDb_iff (hpages : PagesIn cx db) (hrefs : ReferencesHold db)
    {row : IntentAlias} (hrow : row ∈ db.intentAliases) :
    row ∈ (reconciledDb cx service now db).intentAliases ↔ ¬ TouchesAlias cx db row := by
  obtain ⟨row', hrow', hid, hcore, hloop⟩ := alias_compilePages cx hrow
  obtain ⟨hactive', hkey', hcode', hsystem'⟩ := targets_of_aliasCore hcore
  have hdisable := mem_aliasIdsToDisable_iff hpages hrefs hrow'
  have henable := mem_aliasIdsToEnable_iff hpages hrefs hrow'
  unfold LosesTarget at hdisable
  unfold RevivesTarget at henable
  rw [hactive', hkey', hcode'] at hdisable
  rw [hactive', hkey', hcode', hsystem'] at henable
  have hmem : row ∈ (reconciledDb cx service now db).intentAliases ↔
      (aliasSwitch now cx.snapshot.id).row (compileDecisions cx db).aliasIdsToDisable
        (compileDecisions cx db).aliasIdsToEnable row' = row := by
    rw [mem_aliases_reconciledDb]
    constructor
    · rintro ⟨b, hb, heq⟩
      have hbid : key b = key row' := by
        have hkey := congrArg key heq
        rw [Switch.key_row] at hkey
        exact hkey.symm.trans hid.symm
      rw [Table.eq_of_key_eq hb hrow' hbid] at heq
      exact heq.symm
    · exact fun heq => ⟨row', hrow', heq.symm⟩
  rw [hmem]
  by_cases hoff : key row' ∈ (compileDecisions cx db).aliasIdsToDisable
  · obtain ⟨hactive, hgate, hlost⟩ := hdisable.mp hoff
    rw [Switch.row_of_off hoff]
    refine iff_of_false (fun heq => ?_) (not_not.mpr (.disabled hactive hgate hlost))
    rw [← heq] at hactive
    exact Bool.false_ne_true hactive
  · by_cases hon : key row' ∈ (compileDecisions cx db).aliasIdsToEnable
    · obtain ⟨hinactive, hsystem, hrevived⟩ := henable.mp hon
      rw [Switch.row_of_on hoff hon]
      refine iff_of_false (fun heq => ?_) (not_not.mpr (.enabled hinactive hsystem hrevived))
      rw [← heq] at hinactive
      exact Bool.false_ne_true hinactive.symm
    · rw [Switch.row_of_notMem hoff hon]
      constructor
      · rintro heq (⟨page, hfound, hchanged⟩ | ⟨hactive, hgate, hlost⟩ |
          ⟨hinactive, hsystem, hrevived⟩)
        · rcases hloop with ⟨page', hfound', hrefresh⟩ | ⟨hnone, -⟩
          · -- The page under which an alias is found is one page.
            obtain ⟨i, hi, hfirst⟩ := hfound
            obtain ⟨j, hj, hfirst'⟩ := hfound'
            have hij : j = i := disjoint_aliasSel j i row (Table.pred_of_first? hfirst')
              (Table.pred_of_first? hfirst)
            rw [hij, hi, Option.some_inj] at hj
            rw [← hj] at hrefresh
            exact hchanged (hrefresh.symm.trans heq)
          · exact hnone page hfound
        · exact hoff (hdisable.mpr ⟨hactive, hgate, hlost⟩)
        · exact hon (henable.mpr ⟨hinactive, hsystem, hrevived⟩)
      · intro hnot
        rcases hloop with ⟨page, hfound, hrefresh⟩ | ⟨-, hkept⟩
        · rw [hrefresh]
          by_contra hchanged
          exact hnot (.refreshed page hfound hchanged)
        · exact hkept

/-! ## Published jobs -/

/-- A check of another system is not retired. -/
theorem notMem_retiredCheckIds_of_isOther {c : PageCheck} (hc : c ∈ db.pageChecks)
    (h : IsOther cx.system.id db c.pageAssetId) : c.id ∉ (retirement cx db).retiredCheckIds := by
  have hloop := leavesPage_compilePages h
  have hc' := (hloop.checks c rfl).mpr hc
  intro hmem
  obtain ⟨-, a, d, hd, -, hid⟩ := mem_retirement_checks.mp hmem
  exact (h.of_leaves hloop.toLeavesAsset).not_isActiveCheck hc' rfl hd hid

/-- A check of another system is not brought back. -/
theorem notMem_reactivatedCheckIds_of_isOther {c : PageCheck} (hc : c ∈ db.pageChecks)
    (h : IsOther cx.system.id db c.pageAssetId) :
    c.id ∉ (compilePages cx db).reactivatedCheckIds := by
  intro hmem
  obtain ⟨H, hH, hinv⟩ := compilePages_inv cx db
  obtain ⟨-, -, i, w, r, hw, hrid⟩ := hinv.checks.reactivated _ hmem
  obtain ⟨b, hb, hcheck⟩ := touchedCheck_of_written hH hinv hw
  have hloop := leavesPage_compilePages h
  have hc' := (hloop.checks c rfl).mpr hc
  have hbid := hcheck.pageAssetId
  rw [Table.eq_of_key_eq (Table.mem_of_first? hw.2) hc' hrid] at hbid
  obtain ⟨a, ha, haid, hsystem⟩ := h.of_leaves hloop.toLeavesAsset
  rw [Table.eq_of_key_eq ha (Table.mem_of_first? hb) (haid.trans hbid)] at hsystem
  exact hsystem hcheck.systemId

/-- **The jobs of a check of another system stay.** -/
theorem mem_jobs_reconciledDb_iff {c : PageCheck} (hc : c ∈ db.pageChecks)
    (h : IsOther cx.system.id db c.pageAssetId) {job : PublishedJob}
    (hjob : job.pageCheckId = c.id) :
    job ∈ (reconciledDb cx service now db).publishedJobs ↔ job ∈ db.publishedJobs := by
  cases hservice : service.publishedJobService with
  | none => rw [jobs_reconciledDb_of_none hservice]
  | some jobs =>
    have hkept : ∀ b ∈ db.publishedJobs, b.pageCheckId = c.id →
        (jobSwitch cx.snapshot.id).row (compileDecisions cx db).publishedJobIdsToPause
          (compileDecisions cx db).publishedJobIdsToResume b = b := by
      intro b hb hbc
      have hsame : ∀ d ∈ (retirement cx db).db.publishedJobs, d.id = b.id → d = b := by
        intro d hd hid
        rw [publishedJobs_retirement] at hd
        exact Table.eq_of_key_eq hd hb hid
      refine Switch.row_of_notMem (fun hpause => ?_) fun hresume => ?_
      · obtain ⟨d, hd, hretired, -, hid⟩ := mem_publishedJobIdsToPause.mp hpause
        rw [hsame d hd hid, hbc] at hretired
        exact notMem_retiredCheckIds_of_isOther hc h hretired
      · obtain ⟨d, hd, hresumed, -, -, hid⟩ := mem_publishedJobIdsToResume.mp hresume
        rw [hsame d hd hid, hbc] at hresumed
        exact notMem_reactivatedCheckIds_of_isOther hc h hresumed.1
    rw [mem_jobs_reconciledDb hservice]
    constructor
    · rintro ⟨b, hb, heq⟩
      have hbc : b.pageCheckId = c.id := by
        rw [← hjob, heq]
        unfold Switch.row
        split
        · rfl
        · split
          · rfl
          · rfl
      rw [heq, hkept b hb hbc]
      exact hb
    · exact fun hmem => ⟨job, hmem, (hkept job hmem hjob).symm⟩

end Reconciled

/-! ## Other systems -/

/-- The alias carries the code or the name of another system, and the key of one of its assets. -/
def IsAliasOfOther (systemId : UUID) (db : Db) (row : IntentAlias) : Prop :=
  ∃ system ∈ db.systems, system.id ≠ systemId ∧
    row.systemAlias ∈ [system.code, system.name] ∧
      ∃ a ∈ db.pageAssets, a.systemId = system.id ∧ a.assetKey = row.assetKey

/-- Nothing of another system is created or changed. -/
structure LeavesOtherSystems (systemId : UUID) (db db' : Db) : Prop where
  assets : ∀ a : PageAsset, a.systemId ≠ systemId → (a ∈ db'.pageAssets ↔ a ∈ db.pageAssets)
  /-- The checks, the fingerprints, the plans and the navigation aliases of an asset. -/
  pages : ∀ id, IsOther systemId db id → LeavesPage id db db'
  jobs : ∀ c ∈ db.pageChecks, IsOther systemId db c.pageAssetId →
    ∀ job : PublishedJob, job.pageCheckId = c.id →
      (job ∈ db'.publishedJobs ↔ job ∈ db.publishedJobs)
  aliases : ∀ row ∈ db.intentAliases, IsAliasOfOther systemId db row → row ∈ db'.intentAliases

theorem LeavesOtherSystems.refl (systemId : UUID) (db : Db) :
    LeavesOtherSystems systemId db db :=
  ⟨fun _ _ => Iff.rfl, fun id _ => LeavesPage.refl id db, fun _ _ _ _ _ => Iff.rfl,
    fun _ h _ => h⟩

/-- The rows that a compile could take for its own. -/
def CompiledRows (db : Db) : Table System × Table PageAsset × Table PageCheck ×
    Table AssetSnapshot × Table ModulePlan × Table PageNavigationAlias × Table PublishedJob ×
      Table IntentAlias :=
  (db.systems, db.pageAssets, db.pageChecks, db.assetSnapshots, db.modulePlans,
    db.pageNavigationAliases, db.publishedJobs, db.intentAliases)

/-- What is left alone depends on these rows only. -/
theorem leavesOtherSystems_congr {systemId : UUID} {db₀ db db' : Db}
    (h : CompiledRows db₀ = CompiledRows db) :
    LeavesOtherSystems systemId db₀ db' ↔ LeavesOtherSystems systemId db db' := by
  simp only [CompiledRows, Prod.mk.injEq] at h
  obtain ⟨hsystems, hassets, hchecks, hsnapshots, hplans, hnavigation, hjobs, haliases⟩ := h
  have hleaves : ∀ id, LeavesPage id db₀ db' ↔ LeavesPage id db db' := by
    intro id
    constructor
    · rintro ⟨⟨ha, hc, hs, hm⟩, hn⟩
      rw [hassets] at ha
      rw [hchecks] at hc
      rw [hsnapshots] at hs
      rw [hplans] at hm
      rw [hnavigation] at hn
      exact ⟨⟨ha, hc, hs, hm⟩, hn⟩
    · rintro ⟨⟨ha, hc, hs, hm⟩, hn⟩
      rw [← hassets] at ha
      rw [← hchecks] at hc
      rw [← hsnapshots] at hs
      rw [← hplans] at hm
      rw [← hnavigation] at hn
      exact ⟨⟨ha, hc, hs, hm⟩, hn⟩
  have hother : ∀ id, IsOther systemId db₀ id ↔ IsOther systemId db id := by
    intro id
    unfold IsOther
    rw [hassets]
  have halias : ∀ row, IsAliasOfOther systemId db₀ row ↔ IsAliasOfOther systemId db row := by
    intro row
    unfold IsAliasOfOther
    rw [hassets, hsystems]
  constructor
  · rintro ⟨ha, hp, hj, hr⟩
    simp only [hassets, hleaves, hother, halias, hchecks, hjobs, haliases] at ha hp hj hr
    exact ⟨ha, hp, hj, hr⟩
  · rintro ⟨ha, hp, hj, hr⟩
    refine ⟨?_, ?_, ?_, ?_⟩
    · simpa only [hassets] using ha
    · simpa only [hleaves, hother] using hp
    · simpa only [hchecks, hother, hjobs] using hj
    · simpa only [haliases, halias] using hr

/-- **A compile and its cascades leave other systems alone**, when they touch no alias of theirs. -/
theorem leavesOtherSystems_reconciledDb_iff {cx : CompileContext} (service : ControlPlaneService)
    (now : DateTime) {db : Db} (hpages : PagesIn cx db) (hrefs : ReferencesHold db) :
    LeavesOtherSystems cx.system.id db (reconciledDb cx service now db) ↔
      ∀ row ∈ db.intentAliases, IsAliasOfOther cx.system.id db row → ¬ TouchesAlias cx db row := by
  constructor
  · intro h row hrow hother
    exact (mem_aliases_reconciledDb_iff hpages hrefs hrow).mp (h.aliases row hrow hother)
  · intro h
    have hcompiled : ∀ id, IsOther cx.system.id db id →
        LeavesPage id db (reconciledDb cx service now db) := by
      intro id hid
      have hleaves := leavesPage_compilePromoted hid .promoted
      -- The cascades write aliases and jobs only.
      exact ⟨⟨hleaves.asset, hleaves.checks, hleaves.fingerprints, hleaves.plans⟩,
        hleaves.navigation⟩
    refine ⟨?_, hcompiled, ?_, ?_⟩
    · intro a hsystem
      constructor
      · intro ha
        obtain ⟨a', ha', heq⟩ := (mem_pageAssets_compilePromoted .promoted).mp ha
        have hsystem' : a'.systemId ≠ cx.system.id := by
          rw [heq] at hsystem
          split at hsystem
          · exact hsystem
          · exact hsystem
        rcases asset_cases ha' with hmem | ⟨page, htouched⟩
        · have hid : a'.id = a.id := by
            rw [heq]
            split
            · rfl
            · rfl
          exact ((hcompiled a.id ⟨a', hmem, hid, hsystem'⟩).asset a rfl).mp ha
        · exact absurd htouched.systemId hsystem'
      · intro ha
        exact ((hcompiled a.id ⟨a, ha, rfl, hsystem⟩).asset a rfl).mpr ha
    · intro c hc hother job hjob
      exact mem_jobs_reconciledDb_iff hc hother hjob
    · intro row hrow hother
      exact (mem_aliases_reconciledDb_iff hpages hrefs hrow).mpr (h row hrow hother)

/-- What a call compiles touches no alias of another system. -/
def TouchesNoOther (call : ReconcileCall) (db : Db) : Prop :=
  ∀ cx db', call.toCompileCall.promotedContext db = some (cx, db') →
    ∀ row ∈ db'.intentAliases, IsAliasOfOther cx.system.id db' row → ¬ TouchesAlias cx db' row

theorem compiledRows_switch {ids : IdSource} {now : DateTime} {db : Db} {draft : CrawlSnapshot}
    {switched : Switched} (h : CurrentStateSwitch.SwitchCase ids now db draft switched) :
    CompiledRows switched.db = CompiledRows db := by
  have hsame := congrArg CompiledRows (h.outsideSwitch_eq h.db_mem)
  exact hsame

/-- **When compiling one system leaves the others alone**: exactly when no alias of another system
is refreshed, disabled or enabled in place of one of its own. -/
theorem leaves_other_systems_iff {db : Db} (hrefs : ReferencesHold db) (call : ReconcileCall)
    {snapshot : CrawlSnapshot}
    (hsnapshot : db.crawlSnapshots.get? call.snapshotId = some snapshot) :
    LeavesOtherSystems snapshot.systemId db (reconcile db call) ↔ TouchesNoOther call db := by
  unfold TouchesNoOther
  cases hcontext : call.toCompileCall.promotedContext db with
  | none =>
    refine iff_of_true ?_ fun _ _ h => nomatch h
    rcases reconcile_of_promotedContext_none hcontext with heq | ⟨draft, switched, hswitch, heq⟩
    · rw [heq]
      exact LeavesOtherSystems.refl _ db
    · rw [heq, ← leavesOtherSystems_congr (compiledRows_switch hswitch)]
      exact LeavesOtherSystems.refl _ switched.db
  | some compiled =>
    obtain ⟨cx, db'⟩ := compiled
    rw [reconcile_of_promotedContext hcontext]
    obtain ⟨draft, system, switched, hdraft, hsystem, hswitch, -, rfl, rfl⟩ :=
      call.toCompileCall.promotedContext_cases hcontext
    rw [hsnapshot, Option.some_inj] at hdraft
    subst hdraft
    have hid : system.id = snapshot.systemId := Table.key_of_get? hsystem
    have hpages : PagesIn (compileContext call.ids call.now system snapshot switched.db)
        switched.db := pagesIn_compileContext call.ids call.now system snapshot
    have hiff := leavesOtherSystems_reconciledDb_iff call.service call.cascadedAt hpages
      (hrefs.switch hswitch)
    rw [← leavesOtherSystems_congr (compiledRows_switch hswitch), ← hid]
    refine hiff.trans ⟨fun h cx db₁ heq => ?_, fun h => h _ _ rfl⟩
    obtain ⟨rfl, rfl⟩ := Prod.mk.inj (Option.some_inj.mp heq)
    exact h

/-! ## Systems without a common key -/

/-- What touches an alias has its key: an asset of the system, or a page of the snapshot. -/
theorem TouchesAlias.key {cx : CompileContext} {db : Db} {row : IntentAlias}
    (h : TouchesAlias cx db row) :
    (∃ a ∈ db.pageAssets, a.systemId = cx.system.id ∧ a.assetKey = row.assetKey) ∨
      ∃ page ∈ cx.pages, assetKeyOf cx page = row.assetKey := by
  cases h with
  | refreshed page hfound =>
    obtain ⟨i, hi, hfirst⟩ := hfound
    have hkey := (aliasSel_iff.mp (Table.pred_of_first? hfirst)).2.2.2
    obtain ⟨w, hw, hmem⟩ := List.mem_flatMap.mp (Dict.mem_of_latest hi)
    have hi' : i.assetKey = assetKeyOf cx w.1 := by
      rcases List.mem_cons.mp hmem with heq | hmem
      · rw [(Prod.mk.inj heq).1]
        rfl
      · rw [(Prod.mk.inj (List.mem_singleton.mp hmem)).1]
        rfl
    exact Or.inr ⟨w.1, (mem_checkWrites.mp hw).1, hi'.symm.trans hkey.symm⟩
  | disabled _ _ hlost =>
    rcases hlost.2 with ⟨a, ha, hkey⟩ | ⟨-, ⟨w, -, hw, -⟩ | ⟨a, c, hold, hkey, -⟩⟩
    · exact Or.inl ⟨a, ha.mem, ha.systemId, hkey⟩
    · obtain ⟨v, hv, heq⟩ := List.mem_map.mp (Dict.mem_of_latest hw)
      exact Or.inr ⟨v.1, (mem_checkWrites.mp hv).1, congrArg Prod.fst (Prod.mk.inj heq).1⟩
    · exact Or.inl ⟨a, hold.asset_mem, hold.systemId, hkey⟩
  | enabled _ _ hrevived =>
    obtain ⟨-, -, a, c, ha, hkey, -⟩ := hrevived
    exact Or.inl ⟨a, (assetSel_of_isRewritten ha.rewritten).1,
      (assetSel_iff.mp (Table.pred_of_first? ha.rewritten.asset)).1, hkey⟩

/-- Where no key of an asset or a page of the system is a key of another system's asset, no alias
of another system is touched. -/
theorem touchesNoOther_of_keys {db : Db} (call : ReconcileCall)
    (hkeys : ∀ cx db', call.toCompileCall.promotedContext db = some (cx, db') →
      ∀ b ∈ db'.pageAssets, b.systemId ≠ cx.system.id →
        (∀ a ∈ db'.pageAssets, a.systemId = cx.system.id → a.assetKey ≠ b.assetKey) ∧
          ∀ page ∈ cx.pages, assetKeyOf cx page ≠ b.assetKey) : TouchesNoOther call db := by
  intro cx db' hcontext row _ hother htouched
  obtain ⟨system, -, hne, -, b, hb, hsystem, hkey⟩ := hother
  obtain ⟨hassets, hpages⟩ := hkeys cx db' hcontext b hb (hsystem ▸ hne)
  rcases TouchesAlias.key htouched with ⟨a, ha, hasystem, hakey⟩ | ⟨page, hpage, hpkey⟩
  · exact hassets a ha hasystem (hakey.trans hkey.symm)
  · exact hpages page hpage (hpkey.trans hkey.symm)

/-! ## Two systems whose codes differ in case -/

namespace OtherSystemSample

def snapshot : CrawlSnapshot where
  id := 10
  systemId := 1
  crawlType := "full"
  qualityScore := some 1
  state := .active
  startedAt := 0

def asset (id systemId pageId : UUID) : PageAsset where
  id := id
  systemId := systemId
  pageId := pageId
  assetKey := "erp.a"
  assetVersion := "v1"

/-- The alias of a check of the asset of the second system. -/
def row : IntentAlias where
  id := 50
  systemAlias := "ERP"
  pageAlias := some "/a"
  checkAlias := "page_open"
  routeHint := some "/a"
  assetKey := "erp.a"
  source := "asset_compiler"

/-- Both systems have an asset for the route `/a`; the snapshot of the first one shows `/b`. -/
def db : Db :=
  { systems := ⟨[{ id := 1, code := "erp", name := "Orders", baseUrl := "/" },
      { id := 2, code := "ERP", name := "Stock", baseUrl := "/" }], by decide⟩
    crawlSnapshots := .single snapshot
    pages := ⟨[{ id := 20, systemId := 1, routePath := "/a" },
      { id := 21, systemId := 2, routePath := "/a" },
      { id := 22, systemId := 1, snapshotId := some 10, routePath := "/b" }], by decide⟩
    pageAssets := ⟨[asset 1 1 20, asset 2 2 21], by decide⟩
    intentAliases := .single row }

def call : ReconcileCall where
  ids := .ascending
  now := 1
  snapshotId := 10
  service := {}
  cascadedAt := 2

theorem referencesHold_db : ReferencesHold db :=
  ⟨fun c hc => absurd hc (Table.notMem_empty c), fun c hc => absurd hc (Table.notMem_empty c)⟩

theorem codes_distinct : ∀ s ∈ db.systems, ∀ s' ∈ db.systems, s.code = s'.code → s.id = s'.id := by
  decide

theorem isAliasOfOther_row : IsAliasOfOther 1 db row :=
  ⟨{ id := 2, code := "ERP", name := "Stock", baseUrl := "/" },
    List.mem_cons_of_mem _ List.mem_cons_self, by decide, by decide, asset 2 2 21,
    List.mem_cons_of_mem _ List.mem_cons_self, rfl, rfl⟩

end OtherSystemSample

theorem leaves_other_systems_iff_sample :
    ReferencesHold OtherSystemSample.db ∧
      OtherSystemSample.db.crawlSnapshots.get? 10 = some OtherSystemSample.snapshot ∧
      (LeavesOtherSystems 1 OtherSystemSample.db
          (reconcile OtherSystemSample.db OtherSystemSample.call) ↔
        TouchesNoOther OtherSystemSample.call OtherSystemSample.db) :=
  ⟨OtherSystemSample.referencesHold_db, rfl,
    leaves_other_systems_iff OtherSystemSample.referencesHold_db OtherSystemSample.call rfl⟩

/-- The asset of the first system is retired, and the alias of the second one is disabled. -/
theorem leaves_other_systems_fails :
    ¬ ∀ (db : Db) (call : ReconcileCall) (snapshot : CrawlSnapshot), ReferencesHold db →
      (∀ s ∈ db.systems, ∀ s' ∈ db.systems, s.code = s'.code → s.id = s'.id) →
        db.crawlSnapshots.get? call.snapshotId = some snapshot →
          LeavesOtherSystems snapshot.systemId db (reconcile db call) := by
  intro h
  have hleaves := h OtherSystemSample.db OtherSystemSample.call OtherSystemSample.snapshot
    OtherSystemSample.referencesHold_db OtherSystemSample.codes_distinct rfl
  have hrow := hleaves.aliases OtherSystemSample.row (List.mem_singleton.mpr rfl)
    OtherSystemSample.isAliasOfOther_row
  have hdisabled : ∀ a ∈ (reconcile OtherSystemSample.db OtherSystemSample.call).intentAliases,
      a.id = 50 → a.isActive = false := by
    decide +kernel
  exact Bool.false_ne_true (hdisabled _ hrow rfl).symm

end ControlPlane

end Runlet
