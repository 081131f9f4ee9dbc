import Runlet.AssetCompiler.CompileSpec

/-!
# The rows a compile has seen

An asset after the loop over the pages is as it was before, or it is the asset of a page of the
snapshot (`TouchedAsset`); a check is as it was, or it is a check of such an asset
(`TouchedCheck`).  An asset of the second kind is never missing, so a compile retires only assets
that its loop left alone.
-/

namespace Runlet

open KeyedTable

namespace AssetCompiler

section Touched

variable (cx : CompileContext)

/-- The asset of a page of the snapshot, after the page was seen. -/
structure TouchedAsset (page : Page) (a : PageAsset) : Prop where
  page_mem : page ∈ cx.pages
  pageId : a.pageId = page.id
  systemId : a.systemId = cx.system.id
  assetKey : a.assetKey = assetKeyOf cx page
  active : isHighQualityFullSnapshot cx.snapshot = true → a.lifecycleStatus = .active

/-- A check of a page of the snapshot, after its definition was read; `a` is the asset of the
page. -/
structure TouchedCheck (w : CheckWrite) (a : PageAsset) (c : PageCheck) : Prop where
  definition_mem : w.2 ∈ standardChecks cx w.1
  page_mem : w.1 ∈ cx.pages
  assetKey : a.assetKey = assetKeyOf cx w.1
  systemId : a.systemId = cx.system.id
  pageAssetId : c.pageAssetId = a.id
  checkCode : c.checkCode = w.2.checkCode
  dependencies : c.blockingDependencyJson = some (blockingDependencies cx w.1 w.2)
  active : isHighQualityFullSnapshot cx.snapshot = true → c.lifecycleStatus = .active

variable {cx} {db : Db}

theorem latest_assetHistory {pages : List Page} {i : UUID × String} {page : Page}
    (h : Dict.latest (assetHistory cx pages) i = some page) :
    page ∈ pages ∧ assetIndex cx page = i := by
  obtain ⟨q, hq, heq⟩ := List.mem_map.mp (Dict.mem_of_latest h)
  obtain ⟨rfl, rfl⟩ := Prod.mk.inj heq
  exact ⟨hq, rfl⟩

variable (db) in
/-- The asset found under an index is the one of the last page with that index. -/
theorem exists_touchedAsset_of_latest {i : UUID × String} {page : Page}
    (h : Dict.latest (assetHistory cx cx.pages) i = some page) :
    ∃ a, TouchedAsset cx page a ∧
      (compilePages cx db).db.pageAssets.first? (assetSel i) = some a := by
  obtain ⟨H, -, hinv⟩ := compilePages_inv cx db
  obtain ⟨hmem, rfl⟩ := latest_assetHistory h
  obtain ⟨a, ha, hid, hactive⟩ := hinv.assets.written.found _ page h
  have hsel := assetSel_iff.mp (Table.pred_of_first? ha)
  exact ⟨a, ⟨hmem, hid, hsel.1, hsel.2, hactive⟩, ha⟩

/-- The last page with the index of a page of the snapshot. -/
theorem exists_latest_assetHistory {page : Page} (hpage : page ∈ cx.pages) :
    ∃ q, Dict.latest (assetHistory cx cx.pages) (assetIndex cx page) = some q :=
  Dict.exists_latest_of_mem (List.mem_map.mpr ⟨page, hpage, rfl⟩)

variable (db) in
/-- The asset found under the index of a page of the snapshot. -/
theorem exists_touchedAsset {page : Page} (hpage : page ∈ cx.pages) :
    ∃ q a, TouchedAsset cx q a ∧ assetIndex cx q = assetIndex cx page ∧
      (compilePages cx db).db.pageAssets.first? (assetSel (assetIndex cx page)) = some a := by
  obtain ⟨q, hq⟩ := exists_latest_assetHistory hpage
  obtain ⟨a, htouched, ha⟩ := exists_touchedAsset_of_latest db hq
  exact ⟨q, a, htouched, (latest_assetHistory hq).2, ha⟩

/-- **An asset after the loop** is as it was before, or the asset of a page of the snapshot. -/
theorem asset_cases {a : PageAsset} (ha : a ∈ (compilePages cx db).db.pageAssets) :
    a ∈ db.pageAssets ∨ ∃ page, TouchedAsset cx page a := by
  obtain ⟨H, -, hinv⟩ := compilePages_inv cx db
  rcases hinv.assets.written.touched a ha with hmem | ⟨i, page, hlatest, hfirst⟩
  · exact Or.inl hmem
  · obtain ⟨a', htouched, ha'⟩ := exists_touchedAsset_of_latest db hlatest
    rw [hfirst, Option.some_inj] at ha'
    exact Or.inr ⟨page, ha' ▸ htouched⟩

/-- A written check is a check of the asset of its page. -/
theorem touchedCheck_of_written {H : CheckHistory}
    (hH : H.map Prod.snd = checkWrites cx cx.pages)
    (hinv : LoopInv cx db cx.pages H (compilePages cx db)) {i : UUID × String} {w : CheckWrite}
    {c : PageCheck} (hw : WrittenCheck H (compilePages cx db).db.pageChecks i w c) :
    ∃ a, (compilePages cx db).db.pageAssets.first? (assetSel (assetIndex cx w.1)) = some a ∧
      TouchedCheck cx w a c := by
  obtain ⟨hcode, a, ha, hid⟩ := hinv.checks.named (i, w) (Dict.mem_of_latest hw.1)
  obtain ⟨c', hc', hdeps, hactive⟩ := hinv.checks.written.found i w hw.1
  rw [hw.2, Option.some_inj] at hc'
  subst hc'
  have hmem : w ∈ checkWrites cx cx.pages := by
    rw [← hH]
    exact List.mem_map.mpr ⟨(i, w), Dict.mem_of_latest hw.1, rfl⟩
  have hasset := assetSel_iff.mp (Table.pred_of_first? ha)
  have hcheck := checkSel_iff.mp (Table.pred_of_first? hw.2)
  exact ⟨a, ha, (mem_checkWrites.mp hmem).2, (mem_checkWrites.mp hmem).1, hasset.2, hasset.1,
    hcheck.1.trans hid.symm, hcheck.2.trans hcode, hdeps, hactive⟩

/-- **A check after the loop** is as it was before, or a check of a page of the snapshot. -/
theorem check_cases {c : PageCheck} (hc : c ∈ (compilePages cx db).db.pageChecks) :
    c ∈ db.pageChecks ∨ ∃ w a,
      (compilePages cx db).db.pageAssets.first? (assetSel (assetIndex cx w.1)) = some a ∧
        TouchedCheck cx w a c := by
  obtain ⟨H, hH, hinv⟩ := compilePages_inv cx db
  rcases hinv.checks.written.touched c hc with hmem | ⟨i, w, hlatest, hfirst⟩
  · exact Or.inl hmem
  · obtain ⟨a, ha, htouched⟩ := touchedCheck_of_written hH hinv ⟨hlatest, hfirst⟩
    exact Or.inr ⟨w, a, ha, htouched⟩

/-- The asset that holds a touched check is the asset of a page of the snapshot. -/
theorem touchedAsset_of_first? {page : Page} (hpage : page ∈ cx.pages) {a : PageAsset}
    (ha : (compilePages cx db).db.pageAssets.first? (assetSel (assetIndex cx page)) = some a) :
    ∃ q, TouchedAsset cx q a ∧ assetIndex cx q = assetIndex cx page := by
  obtain ⟨q, a', htouched, hqi, ha'⟩ := exists_touchedAsset db hpage
  rw [ha, Option.some_inj] at ha'
  subst ha'
  exact ⟨q, htouched, hqi⟩

/-- A check that was brought back is active after the loop. -/
theorem active_of_reactivated {id : UUID} (hid : id ∈ (compilePages cx db).reactivatedCheckIds)
    {c : PageCheck} (hc : c ∈ (compilePages cx db).db.pageChecks) (hcid : c.id = id) :
    c.lifecycleStatus = .active := by
  obtain ⟨H, -, hinv⟩ := compilePages_inv cx db
  obtain ⟨hgood, -, i, w, r, hw, hrid⟩ := hinv.checks.reactivated id hid
  obtain ⟨r', hr', -, hactive⟩ := hinv.checks.written.found i w hw.1
  rw [hw.2, Option.some_inj] at hr'
  rw [Table.eq_of_key_eq hc (Table.mem_of_first? hw.2) (hcid.trans hrid.symm), hr']
  exact hactive hgood

end Touched

/-! ## Touched assets are not missing -/

section Missing

variable {cx : CompileContext} {db : Db}

theorem mem_routePaths {routePath : String} :
    routePath ∈ (snapshotTruth cx).routePaths ↔
      routePath ≠ "" ∧ ∃ page ∈ cx.pages, Text.strip page.routePath = routePath := by
  unfold snapshotTruth Reconciliation.buildCurrentSnapshotTruth
  dsimp only
  rw [List.mem_eraseDups, List.mem_filter, List.mem_map, decide_eq_true_eq, and_comm]

/-- The pages of a compile are pages of the database. -/
def PagesIn (cx : CompileContext) (db : Db) : Prop :=
  ∀ page ∈ cx.pages, page ∈ db.pages

theorem assetRoute_of_pageId {page : Page} (hpage : page ∈ db.pages) {a : PageAsset}
    (hid : a.pageId = page.id) : assetRoute db a = Text.strip page.routePath := by
  unfold assetRoute
  rw [hid, show db.pages.get? page.id = some page from Table.get?_key hpage]
  rfl

theorem TouchedAsset.not_missing {page : Page} {a : PageAsset} (h : TouchedAsset cx page a)
    (hpages : PagesIn cx db) : ¬ AssetMissing cx db a := by
  rintro ⟨hroute, hnot⟩
  rw [assetRoute_of_pageId (hpages page h.page_mem) h.pageId] at hroute hnot
  exact hnot (mem_routePaths.mpr ⟨hroute, page, h.page_mem, rfl⟩)

theorem pages_compilePages : (compilePages cx db).db.pages = db.pages := by
  have h := congrArg Db.pages (outsideLoop_compilePages cx db)
  exact h

theorem PagesIn.compilePages (h : PagesIn cx db) :
    PagesIn cx (AssetCompiler.compilePages cx db).db := by
  intro page hpage
  rw [pages_compilePages]
  exact h page hpage

theorem mem_snapshotPages {snapshotId : UUID} {page : Page} :
    page ∈ CurrentStateSwitch.snapshotPages snapshotId db ↔
      page ∈ db.pages ∧ page.snapshotId = some snapshotId := by
  unfold CurrentStateSwitch.snapshotPages
  rw [List.mem_insertionSort, Table.mem_select, decide_eq_true_eq]

theorem pagesIn_compileContext (ids : IdSource) (now : DateTime) (system : System)
    (snapshot : CrawlSnapshot) : PagesIn (compileContext ids now system snapshot db) db :=
  fun _ hpage => (mem_snapshotPages.mp hpage).1

/-- An open gate shows a good snapshot. -/
theorem isHighQuality_of_gate (h : (qualityGate cx db).allowRetirement = true) :
    isHighQualityFullSnapshot cx.snapshot = true := by
  unfold qualityGate Reconciliation.evaluateRetirementQualityGate at h
  split at h
  · exact absurd h (by simp)
  · rename_i hfull
    split at h
    · exact absurd h (by simp)
    · rename_i hdegraded
      split at h
      · exact absurd h (by simp)
      · rename_i hscore
        unfold isHighQualityFullSnapshot
        rw [not_not] at hfull
        rw [Bool.not_eq_true] at hdegraded hscore
        rw [hfull, hdegraded]
        cases hq : cx.snapshot.qualityScore with
        | none =>
          rw [hq] at hscore
          exact absurd hscore (by simp)
        | some score =>
          rw [hq] at hscore
          simpa using hscore

end Missing

end AssetCompiler

end Runlet
