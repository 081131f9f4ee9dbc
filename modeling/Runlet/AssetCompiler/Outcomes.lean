import Runlet.AssetCompiler.AssetKeys
import Runlet.AssetCompiler.LifecycleInvariant
import Runlet.AssetCompiler.OwnChecks
import Runlet.AssetCompiler.References

/-!
# The decisions of a compile, foreseen

Which assets and checks a compile retires or brings back, and which aliases its cascades switch, is
decided on the rows as the loop over the pages left them.  Here the decisions are said of the rows
the compile started from: an asset is seen or not (`IsSeen`), a check is rewritten or not
(`IsRewritten`), and from there the rows that are lost and the rows that come back follow
(`LosesAsset`, `LosesWritten`, `LosesOld`, `Revives`).

## What becomes of an alias

The loop refreshes the first alias of each pattern (`aliasHistory`, `refreshedAlias`), and the
cascades then disable or enable it: `mem_aliasIdsToDisable_iff`, `mem_aliasIdsToEnable_iff`.
-/

namespace Runlet

open KeyedTable

namespace AssetCompiler

/-! ## Assets -/

section Assets

variable (cx : CompileContext) (db : Db)

/-- The loop finds the asset under the key of a page. -/
structure IsSeen (a : PageAsset) : Prop where
  page : ∃ page, lastPage cx a.assetKey = some page
  first : db.pageAssets.first? (assetSel (cx.system.id, a.assetKey)) = some a

/-- The compile finds the asset active, does not see it, and misses its route. -/
structure LosesAsset (a : PageAsset) : Prop where
  mem : a ∈ db.pageAssets
  systemId : a.systemId = cx.system.id
  active : a.lifecycleStatus = .active
  missing : AssetMissing cx db a
  unseen : ¬ IsSeen cx db a

variable {cx db}

theorem assetRoute_compilePages (a : PageAsset) :
    assetRoute (compilePages cx db).db a = assetRoute db a := by
  unfold assetRoute
  rw [pages_compilePages]

theorem assetMissing_compilePages (a : PageAsset) :
    AssetMissing cx (compilePages cx db).db a ↔ AssetMissing cx db a := by
  unfold AssetMissing
  rw [assetRoute_compilePages]

theorem IsSeen.mem {a : PageAsset} (h : IsSeen cx db a) : a ∈ db.pageAssets :=
  Table.mem_of_first? h.first

theorem IsSeen.systemId {a : PageAsset} (h : IsSeen cx db a) : a.systemId = cx.system.id :=
  (assetSel_iff.mp (Table.pred_of_first? h.first)).1

variable (cx) in
/-- A row that is found before the loop is found after it. -/
theorem exists_first?_compilePages {i : UUID × String} {a : PageAsset}
    (h : db.pageAssets.first? (assetSel i) = some a) :
    ∃ a', (compilePages cx db).db.pageAssets.first? (assetSel i) = some a' ∧ a'.id = a.id := by
  obtain ⟨H, -, hinv⟩ := compilePages_inv cx db
  exact hinv.assets.written.stable i a h

/-- The versions of an asset before and after the loop are found under the same index. -/
theorem first?_of_first?_compilePages {i : UUID × String} {a a' : PageAsset}
    (ha : a ∈ db.pageAssets) (hid : a'.id = a.id)
    (h : (compilePages cx db).db.pageAssets.first? (assetSel i) = some a') :
    db.pageAssets.first? (assetSel i) = some a := by
  obtain ⟨H, -, hinv⟩ := compilePages_inv cx db
  have hkept : AssetKept cx a a' := hinv.assets.evolves.of_mem ha (Table.mem_of_first? h) hid
  have hsel' := assetSel_iff.mp (Table.pred_of_first? h)
  have hsel : assetSel i a = true :=
    assetSel_iff.mpr ⟨hkept.systemId.symm.trans hsel'.1, hkept.assetKey.symm.trans hsel'.2⟩
  cases hfirst : db.pageAssets.first? (assetSel i) with
  | none =>
    rw [Table.first?_eq_none_iff.mp hfirst a ha] at hsel
    exact absurd hsel Bool.false_ne_true
  | some b =>
    obtain ⟨b', hb', hbid⟩ := exists_first?_compilePages cx hfirst
    rw [h, Option.some_inj] at hb'
    subst hb'
    rw [Table.eq_of_key_eq (Table.mem_of_first? hfirst) ha (hbid.symm.trans hid)]

/-- An asset that is seen, after the loop. -/
theorem IsSeen.touched {a : PageAsset} (h : IsSeen cx db a) :
    ∃ page a', lastPage cx a.assetKey = some page ∧ TouchedAsset cx page a' ∧ a'.id = a.id ∧
      (compilePages cx db).db.pageAssets.first? (assetSel (cx.system.id, a.assetKey)) =
        some a' := by
  obtain ⟨page, hpage⟩ := h.page
  obtain ⟨a', htouched, ha'⟩ := exists_touchedAsset_of_latest db hpage
  obtain ⟨b, hb, hid⟩ := exists_first?_compilePages cx h.first
  rw [ha', Option.some_inj] at hb
  exact ⟨page, a', hpage, htouched, hb ▸ hid, ha'⟩

/-- An asset whose row is found under the index of a page of the snapshot is seen. -/
theorem isSeen_of_first? {a a' : PageAsset} (ha : a ∈ db.pageAssets) (hid : a'.id = a.id)
    {assetKey : String} {page : Page} (hpage : lastPage cx assetKey = some page)
    (h : (compilePages cx db).db.pageAssets.first? (assetSel (cx.system.id, assetKey)) =
      some a') : IsSeen cx db a := by
  have hfirst := first?_of_first?_compilePages ha hid h
  have hkey : a.assetKey = assetKey := (assetSel_iff.mp (Table.pred_of_first? hfirst)).2
  rw [← hkey] at hpage hfirst
  exact ⟨⟨page, hpage⟩, hfirst⟩

/-- An asset that is not seen stays as it is during the loop. -/
theorem mem_compilePages_of_unseen {a : PageAsset} (ha : a ∈ db.pageAssets)
    (h : ¬ IsSeen cx db a) : a ∈ (compilePages cx db).db.pageAssets := by
  obtain ⟨H, -, hinv⟩ := compilePages_inv cx db
  rcases hinv.assets.written.kept a ha with hmem | ⟨i, page, r, hlatest, hfirst, hid⟩
  · exact hmem
  · obtain ⟨-, rfl⟩ := latest_assetHistory hlatest
    exact absurd (isSeen_of_first? ha hid hlatest hfirst) h

/-- **The assets that are retired** are those the compile loses. -/
theorem isActive_missing_iff (hpages : PagesIn cx db) {a : PageAsset} :
    IsActiveAsset cx (compilePages cx db).db a ∧ AssetMissing cx (compilePages cx db).db a ↔
      LosesAsset cx db a := by
  constructor
  · rintro ⟨hactive, hmissing⟩
    rcases asset_cases hactive.1 with hmem | ⟨page, htouched⟩
    · refine ⟨hmem, hactive.2.1, hactive.2.2, (assetMissing_compilePages a).mp hmissing, ?_⟩
      intro hseen
      obtain ⟨page, a', -, htouched, hid, ha'⟩ := hseen.touched
      rw [Table.eq_of_key_eq (Table.mem_of_first? ha') hactive.1 hid] at htouched
      exact htouched.not_missing hpages.compilePages hmissing
    · exact absurd hmissing (htouched.not_missing hpages.compilePages)
  · intro h
    exact ⟨⟨mem_compilePages_of_unseen h.mem h.unseen, h.systemId, h.active⟩,
      (assetMissing_compilePages a).mpr h.missing⟩

theorem mem_retiredAssetIds_iff (hpages : PagesIn cx db) {id : UUID} :
    id ∈ (retirement cx db).retiredAssetIds ↔
      (qualityGate cx db).allowRetirement = true ∧ ∃ a, LosesAsset cx db a ∧ a.id = id := by
  rw [mem_retirement_assets]
  refine and_congr_right fun _ => exists_congr fun a => ?_
  rw [← and_assoc, isActive_missing_iff hpages]

theorem retiresKey_iff (hpages : PagesIn cx db) {assetKey : String} :
    RetiresKey cx (compilePages cx db).db (retirement cx db) assetKey ↔
      assetKey ≠ "" ∧ (qualityGate cx db).allowRetirement = true ∧
        ∃ a, LosesAsset cx db a ∧ a.assetKey = assetKey := by
  unfold RetiresKey
  refine and_congr_right fun _ => ?_
  constructor
  · rintro ⟨a, ha, hid, hkey⟩
    obtain ⟨hgate, b, hb, hbid⟩ := (mem_retiredAssetIds_iff hpages).mp hid
    have hbactive := ((isActive_missing_iff hpages).mpr hb).1
    exact ⟨hgate, b, hb, (congrArg PageAsset.assetKey (hbactive.eq ha hbid)).trans hkey⟩
  · rintro ⟨hgate, a, ha, hkey⟩
    exact ⟨a, ((isActive_missing_iff hpages).mpr ha).1,
      (mem_retiredAssetIds_iff hpages).mpr ⟨hgate, a, ha, rfl⟩, hkey⟩

end Assets

/-! ## Checks -/

section Checks

variable (cx : CompileContext) (db : Db)

/-- The loop finds the check under the key and the code of something it writes. -/
structure IsRewritten (a : PageAsset) (c : PageCheck) : Prop where
  asset : db.pageAssets.first? (assetSel (cx.system.id, a.assetKey)) = some a
  check : db.pageChecks.first? (checkSel (a.id, c.checkCode)) = some c
  write : ∃ w, lastWrite cx (a.assetKey, c.checkCode) = some w

/-- What is written last under a key and a code does not find its needs on the route of the page
that has the asset in the end. -/
def LosesWritten (i : String × String) : Prop :=
  ∃ w page, lastWrite cx i = some w ∧ lastPage cx i.1 = some page ∧
    Text.strip page.routePath ≠ "" ∧ ¬ ShowsNeeds cx w.1 i.2 (Text.strip page.routePath)

/-- The route an asset stands for when the loop is over. -/
inductive LaterRoute (a : PageAsset) : String → Prop where
  | seen (hseen : IsSeen cx db a) (page : Page) (hpage : lastPage cx a.assetKey = some page) :
      LaterRoute a (Text.strip page.routePath)
  | unseen (hunseen : ¬ IsSeen cx db a) : LaterRoute a (assetRoute db a)

/-- The route shows the snapshot, but not what the check needs. -/
def UnmetOn (routePath : String) (c : PageCheck) : Prop :=
  routePath ≠ "" ∧ routePath ∈ (snapshotTruth cx).routePaths ∧
    (Reconciliation.checkRetireReason (snapshotTruth cx) routePath
      (dependenciesOf db c)).isSome = true

/-- A check that the compile finds active and does not rewrite does not find what it needs. -/
structure LosesOld (a : PageAsset) (c : PageCheck) : Prop where
  asset_mem : a ∈ db.pageAssets
  systemId : a.systemId = cx.system.id
  asset_active : a.lifecycleStatus = .active ∨ IsSeen cx db a
  check_mem : c ∈ db.pageChecks
  pageAssetId : c.pageAssetId = a.id
  active : c.lifecycleStatus = .active
  kept : ¬ IsRewritten cx db a c
  unmet : ∃ routePath, LaterRoute cx db a routePath ∧ UnmetOn cx db routePath c

variable {cx db} {H : CheckHistory}

theorem assetSel_of_isRewritten {a : PageAsset} {c : PageCheck} (h : IsRewritten cx db a c) :
    a ∈ db.pageAssets ∧ c ∈ db.pageChecks ∧ c.pageAssetId = a.id :=
  ⟨Table.mem_of_first? h.asset, Table.mem_of_first? h.check,
    (checkSel_iff.mp (Table.pred_of_first? h.check)).1⟩

/-- What is written last under a key and a code is in the row found there. -/
theorem exists_written_of_lastWrite (hH : H.map Prod.snd = checkWrites cx cx.pages)
    (hinv : LoopInv cx db cx.pages H (compilePages cx db)) {i : String × String} {w : CheckWrite}
    (h : lastWrite cx i = some w) :
    ∃ a' r, (compilePages cx db).db.pageAssets.first? (assetSel (cx.system.id, i.1)) = some a' ∧
      WrittenCheck H (compilePages cx db).db.pageChecks (a'.id, i.2) w r := by
  have hmem := Dict.mem_of_latest h
  obtain ⟨v, hv, heq⟩ := List.mem_map.mp hmem
  obtain ⟨hkey, rfl⟩ := Prod.mk.inj heq
  rw [← hH] at hv
  obtain ⟨e, he, rfl⟩ := List.mem_map.mp hv
  obtain ⟨hcode, a', ha', hid⟩ := hinv.checks.named e he
  have hlatest : Dict.latest H e.1 = some e.2 := by
    rw [← lastWrite_eq_latest hH hinv he, hkey]
    exact h
  obtain ⟨r, hr, -⟩ := hinv.checks.written.found e.1 e.2 hlatest
  have hindex : e.1 = (a'.id, i.2) := by
    refine Prod.ext hid.symm (hcode.trans ?_)
    exact congrArg Prod.snd hkey
  have hasset : (cx.system.id, i.1) = assetIndex cx e.2.1 :=
    Prod.ext rfl (congrArg Prod.fst hkey).symm
  refine ⟨a', r, ?_, ?_⟩
  · rw [hasset]
    exact ha'
  · rw [← hindex]
    exact ⟨hlatest, hr⟩

/-- A row that is rewritten, after the loop. -/
theorem IsRewritten.written (hH : H.map Prod.snd = checkWrites cx cx.pages)
    (hinv : LoopInv cx db cx.pages H (compilePages cx db)) {a : PageAsset} {c : PageCheck}
    (h : IsRewritten cx db a c) :
    ∃ w c', lastWrite cx (a.assetKey, c.checkCode) = some w ∧ c'.id = c.id ∧
      WrittenCheck H (compilePages cx db).db.pageChecks (a.id, c.checkCode) w c' := by
  obtain ⟨w, hw⟩ := h.write
  obtain ⟨a', r, ha', hr⟩ := exists_written_of_lastWrite hH hinv hw
  obtain ⟨b, hb, hba⟩ := exists_first?_compilePages cx h.asset
  have hid : a'.id = a.id := by
    rw [ha', Option.some_inj] at hb
    rw [hb, hba]
  rw [hid] at hr
  obtain ⟨c', hc', hcid⟩ := hinv.checks.written.stable _ c h.check
  have hrc : r = c' := by
    have hsame := hr.2
    rw [hc', Option.some_inj] at hsame
    exact hsame.symm
  rw [hrc] at hr
  exact ⟨w, c', hw, hcid, hr⟩

/-- A row that was there and is written is rewritten. -/
theorem isRewritten_of_written (hH : H.map Prod.snd = checkWrites cx cx.pages)
    (hinv : LoopInv cx db cx.pages H (compilePages cx db)) (hrefs : ReferencesHold db)
    {i : UUID × String} {w : CheckWrite} {c c' : PageCheck}
    (hw : WrittenCheck H (compilePages cx db).db.pageChecks i w c') (hc : c ∈ db.pageChecks)
    (hid : c'.id = c.id) :
    ∃ a, IsRewritten cx db a c ∧ a.id = c.pageAssetId := by
  obtain ⟨a', ha', hcheck⟩ := touchedCheck_of_written hH hinv hw
  have hkept : CheckKept cx c c' :=
    hinv.checks.evolves.of_mem hc (Table.mem_of_first? hw.2) hid
  obtain ⟨a, ha, haid⟩ := hrefs.assets c hc
  have haid' : a'.id = a.id :=
    hcheck.pageAssetId.symm.trans (hkept.pageAssetId.trans haid.symm)
  have hfirst := first?_of_first?_compilePages ha haid' ha'
  have hkey : a.assetKey = assetKeyOf cx w.1 := (assetSel_iff.mp (Table.pred_of_first? hfirst)).2
  have hcode : c.checkCode = w.2.checkCode := hkept.checkCode.symm.trans hcheck.checkCode
  have hsel' := checkSel_iff.mp (Table.pred_of_first? hw.2)
  have hsel : checkSel i c = true :=
    checkSel_iff.mpr ⟨hkept.pageAssetId.symm.trans hsel'.1, hkept.checkCode.symm.trans hsel'.2⟩
  have hindex : i = (a.id, c.checkCode) :=
    Prod.ext ((checkSel_iff.mp hsel).1.symm.trans haid.symm) (checkSel_iff.mp hsel).2.symm
  have hcheckfirst : db.pageChecks.first? (checkSel i) = some c := by
    cases hb : db.pageChecks.first? (checkSel i) with
    | none =>
      rw [Table.first?_eq_none_iff.mp hb c hc] at hsel
      exact absurd hsel Bool.false_ne_true
    | some b =>
      obtain ⟨b', hb', hbid⟩ := hinv.checks.written.stable i b hb
      rw [hw.2, Option.some_inj] at hb'
      subst hb'
      rw [Table.eq_of_key_eq (Table.mem_of_first? hb) hc (hbid.symm.trans hid)]
  refine ⟨a, ⟨?_, ?_, w, ?_⟩, haid⟩
  · rw [hkey]
    exact hfirst
  · rw [← hindex]
    exact hcheckfirst
  · have hlast := lastWrite_eq_latest hH hinv (Dict.mem_of_latest hw.1)
    rw [hw.1] at hlast
    rw [hkey, hcode]
    exact hlast

/-- A check that is not rewritten stays as it is during the loop. -/
theorem mem_compilePages_of_not_rewritten (hrefs : ReferencesHold db) {a : PageAsset}
    {c : PageCheck} (ha : a ∈ db.pageAssets) (hc : c ∈ db.pageChecks) (hid : c.pageAssetId = a.id)
    (h : ¬ IsRewritten cx db a c) : c ∈ (compilePages cx db).db.pageChecks := by
  obtain ⟨H, hH, hinv⟩ := compilePages_inv cx db
  rcases hinv.checks.written.kept c hc with hmem | ⟨i, w, r, hlatest, hfirst, hrid⟩
  · exact hmem
  · obtain ⟨b, hb, hbid⟩ := isRewritten_of_written hH hinv hrefs ⟨hlatest, hfirst⟩ hc hrid
    have hab : b = a :=
      Table.eq_of_key_eq (Table.mem_of_first? hb.asset) ha (hbid.trans hid)
    rw [hab] at hb
    exact absurd hb h

/-- **A check after the loop** was written, or was there before and was not rewritten. -/
theorem written_or_kept (hH : H.map Prod.snd = checkWrites cx cx.pages)
    (hinv : LoopInv cx db cx.pages H (compilePages cx db)) (hrefs : ReferencesHold db)
    {c : PageCheck} (hc : c ∈ (compilePages cx db).db.pageChecks) :
    (∃ i w, WrittenCheck H (compilePages cx db).db.pageChecks i w c) ∨
      c ∈ db.pageChecks ∧ ∃ a ∈ db.pageAssets, a.id = c.pageAssetId ∧ ¬ IsRewritten cx db a c := by
  by_cases hwritten : ∃ i w, WrittenCheck H (compilePages cx db).db.pageChecks i w c
  · exact Or.inl hwritten
  · have hmem : c ∈ db.pageChecks := by
      rcases hinv.checks.written.touched c hc with hmem | ⟨i, w, hlatest, hfirst⟩
      · exact hmem
      · exact absurd ⟨i, w, hlatest, hfirst⟩ hwritten
    obtain ⟨a, ha, haid⟩ := hrefs.assets c hmem
    refine Or.inr ⟨hmem, a, ha, haid, fun hrewritten => hwritten ?_⟩
    obtain ⟨w, c', -, hid, hw⟩ := hrewritten.written hH hinv
    rw [Table.eq_of_key_eq (Table.mem_of_first? hw.2) hc hid] at hw
    exact ⟨_, w, hw⟩

/-! ## What the checks need -/

/-- Plans are added by the loop, and never changed. -/
theorem mem_modulePlans_compilePages {m : ModulePlan} (hm : m ∈ db.modulePlans) :
    m ∈ (compilePages cx db).db.modulePlans := by
  have hchecks : ∀ (page : Page) (asset : PageAsset) (l : List StandardCheckDefinition)
      (st : CompileState), m ∈ st.db.modulePlans →
        m ∈ (l.foldl (compileCheck cx page asset) st).db.modulePlans := by
    intro page asset l
    induction l with
    | nil => exact fun _ h => h
    | cons d l ih => exact fun st h => ih _ (Table.mem_insert_of_mem h)
  have hpages : ∀ (l : List Page) (st : CompileState), m ∈ st.db.modulePlans →
      m ∈ (l.foldl (compilePage cx) st).db.modulePlans := by
    intro l
    induction l with
    | nil => exact fun _ h => h
    | cons page l ih => exact fun st h => ih _ (hchecks page _ (standardChecks cx page) _ h)
  exact hpages cx.pages { db := db } hm

/-- The dependencies of a check that was there are what they were. -/
theorem dependenciesOf_compilePages (hrefs : ReferencesHold db) {c : PageCheck}
    (hc : c ∈ db.pageChecks) : dependenciesOf (compilePages cx db).db c = dependenciesOf db c := by
  have hplan : c.modulePlanId.bind (compilePages cx db).db.modulePlans.get? =
      c.modulePlanId.bind db.modulePlans.get? := by
    cases hid : c.modulePlanId with
    | none => rfl
    | some id =>
      obtain ⟨m, hm, rfl⟩ := hrefs.plans c hc id hid
      rw [Option.bind_some, Option.bind_some]
      exact (Table.get?_key (mem_modulePlans_compilePages hm)).trans (Table.get?_key hm).symm
  unfold dependenciesOf derivedDependencies
  rw [hplan]

/-- The route of an asset that was there, after the loop. -/
theorem laterRoute_iff (hpages : PagesIn cx db) {a a' : PageAsset} (ha : a ∈ db.pageAssets)
    (ha' : a' ∈ (compilePages cx db).db.pageAssets) (hid : a'.id = a.id) {routePath : String} :
    LaterRoute cx db a routePath ↔ routePath = assetRoute (compilePages cx db).db a' := by
  by_cases hseen : IsSeen cx db a
  · obtain ⟨page, b, hpage, htouched, hbid, hb⟩ := hseen.touched
    rw [Table.eq_of_key_eq (Table.mem_of_first? hb) ha' (hbid.trans hid.symm)] at htouched
    have hroute : assetRoute (compilePages cx db).db a' = Text.strip page.routePath :=
      assetRoute_of_pageId (hpages.compilePages page htouched.page_mem) htouched.pageId
    rw [hroute]
    constructor
    · rintro (⟨-, page', hpage'⟩ | hunseen)
      · rw [hpage, Option.some_inj] at hpage'
        rw [hpage']
      · exact absurd hseen hunseen
    · rintro rfl
      exact .seen hseen page hpage
  · have hmem := mem_compilePages_of_unseen ha hseen
    rw [Table.eq_of_key_eq ha' hmem hid, assetRoute_compilePages]
    constructor
    · rintro (⟨hseen', -, -⟩ | -)
      · exact absurd hseen' hseen
      · rfl
    · rintro rfl
      exact .unseen hseen

/-- What a check that was not rewritten needs, after the loop. -/
theorem checkUnmet_kept_iff (hpages : PagesIn cx db) (hrefs : ReferencesHold db)
    {a a' : PageAsset} {c : PageCheck} (ha : a ∈ db.pageAssets)
    (ha' : a' ∈ (compilePages cx db).db.pageAssets) (hid : a'.id = a.id)
    (hc : c ∈ db.pageChecks) :
    CheckUnmet cx (compilePages cx db).db a' c ↔
      ∃ routePath, LaterRoute cx db a routePath ∧ UnmetOn cx db routePath c := by
  have hroute : ∀ routePath, LaterRoute cx db a routePath ↔
      routePath = assetRoute (compilePages cx db).db a' := fun _ => laterRoute_iff hpages ha ha' hid
  unfold CheckUnmet UnmetOn
  simp only [hroute, exists_eq_left, dependenciesOf_compilePages hrefs hc]

/-- What a check that was written needs, after the loop. -/
theorem checkUnmet_written_iff (hH : H.map Prod.snd = checkWrites cx cx.pages)
    (hinv : LoopInv cx db cx.pages H (compilePages cx db)) (hpages : PagesIn cx db)
    {i : UUID × String} {w : CheckWrite} {c : PageCheck}
    (hw : WrittenCheck H (compilePages cx db).db.pageChecks i w c) {a : PageAsset}
    (ha : a ∈ (compilePages cx db).db.pageAssets) (hid : c.pageAssetId = a.id) :
    CheckUnmet cx (compilePages cx db).db a c ↔ LosesWritten cx (a.assetKey, c.checkCode) := by
  obtain ⟨b, hb, hcheck⟩ := touchedCheck_of_written hH hinv hw
  have hba : b = a := Table.eq_of_key_eq (Table.mem_of_first? hb) ha
    (hcheck.pageAssetId.symm.trans hid)
  rw [hba] at hb hcheck
  obtain ⟨page, hpage⟩ := exists_latest_assetHistory hcheck.page_mem
  obtain ⟨a', htouched, ha'⟩ := exists_touchedAsset_of_latest db hpage
  rw [hb, Option.some_inj] at ha'
  rw [← ha'] at htouched
  have hroute : assetRoute (compilePages cx db).db a = Text.strip page.routePath :=
    assetRoute_of_pageId (hpages.compilePages page htouched.page_mem) htouched.pageId
  have hdeps : dependenciesOf (compilePages cx db).db c = blockingDependencies cx w.1 w.2 := by
    unfold dependenciesOf
    rw [hcheck.dependencies]
    rfl
  have hlast : lastWrite cx (a.assetKey, c.checkCode) = some w := by
    have hlatest := lastWrite_eq_latest hH hinv (Dict.mem_of_latest hw.1)
    rw [hw.1] at hlatest
    rw [hcheck.assetKey, hcheck.checkCode]
    exact hlatest
  have hlastPage : lastPage cx a.assetKey = some page := by
    rw [hcheck.assetKey]
    exact hpage
  have hneeds : Text.strip page.routePath ≠ "" →
      ((Reconciliation.checkRetireReason (snapshotTruth cx) (Text.strip page.routePath)
        (blockingDependencies cx w.1 w.2)).isSome = true ↔
          ¬ ShowsNeeds cx w.1 c.checkCode (Text.strip page.routePath)) := by
    intro hne
    rw [hcheck.checkCode, ← checkRetireReason_iff_showsNeeds hcheck.definition_mem hne,
      Option.isSome_iff_ne_none]
  unfold CheckUnmet LosesWritten
  rw [hroute, hdeps]
  constructor
  · rintro ⟨hne, -, hsome⟩
    exact ⟨w, page, hlast, hlastPage, hne, (hneeds hne).mp hsome⟩
  · rintro ⟨w', page', hw', hpage', hne, hnot⟩
    rw [hlast, Option.some_inj] at hw'
    rw [hlastPage, Option.some_inj] at hpage'
    subst hw' hpage'
    exact ⟨hne, mem_routePaths.mpr ⟨hne, page, htouched.page_mem, rfl⟩, (hneeds hne).mpr hnot⟩

/-! ## The checks that are lost and the checks that come back -/

/-- A check under the key and the code is lost on a page that the snapshot shows. -/
def LosesCheck (cx : CompileContext) (db : Db) (i : String × String) : Prop :=
  LosesWritten cx i ∨ ∃ a c, LosesOld cx db a c ∧ a.assetKey = i.1 ∧ c.checkCode = i.2

/-- The row that is active after the loop, of an asset that was there. -/
theorem isActiveAsset_of_seen_or_active (hgood : isHighQualityFullSnapshot cx.snapshot = true)
    {a : PageAsset} (ha : a ∈ db.pageAssets) (hsystem : a.systemId = cx.system.id)
    (h : a.lifecycleStatus = .active ∨ IsSeen cx db a) :
    ∃ a', IsActiveAsset cx (compilePages cx db).db a' ∧ a'.id = a.id ∧
      a'.assetKey = a.assetKey := by
  by_cases hseen : IsSeen cx db a
  · obtain ⟨page, a', -, htouched, hid, ha'⟩ := hseen.touched
    exact ⟨a', ⟨Table.mem_of_first? ha', htouched.systemId, htouched.active hgood⟩, hid,
      (assetSel_iff.mp (Table.pred_of_first? ha')).2⟩
  · exact ⟨a, ⟨mem_compilePages_of_unseen ha hseen, hsystem, h.resolve_right hseen⟩, rfl, rfl⟩

/-- An active check of the loop that misses something on its page. -/
theorem exists_checkUnmet_iff (hpages : PagesIn cx db) (hrefs : ReferencesHold db)
    (hgood : isHighQualityFullSnapshot cx.snapshot = true) {i : String × String} :
    (∃ a c, IsActiveCheck cx (compilePages cx db).db a c ∧
        CheckUnmet cx (compilePages cx db).db a c ∧ a.assetKey = i.1 ∧ c.checkCode = i.2) ↔
      LosesCheck cx db i := by
  obtain ⟨H, hH, hinv⟩ := compilePages_inv cx db
  constructor
  · rintro ⟨a', c, ⟨⟨ha', hsystem, hactive⟩, hc, hid, hcactive⟩, hunmet, hkey, hcode⟩
    rcases written_or_kept hH hinv hrefs hc with ⟨j, w, hw⟩ | ⟨hmem, a, ha, haid, hkept⟩
    · rw [checkUnmet_written_iff hH hinv hpages hw ha' hid, hkey, hcode] at hunmet
      exact Or.inl hunmet
    · have haa' : a'.id = a.id := hid.symm.trans haid.symm
      have hsame : AssetKept cx a a' := hinv.assets.evolves.of_mem ha ha' haa'
      rw [checkUnmet_kept_iff hpages hrefs ha ha' haa' hmem] at hunmet
      refine Or.inr ⟨a, c, ⟨ha, hsame.systemId.symm.trans hsystem, ?_, hmem, haid.symm, hcactive,
        hkept, hunmet⟩, hsame.assetKey.symm.trans hkey, hcode⟩
      by_cases hseen : IsSeen cx db a
      · exact Or.inr hseen
      · rw [Table.eq_of_key_eq ha' (mem_compilePages_of_unseen ha hseen) haa'] at hactive
        exact Or.inl hactive
  · rintro (hwritten | ⟨a, c, hold, hkey, hcode⟩)
    · have hloses := hwritten
      obtain ⟨w, page, hw, hpage, -, -⟩ := hwritten
      obtain ⟨a', r, ha', hr⟩ := exists_written_of_lastWrite hH hinv hw
      obtain ⟨b, hb, hcheck⟩ := touchedCheck_of_written hH hinv hr
      obtain ⟨a'', htouched, ha''⟩ := exists_touchedAsset_of_latest db hpage
      rw [ha', Option.some_inj] at ha''
      rw [← ha''] at htouched
      have hsel := checkSel_iff.mp (Table.pred_of_first? hr.2)
      have hakey := (assetSel_iff.mp (Table.pred_of_first? ha')).2
      have hamem := Table.mem_of_first? ha'
      refine ⟨a', r, ⟨⟨hamem, htouched.systemId, htouched.active hgood⟩,
        Table.mem_of_first? hr.2, hsel.1, hcheck.active hgood⟩, ?_, hakey, hsel.2⟩
      rw [checkUnmet_written_iff hH hinv hpages hr hamem hsel.1, hakey, hsel.2]
      exact hloses
    · obtain ⟨a', ha', hid, hkey'⟩ :=
        isActiveAsset_of_seen_or_active hgood hold.asset_mem hold.systemId hold.asset_active
      have hc := mem_compilePages_of_not_rewritten hrefs hold.asset_mem hold.check_mem
        hold.pageAssetId hold.kept
      refine ⟨a', c, ⟨ha', hc, hold.pageAssetId.trans hid.symm, hold.active⟩, ?_,
        hkey'.trans hkey, hcode⟩
      rw [checkUnmet_kept_iff hpages hrefs hold.asset_mem ha'.1 hid hold.check_mem]
      exact hold.unmet

/-- **A rewritten check is retired** when what was written last is lost. -/
theorem mem_retiredCheckIds_of_rewritten (hpages : PagesIn cx db) {a : PageAsset} {c : PageCheck}
    (h : IsRewritten cx db a c) :
    c.id ∈ (retirement cx db).retiredCheckIds ↔ (qualityGate cx db).allowRetirement = true ∧
      LosesWritten cx (a.assetKey, c.checkCode) := by
  obtain ⟨H, hH, hinv⟩ := compilePages_inv cx db
  obtain ⟨w, c', hlast, hid, hw⟩ := h.written hH hinv
  have hsel := checkSel_iff.mp (Table.pred_of_first? hw.2)
  obtain ⟨b, hb, hcheck⟩ := touchedCheck_of_written hH hinv hw
  obtain ⟨q, htouched, -⟩ := touchedAsset_of_first? hcheck.page_mem hb
  have hbmem := Table.mem_of_first? hb
  have hkept : AssetKept cx a b := hinv.assets.evolves.of_mem (assetSel_of_isRewritten h).1 hbmem
    (hcheck.pageAssetId.symm.trans hsel.1)
  have hunmet := checkUnmet_written_iff hH hinv hpages hw hbmem hcheck.pageAssetId
  rw [hkept.assetKey, hsel.2] at hunmet
  rw [mem_retirement_checks]
  refine and_congr_right fun hgate => ?_
  have hgood := isHighQuality_of_gate hgate
  have hactive : IsActiveCheck cx (compilePages cx db).db b c' :=
    ⟨⟨hbmem, htouched.systemId, htouched.active hgood⟩, Table.mem_of_first? hw.2,
      hcheck.pageAssetId, hcheck.active hgood⟩
  rw [← hunmet]
  constructor
  · rintro ⟨a₁, c₁, hc₁, hcase, hid₁⟩
    obtain ⟨rfl, rfl⟩ := hc₁.eq hactive (hid₁.trans hid.symm)
    exact hcase.resolve_left (htouched.not_missing hpages.compilePages)
  · exact fun hcase => ⟨b, c', hactive, Or.inr hcase, hid⟩

/-- **The checks that are brought back**: the retired ones that a good snapshot rewrites. -/
theorem mem_reactivatedCheckIds_iff (hrefs : ReferencesHold db) {c : PageCheck}
    (hc : c ∈ db.pageChecks) :
    c.id ∈ (compilePages cx db).reactivatedCheckIds ↔
      isHighQualityFullSnapshot cx.snapshot = true ∧ c.lifecycleStatus.retired = true ∧
        ∃ a, IsRewritten cx db a c := by
  obtain ⟨H, hH, hinv⟩ := compilePages_inv cx db
  constructor
  · intro hid
    obtain ⟨hgood, ⟨c₀, hc₀, hid₀, hretired⟩, i, w, r, hw, hrid⟩ := hinv.checks.reactivated _ hid
    rw [Table.eq_of_key_eq hc₀ hc hid₀] at hretired
    obtain ⟨a, ha, -⟩ := isRewritten_of_written hH hinv hrefs hw hc hrid
    exact ⟨hgood, hretired, a, ha⟩
  · rintro ⟨hgood, hretired, a, ha⟩
    obtain ⟨w, c', -, hid, hw⟩ := ha.written hH hinv
    exact hinv.checks.reactivates hgood c hc hretired _ w c' hw hid

/-- A check that was retired comes back, and is not lost again. -/
structure Revives (cx : CompileContext) (db : Db) (a : PageAsset) (c : PageCheck) : Prop where
  good : isHighQualityFullSnapshot cx.snapshot = true
  retired : c.lifecycleStatus.retired = true
  rewritten : IsRewritten cx db a c
  kept : (qualityGate cx db).allowRetirement = true → ¬ LosesWritten cx (a.assetKey, c.checkCode)

theorem isResumed_iff (hpages : PagesIn cx db) (hrefs : ReferencesHold db) {c : PageCheck}
    (hc : c ∈ db.pageChecks) :
    IsResumed (compilePages cx db).reactivatedCheckIds (retirement cx db) c.id ↔
      ∃ a, Revives cx db a c := by
  unfold IsResumed
  rw [mem_reactivatedCheckIds_iff hrefs hc]
  constructor
  · rintro ⟨⟨hgood, hretired, a, ha⟩, hkept⟩
    rw [mem_retiredCheckIds_of_rewritten hpages ha, not_and] at hkept
    exact ⟨a, hgood, hretired, ha, hkept⟩
  · rintro ⟨a, h⟩
    refine ⟨⟨h.good, h.retired, a, h.rewritten⟩, ?_⟩
    rw [mem_retiredCheckIds_of_rewritten hpages h.rewritten, not_and]
    exact h.kept

/-- Only checks that were there are resumed. -/
theorem exists_check_of_isResumed {id : UUID}
    (h : IsResumed (compilePages cx db).reactivatedCheckIds (retirement cx db) id) :
    ∃ c ∈ db.pageChecks, c.id = id := by
  obtain ⟨H, -, hinv⟩ := compilePages_inv cx db
  obtain ⟨-, ⟨c, hc, hid, -⟩, -⟩ := hinv.checks.reactivated _ h.1
  exact ⟨c, hc, hid⟩

end Checks

/-! ## The aliases that are switched -/

section Aliases

variable {cx : CompileContext} {db : Db}

/-- What an alias stands for is lost: an asset under its key, or a check under its key and code. -/
def LosesTarget (cx : CompileContext) (db : Db) (row : IntentAlias) : Prop :=
  row.assetKey ≠ "" ∧ ((∃ a, LosesAsset cx db a ∧ a.assetKey = row.assetKey) ∨
    row.checkAlias ≠ "" ∧ LosesCheck cx db (row.assetKey, row.checkAlias))

/-- A check under the key and the code of an alias comes back. -/
def RevivesTarget (cx : CompileContext) (db : Db) (row : IntentAlias) : Prop :=
  row.assetKey ≠ "" ∧ row.checkAlias ≠ "" ∧
    ∃ a c, Revives cx db a c ∧ a.assetKey = row.assetKey ∧ c.checkCode = row.checkAlias

theorem targetsAlias_retired_iff (hpages : PagesIn cx db) (hrefs : ReferencesHold db)
    {row : IntentAlias} :
    RetiresKey cx (compilePages cx db).db (retirement cx db) row.assetKey ∨
        TargetsAlias cx (compilePages cx db).db (· ∈ (retirement cx db).retiredCheckIds) row ↔
      (qualityGate cx db).allowRetirement = true ∧ LosesTarget cx db row := by
  rw [retiresKey_iff hpages]
  unfold LosesTarget TargetsAlias
  constructor
  · rintro (⟨hkey, hgate, hasset⟩ | ⟨hkey, hcode, a, c, hc, hretired, hakey, hccode⟩)
    · exact ⟨hgate, hkey, Or.inl hasset⟩
    · obtain ⟨hgate, b, d, hd, hcase, hid⟩ := mem_retirement_checks.mp hretired
      obtain ⟨rfl, rfl⟩ := hd.eq hc hid
      refine ⟨hgate, hkey, ?_⟩
      rcases hcase with hmissing | hunmet
      · exact Or.inl ⟨b, (isActive_missing_iff hpages).mp ⟨hc.1, hmissing⟩, hakey⟩
      · exact Or.inr ⟨hcode, (exists_checkUnmet_iff hpages hrefs (isHighQuality_of_gate hgate)).mp
          ⟨b, d, hc, hunmet, hakey, hccode⟩⟩
  · rintro ⟨hgate, hkey, hasset | ⟨hcode, hcheck⟩⟩
    · exact Or.inl ⟨hkey, hgate, hasset⟩
    · obtain ⟨a, c, hc, hunmet, hakey, hccode⟩ :=
        (exists_checkUnmet_iff hpages hrefs (isHighQuality_of_gate hgate)).mpr hcheck
      exact Or.inr ⟨hkey, hcode, a, c, hc,
        mem_retirement_checks.mpr ⟨hgate, a, c, hc, Or.inr hunmet, rfl⟩, hakey, hccode⟩

/-- **The aliases to disable.** -/
theorem mem_aliasIdsToDisable_iff (hpages : PagesIn cx db) (hrefs : ReferencesHold db)
    {row : IntentAlias} (hrow : row ∈ (compilePages cx db).db.intentAliases) :
    row.id ∈ (compileDecisions cx db).aliasIdsToDisable ↔
      row.isActive = true ∧ (qualityGate cx db).allowRetirement = true ∧ LosesTarget cx db row := by
  unfold compileDecisions
  rw [mem_aliasIdsToDisable, intentAliases_retirement]
  constructor
  · rintro ⟨b, hb, hactive, hcase, hid⟩
    rw [Table.eq_of_key_eq hb hrow hid] at hactive hcase
    exact ⟨hactive, (targetsAlias_retired_iff hpages hrefs).mp hcase⟩
  · rintro ⟨hactive, hcase⟩
    exact ⟨row, hrow, hactive, (targetsAlias_retired_iff hpages hrefs).mpr hcase, rfl⟩

theorem targetsAlias_resumed_iff (hpages : PagesIn cx db) (hrefs : ReferencesHold db)
    {row : IntentAlias} :
    TargetsAlias cx (compilePages cx db).db
        (IsResumed (compilePages cx db).reactivatedCheckIds (retirement cx db)) row ↔
      RevivesTarget cx db row := by
  obtain ⟨H, hH, hinv⟩ := compilePages_inv cx db
  unfold TargetsAlias RevivesTarget
  refine and_congr_right fun _ => and_congr_right fun _ => ?_
  constructor
  · rintro ⟨a', c', hc', hresumed, hkey, hcode⟩
    obtain ⟨c, hc, hid⟩ := exists_check_of_isResumed hresumed
    rw [← hid] at hresumed
    obtain ⟨a, ha⟩ := (isResumed_iff hpages hrefs hc).mp hresumed
    have hkept : CheckKept cx c c' := hinv.checks.evolves.of_mem hc hc'.2.1 hid.symm
    have hmem := assetSel_of_isRewritten ha.rewritten
    have hasset : AssetKept cx a a' := hinv.assets.evolves.of_mem hmem.1 hc'.1.1
      (hc'.2.2.1.symm.trans (hkept.pageAssetId.trans hmem.2.2))
    exact ⟨a, c, ha, hasset.assetKey.symm.trans hkey, hkept.checkCode.symm.trans hcode⟩
  · rintro ⟨a, c, ha, hkey, hcode⟩
    have hmem := assetSel_of_isRewritten ha.rewritten
    obtain ⟨w, c', -, hid, hw⟩ := ha.rewritten.written hH hinv
    obtain ⟨b, hb, hcheck⟩ := touchedCheck_of_written hH hinv hw
    obtain ⟨q, htouched, -⟩ := touchedAsset_of_first? hcheck.page_mem hb
    have hkept : CheckKept cx c c' :=
      hinv.checks.evolves.of_mem hmem.2.1 (Table.mem_of_first? hw.2) hid
    have hasset : AssetKept cx a b := hinv.assets.evolves.of_mem hmem.1 (Table.mem_of_first? hb)
      (hcheck.pageAssetId.symm.trans (hkept.pageAssetId.trans hmem.2.2))
    refine ⟨b, c', ⟨⟨Table.mem_of_first? hb, htouched.systemId, htouched.active ha.good⟩,
      Table.mem_of_first? hw.2, hcheck.pageAssetId, hcheck.active ha.good⟩, ?_,
      hasset.assetKey.trans hkey, hkept.checkCode.trans hcode⟩
    rw [hid]
    exact (isResumed_iff hpages hrefs hmem.2.1).mpr ⟨a, ha⟩

/-- **The aliases to enable.** -/
theorem mem_aliasIdsToEnable_iff (hpages : PagesIn cx db) (hrefs : ReferencesHold db)
    {row : IntentAlias} (hrow : row ∈ (compilePages cx db).db.intentAliases) :
    row.id ∈ (compileDecisions cx db).aliasIdsToEnable ↔
      row.isActive = false ∧ isSystemDisabledAlias row = true ∧ RevivesTarget cx db row := by
  unfold compileDecisions
  rw [mem_aliasIdsToEnable, intentAliases_retirement]
  constructor
  · rintro ⟨b, hb, hactive, hsystem, hcase, hid⟩
    rw [Table.eq_of_key_eq hb hrow hid] at hactive hsystem hcase
    exact ⟨hactive, hsystem, (targetsAlias_resumed_iff hpages hrefs).mp hcase⟩
  · rintro ⟨hactive, hsystem, hcase⟩
    exact ⟨row, hrow, hactive, hsystem, (targetsAlias_resumed_iff hpages hrefs).mpr hcase, rfl⟩

/-! ## The aliases that are refreshed -/

/-- The columns by which an alias is recognised. -/
structure AliasIndex where
  systemAlias : String
  pageAlias : String
  checkCode : String
  assetKey : String
  deriving DecidableEq

/-- Aliases by these columns. -/
def aliasSel (i : AliasIndex) (row : IntentAlias) : Bool :=
  isAliasFor i.systemAlias i.pageAlias i.checkCode i.assetKey row

theorem aliasSel_iff {i : AliasIndex} {row : IntentAlias} :
    aliasSel i row = true ↔ row.systemAlias = i.systemAlias ∧ row.pageAlias = some i.pageAlias ∧
      row.checkAlias = i.checkCode ∧ row.assetKey = i.assetKey := by
  unfold aliasSel isAliasFor
  simp [and_assoc]

theorem disjoint_aliasSel : Table.Disjoint aliasSel := by
  intro i j row hi hj
  obtain ⟨hsystem, hpage, hcode, hkey⟩ := aliasSel_iff.mp hi
  obtain ⟨hsystem', hpage', hcode', hkey'⟩ := aliasSel_iff.mp hj
  rw [hsystem] at hsystem'
  rw [hpage, Option.some_inj] at hpage'
  rw [hcode] at hcode'
  rw [hkey] at hkey'
  cases i
  cases j
  simp_all

/-- The columns of the alias of a check under a name of the system. -/
def aliasIndex (cx : CompileContext) (w : CheckWrite) (systemAlias : String) : AliasIndex :=
  ⟨systemAlias, pageAliasOf w.1, w.2.checkCode, assetKeyOf cx w.1⟩

/-- The aliases of the loop with the pages they are written for, in their order. -/
def aliasHistory (cx : CompileContext) (writes : List CheckWrite) : List (AliasIndex × Page) :=
  writes.flatMap fun w =>
    [(aliasIndex cx w cx.system.code, w.1), (aliasIndex cx w cx.system.name, w.1)]

/-- A row that a page has refreshed. -/
def AliasContent (page : Page) (row : IntentAlias) : Prop :=
  refreshIntentAlias page row = row

/-- **The aliases after the loop**: the aliases of each check, one check after the other. -/
theorem intentAliases_compilePages :
    (compilePages cx db).db.intentAliases =
      (checkWrites cx cx.pages).foldl
        (fun t w => ensureIntentAliases cx.ids cx.system w.1 (assetKeyOf cx w.1) w.2.checkCode t)
        db.intentAliases := by
  have hchecks : ∀ (page : Page) (asset : PageAsset), asset.assetKey = assetKeyOf cx page →
      ∀ (l : List StandardCheckDefinition) (st : CompileState),
        (l.foldl (compileCheck cx page asset) st).db.intentAliases =
          (l.map fun d => (page, d)).foldl
            (fun t w => ensureIntentAliases cx.ids cx.system w.1 (assetKeyOf cx w.1) w.2.checkCode
              t) st.db.intentAliases := by
    intro page asset hkey l
    induction l with
    | nil => exact fun _ => rfl
    | cons d l ih =>
      intro st
      rw [List.foldl_cons, ih, List.map_cons, List.foldl_cons, ← hkey]
      rfl
  have hpages : ∀ (l : List Page) (st : CompileState),
      (l.foldl (compilePage cx) st).db.intentAliases =
        (checkWrites cx l).foldl
          (fun t w => ensureIntentAliases cx.ids cx.system w.1 (assetKeyOf cx w.1) w.2.checkCode t)
          st.db.intentAliases := by
    intro l
    induction l with
    | nil => exact fun _ => rfl
    | cons page l ih =>
      intro st
      have hrow := assetRow_compileAsset cx page st.db
      rw [List.foldl_cons, ih, show checkWrites cx (page :: l) =
        (standardChecks cx page).map (fun d => (page, d)) ++ checkWrites cx l from rfl,
        List.foldl_append]
      exact congrArg (fun t => List.foldl _ t _) (hchecks page _ hrow.assetKey _ _)
  exact hpages cx.pages { db := db }

variable (cx) in
/-- What one alias of a check leaves behind. -/
theorem written_ensureIntentAlias {history : List (AliasIndex × Page)} {t t' : Table IntentAlias}
    (h : Table.Written aliasSel AliasContent history t t') (w : CheckWrite) (systemAlias : String) :
    Table.Written aliasSel AliasContent (history ++ [(aliasIndex cx w systemAlias, w.1)]) t
      (ensureIntentAlias cx.ids w.1 (assetKeyOf cx w.1) w.2.checkCode systemAlias t').1 := by
  refine h.write disjoint_aliasSel
    (writes_ensureIntentAlias cx.ids w.1 (assetKeyOf cx w.1) w.2.checkCode systemAlias t') ?_
  obtain ⟨b, hb⟩ : ∃ b, (ensureIntentAlias cx.ids w.1 (assetKeyOf cx w.1) w.2.checkCode systemAlias
      t').2 = refreshIntentAlias w.1 b := Table.exists_upsert_snd
  unfold AliasContent
  rw [hb]
  rfl

variable (cx db) in
/-- **What the loop leaves of the aliases.** -/
theorem written_intentAliases :
    Table.Written aliasSel AliasContent (aliasHistory cx (checkWrites cx cx.pages))
      db.intentAliases (compilePages cx db).db.intentAliases := by
  rw [intentAliases_compilePages]
  induction checkWrites cx cx.pages using List.reverseRecOn with
  | nil => exact Table.Written.refl _
  | append_singleton l w ih =>
    rw [List.foldl_append, List.foldl_cons, List.foldl_nil]
    have hcode := written_ensureIntentAlias cx ih w cx.system.code
    have hname := written_ensureIntentAlias cx hcode w cx.system.name
    have hhistory : aliasHistory cx (l ++ [w]) = aliasHistory cx l ++
        [(aliasIndex cx w cx.system.code, w.1)] ++ [(aliasIndex cx w cx.system.name, w.1)] := by
      unfold aliasHistory
      rw [List.flatMap_append, List.flatMap_singleton, List.append_assoc]
      rfl
    rw [hhistory]
    exact hname

/-- The loop finds the alias for a check of the page, the last of those that find it. -/
def IsRefreshed (cx : CompileContext) (db : Db) (row : IntentAlias) (page : Page) : Prop :=
  ∃ i, Dict.latest (aliasHistory cx (checkWrites cx cx.pages)) i = some page ∧
    db.intentAliases.first? (aliasSel i) = some row

theorem refreshIntentAlias_of_aliasCore {row row' : IntentAlias} (page : Page)
    (h : aliasCore row' = aliasCore row) :
    refreshIntentAlias page row' = refreshIntentAlias page row := by
  have hrefresh := congrArg (refreshIntentAlias page) h
  exact hrefresh

variable (cx) in
/-- **An alias during the loop** is refreshed, or stays as it is. -/
theorem alias_compilePages {row : IntentAlias} (hrow : row ∈ db.intentAliases) :
    ∃ row' ∈ (compilePages cx db).db.intentAliases, row'.id = row.id ∧
      aliasCore row' = aliasCore row ∧
        ((∃ page, IsRefreshed cx db row page ∧ row' = refreshIntentAlias page row) ∨
          (∀ page, ¬ IsRefreshed cx db row page) ∧ row' = row) := by
  obtain ⟨H, -, hinv⟩ := compilePages_inv cx db
  obtain ⟨row', hrow', hid, hcore⟩ := hinv.aliases.evolves.kept row hrow
  have hwritten := written_intentAliases cx db
  refine ⟨row', hrow', hid, hcore, ?_⟩
  by_cases hrefreshed : ∃ page, IsRefreshed cx db row page
  · obtain ⟨page, i, hlatest, hfirst⟩ := hrefreshed
    refine Or.inl ⟨page, ⟨i, hlatest, hfirst⟩, ?_⟩
    obtain ⟨r, hr, hcontent⟩ := hwritten.found i page hlatest
    obtain ⟨b, hb, hbid⟩ := hwritten.stable i row hfirst
    rw [hr, Option.some_inj] at hb
    have hsame : r = row' := Table.eq_of_key_eq (Table.mem_of_first? hr) hrow'
      ((congrArg key hb).trans (hbid.trans hid.symm))
    rw [hsame] at hcontent
    rw [← hcontent]
    exact refreshIntentAlias_of_aliasCore page hcore
  · refine Or.inr ⟨fun page h => hrefreshed ⟨page, h⟩, ?_⟩
    rcases hwritten.kept row hrow with hmem | ⟨i, page, r, hlatest, hr, hrid⟩
    · exact Table.eq_of_key_eq hrow' hmem hid
    · have hsame : r = row' := Table.eq_of_key_eq (Table.mem_of_first? hr) hrow'
        (hrid.trans hid.symm)
      have hsel : aliasSel i row = true := by
        have hpred := Table.pred_of_first? hr
        unfold aliasSel at hpred ⊢
        rw [hsame, isAliasFor_of_aliasCore hcore] at hpred
        exact hpred
      refine absurd ⟨page, i, hlatest, ?_⟩ hrefreshed
      cases hfirst : db.intentAliases.first? (aliasSel i) with
      | none =>
        rw [Table.first?_eq_none_iff.mp hfirst row hrow] at hsel
        exact absurd hsel Bool.false_ne_true
      | some b =>
        obtain ⟨b', hb', hbid⟩ := hwritten.stable i b hfirst
        rw [hr, Option.some_inj] at hb'
        subst hb'
        rw [Table.eq_of_key_eq (Table.mem_of_first? hfirst) hrow (hbid.symm.trans hrid)]

end Aliases

end AssetCompiler

end Runlet
