import Runlet.AssetCompiler.PageLoopSpec

/-!
# The invariant of the page loop

What holds of the assets, the checks and the aliases after a part of the loop: `A` lists the pages
whose asset was written, and `H` the checks that were written, each under its index.  Every write
keeps the three invariants (`AssetsInv.compileAsset`, `ChecksInv.compileCheck`,
`AliasesInv.compileCheck`), so they hold after the loop: `compilePages_inv`.
-/

namespace Runlet

open KeyedTable

namespace AssetCompiler

/-- A check to be written: a page and one of its definitions. -/
abbrev CheckWrite := Page × StandardCheckDefinition

/-- The checks of a compile, in the order of the loop. -/
def checkWrites (cx : CompileContext) (pages : List Page) : List CheckWrite :=
  pages.flatMap fun page => (standardChecks cx page).map fun definition => (page, definition)

theorem mem_checkWrites {cx : CompileContext} {pages : List Page} {w : CheckWrite} :
    w ∈ checkWrites cx pages ↔ w.1 ∈ pages ∧ w.2 ∈ standardChecks cx w.1 := by
  unfold checkWrites
  rw [List.mem_flatMap]
  constructor
  · rintro ⟨page, hpage, hw⟩
    obtain ⟨definition, hd, rfl⟩ := List.mem_map.mp hw
    exact ⟨hpage, hd⟩
  · rintro ⟨hpage, hd⟩
    exact ⟨w.1, hpage, List.mem_map.mpr ⟨w.2, hd, rfl⟩⟩

/-! ## Assets -/

section Assets

variable (cx : CompileContext)

/-- What the loop leaves of the lifecycle of a row it may have touched. -/
def LifecycleKept (l l' : Lifecycle) : Prop :=
  l' = l ∨ l' = l.touch (isHighQualityFullSnapshot cx.snapshot)

theorem LifecycleKept.refl (l : Lifecycle) : LifecycleKept cx l l := Or.inl rfl

theorem LifecycleKept.trans {l l' l'' : Lifecycle} (h : LifecycleKept cx l l')
    (h' : LifecycleKept cx l' l'') : LifecycleKept cx l l'' := by
  rcases h with rfl | rfl
  · exact h'
  · rcases h' with rfl | rfl
    · exact Or.inr rfl
    · exact Or.inr (Lifecycle.touch_touch _ _)

theorem LifecycleKept.of_alive {l : Lifecycle} (h : LifecycleKept cx .alive l) : l = .alive := by
  rcases h with rfl | rfl
  · rfl
  · exact Lifecycle.touch_of_active _ rfl

/-- An active row stays as it is. -/
theorem LifecycleKept.of_active {l l' : Lifecycle} (h : LifecycleKept cx l l')
    (hl : l.status = .active) : l' = l := by
  rcases h with rfl | rfl
  · rfl
  · exact Lifecycle.touch_of_active _ hl

/-- A row that is retired afterwards was not touched by a good snapshot. -/
theorem LifecycleKept.of_retired {l l' : Lifecycle} (h : LifecycleKept cx l l')
    (hl : l'.status ≠ .active) : l' = l := by
  rcases h with rfl | rfl
  · rfl
  · rcases Lifecycle.touch_eq_or (isHighQualityFullSnapshot cx.snapshot) l with h | ⟨-, h⟩
    · exact h
    · rw [h] at hl
      exact absurd rfl hl

theorem LifecycleKept.wellFormed {l l' : Lifecycle} (h : LifecycleKept cx l l')
    (hl : l.WellFormed) : l'.WellFormed := by
  rcases h with rfl | rfl
  · exact hl
  · exact hl.touch _

structure AssetKept (a a' : PageAsset) : Prop where
  systemId : a'.systemId = a.systemId
  assetKey : a'.assetKey = a.assetKey
  lifecycle : LifecycleKept cx a.lifecycle a'.lifecycle

theorem AssetKept.refl (a : PageAsset) : AssetKept cx a a :=
  ⟨rfl, rfl, LifecycleKept.refl cx _⟩

theorem AssetKept.trans {a b c : PageAsset} (h : AssetKept cx a b) (h' : AssetKept cx b c) :
    AssetKept cx a c :=
  ⟨h'.systemId.trans h.systemId, h'.assetKey.trans h.assetKey,
    LifecycleKept.trans cx h.lifecycle h'.lifecycle⟩

/-- An asset the loop created. -/
structure NewAsset (A : List Page) (a : PageAsset) : Prop where
  systemId : a.systemId = cx.system.id
  assetKey : ∃ page ∈ A, a.assetKey = assetKeyOf cx page
  lifecycle : a.lifecycle = .alive

theorem NewAsset.of_kept {A : List Page} {a a' : PageAsset} (h : NewAsset cx A a)
    (h' : AssetKept cx a a') : NewAsset cx A a' := by
  obtain ⟨page, hpage, hkey⟩ := h.assetKey
  refine ⟨h'.systemId.trans h.systemId, ⟨page, hpage, h'.assetKey.trans hkey⟩, ?_⟩
  have hkept := h'.lifecycle
  rw [h.lifecycle] at hkept
  exact LifecycleKept.of_alive cx hkept

theorem NewAsset.mono {A : List Page} {a : PageAsset} (page : Page) (h : NewAsset cx A a) :
    NewAsset cx (A ++ [page]) a := by
  obtain ⟨q, hq, hkey⟩ := h.assetKey
  exact ⟨h.systemId, ⟨q, List.mem_append_left _ hq, hkey⟩, h.lifecycle⟩

/-- What the asset of a page holds after the page was seen. -/
def AssetContent (page : Page) (r : PageAsset) : Prop :=
  r.pageId = page.id ∧
    (isHighQualityFullSnapshot cx.snapshot = true → r.lifecycleStatus = .active)

/-- The pages seen, under their indices. -/
def assetHistory (A : List Page) : List ((UUID × String) × Page) :=
  A.map fun page => (assetIndex cx page, page)

structure AssetsInv (A : List Page) (t₀ t : Table PageAsset) : Prop where
  written : Table.Written assetSel (AssetContent cx) (assetHistory cx A) t₀ t
  evolves : Table.Evolves (AssetKept cx) (NewAsset cx A) t₀ t

theorem AssetsInv.refl (t : Table PageAsset) : AssetsInv cx [] t t :=
  ⟨Table.Written.refl t, Table.Evolves.refl (AssetKept.refl cx) t⟩

theorem AssetRow.content {page : Page} {old : Option PageAsset} {r : PageAsset}
    (h : AssetRow cx page old r) : AssetContent cx page r := by
  refine ⟨h.pageId, fun hq => ?_⟩
  have hlife : r.lifecycle.status = .active := by
    rw [h.lifecycle]
    cases old with
    | none => rfl
    | some a => exact (Lifecycle.status_touch_eq_active_iff _ _).mpr (Or.inl hq)
  exact hlife

theorem AssetsInv.compileAsset {A : List Page} {t₀ : Table PageAsset} {db : Db}
    (h : AssetsInv cx A t₀ db.pageAssets) (page : Page) :
    AssetsInv cx (A ++ [page]) t₀ (compileAsset cx page db).1.pageAssets := by
  have hw := writes_compileAsset cx page db
  have hrow := assetRow_compileAsset cx page db
  constructor
  · have hist : assetHistory cx (A ++ [page]) =
        assetHistory cx A ++ [(assetIndex cx page, page)] := by
      rw [assetHistory, List.map_append]
      rfl
    rw [hist]
    exact h.written.write disjoint_assetSel hw (AssetRow.content cx hrow)
  · refine Table.Evolves.trans (fun _ _ _ => AssetKept.trans cx) (fun _ _ => NewAsset.of_kept cx)
      (h.evolves.mono (fun _ _ => id) fun _ => NewAsset.mono cx page) ?_
    refine hw.evolves (AssetKept.refl cx) ?_ ?_
    · intro a ha _
      have hsel := assetSel_iff.mp (Table.pred_of_first? ha)
      refine ⟨hrow.systemId.trans hsel.1.symm, hrow.assetKey.trans hsel.2.symm, Or.inr ?_⟩
      rw [hrow.lifecycle, ha]
    · intro hfresh
      have hnone : db.pageAssets.first? (assetSel (assetIndex cx page)) = none := by
        rcases hw.origin with ⟨a, ha, hk⟩ | ⟨hnone, -⟩
        · exact absurd hk (hfresh a (Table.mem_of_first? ha))
        · exact hnone
      refine ⟨hrow.systemId, ⟨page, List.mem_append_right _ List.mem_cons_self, hrow.assetKey⟩, ?_⟩
      rw [hrow.lifecycle, hnone]

/-- An asset that was found keeps its identifier. -/
theorem exists_first?_compileAsset (page : Page) {db : Db} {i : UUID × String} {a : PageAsset}
    (h : db.pageAssets.first? (assetSel i) = some a) :
    ∃ b, (compileAsset cx page db).1.pageAssets.first? (assetSel i) = some b ∧ b.id = a.id := by
  have hw : Table.Written assetSel (AssetContent cx) _ db.pageAssets _ :=
    (Table.Written.refl db.pageAssets).write disjoint_assetSel (writes_compileAsset cx page db)
      (AssetRow.content cx (assetRow_compileAsset cx page db))
  exact hw.stable i a h

end Assets

/-! ## Checks -/

section Checks

variable (cx : CompileContext)

structure CheckKept (c c' : PageCheck) : Prop where
  pageAssetId : c'.pageAssetId = c.pageAssetId
  checkCode : c'.checkCode = c.checkCode
  lifecycle : LifecycleKept cx c.lifecycle c'.lifecycle

theorem CheckKept.refl (c : PageCheck) : CheckKept cx c c :=
  ⟨rfl, rfl, LifecycleKept.refl cx _⟩

theorem CheckKept.trans {a b c : PageCheck} (h : CheckKept cx a b) (h' : CheckKept cx b c) :
    CheckKept cx a c :=
  ⟨h'.pageAssetId.trans h.pageAssetId, h'.checkCode.trans h.checkCode,
    LifecycleKept.trans cx h.lifecycle h'.lifecycle⟩

/-- The checks written, each under its index. -/
abbrev CheckHistory := List ((UUID × String) × CheckWrite)

/-- A check the loop created. -/
structure NewCheck (H : CheckHistory) (c : PageCheck) : Prop where
  index : ∃ w, ((c.pageAssetId, c.checkCode), w) ∈ H
  lifecycle : c.lifecycle = .alive

theorem NewCheck.of_kept {H : CheckHistory} {c c' : PageCheck} (h : NewCheck H c)
    (h' : CheckKept cx c c') : NewCheck H c' := by
  refine ⟨?_, ?_⟩
  · rw [h'.pageAssetId, h'.checkCode]
    exact h.index
  · have hkept := h'.lifecycle
    rw [h.lifecycle] at hkept
    exact LifecycleKept.of_alive cx hkept

theorem NewCheck.mono {H : CheckHistory} {c : PageCheck} (e : (UUID × String) × CheckWrite)
    (h : NewCheck H c) : NewCheck (H ++ [e]) c := by
  obtain ⟨w, hw⟩ := h.index
  exact ⟨⟨w, List.mem_append_left _ hw⟩, h.lifecycle⟩

/-- What the row of a check holds after its definition was read. -/
def CheckContent (w : CheckWrite) (r : PageCheck) : Prop :=
  r.blockingDependencyJson = some (blockingDependencies cx w.1 w.2) ∧
    (isHighQualityFullSnapshot cx.snapshot = true → r.lifecycleStatus = .active)

theorem CheckRow.content {page : Page} {asset : PageAsset} {definition : StandardCheckDefinition}
    {old : Option PageCheck} {r : PageCheck} (h : CheckRow cx page asset definition old r) :
    CheckContent cx (page, definition) r := by
  refine ⟨h.blockingDependencyJson, fun hq => ?_⟩
  have hlife : r.lifecycle.status = .active := by
    rw [h.lifecycle]
    cases old with
    | none => rfl
    | some c => exact (Lifecycle.status_touch_eq_active_iff _ _).mpr (Or.inl hq)
  exact hlife

/-- The row of a check that was written, with its index and what was written last. -/
def WrittenCheck (H : CheckHistory) (t : Table PageCheck) (i : UUID × String) (w : CheckWrite)
    (r : PageCheck) : Prop :=
  Dict.latest H i = some w ∧ t.first? (checkSel i) = some r

structure ChecksInv (H : CheckHistory) (db₀ : Db) (st : CompileState) : Prop where
  named : ∀ e ∈ H, e.1.2 = e.2.2.checkCode ∧
    ∃ a, st.db.pageAssets.first? (assetSel (assetIndex cx e.2.1)) = some a ∧ a.id = e.1.1
  written : Table.Written checkSel (CheckContent cx) H db₀.pageChecks st.db.pageChecks
  evolves : Table.Evolves (CheckKept cx) (NewCheck H) db₀.pageChecks st.db.pageChecks
  /-- The checks listed as compiled are the ones that were written. -/
  listed : ∀ id, id ∈ st.pageCheckIds ↔ ∃ i w r, WrittenCheck H st.db.pageChecks i w r ∧ r.id = id
  /-- The checks listed as reactivated were retired before and were written. -/
  reactivated : ∀ id ∈ st.reactivatedCheckIds,
    isHighQualityFullSnapshot cx.snapshot = true ∧
      (∃ c ∈ db₀.pageChecks, c.id = id ∧ c.lifecycleStatus.retired = true) ∧
      ∃ i w r, WrittenCheck H st.db.pageChecks i w r ∧ r.id = id
  /-- A check that was retired before and was written is listed as reactivated. -/
  reactivates : isHighQualityFullSnapshot cx.snapshot = true →
    ∀ c ∈ db₀.pageChecks, c.lifecycleStatus.retired = true →
      ∀ i w r, WrittenCheck H st.db.pageChecks i w r → r.id = c.id → c.id ∈ st.reactivatedCheckIds

theorem ChecksInv.refl (db : Db) (st : CompileState) (hst : st.db = db)
    (hlisted : st.pageCheckIds = []) (hreact : st.reactivatedCheckIds = []) :
    ChecksInv cx [] db st := by
  subst hst
  refine ⟨by simp, Table.Written.refl _, Table.Evolves.refl (CheckKept.refl cx) _, ?_, ?_, ?_⟩
  · intro id
    rw [hlisted]
    simp [WrittenCheck]
  · rw [hreact]
    simp
  · intro _ c _ _ i w r hw
    simp [WrittenCheck] at hw

/-- Writing an asset does not disturb the checks. -/
theorem ChecksInv.compileAsset {H : CheckHistory} {db₀ : Db} {st st' : CompileState}
    (h : ChecksInv cx H db₀ st) (page : Page)
    (hdb : st'.db = (compileAsset cx page st.db).1)
    (hlisted : st'.pageCheckIds = st.pageCheckIds)
    (hreact : st'.reactivatedCheckIds = st.reactivatedCheckIds) : ChecksInv cx H db₀ st' := by
  have hchecks : st'.db.pageChecks = st.db.pageChecks := by rw [hdb]; rfl
  have hassets : st'.db.pageAssets = (AssetCompiler.compileAsset cx page st.db).1.pageAssets := by
    rw [hdb]
  refine ⟨?_, hchecks ▸ h.written, hchecks ▸ h.evolves, ?_, ?_, ?_⟩
  · intro e he
    obtain ⟨hcode, a, ha, hid⟩ := h.named e he
    obtain ⟨b, hb, hba⟩ := exists_first?_compileAsset cx page ha
    exact ⟨hcode, b, by rw [hassets, hb], hba.trans hid⟩
  · rw [hlisted, hchecks]
    exact h.listed
  · rw [hreact, hchecks]
    exact h.reactivated
  · rw [hreact, hchecks]
    exact h.reactivates

section Step

variable {H : CheckHistory} {db₀ : Db} {st : CompileState} {page : Page} {asset : PageAsset}
  {definition : StandardCheckDefinition}

/-- A written check before a turn is a written check after it. -/
theorem WrittenCheck.step {i : UUID × String} {w : CheckWrite} {r : PageCheck}
    (hw : WrittenCheck H st.db.pageChecks i w r) (page : Page) (asset : PageAsset)
    (definition : StandardCheckDefinition) :
    ∃ w' r', WrittenCheck (H ++ [((asset.id, definition.checkCode), (page, definition))])
      (compileCheck cx page asset st definition).db.pageChecks i w' r' ∧ r'.id = r.id := by
  have hwrites := writes_compileCheck cx page asset st definition
  by_cases hi : (asset.id, definition.checkCode) = i
  · subst hi
    refine ⟨(page, definition), _, ⟨Dict.latest_append_self H _ _, hwrites.first?⟩, ?_⟩
    rcases hwrites.origin with ⟨c, hc, hk⟩ | ⟨hnone, -⟩
    · rw [hw.2, Option.some_inj] at hc
      rw [hc]
      exact hk.symm
    · rw [hw.2] at hnone
      exact absurd hnone (Option.some_ne_none r)
  · refine ⟨w, r, ⟨?_, ?_⟩, rfl⟩
    · rw [Dict.latest_append_of_ne H hi]
      exact hw.1
    · rw [hwrites.first?_of_disjoint fun a ha => disjoint_checkSel.eq_false hi a ha]
      exact hw.2

/-- A written check after a turn is the one the turn wrote, or was written before it. -/
theorem WrittenCheck.of_step {i : UUID × String} {w : CheckWrite} {r : PageCheck}
    (hw : WrittenCheck (H ++ [((asset.id, definition.checkCode), (page, definition))])
      (compileCheck cx page asset st definition).db.pageChecks i w r) :
    (i = (asset.id, definition.checkCode) ∧ r = compiledCheck cx page asset st definition) ∨
      WrittenCheck H st.db.pageChecks i w r := by
  have hwrites := writes_compileCheck cx page asset st definition
  by_cases hi : (asset.id, definition.checkCode) = i
  · subst hi
    refine Or.inl ⟨rfl, ?_⟩
    have hr := hw.2
    rw [hwrites.first?, Option.some_inj] at hr
    exact hr.symm
  · refine Or.inr ⟨?_, ?_⟩
    · rw [← Dict.latest_append_of_ne H hi]
      exact hw.1
    · rw [← hwrites.first?_of_disjoint fun a ha => disjoint_checkSel.eq_false hi a ha]
      exact hw.2

/-- The index a turn writes to holds the row that it wrote. -/
theorem writtenCheck_compileCheck :
    WrittenCheck (H ++ [((asset.id, definition.checkCode), (page, definition))])
      (compileCheck cx page asset st definition).db.pageChecks (asset.id, definition.checkCode)
      (page, definition) (compiledCheck cx page asset st definition) :=
  ⟨Dict.latest_append_self H _ _, (writes_compileCheck cx page asset st definition).first?⟩

/-- A check that is found retired during the loop was retired before the loop. -/
theorem ChecksInv.retired_before (h : ChecksInv cx H db₀ st) {i : UUID × String} {c : PageCheck}
    (hc : st.db.pageChecks.first? (checkSel i) = some c)
    (hretired : c.lifecycleStatus.retired = true) :
    ∃ c₀ ∈ db₀.pageChecks, c₀.id = c.id ∧ c₀.lifecycleStatus.retired = true := by
  rw [AssetLifecycleStatus.retired_eq_true_iff] at hretired
  rcases h.evolves.source c (Table.mem_of_first? hc) with ⟨c₀, hc₀, hk, hkept⟩ | ⟨-, hnew⟩
  · refine ⟨c₀, hc₀, hk, ?_⟩
    have hlife := LifecycleKept.of_retired cx hkept.lifecycle hretired
    have hstatus : c.lifecycleStatus = c₀.lifecycleStatus := congrArg Lifecycle.status hlife
    rw [AssetLifecycleStatus.retired_eq_true_iff, ← hstatus]
    exact hretired
  · have hstatus : c.lifecycleStatus = .active := congrArg Lifecycle.status hnew.lifecycle
    exact absurd hstatus hretired

theorem ChecksInv.compileCheck (h : ChecksInv cx H db₀ st)
    (hasset : st.db.pageAssets.first? (assetSel (assetIndex cx page)) = some asset) :
    ChecksInv cx (H ++ [((asset.id, definition.checkCode), (page, definition))]) db₀
      (compileCheck cx page asset st definition) := by
  have hwrites := writes_compileCheck cx page asset st definition
  have hrow := checkRow_compileCheck cx page asset st definition
  have hold : ∀ c, st.db.pageChecks.first? (checkSel (asset.id, definition.checkCode)) = some c →
      (compiledCheck cx page asset st definition).id = c.id := by
    intro c hc
    rcases hwrites.origin with ⟨d, hd, hk⟩ | ⟨hnone, -⟩
    · rw [hc, Option.some_inj] at hd
      rw [hd]
      exact hk.symm
    · rw [hc] at hnone
      exact absurd hnone (Option.some_ne_none c)
  refine ⟨?_, ?_, ?_, ?_, ?_, ?_⟩
  · intro e he
    rcases List.mem_append.mp he with he | he
    · exact h.named e he
    · rw [List.mem_singleton.mp he]
      exact ⟨rfl, asset, hasset, rfl⟩
  · exact h.written.write disjoint_checkSel hwrites (CheckRow.content cx hrow)
  · refine Table.Evolves.trans (fun _ _ _ => CheckKept.trans cx) (fun _ _ => NewCheck.of_kept cx)
      (h.evolves.mono (fun _ _ => id) fun _ => NewCheck.mono _) ?_
    refine hwrites.evolves (CheckKept.refl cx) ?_ ?_
    · intro c hc _
      have hsel := checkSel_iff.mp (Table.pred_of_first? hc)
      refine ⟨hrow.pageAssetId.trans hsel.1.symm, hrow.checkCode.trans hsel.2.symm, Or.inr ?_⟩
      rw [hrow.lifecycle, hc]
    · intro hfresh
      have hnone : st.db.pageChecks.first? (checkSel (asset.id, definition.checkCode)) = none := by
        rcases hwrites.origin with ⟨c, hc, hk⟩ | ⟨hnone, -⟩
        · exact absurd hk (hfresh c (Table.mem_of_first? hc))
        · exact hnone
      refine ⟨⟨(page, definition), ?_⟩, ?_⟩
      · rw [hrow.pageAssetId, hrow.checkCode]
        exact List.mem_append_right _ List.mem_cons_self
      · rw [hrow.lifecycle, hnone]
  · intro id
    change id ∈ st.pageCheckIds ++ [(compiledCheck cx page asset st definition).id] ↔ _
    rw [List.mem_append, List.mem_singleton, h.listed]
    constructor
    · rintro (⟨i, w, r, hw, rfl⟩ | rfl)
      · obtain ⟨w', r', hw', hr'⟩ := hw.step cx page asset definition
        exact ⟨i, w', r', hw', hr'⟩
      · exact ⟨_, _, _, writtenCheck_compileCheck cx, rfl⟩
    · rintro ⟨i, w, r, hw, rfl⟩
      rcases hw.of_step cx with ⟨-, rfl⟩ | hw
      · exact Or.inr rfl
      · exact Or.inl ⟨i, w, r, hw, rfl⟩
  · intro id hid
    have hcase : id ∈ st.reactivatedCheckIds ∨
        (isHighQualityFullSnapshot cx.snapshot = true ∧
          (∃ c, st.db.pageChecks.first? (checkSel (asset.id, definition.checkCode)) = some c ∧
            c.lifecycleStatus.retired = true) ∧
          id = (compiledCheck cx page asset st definition).id) := by
      rw [reactivatedCheckIds_compileCheck] at hid
      split at hid
      · rename_i hcond
        rcases List.mem_append.mp hid with hid | hid
        · exact Or.inl hid
        · exact Or.inr ⟨hcond.1, hcond.2, List.mem_singleton.mp hid⟩
      · exact Or.inl hid
    rcases hcase with hid | ⟨hq, ⟨c, hc, hretired⟩, rfl⟩
    · obtain ⟨hq, hbefore, i, w, r, hw, hr⟩ := h.reactivated id hid
      obtain ⟨w', r', hw', hr'⟩ := hw.step cx page asset definition
      exact ⟨hq, hbefore, i, w', r', hw', hr'.trans hr⟩
    · refine ⟨hq, ?_, _, _, _, writtenCheck_compileCheck cx, rfl⟩
      obtain ⟨c₀, hc₀, hid₀, hret₀⟩ := h.retired_before cx hc hretired
      exact ⟨c₀, hc₀, hid₀.trans (hold c hc).symm, hret₀⟩
  · intro hq c₀ hc₀ hretired i w r hw hr
    have hmono : c₀.id ∈ st.reactivatedCheckIds →
        c₀.id ∈ (AssetCompiler.compileCheck cx page asset st definition).reactivatedCheckIds := by
      intro hmem
      rw [reactivatedCheckIds_compileCheck]
      split
      · exact List.mem_append_left _ hmem
      · exact hmem
    rcases hw.of_step cx with ⟨rfl, rfl⟩ | hw
    · -- The check was in the table, so the turn found it; it is as it was before the loop unless
      -- the loop has written it already.
      obtain ⟨c, hc, hkc, hkept⟩ := h.evolves.kept c₀ hc₀
      have hfirst := hwrites.selected_of_key hc (hkc.trans hr.symm)
      by_cases hcr : c.lifecycleStatus.retired = true
      · rw [reactivatedCheckIds_compileCheck, if_pos ⟨hq, c, hfirst, hcr⟩]
        exact List.mem_append_right _ (List.mem_singleton.mpr hr.symm)
      · cases hlatest : Dict.latest H (asset.id, definition.checkCode) with
        | some v =>
          exact hmono (h.reactivates hq c₀ hc₀ hretired _ v c ⟨hlatest, hfirst⟩ hkc)
        | none =>
          have hbefore := h.written.others _ hlatest
          rw [hfirst] at hbefore
          have hcc₀ : c = c₀ :=
            Table.eq_of_key_eq (Table.mem_of_first? hbefore.symm) hc₀ hkc
          rw [hcc₀] at hcr
          exact absurd hretired hcr
    · exact hmono (h.reactivates hq c₀ hc₀ hretired i w r hw hr)

end Step

end Checks

/-! ## Aliases -/

section Aliases

variable (cx : CompileContext)

/-- The alias that a compile wants for a check, under one of the two names of the system. -/
def IsWantedAlias (w : CheckWrite) (systemAlias : String) (row : IntentAlias) : Prop :=
  isAliasFor systemAlias (pageAliasOf w.1) w.2.checkCode (assetKeyOf cx w.1) row = true

/-- An alias the loop created: an active one, where there was none. -/
structure NewAlias (W : List CheckWrite) (t₀ : Table IntentAlias) (a : IntentAlias) : Prop where
  isActive : a.isActive = true
  wanted : ∃ w ∈ W, ∃ s ∈ [cx.system.code, cx.system.name], IsWantedAlias cx w s a ∧
    ∀ b ∈ t₀, ¬ IsWantedAlias cx w s b

theorem IsWantedAlias.of_aliasCore {w : CheckWrite} {s : String} {a b : IntentAlias}
    (h : aliasCore a = aliasCore b) : IsWantedAlias cx w s a ↔ IsWantedAlias cx w s b := by
  unfold IsWantedAlias
  rw [isAliasFor_of_aliasCore h]

theorem isActive_of_aliasCore {a b : IntentAlias} (h : aliasCore a = aliasCore b) :
    a.isActive = b.isActive := by
  have h' := congrArg IntentAlias.isActive h
  exact h'

theorem NewAlias.of_kept {W : List CheckWrite} {t₀ : Table IntentAlias} {a a' : IntentAlias}
    (h : NewAlias cx W t₀ a) (h' : aliasCore a' = aliasCore a) : NewAlias cx W t₀ a' := by
  obtain ⟨w, hw, s, hs, hwant, hnone⟩ := h.wanted
  refine ⟨(isActive_of_aliasCore h').trans h.isActive, w, hw, s, hs, ?_, hnone⟩
  exact (IsWantedAlias.of_aliasCore cx h').mpr hwant

theorem NewAlias.mono {W W' : List CheckWrite} {t₀ : Table IntentAlias} {a : IntentAlias}
    (hW : ∀ w ∈ W, w ∈ W') (h : NewAlias cx W t₀ a) : NewAlias cx W' t₀ a := by
  obtain ⟨w, hw, s, hs, hwant, hnone⟩ := h.wanted
  exact ⟨h.isActive, w, hW w hw, s, hs, hwant, hnone⟩

/-- The aliases a compile changed: none but the columns it refreshes, and the ones it created. -/
def AliasesEvolve (W : List CheckWrite) (t₀ t : Table IntentAlias) : Prop :=
  Table.Evolves (fun a a' => aliasCore a' = aliasCore a) (NewAlias cx W t₀) t₀ t

structure AliasesInv (W : List CheckWrite) (t₀ t : Table IntentAlias) : Prop where
  evolves : AliasesEvolve cx W t₀ t
  ensured : ∀ w ∈ W, ∀ s ∈ [cx.system.code, cx.system.name], ∃ a ∈ t, IsWantedAlias cx w s a

theorem AliasesInv.refl (t : Table IntentAlias) : AliasesInv cx [] t t :=
  ⟨Table.Evolves.refl (R := fun a a' => aliasCore a' = aliasCore a) (fun _ => rfl) t, by simp⟩

theorem AliasesEvolve.ensure {W : List CheckWrite} {t₀ t : Table IntentAlias}
    (h : AliasesEvolve cx W t₀ t) {w : CheckWrite} (hw : w ∈ W) {s : String}
    (hs : s ∈ [cx.system.code, cx.system.name]) (ids : IdSource) :
    AliasesEvolve cx W t₀
      (ensureIntentAlias ids w.1 (assetKeyOf cx w.1) w.2.checkCode s t).1 := by
  refine Table.Evolves.trans (fun a b c hab hbc => hbc.trans hab)
    (fun _ _ => NewAlias.of_kept cx) h ?_
  refine (writes_ensureIntentAlias ids w.1 _ _ s t).evolves (fun _ => rfl) ?_ ?_
  · intro a ha _
    exact aliasCore_ensureIntentAlias ids w.1 _ _ s t ha
  · intro hfresh
    have hwrites := writes_ensureIntentAlias ids w.1 (assetKeyOf cx w.1) w.2.checkCode s t
    have hnone := hwrites.origin.resolve_left fun ⟨a, ha, hk⟩ =>
      hfresh a (Table.mem_of_first? ha) hk
    refine ⟨isActive_ensureIntentAlias ids w.1 _ _ s t hnone.1, w, hw, s, hs, hwrites.selected, ?_⟩
    intro b hb hwant
    obtain ⟨b', hb', -, hcore⟩ := h.kept b hb
    have hno := Table.first?_eq_none_iff.mp hnone.1 b' hb'
    rw [isAliasFor_of_aliasCore hcore] at hno
    exact Bool.false_ne_true (hno.symm.trans hwant)

/-- An alias that was ensured stays. -/
theorem exists_wanted_ensureIntentAlias {t : Table IntentAlias} (ids : IdSource) (page : Page)
    (assetKey checkCode systemAlias : String) {w : CheckWrite} {s : String}
    (h : ∃ a ∈ t, IsWantedAlias cx w s a) :
    ∃ a ∈ (ensureIntentAlias ids page assetKey checkCode systemAlias t).1,
      IsWantedAlias cx w s a := by
  obtain ⟨a, ha, hwant⟩ := h
  have hwrites := writes_ensureIntentAlias ids page assetKey checkCode systemAlias t
  by_cases hk : key a = key (ensureIntentAlias ids page assetKey checkCode systemAlias t).2
  · refine ⟨_, hwrites.self_mem, ?_⟩
    have hcore := aliasCore_ensureIntentAlias ids page assetKey checkCode systemAlias t
      (hwrites.selected_of_key ha hk)
    exact (IsWantedAlias.of_aliasCore cx hcore).mpr hwant
  · exact ⟨a, (hwrites.mem a).mpr (Or.inr ⟨ha, hk⟩), hwant⟩

theorem AliasesInv.compileCheck {W : List CheckWrite} {t₀ t : Table IntentAlias}
    (h : AliasesInv cx W t₀ t) (w : CheckWrite) (ids : IdSource) :
    AliasesInv cx (W ++ [w]) t₀
      (ensureIntentAliases ids cx.system w.1 (assetKeyOf cx w.1) w.2.checkCode t) := by
  have hw : w ∈ W ++ [w] := List.mem_append_right _ List.mem_cons_self
  have hmono : AliasesEvolve cx (W ++ [w]) t₀ t :=
    h.evolves.mono (fun _ _ => id) fun _ => NewAlias.mono cx fun _ => List.mem_append_left _
  constructor
  · exact AliasesEvolve.ensure cx (AliasesEvolve.ensure cx hmono hw (by simp) ids) hw (by simp) ids
  · intro v hv s hs
    rcases List.mem_append.mp hv with hv | hv
    · exact exists_wanted_ensureIntentAlias cx ids _ _ _ _
        (exists_wanted_ensureIntentAlias cx ids _ _ _ _ (h.ensured v hv s hs))
    · rw [List.mem_singleton.mp hv]
      have hcode := writes_ensureIntentAlias ids w.1 (assetKeyOf cx w.1) w.2.checkCode
        cx.system.code t
      have hname := writes_ensureIntentAlias ids w.1 (assetKeyOf cx w.1) w.2.checkCode
        cx.system.name (ensureIntentAlias ids w.1 (assetKeyOf cx w.1) w.2.checkCode
          cx.system.code t).1
      rcases List.mem_cons.mp hs with rfl | hs
      · exact exists_wanted_ensureIntentAlias cx ids _ _ _ _ ⟨_, hcode.self_mem, hcode.selected⟩
      · rw [List.mem_singleton.mp hs]
        exact ⟨_, hname.self_mem, hname.selected⟩

end Aliases

/-! ## The loop -/

/-- What holds of the database and the variables of the loop after a part of it. -/
structure LoopInv (cx : CompileContext) (db₀ : Db) (A : List Page) (H : CheckHistory)
    (st : CompileState) : Prop where
  assets : AssetsInv cx A db₀.pageAssets st.db.pageAssets
  checks : ChecksInv cx H db₀ st
  aliases : AliasesInv cx (H.map Prod.snd) db₀.intentAliases st.db.intentAliases
  outside : outsideLoop st.db = outsideLoop db₀

theorem LoopInv.refl (cx : CompileContext) (db : Db) : LoopInv cx db [] [] { db := db } where
  assets := AssetsInv.refl cx _
  checks := ChecksInv.refl cx db _ rfl rfl rfl
  aliases := AliasesInv.refl cx _
  outside := rfl

theorem LoopInv.compileCheck {cx : CompileContext} {db₀ : Db} {A : List Page} {H : CheckHistory}
    {st : CompileState} {page : Page} {asset : PageAsset} (h : LoopInv cx db₀ A H st)
    (hasset : st.db.pageAssets.first? (assetSel (assetIndex cx page)) = some asset)
    (definition : StandardCheckDefinition) :
    LoopInv cx db₀ A (H ++ [((asset.id, definition.checkCode), (page, definition))])
      (compileCheck cx page asset st definition) where
  assets := h.assets
  checks := h.checks.compileCheck cx hasset
  aliases := by
    have hkey : asset.assetKey = assetKeyOf cx page :=
      (assetSel_iff.mp (Table.pred_of_first? hasset)).2
    have hstep := h.aliases.compileCheck cx (page, definition) cx.ids
    rw [List.map_append]
    rw [← hkey] at hstep
    exact hstep
  outside := (outsideLoop_compileCheck cx page asset st definition).trans h.outside

/-- The loop over the checks of one page. -/
theorem LoopInv.foldl_compileCheck {cx : CompileContext} {db₀ : Db} {A : List Page}
    {H : CheckHistory} {st : CompileState} {page : Page} {asset : PageAsset}
    (h : LoopInv cx db₀ A H st)
    (hasset : st.db.pageAssets.first? (assetSel (assetIndex cx page)) = some asset)
    (definitions : List StandardCheckDefinition) :
    ∃ H', H'.map Prod.snd = H.map Prod.snd ++ definitions.map (fun d => (page, d)) ∧
      LoopInv cx db₀ A H' (definitions.foldl (AssetCompiler.compileCheck cx page asset) st) := by
  induction definitions generalizing H st with
  | nil => exact ⟨H, by simp, h⟩
  | cons d l ih =>
    obtain ⟨H', hH', hinv⟩ := ih (h.compileCheck hasset d) hasset
    refine ⟨H', ?_, hinv⟩
    rw [hH', List.map_append, List.append_assoc]
    rfl

theorem LoopInv.compilePage {cx : CompileContext} {db₀ : Db} {A : List Page} {H : CheckHistory}
    {st : CompileState} (h : LoopInv cx db₀ A H st) (page : Page) :
    ∃ H', H'.map Prod.snd = H.map Prod.snd ++ (standardChecks cx page).map (fun d => (page, d)) ∧
      LoopInv cx db₀ (A ++ [page]) H' (AssetCompiler.compilePage cx st page) := by
  have hfirst := (writes_compileAsset cx page st.db).first?
  have hstart : LoopInv cx db₀ (A ++ [page]) H
      { st with
        db := (compileAsset cx page st.db).1
        assetsUpdated :=
          if (st.db.pageAssets.first? (isAssetFor cx.system.id (assetKeyOf cx page))).isNone
          then st.assetsUpdated else st.assetsUpdated + 1
        driftStates := st.driftStates ++ [(compileAsset cx page st.db).2.2.status] } :=
    { assets := h.assets.compileAsset cx page
      checks := h.checks.compileAsset cx page rfl rfl rfl
      aliases := h.aliases
      outside := (outsideLoop_compileAsset cx page st.db).trans h.outside }
  obtain ⟨H', hH', hinv⟩ := hstart.foldl_compileCheck hfirst (standardChecks cx page)
  refine ⟨H', hH', ?_⟩
  -- What is left of the turn writes the navigation aliases and counts the page.
  exact
    { assets := hinv.assets
      checks :=
        { named := hinv.checks.named
          written := hinv.checks.written
          evolves := hinv.checks.evolves
          listed := hinv.checks.listed
          reactivated := hinv.checks.reactivated
          reactivates := hinv.checks.reactivates }
      aliases := hinv.aliases
      outside := hinv.outside }

/-- **The loop over the pages**: it writes the asset of each page and the checks of each page, in
their order, and leaves everything else alone. -/
theorem compilePages_inv (cx : CompileContext) (db : Db) :
    ∃ H : CheckHistory, H.map Prod.snd = checkWrites cx cx.pages ∧
      LoopInv cx db cx.pages H (compilePages cx db) := by
  have h := Run.foldl_prefix (compilePage cx)
    (I := fun done st => ∃ H : CheckHistory, H.map Prod.snd = checkWrites cx done ∧
      LoopInv cx db done H st)
    (fun done page st ⟨H, hH, hinv⟩ => by
      obtain ⟨H', hH', hinv'⟩ := hinv.compilePage page
      refine ⟨H', ?_, hinv'⟩
      rw [hH', hH, checkWrites, checkWrites, List.flatMap_append, List.flatMap_singleton])
    cx.pages ⟨[], rfl, LoopInv.refl cx db⟩
  rwa [List.nil_append] at h

end AssetCompiler

end Runlet
