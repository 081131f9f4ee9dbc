import Runlet.AssetCompiler.Service
import Runlet.AssetCompiler.Lifecycle
import Runlet.Library.Run

/-!
# What the retirement does

The loop over the decisions retires the assets and the checks that a decision names and that are
active when their turn comes (`applyDecisions_inv`).  Put together with what the decisions are
(`Reconciliation.mem_reconcile`), this says which rows a compile retires: an active asset of the
system whose page is missing (`AssetMissing`), its checks, and the active checks that miss
something on a page that is there (`CheckMissing`).
-/

namespace Runlet

open KeyedTable

namespace AssetCompiler

/-! ## The loop over the decisions -/

section Loop

variable (cx : CompileContext) (active : ActiveTruth)

/-- A database without the assets and the checks. -/
def outsideRetirement (db : Db) : Db :=
  { db with pageAssets := .empty, pageChecks := .empty }

/-- What the loop does to a check, given the identifiers it retired. -/
def CheckRetired (ids : List UUID) (c c' : PageCheck) : Prop :=
  (c.id ∉ ids ∧ c' = c) ∨ (c.id ∈ ids ∧ ∃ reason, c' = retireCheck cx reason c)

/-- The rows that are still active are the ones that were and have not been retired. -/
structure RetireInv (db₀ : Db) (done : List RetirementDecision) (st : RetireState) : Prop where
  outside : outsideRetirement st.db = outsideRetirement db₀
  assets : ∀ id, st.db.pageAssets.get? id = (db₀.pageAssets.get? id).map fun a =>
    if id ∈ st.retiredAssetIds then retireAsset cx a else a
  checks : Table.Evolves (CheckRetired cx st.retiredCheckIds) (fun _ => False) db₀.pageChecks
    st.db.pageChecks
  nodup_assets : st.retiredAssetIds.Nodup
  nodup_checks : st.retiredCheckIds.Nodup
  mem_assets : ∀ id, id ∈ st.retiredAssetIds ↔
    isActiveAsset active db₀ id = true ∧ ∃ d ∈ done, d.reason = "missing_page" ∧ d.pageAssetId = id
  mem_checks : ∀ id, id ∈ st.retiredCheckIds ↔
    isActiveCheck active db₀ id = true ∧ ∃ d ∈ done, id ∈ d.pageCheckIds

theorem RetireInv.refl (db : Db) : RetireInv cx active db [] { db := db } where
  outside := rfl
  assets id := by simp
  checks := Table.Evolves.refl (R := CheckRetired cx []) (fun c => Or.inl ⟨by simp, rfl⟩) _
  nodup_assets := List.nodup_nil
  nodup_checks := List.nodup_nil
  mem_assets id := by simp
  mem_checks id := by simp

/-- A row is active in the middle of the loop when it was active before and was not retired. -/
theorem isActiveAsset_of_assets {db₀ db : Db} {ids : List UUID}
    (h : ∀ id, db.pageAssets.get? id = (db₀.pageAssets.get? id).map fun a =>
      if id ∈ ids then retireAsset cx a else a) (id : UUID) :
    isActiveAsset active db id = true ↔ isActiveAsset active db₀ id = true ∧ id ∉ ids := by
  unfold isActiveAsset
  rw [h id]
  cases db₀.pageAssets.get? id with
  | none => simp
  | some a =>
    by_cases hid : id ∈ ids
    · simp [hid, retireAsset]
    · simp [hid]

theorem get?_pageChecks_of_evolves {db₀ db : Db} {ids : List UUID}
    (h : Table.Evolves (CheckRetired cx ids) (fun _ => False) db₀.pageChecks db.pageChecks)
    (id : UUID) :
    (db₀.pageChecks.get? id = none ∧ db.pageChecks.get? id = none) ∨
      ∃ c c', db₀.pageChecks.get? id = some c ∧ db.pageChecks.get? id = some c' ∧
        CheckRetired cx ids c c' := by
  cases hget : db₀.pageChecks.get? id with
  | none =>
    left
    refine ⟨rfl, Table.get?_eq_none_iff.mpr fun c' hc' hid => ?_⟩
    rcases h.source c' hc' with ⟨c, hc, hk, -⟩ | ⟨-, hfalse⟩
    · exact Table.get?_eq_none_iff.mp hget c hc (hk.trans hid)
    · exact hfalse
  | some c =>
    right
    obtain ⟨c', hc', hk, hkept⟩ := h.kept c (Table.mem_of_get? hget)
    refine ⟨c, c', rfl, Table.get?_eq_some_iff.mpr ⟨hc', ?_⟩, hkept⟩
    exact hk.trans (Table.key_of_get? hget)

theorem isActiveCheck_of_checks {db₀ db : Db} {ids : List UUID}
    (h : Table.Evolves (CheckRetired cx ids) (fun _ => False) db₀.pageChecks db.pageChecks)
    (id : UUID) :
    isActiveCheck active db id = true ↔ isActiveCheck active db₀ id = true ∧ id ∉ ids := by
  unfold isActiveCheck
  rcases get?_pageChecks_of_evolves cx h id with ⟨h₀, h₁⟩ | ⟨c, c', h₀, h₁, hkept⟩
  · rw [h₀, h₁]
    simp
  · have hid : c.id = id := Table.key_of_get? h₀
    rw [h₀, h₁]
    rcases hkept with ⟨hnot, rfl⟩ | ⟨hin, reason, rfl⟩
    · rw [hid] at hnot
      simp [hnot]
    · rw [hid] at hin
      simp [hin, retireCheck]

/-- Retiring one more check. -/
theorem evolves_retireCheck {db₀ db : Db} {ids : List UUID} {id : UUID} {reason : String}
    (h : Table.Evolves (CheckRetired cx ids) (fun _ => False) db₀.pageChecks db.pageChecks)
    (hid : id ∉ ids) :
    Table.Evolves (CheckRetired cx (ids ++ [id])) (fun _ => False) db₀.pageChecks
      (db.pageChecks.update (fun check => check.id = id) (retireCheck cx reason)
        (key_retireCheck cx reason)) := by
  have hstep : ∀ c c', key c' = key c → CheckRetired cx ids c c' →
      CheckRetired cx (ids ++ [id]) c
        (Table.rewrite (fun check : PageCheck => decide (check.id = id))
          (retireCheck cx reason) c') := by
    intro c c' hk hkept
    have hkey : c'.id = c.id := hk
    rcases hkept with ⟨hnot, rfl⟩ | ⟨hin, r, rfl⟩
    · by_cases hc : c'.id = id
      · right
        refine ⟨List.mem_append_right _ (List.mem_singleton.mpr hc), reason, ?_⟩
        rw [Table.rewrite_of_pos _ _ (by simpa using hc)]
      · left
        refine ⟨?_, Table.rewrite_of_neg _ _ (by simpa using hc)⟩
        rw [List.mem_append, List.mem_singleton]
        exact not_or.mpr ⟨hnot, hc⟩
    · right
      refine ⟨List.mem_append_left _ hin, r, Table.rewrite_of_neg _ _ ?_⟩
      have hc : (retireCheck cx r c).id ≠ id := fun hc => hid (hc ▸ hin)
      simpa using hc
  constructor
  · intro c hc
    obtain ⟨c', hc', hk, hkept⟩ := h.kept c hc
    refine ⟨_, Table.rewrite_mem_update hc', ?_, hstep c c' hk hkept⟩
    rw [Table.key_rewrite (key_retireCheck cx reason), hk]
  · intro b hb
    obtain ⟨c', hc', rfl⟩ := Table.mem_update.mp hb
    rcases h.source c' hc' with ⟨c, hc, hk, hkept⟩ | ⟨-, hfalse⟩
    · refine Or.inl ⟨c, hc, ?_, hstep c c' hk.symm hkept⟩
      rw [Table.key_rewrite (key_retireCheck cx reason), hk]
    · exact hfalse.elim

/-- What holds during the loop over the checks of one decision: `before` is what was retired
before it. -/
structure CheckLoopInv (db₀ dbStart : Db) (before done : List UUID) (acc : Db × List UUID) : Prop where
  outside : { acc.1 with pageChecks := .empty } = { dbStart with pageChecks := .empty }
  checks : Table.Evolves (CheckRetired cx (before ++ acc.2)) (fun _ => False) db₀.pageChecks
    acc.1.pageChecks
  nodup : (before ++ acc.2).Nodup
  mem : ∀ id, id ∈ before ++ acc.2 ↔
    id ∈ before ∨ (isActiveCheck active db₀ id = true ∧ id ∈ done)

theorem CheckLoopInv.step {db₀ dbStart : Db} {before done : List UUID} {acc : Db × List UUID}
    (h : CheckLoopInv cx active db₀ dbStart before done acc) (reason : String) (id : UUID) :
    CheckLoopInv cx active db₀ dbStart before (done ++ [id])
      (applyCheckDecision cx active reason acc id) := by
  have hactive := isActiveCheck_of_checks cx active h.checks id
  unfold applyCheckDecision
  split
  · rename_i hact
    obtain ⟨h₀, hnot⟩ := hactive.mp hact
    refine ⟨h.outside, ?_, ?_, ?_⟩
    · rw [← List.append_assoc]
      exact evolves_retireCheck cx h.checks hnot
    · rw [← List.append_assoc, List.nodup_append]
      refine ⟨h.nodup, List.nodup_singleton _, ?_⟩
      rintro a ha b hb rfl
      rw [List.mem_singleton.mp hb] at ha
      exact hnot ha
    · intro x
      rw [← List.append_assoc, List.mem_append, h.mem, List.mem_singleton, List.mem_append,
        List.mem_singleton]
      constructor
      · rintro ((hx | ⟨hx, hd⟩) | rfl)
        · exact Or.inl hx
        · exact Or.inr ⟨hx, Or.inl hd⟩
        · exact Or.inr ⟨h₀, Or.inr rfl⟩
      · rintro (hx | ⟨hx, hd | rfl⟩)
        · exact Or.inl (Or.inl hx)
        · exact Or.inl (Or.inr ⟨hx, hd⟩)
        · exact Or.inr rfl
  · rename_i hact
    refine ⟨h.outside, h.checks, h.nodup, ?_⟩
    intro x
    rw [h.mem, List.mem_append, List.mem_singleton]
    constructor
    · rintro (hx | ⟨hx, hd⟩)
      · exact Or.inl hx
      · exact Or.inr ⟨hx, Or.inl hd⟩
    · rintro (hx | ⟨hx, hd | rfl⟩)
      · exact Or.inl hx
      · exact Or.inr ⟨hx, hd⟩
      · -- The check was active before the loop and is not now, so it was retired on the way.
        by_contra hno
        exact hact (hactive.mpr ⟨hx, fun hmem => hno ((h.mem x).mp hmem)⟩)

theorem foldl_applyCheckDecision {db₀ dbStart : Db} {before : List UUID} {acc : Db × List UUID}
    (h : CheckLoopInv cx active db₀ dbStart before [] acc) (reason : String) (ids : List UUID) :
    CheckLoopInv cx active db₀ dbStart before ids
      (ids.foldl (applyCheckDecision cx active reason) acc) := by
  have hfold := Run.foldl_prefix (applyCheckDecision cx active reason)
    (I := fun done acc => CheckLoopInv cx active db₀ dbStart before done acc)
    (fun done id acc hinv => hinv.step cx active reason id) ids h
  rwa [List.nil_append] at hfold

theorem RetireInv.step {db₀ : Db} {done : List RetirementDecision} {st : RetireState}
    (h : RetireInv cx active db₀ done st) (d : RetirementDecision) :
    RetireInv cx active db₀ (done ++ [d]) (applyDecision cx active st d) := by
  have hactive := isActiveAsset_of_assets cx active h.assets d.pageAssetId
  -- The asset of the decision.
  obtain ⟨db, assetIds, hst, houtside, hchecks, hassets, hnodup, hmem⟩ :
      ∃ (db : Db) (assetIds : List UUID),
        ((applyDecision cx active st d).db =
            (d.pageCheckIds.foldl (applyCheckDecision cx active d.reason) (db, [])).1 ∧
          (applyDecision cx active st d).retiredAssetIds = assetIds ∧
          (applyDecision cx active st d).retiredCheckIds = st.retiredCheckIds ++
            (d.pageCheckIds.foldl (applyCheckDecision cx active d.reason) (db, [])).2) ∧
        outsideRetirement db = outsideRetirement db₀ ∧ db.pageChecks = st.db.pageChecks ∧
        (∀ id, db.pageAssets.get? id = (db₀.pageAssets.get? id).map fun a =>
          if id ∈ assetIds then retireAsset cx a else a) ∧
        assetIds.Nodup ∧
        (∀ id, id ∈ assetIds ↔ isActiveAsset active db₀ id = true ∧
          ∃ d' ∈ done ++ [d], d'.reason = "missing_page" ∧ d'.pageAssetId = id) := by
    by_cases hret : d.reason = "missing_page" ∧ isActiveAsset active st.db d.pageAssetId = true
    · obtain ⟨hreason, hact⟩ := hret
      obtain ⟨h₀, hnot⟩ := hactive.mp hact
      refine ⟨{ st.db with
        pageAssets := st.db.pageAssets.update (fun asset => asset.id = d.pageAssetId)
          (retireAsset cx) (key_retireAsset cx) },
        st.retiredAssetIds ++ [d.pageAssetId], ?_, h.outside, rfl, ?_, ?_, ?_⟩
      · unfold applyDecision
        simp [hreason, hact]
      · intro id
        change (st.db.pageAssets.update _ _ (key_retireAsset cx)).get? id = _
        rw [Table.get?_update, h.assets id, Option.map_map]
        refine Option.map_congr fun a ha => ?_
        have hid : a.id = id := Table.key_of_get? ha
        by_cases hd : id = d.pageAssetId
        · subst hd
          simp [Table.rewrite, hnot, hid]
        · have hne : (if id ∈ st.retiredAssetIds then retireAsset cx a else a).id ≠
              d.pageAssetId := by
            split
            · exact fun heq => hd (hid.symm.trans heq)
            · exact fun heq => hd (hid.symm.trans heq)
          simp only [Function.comp_apply, Table.rewrite, decide_eq_true_eq, if_neg hne,
            List.mem_append, List.mem_singleton, hd, or_false]
      · rw [List.nodup_append]
        refine ⟨h.nodup_assets, List.nodup_singleton _, ?_⟩
        rintro a ha b hb rfl
        rw [List.mem_singleton.mp hb] at ha
        exact hnot ha
      · intro id
        rw [List.mem_append, h.mem_assets, List.mem_singleton]
        constructor
        · rintro (⟨hid, d', hd', hr, ha⟩ | rfl)
          · exact ⟨hid, d', List.mem_append_left _ hd', hr, ha⟩
          · exact ⟨h₀, d, List.mem_append_right _ List.mem_cons_self, hreason, rfl⟩
        · rintro ⟨hid, d', hd', hr, ha⟩
          rcases List.mem_append.mp hd' with hd' | hd'
          · exact Or.inl ⟨hid, d', hd', hr, ha⟩
          · rw [List.mem_singleton.mp hd'] at ha
            exact Or.inr ha.symm
    · refine ⟨st.db, st.retiredAssetIds, ?_, h.outside, rfl, h.assets, h.nodup_assets, ?_⟩
      · have hfalse : (decide (d.reason = "missing_page") &&
            isActiveAsset active st.db d.pageAssetId) = false := by
          rw [← Bool.not_eq_true, Bool.and_eq_true, decide_eq_true_eq]
          exact hret
        unfold applyDecision
        simp [hfalse]
      · intro id
        rw [h.mem_assets]
        constructor
        · rintro ⟨hid, d', hd', hr, ha⟩
          exact ⟨hid, d', List.mem_append_left _ hd', hr, ha⟩
        · rintro ⟨hid, d', hd', hr, ha⟩
          rcases List.mem_append.mp hd' with hd' | hd'
          · exact ⟨hid, d', hd', hr, ha⟩
          · rw [List.mem_singleton.mp hd'] at hr ha
            -- The asset was active before the loop and is not now: an earlier decision retired it.
            have hmem : id ∈ st.retiredAssetIds := by
              by_contra hno
              exact hret ⟨hr, hactive.mpr ⟨ha ▸ hid, ha ▸ hno⟩⟩
            exact (h.mem_assets id).mp hmem
  -- The checks of the decision.
  have hstart : CheckLoopInv cx active db₀ db st.retiredCheckIds [] (db, []) := by
    refine ⟨rfl, ?_, ?_, ?_⟩
    · rw [List.append_nil, hchecks]
      exact h.checks
    · rw [List.append_nil]
      exact h.nodup_checks
    · simp
  have hloop := foldl_applyCheckDecision cx active hstart d.reason d.pageCheckIds
  refine ⟨?_, ?_, ?_, ?_, ?_, ?_, ?_⟩
  · rw [hst.1, ← houtside]
    have := congrArg (fun x : Db => { x with pageAssets := .empty }) hloop.outside
    exact this
  · intro id
    rw [hst.1, hst.2.1]
    have hsame := congrArg Db.pageAssets hloop.outside
    have hsame' : (d.pageCheckIds.foldl (applyCheckDecision cx active d.reason)
        (db, [])).1.pageAssets = db.pageAssets := hsame
    rw [hsame', hassets id]
  · rw [hst.1, hst.2.2]
    exact hloop.checks
  · rw [hst.2.1]
    exact hnodup
  · rw [hst.2.2]
    exact hloop.nodup
  · rw [hst.2.1]
    exact hmem
  · intro id
    rw [hst.2.2, hloop.mem, h.mem_checks]
    constructor
    · rintro (⟨hid, d', hd', hin⟩ | ⟨hid, hin⟩)
      · exact ⟨hid, d', List.mem_append_left _ hd', hin⟩
      · exact ⟨hid, d, List.mem_append_right _ List.mem_cons_self, hin⟩
    · rintro ⟨hid, d', hd', hin⟩
      rcases List.mem_append.mp hd' with hd' | hd'
      · exact Or.inl ⟨hid, d', hd', hin⟩
      · rw [List.mem_singleton.mp hd'] at hin
        exact Or.inr ⟨hid, hin⟩

/-- **The loop over the decisions.** -/
theorem applyDecisions_inv (decisions : List RetirementDecision) (db : Db) :
    RetireInv cx active db decisions (applyDecisions cx active decisions db) := by
  have hfold := Run.foldl_prefix (applyDecision cx active)
    (I := fun done st => RetireInv cx active db done st)
    (fun done d st hinv => hinv.step cx active d) decisions (RetireInv.refl cx active db)
  rwa [List.nil_append] at hfold

end Loop

/-! ## The rows a compile retires -/

section Retires

variable (cx : CompileContext) (db : Db)

/-- The route an asset stands for; empty when it has no page, or its page no route. -/
def assetRoute (a : PageAsset) : String :=
  ((db.pages.get? a.pageId).map fun page => Text.strip page.routePath).getD ""

/-- The asset has a route, and the snapshot does not show it. -/
def AssetMissing (a : PageAsset) : Prop :=
  assetRoute db a ≠ "" ∧ assetRoute db a ∉ (snapshotTruth cx).routePaths

/-- The snapshot shows the route of the asset, but not what the check needs there. -/
def CheckUnmet (a : PageAsset) (c : PageCheck) : Prop :=
  assetRoute db a ≠ "" ∧ assetRoute db a ∈ (snapshotTruth cx).routePaths ∧
    (Reconciliation.checkRetireReason (snapshotTruth cx) (assetRoute db a)
      (dependenciesOf db c)).isSome = true

/-- An active asset of the system that is compiled. -/
def IsActiveAsset (a : PageAsset) : Prop :=
  a ∈ db.pageAssets ∧ a.systemId = cx.system.id ∧ a.lifecycleStatus = .active

/-- An active check of an active asset. -/
def IsActiveCheck (a : PageAsset) (c : PageCheck) : Prop :=
  IsActiveAsset cx db a ∧ c ∈ db.pageChecks ∧ c.pageAssetId = a.id ∧ c.lifecycleStatus = .active

variable {cx db}

theorem mem_activeTruth_assets {a : PageAsset} :
    a ∈ (activeTruth cx.system.id db).assets ↔ IsActiveAsset cx db a := by
  change a ∈ loadActivePageAssets cx.system.id db ↔ _
  unfold loadActivePageAssets IsActiveAsset
  rw [Table.mem_select, Bool.and_eq_true, decide_eq_true_eq, decide_eq_true_eq]

theorem mem_activeTruth_checks {c : PageCheck} :
    c ∈ (activeTruth cx.system.id db).checks ↔ ∃ a, IsActiveCheck cx db a c := by
  change c ∈ loadActivePageChecks ((activeTruth cx.system.id db).assets.map (·.id)) db ↔ _
  unfold loadActivePageChecks IsActiveCheck
  rw [Table.mem_select, Bool.and_eq_true, decide_eq_true_eq, decide_eq_true_eq, List.mem_map]
  constructor
  · rintro ⟨hc, ⟨a, ha, hid⟩, hactive⟩
    exact ⟨a, mem_activeTruth_assets.mp ha, hc, hid.symm, hactive⟩
  · rintro ⟨a, ha, hc, hid, hactive⟩
    exact ⟨hc, ⟨a, mem_activeTruth_assets.mpr ha, hid.symm⟩, hactive⟩

theorem activePageTruth_eq (a : PageAsset) :
    activePageTruth db a =
      if assetRoute db a = "" then none
      else some { pageAssetId := a.id, routePath := assetRoute db a } := by
  unfold activePageTruth assetRoute
  cases db.pages.get? a.pageId with
  | none => simp
  | some page => simp

theorem mem_activeTruth_pages {row : ActivePageTruth} :
    row ∈ (activeTruth cx.system.id db).pages ↔
      ∃ a, IsActiveAsset cx db a ∧ assetRoute db a ≠ "" ∧
        row = { pageAssetId := a.id, routePath := assetRoute db a } := by
  change row ∈ (activeTruth cx.system.id db).assets.filterMap (activePageTruth db) ↔ _
  rw [List.mem_filterMap]
  refine exists_congr fun a => ?_
  rw [mem_activeTruth_assets, activePageTruth_eq]
  refine and_congr_right fun _ => ?_
  by_cases h : assetRoute db a = ""
  · simp [h]
  · rw [if_neg h, Option.some_inj]
    exact ⟨fun hrow => ⟨h, hrow.symm⟩, fun hrow => hrow.2.symm⟩

/-- Active assets with one identifier are one asset. -/
theorem IsActiveAsset.eq {a b : PageAsset} (ha : IsActiveAsset cx db a)
    (hb : IsActiveAsset cx db b) (h : a.id = b.id) : a = b :=
  Table.eq_of_key_eq ha.1 hb.1 h

theorem routePathByAssetId_eq {a : PageAsset} (ha : IsActiveAsset cx db a) :
    Reconciliation.routePathByAssetId (activeTruth cx.system.id db).pages a.id =
      assetRoute db a := by
  unfold Reconciliation.routePathByAssetId
  cases hfind : (activeTruth cx.system.id db).pages.reverse.find?
      fun row => row.pageAssetId = a.id with
  | some row =>
    have hrow := List.mem_reverse.mp (List.mem_of_find?_eq_some hfind)
    obtain ⟨b, hb, -, rfl⟩ := mem_activeTruth_pages.mp hrow
    have hid : b.id = a.id := by simpa using List.find?_some hfind
    rw [hb.eq ha hid]
    rfl
  | none =>
    rw [List.find?_eq_none] at hfind
    by_contra hroute
    refine hfind _ (List.mem_reverse.mpr (mem_activeTruth_pages.mpr ⟨a, ha, ?_, rfl⟩)) (by simp)
    exact fun h => hroute (by rw [h]; rfl)

theorem mem_missingAssetIds {id : UUID} :
    id ∈ Reconciliation.missingAssetIds (activeTruth cx.system.id db).pages (snapshotTruth cx) ↔
      ∃ a, IsActiveAsset cx db a ∧ AssetMissing cx db a ∧ a.id = id := by
  unfold Reconciliation.missingAssetIds AssetMissing
  rw [List.mem_map]
  constructor
  · rintro ⟨row, hrow, rfl⟩
    obtain ⟨hrow, hcond⟩ := List.mem_filter.mp hrow
    obtain ⟨a, ha, hroute, rfl⟩ := mem_activeTruth_pages.mp hrow
    simp only [Bool.and_eq_true, decide_eq_true_eq] at hcond
    exact ⟨a, ha, hcond, rfl⟩
  · rintro ⟨a, ha, ⟨hroute, hnot⟩, rfl⟩
    refine ⟨_, List.mem_filter.mpr ⟨mem_activeTruth_pages.mpr ⟨a, ha, hroute, rfl⟩, ?_⟩, rfl⟩
    simp only [Bool.and_eq_true, decide_eq_true_eq]
    exact ⟨hroute, hnot⟩

theorem mem_missingAssetIds_self {a : PageAsset} (ha : IsActiveAsset cx db a) :
    a.id ∈ Reconciliation.missingAssetIds (activeTruth cx.system.id db).pages (snapshotTruth cx) ↔
      AssetMissing cx db a := by
  rw [mem_missingAssetIds]
  constructor
  · rintro ⟨b, hb, hmissing, hid⟩
    rwa [← hb.eq ha hid]
  · exact fun h => ⟨a, ha, h, rfl⟩

theorem isSome_checkGroup {a : PageAsset} {c : PageCheck} (hc : IsActiveCheck cx db a c) :
    (Reconciliation.checkGroup (activeTruth cx.system.id db).pages (snapshotTruth cx)
      { pageCheckId := c.id
        pageAssetId := c.pageAssetId
        blockingDependencyJson := dependenciesOf db c }).isSome = true ↔ CheckUnmet cx db a c := by
  unfold Reconciliation.checkGroup CheckUnmet
  dsimp only
  rw [hc.2.2.1, routePathByAssetId_eq hc.1]
  split
  · rename_i hmissing
    have h := (mem_missingAssetIds_self hc.1).mp hmissing
    simp [h.2]
  · split
    · rename_i h
      simp only [Bool.or_eq_true, decide_eq_true_eq] at h
      rcases h with h | h
      · simp [h]
      · simp [h]
    · rename_i h
      simp only [Bool.or_eq_true, decide_eq_true_eq, not_or, not_not] at h
      rw [Option.isSome_map]
      exact ⟨fun hreason => ⟨h.1, h.2, hreason⟩, fun hunmet => hunmet.2.2⟩

variable (cx db) (gate : QualityGateDecision)

/-- The loop over the decisions of a compile. -/
theorem retireMissing_inv :
    RetireInv cx (activeTruth cx.system.id db)
      (recordDependencies (activeTruth cx.system.id db).checks db)
      (retirementDecisions cx gate db) (retireMissing cx gate db) :=
  applyDecisions_inv cx _ _ _

theorem isActiveAsset_iff (id : UUID) :
    isActiveAsset (activeTruth cx.system.id db)
        (recordDependencies (activeTruth cx.system.id db).checks db) id = true ↔
      ∃ a, IsActiveAsset cx db a ∧ a.id = id := by
  unfold isActiveAsset
  rw [Bool.and_eq_true, List.any_eq_true]
  constructor
  · rintro ⟨⟨a, ha, hid⟩, -⟩
    exact ⟨a, mem_activeTruth_assets.mp ha, by simpa using hid⟩
  · rintro ⟨a, ha, rfl⟩
    refine ⟨⟨a, mem_activeTruth_assets.mpr ha, by simp⟩, ?_⟩
    change (db.pageAssets.get? (key a)).any _ = true
    rw [Table.get?_key ha.1, Option.any_some, decide_eq_true_eq]
    exact ha.2.2

theorem isActiveCheck_iff (id : UUID) :
    isActiveCheck (activeTruth cx.system.id db)
        (recordDependencies (activeTruth cx.system.id db).checks db) id = true ↔
      ∃ a c, IsActiveCheck cx db a c ∧ c.id = id := by
  unfold isActiveCheck
  rw [Bool.and_eq_true, List.any_eq_true]
  constructor
  · rintro ⟨⟨c, hc, hid⟩, -⟩
    obtain ⟨a, hac⟩ := mem_activeTruth_checks.mp hc
    exact ⟨a, c, hac, by simpa using hid⟩
  · rintro ⟨a, c, hac, rfl⟩
    refine ⟨⟨c, mem_activeTruth_checks.mpr ⟨a, hac⟩, by simp⟩, ?_⟩
    change ((db.pageChecks.update _ _ (key_recordDerivedDependencies db)).get? (key c)).any _ = true
    rw [Table.get?_update, Table.get?_key hac.2.1, Option.map_some, Option.any_some,
      decide_eq_true_eq]
    have hlife : ∀ b : PageCheck, ∀ p : PageCheck → Bool,
        (Table.rewrite p (recordDerivedDependencies db) b).lifecycleStatus = b.lifecycleStatus := by
      intro b p
      unfold Table.rewrite
      split <;> rfl
    rw [hlife]
    exact hac.2.2.2

/-- **The assets a compile retires**: the active ones whose page is missing. -/
theorem mem_retiredAssetIds {id : UUID} :
    id ∈ (retireMissing cx gate db).retiredAssetIds ↔
      gate.allowRetirement = true ∧
        ∃ a, IsActiveAsset cx db a ∧ AssetMissing cx db a ∧ a.id = id := by
  rw [(retireMissing_inv cx db gate).mem_assets, isActiveAsset_iff]
  unfold retirementDecisions
  rw [Reconciliation.exists_missing_page_iff, mem_missingAssetIds]
  constructor
  · rintro ⟨-, hgate, hmissing⟩
    exact ⟨hgate, hmissing⟩
  · rintro ⟨hgate, a, ha, hmissing, hid⟩
    exact ⟨⟨a, ha, hid⟩, hgate, a, ha, hmissing, hid⟩

/-- **The checks the decisions retire**: the active ones whose page is missing, and the ones that
miss something on a page that is there. -/
theorem mem_retirementDecisions {id : UUID} :
    (∃ d ∈ retirementDecisions cx gate db, id ∈ d.pageCheckIds) ↔
      gate.allowRetirement = true ∧ ∃ a c, IsActiveCheck cx db a c ∧
        (AssetMissing cx db a ∨ CheckUnmet cx db a c) ∧ c.id = id := by
  unfold retirementDecisions
  rw [Reconciliation.mem_reconcile]
  refine and_congr_right fun _ => ?_
  constructor
  · rintro ⟨row, hrow, rfl, hcase⟩
    obtain ⟨c, hc, rfl⟩ := List.mem_map.mp hrow
    obtain ⟨a, hac⟩ := mem_activeTruth_checks.mp hc
    refine ⟨a, c, hac, ?_, rfl⟩
    rcases hcase with hmissing | hgroup
    · left
      rw [← mem_missingAssetIds_self hac.1, ← hac.2.2.1]
      exact hmissing
    · right
      exact (isSome_checkGroup hac).mp hgroup
  · rintro ⟨a, c, hac, hcase, rfl⟩
    refine ⟨_, List.mem_map.mpr ⟨c, mem_activeTruth_checks.mpr ⟨a, hac⟩, rfl⟩, rfl, ?_⟩
    rcases hcase with hmissing | hunmet
    · left
      rw [← mem_missingAssetIds_self hac.1, ← hac.2.2.1] at hmissing
      exact hmissing
    · right
      exact (isSome_checkGroup hac).mpr hunmet

/-- **The checks a compile retires** are the ones its decisions name. -/
theorem mem_retiredCheckIds {id : UUID} :
    id ∈ (retireMissing cx gate db).retiredCheckIds ↔
      gate.allowRetirement = true ∧ ∃ a c, IsActiveCheck cx db a c ∧
        (AssetMissing cx db a ∨ CheckUnmet cx db a c) ∧ c.id = id := by
  rw [(retireMissing_inv cx db gate).mem_checks, isActiveCheck_iff, mem_retirementDecisions]
  refine and_iff_right_of_imp ?_
  rintro ⟨-, a, c, hac, -, hid⟩
  exact ⟨a, c, hac, hid⟩

end Retires

end AssetCompiler

end Runlet
