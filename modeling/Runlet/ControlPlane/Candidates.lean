import Runlet.ControlPlane.AliasResolution

/-!
# The candidates of a hint

`list_check_candidates` of `control_plane/repository.py`: the active checks of a system that a page
hint may mean, with how often and when they were run.

The query joins every check with the confidence of the intent aliases of its asset, with the best
navigation alias of its asset, and with the plans and the runs of the check.  The first two joins
add at most one row to a check, and the last two are counted away by the grouping.  So a check is
listed once, with the number of its runs, and every answer of the resolver is listed
(`candidates_contain_resolution`).
-/

namespace Runlet

open KeyedTable RowQuery

structure CheckCandidateStats where
  pageAssetId : UUID
  pageCheckId : UUID
  assetKey : String
  checkCode : String
  goal : String
  leafText : Option String
  displayChain : Option String
  chainComplete : Bool
  aliasConfidence : Rat
  successRate : Option Rat
  lastRunAt : Option DateTime
  sampleCount : ℕ
  deriving DecidableEq

namespace Candidates

open Resolution

/-! ## The subqueries -/

section Subqueries

variable (systemHint pageHint : String) (db : Db)

def confidenceOrder : SortOrder IntentAlias :=
  SortOrder.descending fun row => row.confidence

/-- The greatest confidence of the aliases of each asset key. -/
def aliasConfidences : List (String × Rat) :=
  (groupBy IntentAlias.assetKey
      (db.intentAliases.select fun row => row.isActive && matchesPageAlias pageHint systemHint row)
    ).filterMap fun g => (firstBy confidenceOrder g.2).map fun row => (g.1, row.confidence)

def navigationRankOrder : SortOrder PageNavigationAlias :=
  (SortOrder.flagged fun row => row.chainComplete).andThen (SortOrder.ascending fun row => row.id)

/-- The navigation alias that is ranked first, for each asset. -/
def navigationAliases : List PageNavigationAlias :=
  rankedFirst PageNavigationAlias.pageAssetId navigationRankOrder
    (db.pageNavigationAliases.select (matchesNavigation pageHint))

end Subqueries

/-! ## The joins -/

/-- A check of an asset of a page, with what the two subqueries say of its asset. -/
structure CandidateRow where
  check : PageCheck
  asset : PageAsset
  page : Page
  aliasConfidence : Option Rat
  navigation : Option PageNavigationAlias

/-- The columns of the grouping. -/
structure CandidateKey where
  checkId : UUID
  pageAssetId : UUID
  assetKey : String
  assetVersion : String
  checkCode : String
  goal : String
  navigationAssetId : Option UUID
  leafText : Option String
  displayChain : Option String
  chainComplete : Option Bool
  aliasConfidence : Option Rat
  successRate : Option Rat
  deriving DecidableEq

def CandidateRow.groupKey (row : CandidateRow) : CandidateKey where
  checkId := row.check.id
  pageAssetId := row.check.pageAssetId
  assetKey := row.asset.assetKey
  assetVersion := row.asset.assetVersion
  checkCode := row.check.checkCode
  goal := row.check.goal
  navigationAssetId := row.navigation.map PageNavigationAlias.pageAssetId
  leafText := row.navigation.bind PageNavigationAlias.leafText
  displayChain := row.navigation.bind PageNavigationAlias.displayChain
  chainComplete := row.navigation.map PageNavigationAlias.chainComplete
  aliasConfidence := row.aliasConfidence
  successRate := row.check.successRate

/-- The confidence of an intent alias, else full confidence in a navigation alias. -/
def CandidateKey.confidence (k : CandidateKey) : Rat :=
  match k.aliasConfidence with
  | some confidence => confidence
  | none => if k.navigationAssetId.isSome then 1 else 0

section Joins

variable (systemId : UUID) (systemHint pageHint : String) (db : Db)

/-- The asset and the page of an active check, when the asset is safe, active and of the system. -/
def baseRow (check : PageCheck) : Option (PageCheck × PageAsset × Page) :=
  match db.pageAssets.get? check.pageAssetId with
  | none => none
  | some asset =>
    match db.pages.get? asset.pageId with
    | none => none
    | some page => if isActiveAssetOf systemId asset then some (check, asset, page) else none

def baseRows : List (PageCheck × PageAsset × Page) :=
  (db.pageChecks.select fun check => check.lifecycleStatus = .active).filterMap
    (baseRow systemId db)

/-- The outer join with the confidences of the asset key. -/
def confidenceRows : List ((PageCheck × PageAsset × Page) × Option (String × Rat)) :=
  leftJoin (fun row => (aliasConfidences systemHint pageHint db).filter fun c =>
    c.1 = row.2.1.assetKey) (baseRows systemId db)

/-- The outer join with the navigation aliases of the asset. -/
def joinedRows : List CandidateRow :=
  (leftJoin (fun row => (navigationAliases pageHint db).filter fun nav =>
      nav.pageAssetId = row.1.2.1.id) (confidenceRows systemId systemHint pageHint db)).map
    fun row =>
      { check := row.1.1.1
        asset := row.1.1.2.1
        page := row.1.1.2.2
        aliasConfidence := row.1.2.map Prod.snd
        navigation := row.2 }

/-- The row is about the hint. -/
def isAbout (row : CandidateRow) : Bool :=
  row.navigation.isSome || row.aliasConfidence.isSome || matchesPageFields pageHint row.page row.asset

def candidateRows : List CandidateRow :=
  (joinedRows systemId systemHint pageHint db).filter (isAbout pageHint)

/-- The plans that resolved to the check of a row. -/
def plansOf (row : CandidateRow) : List ExecutionPlan :=
  db.executionPlans.select fun plan => plan.resolvedPageCheckId = some row.check.id

/-- The runs of a plan. -/
def runsOf (row : CandidateRow × Option ExecutionPlan) : List ExecutionRun :=
  match row.2 with
  | none => []
  | some plan => db.executionRuns.select fun run => run.executionPlanId = plan.id

/-- The outer joins with the plans of the check and with the runs of the plans. -/
def executedRows : List ((CandidateRow × Option ExecutionPlan) × Option ExecutionRun) :=
  leftJoin (runsOf db) (leftJoin (plansOf db) (candidateRows systemId systemHint pageHint db))

end Joins

/-! ## The list -/

/-- A group as a candidate: its columns, and its runs counted. -/
def candidateOf (g : CandidateKey × List ((CandidateRow × Option ExecutionPlan) ×
    Option ExecutionRun)) : CheckCandidateStats :=
  let runs := g.2.filterMap fun row => row.2
  { pageAssetId := g.1.pageAssetId
    pageCheckId := g.1.checkId
    assetKey := g.1.assetKey
    checkCode := g.1.checkCode
    goal := g.1.goal
    leafText := g.1.leafText
    displayChain := g.1.displayChain
    chainComplete := g.1.chainComplete.getD false
    aliasConfidence := g.1.confidence
    successRate := g.1.successRate
    lastRunAt := (runs.map ExecutionRun.createdAt).max?
    sampleCount := runs.length }

def candidateOrder : SortOrder (CandidateKey × List ((CandidateRow × Option ExecutionPlan) ×
    Option ExecutionRun)) :=
  (SortOrder.descending fun g => g.1.confidence).andThen
    ((SortOrder.descending fun g => g.1.assetVersion).andThen
      (SortOrder.ascending fun g => g.1.checkId))

def candidateGroups (systemId : UUID) (systemHint pageHint : String) (db : Db) :
    List (CandidateKey × List ((CandidateRow × Option ExecutionPlan) × Option ExecutionRun)) :=
  groupBy (fun row => row.1.1.groupKey) (executedRows systemId systemHint pageHint db)

/-- `list_check_candidates`. -/
def listCheckCandidates (systemHint : String) (pageHint : Option String) (db : Db) :
    List CheckCandidateStats :=
  match resolveSystem systemHint db, pageHint with
  | some system, some hint =>
    (orderBy candidateOrder
      (candidateGroups system.id (normalizedHint systemHint) (normalizedHint hint) db)).map
        candidateOf
  | _, _ => []

/-! ## One row for a check -/

section Rows

variable {systemId : UUID} {systemHint pageHint : String} {db : Db}

theorem nodup_keys_aliasConfidences :
    ((aliasConfidences systemHint pageHint db).map Prod.fst).Nodup := by
  refine (sublist_map_filterMap fun g _ c hc => ?_).nodup (nodup_keys_groupBy _)
  obtain ⟨row, -, rfl⟩ := Option.map_eq_some_iff.mp hc
  rfl

/-- An active intent alias of the hint gives its asset key a confidence. -/
theorem exists_aliasConfidence {row : IntentAlias} (hrow : row ∈ db.intentAliases)
    (hactive : row.isActive = true) (hmatch : matchesPageAlias pageHint systemHint row = true) :
    ∃ c ∈ aliasConfidences systemHint pageHint db, c.1 = row.assetKey := by
  have hmem : row ∈ db.intentAliases.select
      fun row => row.isActive && matchesPageAlias pageHint systemHint row :=
    Table.mem_select.mpr ⟨hrow, by rw [hactive, hmatch]; rfl⟩
  obtain ⟨best, hbest, -⟩ := exists_firstBy_group (f := IntentAlias.assetKey)
    (o := confidenceOrder) hmem
  refine ⟨(row.assetKey, best.confidence),
    List.mem_filterMap.mpr ⟨_, group_mem_groupBy hmem, ?_⟩, rfl⟩
  rw [hbest]
  rfl

theorem nodup_keys_navigationAliases :
    ((navigationAliases pageHint db).map PageNavigationAlias.pageAssetId).Nodup :=
  nodup_keys_rankedFirst _ _

/-- A navigation alias of the hint gives its asset one that is ranked first. -/
theorem exists_navigationAlias {row : PageNavigationAlias} (hrow : row ∈ db.pageNavigationAliases)
    (hmatch : matchesNavigation pageHint row = true) :
    ∃ nav ∈ navigationAliases pageHint db, nav.pageAssetId = row.pageAssetId :=
  exists_mem_rankedFirst (Table.mem_select.mpr ⟨hrow, hmatch⟩)

/-- What the two subqueries add to a check. -/
def viewOf (systemHint pageHint : String) (db : Db) (row : PageCheck × PageAsset × Page) :
    CandidateRow where
  check := row.1
  asset := row.2.1
  page := row.2.2
  aliasConfidence := (((aliasConfidences systemHint pageHint db).filter fun c =>
    c.1 = row.2.1.assetKey).head?).map Prod.snd
  navigation := ((navigationAliases pageHint db).filter fun nav =>
    nav.pageAssetId = row.2.1.id).head?

/-- The outer joins with the aliases neither multiply nor drop a check. -/
theorem joinedRows_eq : joinedRows systemId systemHint pageHint db =
    (baseRows systemId db).map (viewOf systemHint pageHint db) := by
  unfold joinedRows confidenceRows
  rw [leftJoin_eq_map fun row _ => length_filter_key_le_one nodup_keys_aliasConfidences _,
    leftJoin_eq_map fun row _ => length_filter_key_le_one nodup_keys_navigationAliases _,
    List.map_map, List.map_map]
  rfl

theorem mem_baseRows {row : PageCheck × PageAsset × Page} :
    row ∈ baseRows systemId db ↔
      (row.1 ∈ db.pageChecks ∧ row.1.lifecycleStatus = .active) ∧
        (row.2.1 ∈ db.pageAssets ∧ row.2.1.id = row.1.pageAssetId) ∧
        (row.2.2 ∈ db.pages ∧ row.2.2.id = row.2.1.pageId) ∧
          isActiveAssetOf systemId row.2.1 = true := by
  obtain ⟨check, asset, page⟩ := row
  unfold baseRows
  rw [List.mem_filterMap]
  constructor
  · rintro ⟨c, hc, hrow⟩
    rw [Table.mem_select, decide_eq_true_eq] at hc
    unfold baseRow at hrow
    split at hrow
    · exact absurd hrow (Option.some_ne_none _).symm
    · rename_i a ha
      split at hrow
      · exact absurd hrow (Option.some_ne_none _).symm
      · rename_i p hp
        split at hrow
        · rename_i hactive
          simp only [Option.some_inj, Prod.mk.injEq] at hrow
          obtain ⟨rfl, rfl, rfl⟩ := hrow
          exact ⟨hc, Table.get?_eq_some_iff.mp ha, Table.get?_eq_some_iff.mp hp, hactive⟩
        · exact absurd hrow (Option.some_ne_none _).symm
  · rintro ⟨hc, ha, hp, hactive⟩
    refine ⟨check, Table.mem_select.mpr ⟨hc.1, decide_eq_true hc.2⟩, ?_⟩
    unfold baseRow
    rw [Table.get?_eq_some_iff.mpr ha]
    simp only
    rw [Table.get?_eq_some_iff.mpr hp]
    simp only
    rw [if_pos hactive]

/-- A check is in one row at most. -/
theorem nodup_checks_candidateRows :
    ((candidateRows systemId systemHint pageHint db).map fun row => row.check.id).Nodup := by
  have hbase : ((baseRows systemId db).map fun row => row.1.id).Nodup := by
    refine (sublist_map_filterMap fun check _ row hrow => ?_).nodup
      (Table.nodup_map_key_select db.pageChecks _)
    unfold baseRow at hrow
    split at hrow
    · exact absurd hrow (Option.some_ne_none _).symm
    · split at hrow
      · exact absurd hrow (Option.some_ne_none _).symm
      · split at hrow
        · rw [← Option.some_inj.mp hrow]
          rfl
        · exact absurd hrow (Option.some_ne_none _).symm
  unfold candidateRows
  refine (List.filter_sublist.map _).nodup ?_
  rw [joinedRows_eq, List.map_map]
  exact hbase

theorem eq_of_check_eq {row row' : CandidateRow}
    (hrow : row ∈ candidateRows systemId systemHint pageHint db)
    (hrow' : row' ∈ candidateRows systemId systemHint pageHint db)
    (h : row.check.id = row'.check.id) : row = row' :=
  List.inj_on_of_nodup_map nodup_checks_candidateRows hrow hrow' h

end Rows

/-! ## One group for a check -/

section Groups

variable {systemId : UUID} {systemHint pageHint : String} {db : Db}

/-- The rows of the group of a check: its plans and their runs. -/
theorem filter_executedRows {row : CandidateRow}
    (hrow : row ∈ candidateRows systemId systemHint pageHint db) :
    ((executedRows systemId systemHint pageHint db).filter fun e =>
        e.1.1.groupKey = row.groupKey) = leftJoin (runsOf db) (leftJoin (plansOf db) [row]) := by
  have hone : ((candidateRows systemId systemHint pageHint db).filter fun other =>
      other.groupKey = row.groupKey) = [row] := by
    refine filter_eq_singleton nodup_checks_candidateRows hrow fun other hother => ?_
    rw [decide_eq_true_eq]
    constructor
    · exact fun h => congrArg CandidateKey.checkId h
    · exact fun h => congrArg CandidateRow.groupKey (eq_of_check_eq hother hrow h)
  unfold executedRows
  rw [filter_leftJoin (p := fun left : CandidateRow × Option ExecutionPlan =>
      left.1.groupKey = row.groupKey),
    filter_leftJoin (p := fun other : CandidateRow => other.groupKey = row.groupKey), hone]

theorem mem_candidateGroups {g : CandidateKey × List ((CandidateRow × Option ExecutionPlan) ×
    Option ExecutionRun)} :
    g ∈ candidateGroups systemId systemHint pageHint db ↔
      ∃ row ∈ candidateRows systemId systemHint pageHint db,
        g = (row.groupKey, leftJoin (runsOf db) (leftJoin (plansOf db) [row])) := by
  unfold candidateGroups
  rw [mem_groupBy]
  constructor
  · rintro ⟨⟨e, he, hkey⟩, hrows⟩
    have hrow : e.1.1 ∈ candidateRows systemId systemHint pageHint db :=
      (mem_leftJoin.mp (mem_leftJoin.mp he).1).1
    refine ⟨e.1.1, hrow, Prod.ext hkey.symm ?_⟩
    rw [hrows, ← filter_executedRows hrow, hkey]
  · rintro ⟨row, hrow, rfl⟩
    obtain ⟨plan, hplan⟩ := exists_mem_leftJoin (plansOf db) hrow
    obtain ⟨run, hrun⟩ := exists_mem_leftJoin (runsOf db) hplan
    exact ⟨⟨_, hrun, rfl⟩, (filter_executedRows hrow).symm⟩

/-- The checks of the groups are pairwise distinct. -/
theorem nodup_checks_candidateGroups :
    ((candidateGroups systemId systemHint pageHint db).map fun g => g.1.checkId).Nodup := by
  have hkeys := nodup_keys_groupBy (f := fun row : (CandidateRow × Option ExecutionPlan) ×
    Option ExecutionRun => row.1.1.groupKey) (executedRows systemId systemHint pageHint db)
  have hmap : (candidateGroups systemId systemHint pageHint db).map (fun g => g.1.checkId) =
      ((candidateGroups systemId systemHint pageHint db).map Prod.fst).map CandidateKey.checkId := by
    rw [List.map_map]
    rfl
  rw [hmap]
  refine (List.nodup_map_iff_inj_on hkeys).mpr ?_
  intro k hk k' hk' h
  obtain ⟨g, hg, rfl⟩ := List.mem_map.mp hk
  obtain ⟨g', hg', rfl⟩ := List.mem_map.mp hk'
  obtain ⟨row, hrow, rfl⟩ := mem_candidateGroups.mp hg
  obtain ⟨row', hrow', rfl⟩ := mem_candidateGroups.mp hg'
  exact congrArg CandidateRow.groupKey (eq_of_check_eq hrow hrow' h)

end Groups

/-! ## The runs of a check -/

section Runs

variable (db : Db)

/-- The check that the plan of a run resolved to. -/
def resolvedCheckOf (run : ExecutionRun) : Option UUID :=
  (db.executionPlans.get? run.executionPlanId).bind ExecutionPlan.resolvedPageCheckId

/-- The runs whose plan resolved to the check. -/
def runsOfCheck (checkId : UUID) : List ExecutionRun :=
  db.executionRuns.rows.filter fun run => resolvedCheckOf db run = some checkId

variable {db}

theorem filterMap_groupRuns (row : CandidateRow) :
    (leftJoin (runsOf db) (leftJoin (plansOf db) [row])).filterMap (fun e => e.2) =
      (plansOf db row).flatMap fun plan => runsOf db (row, some plan) := by
  rw [filterMap_leftJoin]
  unfold leftJoin
  rw [List.flatMap_singleton]
  cases plansOf db row with
  | nil => rfl
  | cons plan rest => rw [List.flatMap_map]

theorem mem_plansOf {row : CandidateRow} {plan : ExecutionPlan} :
    plan ∈ plansOf db row ↔
      plan ∈ db.executionPlans ∧ plan.resolvedPageCheckId = some row.check.id := by
  rw [plansOf, Table.mem_select, decide_eq_true_eq]

theorem mem_runsOf {row : CandidateRow} {plan : ExecutionPlan} {run : ExecutionRun} :
    run ∈ runsOf db (row, some plan) ↔
      run ∈ db.executionRuns ∧ run.executionPlanId = plan.id := by
  unfold runsOf
  rw [Table.mem_select, decide_eq_true_eq]

/-- The runs of a group are the runs of its check, each of them once. -/
theorem perm_groupRuns (row : CandidateRow) :
    ((leftJoin (runsOf db) (leftJoin (plansOf db) [row])).filterMap fun e => e.2).Perm
      (runsOfCheck db row.check.id) := by
  rw [filterMap_groupRuns]
  have hnodup : ((plansOf db row).flatMap fun plan => runsOf db (row, some plan)).Nodup := by
    rw [List.nodup_flatMap]
    refine ⟨fun plan _ => Table.nodup_select _ _, ?_⟩
    refine (Table.nodup_map_key_select db.executionPlans _).of_map.imp_of_mem ?_
    intro plan plan' hplan hplan' hne run hrun hrun'
    have hid := (mem_runsOf.mp hrun).2.symm.trans (mem_runsOf.mp hrun').2
    exact hne (Table.eq_of_key_eq (mem_plansOf.mp hplan).1 (mem_plansOf.mp hplan').1 hid)
  have hruns : (runsOfCheck db row.check.id).Nodup :=
    (List.Nodup.of_map _ db.executionRuns.nodup).filter _
  refine (List.perm_ext_iff_of_nodup hnodup hruns).mpr fun run => ?_
  unfold runsOfCheck resolvedCheckOf
  rw [List.mem_flatMap, List.mem_filter, decide_eq_true_eq, Option.bind_eq_some_iff]
  constructor
  · rintro ⟨plan, hplan, hrun⟩
    obtain ⟨hplan, hcheck⟩ := mem_plansOf.mp hplan
    obtain ⟨hrun, hid⟩ := mem_runsOf.mp hrun
    exact ⟨hrun, plan, Table.get?_eq_some_iff.mpr ⟨hplan, hid.symm⟩, hcheck⟩
  · rintro ⟨hrun, plan, hplan, hcheck⟩
    obtain ⟨hplan, hid⟩ := Table.get?_eq_some_iff.mp hplan
    exact ⟨plan, mem_plansOf.mpr ⟨hplan, hcheck⟩, mem_runsOf.mpr ⟨hrun, hid.symm⟩⟩

end Runs

/-! ## The resolver and the list -/

section Contains

variable {db : Db} {systemHint pageHint goal : String} {system : System}

/-- What an answered check is listed as. -/
theorem mem_candidateRows_of_matchesHint {asset : PageAsset} {check : PageCheck}
    (hpages : ∀ asset ∈ db.pageAssets, ∃ page ∈ db.pages, page.id = asset.pageId)
    (hnames : Names db system.id goal asset check)
    (hmatch : MatchesHint db systemHint pageHint goal asset) :
    ∃ row ∈ candidateRows system.id systemHint pageHint db,
      row.check = check ∧ row.asset = asset := by
  obtain ⟨page, hpage, hpageId⟩ := hpages asset hnames.asset_mem
  have hbase : (check, asset, page) ∈ baseRows system.id db :=
    mem_baseRows.mpr ⟨⟨hnames.check_mem, hnames.check_active⟩,
      ⟨hnames.asset_mem, hnames.pageAssetId_eq.symm⟩, ⟨hpage, hpageId⟩,
      isActiveAssetOf_iff.mpr ⟨hnames.systemId_eq, hnames.safe, hnames.asset_active⟩⟩
  refine ⟨viewOf systemHint pageHint db (check, asset, page), ?_, rfl, rfl⟩
  refine List.mem_filter.mpr ⟨?_, ?_⟩
  · rw [joinedRows_eq]
    exact List.mem_map_of_mem hbase
  simp only [isAbout, Bool.or_eq_true]
  rcases hmatch with ⟨row, hrow, hid, halias⟩ | ⟨row, hrow, hkey, halias⟩ |
    ⟨page', hpage', hid, hfields⟩
  · left; left
    obtain ⟨nav, hnav, hnavId⟩ := exists_navigationAlias hrow halias
    have hmem : nav ∈ (navigationAliases pageHint db).filter fun nav => nav.pageAssetId = asset.id :=
      List.mem_filter.mpr ⟨hnav, decide_eq_true (hnavId.trans hid)⟩
    exact List.isSome_head?.mpr (List.ne_nil_of_mem hmem)
  · left; right
    simp only [matchesIntent, Bool.and_eq_true] at halias
    obtain ⟨c, hc, hcKey⟩ := exists_aliasConfidence hrow halias.1 halias.2.1
    have hmem : c ∈ (aliasConfidences systemHint pageHint db).filter fun c => c.1 = asset.assetKey :=
      List.mem_filter.mpr ⟨hc, decide_eq_true (hcKey.trans hkey)⟩
    show (Option.map Prod.snd _).isSome = true
    rw [Option.isSome_map]
    exact List.isSome_head?.mpr (List.ne_nil_of_mem hmem)
  · right
    rwa [Table.eq_of_key_eq hpage' hpage (hid.trans hpageId.symm)] at hfields

/-- The candidates have pairwise distinct checks. -/
theorem nodup_checks_listCheckCandidates (systemHint : String) (pageHint : Option String) :
    ((listCheckCandidates systemHint pageHint db).map CheckCandidateStats.pageCheckId).Nodup := by
  unfold listCheckCandidates
  split
  · rw [List.map_map]
    exact ((perm_orderBy _).map _).nodup_iff.mpr nodup_checks_candidateGroups
  · exact List.nodup_nil

/-- A candidate is the group of a row. -/
theorem exists_row_of_mem_listCheckCandidates {hint : Option String} {c : CheckCandidateStats}
    (hc : c ∈ listCheckCandidates systemHint hint db) :
    ∃ system pageHint, ∃ row ∈ candidateRows system (normalizedHint systemHint) pageHint db,
      c = candidateOf (row.groupKey, leftJoin (runsOf db) (leftJoin (plansOf db) [row])) := by
  unfold listCheckCandidates at hc
  split at hc
  · obtain ⟨g, hg, rfl⟩ := List.mem_map.mp hc
    obtain ⟨row, hrow, rfl⟩ := mem_candidateGroups.mp (mem_orderBy.mp hg)
    exact ⟨_, _, row, hrow, rfl⟩
  · exact absurd hc List.not_mem_nil

end Contains

section Listed

variable (db : Db) (systemHint : String) (pageHint : Option String) (checkGoal : String)

/-- **The candidates contain the resolution.**  Where every asset has its page, the pair that a
resolution answers is listed exactly once for the same hints; every check is listed once at most;
and a candidate counts the runs whose plan resolved to its check. -/
theorem candidates_contain_resolution [AliasTies]
    (hpages : ∀ asset ∈ db.pageAssets, ∃ page ∈ db.pages, page.id = asset.pageId) :
    (∀ asset check,
      (resolvePageAssetAndCheck systemHint pageHint checkGoal db).pageAsset = some asset →
      (resolvePageAssetAndCheck systemHint pageHint checkGoal db).pageCheck = some check →
        ((listCheckCandidates systemHint pageHint db).filter fun c =>
          c.pageAssetId = asset.id && c.pageCheckId = check.id).length = 1) ∧
      ((listCheckCandidates systemHint pageHint db).map CheckCandidateStats.pageCheckId).Nodup ∧
        ∀ c ∈ listCheckCandidates systemHint pageHint db,
          c.sampleCount = (runsOfCheck db c.pageCheckId).length := by
  refine ⟨fun asset check hasset hcheck => ?_, nodup_checks_listCheckCandidates _ _, ?_⟩
  · unfold resolvePageAssetAndCheck at hasset hcheck
    cases hsystem : resolveSystem systemHint db with
    | none =>
      rw [hsystem] at hasset
      exact absurd hasset (Option.some_ne_none asset).symm
    | some system =>
      rw [hsystem] at hasset hcheck
      cases pageHint with
      | none => exact absurd hasset (Option.some_ne_none asset).symm
      | some hint =>
        have hnames := names_of_resolveInSystem hasset hcheck
        obtain ⟨row, hrow, rfl, rfl⟩ := mem_candidateRows_of_matchesHint hpages hnames
          (matchesHint_of_resolveInSystem hasset).2
        have hlisted : candidateOf (row.groupKey,
            leftJoin (runsOf db) (leftJoin (plansOf db) [row])) ∈
              listCheckCandidates systemHint (some hint) db := by
          unfold listCheckCandidates
          rw [hsystem]
          exact List.mem_map_of_mem (mem_orderBy.mpr (mem_candidateGroups.mpr ⟨row, hrow, rfl⟩))
        rw [filter_eq_singleton (nodup_checks_listCheckCandidates systemHint (some hint)) hlisted]
        · rfl
        · intro c hc
          obtain ⟨_, _, other, _, rfl⟩ := exists_row_of_mem_listCheckCandidates hc
          simp only [Bool.and_eq_true, decide_eq_true_eq]
          constructor
          · exact fun h => h.2
          · intro h
            have hsame := List.inj_on_of_nodup_map
              (nodup_checks_listCheckCandidates systemHint (some hint)) hc hlisted h
            exact ⟨(congrArg CheckCandidateStats.pageAssetId hsame).trans hnames.pageAssetId_eq, h⟩
  · intro c hc
    obtain ⟨_, _, row, _, rfl⟩ := exists_row_of_mem_listCheckCandidates hc
    exact (perm_groupRuns row).length_eq

end Listed

/-! ## A list with runs -/

section Sample

local instance : AliasTies := AliasTies.byKeys

/-- A page with a check that ran twice under one plan. -/
def candidateDb : Db :=
  { dialogDb with
    pageChecks := .single dialogCheck
    executionPlans := .single
      { id := 7, executionRequestId := 8, resolvedSystemId := some 1, resolvedPageAssetId := some 3,
        resolvedPageCheckId := some 4, executionTrack := "precompiled",
        authPolicy := "server_injected" }
    executionRuns :=
      ⟨[{ id := 9, executionPlanId := 7, status := "passed", createdAt := 1 },
        { id := 10, executionPlanId := 7, status := "failed", createdAt := 2 }], by decide⟩ }

theorem candidates_contain_resolution_sample :
    ((listCheckCandidates "crm" (some "Users") candidateDb).filter fun c =>
        c.pageAssetId = dialogAsset.id && c.pageCheckId = dialogCheck.id).length = 1 ∧
      ((listCheckCandidates "crm" (some "Users") candidateDb).map
        CheckCandidateStats.pageCheckId).Nodup ∧
      (∀ c ∈ listCheckCandidates "crm" (some "Users") candidateDb,
        c.sampleCount = (runsOfCheck candidateDb c.pageCheckId).length) ∧
      (runsOfCheck candidateDb dialogCheck.id).length = 2 := by
  obtain ⟨honce, hnodup, hcounts⟩ := candidates_contain_resolution candidateDb "crm"
    (some "Users") "open_create_modal" (by decide)
  exact ⟨honce dialogAsset dialogCheck (by decide +kernel) rfl, hnodup, hcounts, by decide +kernel⟩

end Sample

end Candidates

end Runlet
