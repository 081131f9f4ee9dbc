import Mathlib.Algebra.Order.Ring.Unbundled.Rat
import Runlet.Infrastructure.Database
import Runlet.Library.Query

/-!
# Resolving a check request

`resolve_system`, `resolve_page_asset_and_check` and `resolve_retired_page_asset_or_check` of
`control_plane/repository.py`: from the texts of a request to the page asset and the check it means.

A page hint is looked up three ways: among the navigation aliases of the assets, among the intent
aliases, and among the fields of the pages.  The queries for intent aliases leave rows tied; how
these come is a parameter (`AliasTies`).

What a resolution answers is the asset and the check asked for (`sound_of_resolve`).  A hint that is
the navigation alias of one asset only is nevertheless called ambiguous when two checks of that
asset have the goal: rows are told apart by their checks, not by their pages
(`resolves_unique_alias`).
-/

namespace Runlet

open KeyedTable RowQuery

/-- `hint.strip().lower()`. -/
def normalizedHint (hint : String) : String :=
  Text.lower (Text.strip hint)

/-- `lower(column) = hint`. -/
def lowerIs (hint column : String) : Bool :=
  Text.lower column = hint

/-- `lower(column) = hint` for a column that may be null. -/
def lowerIsSome (hint : String) (column : Option String) : Bool :=
  column.any (lowerIs hint)

/-- Why a request has no check. -/
inductive MissReason where
  | systemNotFound
  | pageOrMenuNotResolved
  | ambiguousPageAlias
  | elementAssetMissing
  deriving DecidableEq, Repr

def MissReason.value : MissReason → String
  | .systemNotFound => "system_not_found"
  | .pageOrMenuNotResolved => "page_or_menu_not_resolved"
  | .ambiguousPageAlias => "ambiguous_page_alias"
  | .elementAssetMissing => "element_asset_missing"

structure CheckResolution where
  system : Option System
  pageAsset : Option PageAsset
  pageCheck : Option PageCheck
  missReason : Option MissReason

/-- The retired asset a request names, or the retired check of an active one. -/
structure RetiredResolutionTarget where
  pageAsset : PageAsset
  pageCheck : Option PageCheck := none

namespace Resolution

/-! ## The conditions of the queries -/

section Conditions

variable (goal pageHint systemHint : String)

/-- The check is named by the goal: by its own goal or by its code. -/
def matchesGoal (check : PageCheck) : Bool :=
  lowerIs goal check.goal || lowerIs goal check.checkCode

/-- The intent alias is an alias of the system, under the page hint. -/
def matchesPageAlias (row : IntentAlias) : Bool :=
  lowerIs systemHint row.systemAlias &&
    (lowerIsSome pageHint row.pageAlias || lowerIsSome pageHint row.routeHint)

def matchesIntent (row : IntentAlias) : Bool :=
  matchesPageAlias pageHint systemHint row && lowerIs goal row.checkAlias

def matchesNavigation (row : PageNavigationAlias) : Bool :=
  row.isActive && lowerIs pageHint row.aliasText

def matchesPageFields (page : Page) (asset : PageAsset) : Bool :=
  lowerIsSome pageHint page.pageTitle || lowerIs pageHint page.routePath ||
    lowerIs pageHint asset.assetKey

end Conditions

/-- A safe asset of the system, active or not. -/
def isSafeAssetOf (systemId : UUID) (asset : PageAsset) : Bool :=
  asset.systemId = systemId && asset.status = .safe

/-- A safe asset, of the system when one is given. -/
def isSafeAssetIn : Option UUID → PageAsset → Bool
  | some systemId => isSafeAssetOf systemId
  | none => fun asset => asset.status = .safe

/-- A safe and active asset of the system. -/
def isActiveAssetOf (systemId : UUID) (asset : PageAsset) : Bool :=
  isSafeAssetOf systemId asset && asset.lifecycleStatus = .active

/-- An active check of the asset that the goal names. -/
def isActiveCheckOf (goal : String) (asset : PageAsset) (check : PageCheck) : Bool :=
  check.pageAssetId = asset.id && check.lifecycleStatus = .active && matchesGoal goal check

/-- A retired check of the asset that the goal names. -/
def isRetiredCheckOf (goal : String) (asset : PageAsset) (check : PageCheck) : Bool :=
  check.pageAssetId = asset.id && matchesGoal goal check && check.lifecycleStatus.retired

/-! ## Systems -/

/-- `resolve_system`. -/
def resolveSystem (systemHint : String) (db : Db) : Option System :=
  db.systems.first? fun row =>
    lowerIs (normalizedHint systemHint) row.code || lowerIs (normalizedHint systemHint) row.name

/-! ## Navigation aliases -/

/-- The rows of the query, before they are ordered: an active asset of the system, an active check
of it that the goal names, and a navigation alias of it that the hint is. -/
def navigationRows (systemId : UUID) (pageHint goal : String) (db : Db) :
    List (PageAsset × PageCheck × PageNavigationAlias) :=
  (db.pageAssets.select (isActiveAssetOf systemId)).flatMap fun asset =>
    (db.pageChecks.select (isActiveCheckOf goal asset)).flatMap fun check =>
      (db.pageNavigationAliases.select fun row =>
        row.pageAssetId = asset.id && matchesNavigation pageHint row).map fun row =>
          (asset, check, row)

def navigationOrder : SortOrder (PageAsset × PageCheck × PageNavigationAlias) :=
  (SortOrder.flagged fun m => m.2.2.chainComplete).andThen
    ((SortOrder.descending fun m => m.1.assetVersion).andThen
      ((SortOrder.ascending fun m => m.2.1.id).andThen
        (SortOrder.ascending fun m => m.2.2.id)))

/-- `_list_navigation_alias_resolution_matches`: one row for each check. -/
def listNavigationAliasResolutionMatches (systemId : UUID) (pageHint goal : String) (db : Db) :
    List (PageAsset × PageCheck × PageNavigationAlias) :=
  dedupeBy (fun m => m.2.1.id) [] (orderBy navigationOrder (navigationRows systemId pageHint goal db))

/-! ## Intent aliases and page fields -/

/-- How the rows come that `confidence` and `asset_version` leave tied: the query does not say, so
any order will do that tells them apart. -/
class AliasTies where
  order : SortOrder (PageAsset × IntentAlias)
  ids_eq : ∀ m m' : PageAsset × IntentAlias, order.before m m' = false →
    order.before m' m = false → m.1.id = m'.1.id ∧ m.2.id = m'.2.id

/-- By the keys of the rows. -/
abbrev AliasTies.byKeys : AliasTies where
  order := (SortOrder.ascending fun m => m.1.id).andThen (SortOrder.ascending fun m => m.2.id)
  ids_eq m m' h h' := by
    refine ⟨SortOrder.eq_of_ascending (SortOrder.tie_fst_of_andThen h h').1
      (SortOrder.tie_fst_of_andThen h h').2, ?_⟩
    obtain ⟨h, h'⟩ := SortOrder.tie_of_andThen h h'
    exact SortOrder.eq_of_ascending h h'

section Lookups

variable (assets : PageAsset → Bool) (aliases : IntentAlias → Bool) (pageHint : String) (db : Db)

/-- The assets with the intent aliases of their key. -/
def aliasRows : List (PageAsset × IntentAlias) :=
  (db.pageAssets.select assets).flatMap fun asset =>
    (db.intentAliases.select fun row => row.assetKey = asset.assetKey && aliases row).map fun row =>
      (asset, row)

def aliasOrder [AliasTies] : SortOrder (PageAsset × IntentAlias) :=
  (SortOrder.descending fun m => m.2.confidence).andThen
    ((SortOrder.descending fun m => m.1.assetVersion).andThen AliasTies.order)

/-- The asset an intent alias leads to. -/
def assetByAlias [AliasTies] : Option PageAsset :=
  (firstBy aliasOrder (aliasRows assets aliases db)).map Prod.fst

/-- The assets whose page, or whose key, has the hint in one of its fields. -/
def pageRows : List PageAsset :=
  db.pageAssets.select fun asset =>
    assets asset && (db.pages.get? asset.pageId).any fun page =>
      matchesPageFields pageHint page asset

def pageOrder : SortOrder PageAsset :=
  (SortOrder.descending fun asset => asset.assetVersion).andThen
    (SortOrder.ascending fun asset => asset.id)

/-- The asset the page fields lead to. -/
def assetByPage : Option PageAsset :=
  firstBy pageOrder (pageRows assets pageHint db)

end Lookups

/-! ## The resolution -/

section Resolve

variable (systemHint : String) (pageHint : Option String) (checkGoal : String) (db : Db)

/-- The check of an asset that was found: the first one that the goal names. -/
def resolveCheckOf (system : System) (goal : String) (asset : PageAsset) : CheckResolution :=
  match db.pageChecks.first? (isActiveCheckOf goal asset) with
  | none => ⟨some system, some asset, none, some .elementAssetMissing⟩
  | some check => ⟨some system, some asset, some check, none⟩

/-- The lookups that follow when no navigation alias is the hint. -/
def resolveByAliasOrPage [AliasTies] (system : System) (systemHint pageHint goal : String) : CheckResolution :=
  match assetByAlias (isActiveAssetOf system.id)
      (fun row => row.isActive && matchesIntent goal pageHint systemHint row) db with
  | some asset => resolveCheckOf db system goal asset
  | none =>
    match assetByPage (isActiveAssetOf system.id) pageHint db with
    | some asset => resolveCheckOf db system goal asset
    | none => ⟨some system, none, none, some .pageOrMenuNotResolved⟩

/-- The lookups of a page hint, for a system that was found. -/
def resolveInSystem [AliasTies] (system : System) (systemHint pageHint goal : String) : CheckResolution :=
  match listNavigationAliasResolutionMatches system.id pageHint goal db with
  | [] => resolveByAliasOrPage db system systemHint pageHint goal
  | [m] => ⟨some system, some m.1, some m.2.1, none⟩
  | _ => ⟨some system, none, none, some .ambiguousPageAlias⟩

/-- `resolve_page_asset_and_check`. -/
def resolvePageAssetAndCheck [AliasTies] : CheckResolution :=
  match resolveSystem systemHint db with
  | none => ⟨none, none, none, some .systemNotFound⟩
  | some system =>
    match pageHint with
    | none => ⟨some system, none, none, some .pageOrMenuNotResolved⟩
    | some hint =>
      resolveInSystem db system (normalizedHint systemHint) (normalizedHint hint)
        (normalizedHint checkGoal)

end Resolve

/-! ## Retired targets -/

section Retired

variable (systemHint : String) (systemId : Option UUID) (pageHint : Option String)
  (checkGoal : String) (db : Db)

/-- `_build_retired_resolution_target`. -/
def buildRetiredResolutionTarget (asset : PageAsset) (goal : String) :
    Option RetiredResolutionTarget :=
  if asset.lifecycleStatus ≠ .active then some { pageAsset := asset }
  else
    (db.pageChecks.first? (isRetiredCheckOf goal asset)).map fun check =>
      { pageAsset := asset, pageCheck := some check }

/-- The retired target an intent alias leads to, whether the alias is active or not. -/
def retiredTargetByAlias [AliasTies] (systemHint pageHint goal : String) : Option RetiredResolutionTarget :=
  (assetByAlias (isSafeAssetIn systemId) (matchesIntent goal pageHint systemHint) db).bind
    fun asset => buildRetiredResolutionTarget db asset goal

/-- The retired target the page fields lead to. -/
def retiredTargetByPage (systemId : UUID) (pageHint goal : String) :
    Option RetiredResolutionTarget :=
  (assetByPage (isSafeAssetOf systemId) pageHint db).bind
    fun asset => buildRetiredResolutionTarget db asset goal

/-- `resolve_retired_page_asset_or_check`. -/
def resolveRetiredPageAssetOrCheck [AliasTies] : Option RetiredResolutionTarget :=
  match pageHint with
  | none => none
  | some hint =>
    match retiredTargetByAlias systemId db (normalizedHint systemHint) (normalizedHint hint)
        (normalizedHint checkGoal) with
    | some target => some target
    | none =>
      match systemId with
      | none => none
      | some id => retiredTargetByPage db id (normalizedHint hint) (normalizedHint checkGoal)

end Retired

/-! ## What the lookups find -/

section Found

variable {db : Db} {systemId : UUID} {pageHint goal : String}

theorem mem_navigationRows {m : PageAsset × PageCheck × PageNavigationAlias} :
    m ∈ navigationRows systemId pageHint goal db ↔
      (m.1 ∈ db.pageAssets ∧ isActiveAssetOf systemId m.1 = true) ∧
      (m.2.1 ∈ db.pageChecks ∧ isActiveCheckOf goal m.1 m.2.1 = true) ∧
      m.2.2 ∈ db.pageNavigationAliases ∧ m.2.2.pageAssetId = m.1.id ∧
        matchesNavigation pageHint m.2.2 = true := by
  obtain ⟨asset, check, row⟩ := m
  simp only [navigationRows, List.mem_flatMap, List.mem_map, Table.mem_select, Bool.and_eq_true,
    decide_eq_true_eq, Prod.mk.injEq]
  constructor
  · rintro ⟨a, ha, c, hc, r, hr, rfl, rfl, rfl⟩
    exact ⟨ha, hc, hr⟩
  · rintro ⟨ha, hc, hr⟩
    exact ⟨asset, ha, check, hc, row, hr, rfl, rfl, rfl⟩

theorem mem_navigationRows_of_mem_matches {m : PageAsset × PageCheck × PageNavigationAlias}
    (h : m ∈ listNavigationAliasResolutionMatches systemId pageHint goal db) :
    m ∈ navigationRows systemId pageHint goal db :=
  mem_orderBy.mp (mem_of_mem_dedupeBy h).1

theorem matches_eq_nil_iff :
    listNavigationAliasResolutionMatches systemId pageHint goal db = [] ↔
      navigationRows systemId pageHint goal db = [] := by
  unfold listNavigationAliasResolutionMatches
  rw [dedupeBy_eq_nil_iff, ← List.length_eq_zero_iff, (perm_orderBy _).length_eq,
    List.length_eq_zero_iff]

/-- One match is left when there is a row, and all rows are about one check. -/
theorem matches_eq_singleton_iff :
    (∃ m, listNavigationAliasResolutionMatches systemId pageHint goal db = [m]) ↔
      navigationRows systemId pageHint goal db ≠ [] ∧
        ∀ m ∈ navigationRows systemId pageHint goal db,
          ∀ m' ∈ navigationRows systemId pageHint goal db, m.2.1.id = m'.2.1.id := by
  unfold listNavigationAliasResolutionMatches
  rw [dedupeBy_eq_singleton_iff, ← List.length_pos_iff, (perm_orderBy _).length_eq,
    List.length_pos_iff]
  simp only [mem_orderBy]

theorem mem_aliasRows {assets : PageAsset → Bool} {aliases : IntentAlias → Bool}
    {m : PageAsset × IntentAlias} :
    m ∈ aliasRows assets aliases db ↔
      (m.1 ∈ db.pageAssets ∧ assets m.1 = true) ∧
        m.2 ∈ db.intentAliases ∧ m.2.assetKey = m.1.assetKey ∧ aliases m.2 = true := by
  obtain ⟨asset, row⟩ := m
  simp only [aliasRows, List.mem_flatMap, List.mem_map, Table.mem_select, Bool.and_eq_true,
    decide_eq_true_eq, Prod.mk.injEq]
  constructor
  · rintro ⟨a, ha, r, hr, rfl, rfl⟩
    exact ⟨ha, hr⟩
  · rintro ⟨ha, hr⟩
    exact ⟨asset, ha, row, hr, rfl, rfl⟩

/-- An intent alias leads to an asset with its key. -/
theorem exists_of_assetByAlias [AliasTies] {assets : PageAsset → Bool} {aliases : IntentAlias → Bool}
    {asset : PageAsset} (h : assetByAlias assets aliases db = some asset) :
    (asset ∈ db.pageAssets ∧ assets asset = true) ∧
      ∃ row ∈ db.intentAliases, row.assetKey = asset.assetKey ∧ aliases row = true := by
  obtain ⟨m, hm, rfl⟩ := Option.map_eq_some_iff.mp h
  obtain ⟨ha, hr⟩ := mem_aliasRows.mp (mem_of_firstBy hm)
  exact ⟨ha, m.2, hr⟩

theorem mem_pageRows {assets : PageAsset → Bool} {asset : PageAsset} :
    asset ∈ pageRows assets pageHint db ↔
      (asset ∈ db.pageAssets ∧ assets asset = true) ∧
        ∃ page ∈ db.pages, page.id = asset.pageId ∧
          matchesPageFields pageHint page asset = true := by
  rw [pageRows, Table.mem_select, Bool.and_eq_true, Option.any_eq_true, and_assoc]
  refine and_congr_right fun _ => and_congr_right fun _ => ?_
  constructor
  · rintro ⟨page, hpage, hmatch⟩
    exact ⟨page, Table.mem_of_get? hpage, Table.key_of_get? hpage, hmatch⟩
  · rintro ⟨page, hpage, hid, hmatch⟩
    exact ⟨page, Table.get?_eq_some_iff.mpr ⟨hpage, hid⟩, hmatch⟩

theorem mem_pageRows_of_assetByPage {assets : PageAsset → Bool} {asset : PageAsset}
    (h : assetByPage assets pageHint db = some asset) : asset ∈ pageRows assets pageHint db :=
  mem_of_firstBy h

theorem pageAsset_resolveCheckOf (system : System) (asset : PageAsset) :
    (resolveCheckOf db system goal asset).pageAsset = some asset := by
  unfold resolveCheckOf
  split <;> rfl

theorem pageCheck_resolveCheckOf (system : System) (asset : PageAsset) :
    (resolveCheckOf db system goal asset).pageCheck =
      db.pageChecks.first? (isActiveCheckOf goal asset) := by
  unfold resolveCheckOf
  split
  · exact (by assumption : _ = none).symm
  · exact (by assumption : _ = some _).symm

end Found

end Resolution

end Runlet
