import Runlet.AssetCompiler.Dependencies
import Mathlib.Data.List.Nodup

/-!
# The retirement decisions of a snapshot

`reconcile_retirement_decisions` retires in two passes: first the pages whose route is gone, with
all their checks, then the checks that miss something on a page that stays, grouped by page and
reason.  Every check has at most one place in the outcome, `retirementKey`, and no two decisions
stand at the same place; so no check is decided twice.

Which checks have a place is `retirementKey_isSome_iff`: the page is among the active pages, it has
a route, and what the check rests on is `Lost`.  A page without a route is passed over by both
passes: its checks are never retired, although their route is in no truth.
-/

namespace Runlet

open Dict

namespace Reconciliation

/-! ## What a check loses -/

/-- The route of a check is gone, or its menus no longer lead there, or one of its elements is. -/
def Lost (truth : SnapshotTruth) (routePath : String) (d : BlockingDependency) : Prop :=
  routePath ∉ truth.routePaths ∨
    ¬ (requiredChain d).Sublist (truth.menuChainByRoute.getD routePath) ∨
    ∃ descriptor ∈ requiredElements d, ∀ current ∈ truth.elementsByRoute.getD routePath,
      ¬ Describes descriptor current

theorem lost_iff {truth : SnapshotTruth} {routePath : String} {d : BlockingDependency} :
    Lost truth routePath d ↔ routePath ∈ truth.routePaths → ¬ Stands truth routePath d := by
  unfold Lost Stands
  push Not
  tauto

/-! ## The place of a check in the outcome -/

section Places

variable {activePages : List ActivePageTruth} {activeChecks : List ActiveCheckTruth}
  {truth : SnapshotTruth} {gate : QualityGateDecision}

/-- The page and the reason a check is retired under. -/
def retirementKey (activePages : List ActivePageTruth) (truth : SnapshotTruth)
    (row : ActiveCheckTruth) : Option (UUID × String) :=
  if row.pageAssetId ∈ missingAssetIds activePages truth then
    some (row.pageAssetId, "missing_page")
  else (checkGroup activePages truth row).map Prod.fst

theorem mem_missingAssetIds {id : UUID} :
    id ∈ missingAssetIds activePages truth ↔ ∃ page ∈ activePages, page.pageAssetId = id ∧
      page.routePath ≠ "" ∧ page.routePath ∉ truth.routePaths := by
  unfold missingAssetIds
  rw [List.mem_map]
  refine exists_congr fun page => ?_
  rw [List.mem_filter, Bool.and_eq_true, decide_eq_true_iff, decide_eq_true_iff]
  tauto

/-- With one row for each page, the route of a page is that of its row. -/
theorem routePathByAssetId_eq (hpages : (activePages.map (·.pageAssetId)).Nodup)
    {page : ActivePageTruth} (hpage : page ∈ activePages) :
    routePathByAssetId activePages page.pageAssetId = page.routePath := by
  have hfind : (activePages.reverse.find? fun row => row.pageAssetId = page.pageAssetId) =
      some page := by
    obtain ⟨found, hfound⟩ := Option.isSome_iff_exists.mp
      (List.find?_isSome.mpr ⟨page, List.mem_reverse.mpr hpage, decide_eq_true rfl⟩ :
        (activePages.reverse.find? fun row => row.pageAssetId = page.pageAssetId).isSome = true)
    have hmem := List.mem_reverse.mp (List.mem_of_find?_eq_some hfound)
    have hid : found.pageAssetId = page.pageAssetId := by simpa using List.find?_some hfound
    rw [hfound, List.inj_on_of_nodup_map hpages hmem hpage hid]
  rw [routePathByAssetId, hfind]
  rfl

theorem exists_page_of_routePathByAssetId {id : UUID}
    (h : routePathByAssetId activePages id ≠ "") :
    ∃ page ∈ activePages, page.pageAssetId = id ∧
      page.routePath = routePathByAssetId activePages id := by
  unfold routePathByAssetId at h ⊢
  cases hfind : activePages.reverse.find? fun row => row.pageAssetId = id with
  | none => exact absurd (by rw [hfind]; rfl) h
  | some page =>
    exact ⟨page, List.mem_reverse.mp (List.mem_of_find?_eq_some hfind),
      by simpa using List.find?_some hfind, rfl⟩

/-- **Which checks have a place**: those of a listed page with a route, where something they rest
on is lost. -/
theorem retirementKey_isSome_iff (hpages : (activePages.map (·.pageAssetId)).Nodup)
    {row : ActiveCheckTruth} :
    (retirementKey activePages truth row).isSome = true ↔
      ∃ page ∈ activePages, page.pageAssetId = row.pageAssetId ∧ page.routePath ≠ "" ∧
        Lost truth page.routePath row.blockingDependencyJson := by
  unfold retirementKey
  by_cases hmissing : row.pageAssetId ∈ missingAssetIds activePages truth
  · rw [if_pos hmissing]
    obtain ⟨page, hpage, hid, hroute, hgone⟩ := mem_missingAssetIds.mp hmissing
    exact iff_of_true rfl ⟨page, hpage, hid, hroute, Or.inl hgone⟩
  · rw [if_neg hmissing, Option.isSome_map, checkGroup, if_neg hmissing]
    have hthere : ∀ page ∈ activePages, page.pageAssetId = row.pageAssetId →
        page.routePath ≠ "" → page.routePath ∈ truth.routePaths := fun page hpage hid hroute =>
      not_not.mp fun hgone => hmissing (mem_missingAssetIds.mpr ⟨page, hpage, hid, hroute, hgone⟩)
    constructor
    · intro h
      split at h
      · exact absurd h Bool.false_ne_true
      · rename_i hguard
        rw [Bool.or_eq_true, decide_eq_true_iff, decide_eq_true_iff, not_or, not_not] at hguard
        obtain ⟨page, hpage, hid, hroute⟩ := exists_page_of_routePathByAssetId hguard.1
        rw [← hroute] at h hguard
        rw [Option.isSome_map, checkRetireReason_isSome_iff] at h
        exact ⟨page, hpage, hid, hguard.1, lost_iff.mpr fun _ => h⟩
    · rintro ⟨page, hpage, hid, hroute, hlost⟩
      have hmem := hthere page hpage hid hroute
      rw [← hid, routePathByAssetId_eq hpages hpage, if_neg, Option.isSome_map,
        checkRetireReason_isSome_iff]
      · exact lost_iff.mp hlost hmem
      · rw [Bool.or_eq_true, decide_eq_true_iff, decide_eq_true_iff, not_or, not_not]
        exact ⟨hroute, hmem⟩

/-! ## The decisions -/

theorem reconcile_of_closed (hgate : gate.allowRetirement = false) :
    reconcileRetirementDecisions activePages activeChecks truth gate = [] := if_pos hgate

theorem reconcile_of_open (hgate : gate.allowRetirement = true) :
    reconcileRetirementDecisions activePages activeChecks truth gate =
      ((missingAssetIds activePages truth).map fun pageAssetId =>
        ({ pageAssetId := pageAssetId
           pageCheckIds := (activeChecks.filter fun row =>
             row.pageAssetId = pageAssetId).map (·.pageCheckId)
           reason := "missing_page" } : RetirementDecision)) ++
      (groupPairs (activeChecks.filterMap (checkGroup activePages truth))).map fun entry =>
        { pageAssetId := entry.1.1
          pageCheckIds := sortedSet entry.2
          reason := entry.1.2 } := by
  unfold reconcileRetirementDecisions
  rw [if_neg (by rw [hgate]; exact Bool.noConfusion)]
  dsimp only
  congr 1
  refine List.map_congr_left fun id _ => ?_
  rw [getD_groupPairs, List.filter_map, List.map_map]
  rfl

/-- The check stands in the list of active checks, at this place of the outcome. -/
def Places (activePages : List ActivePageTruth) (activeChecks : List ActiveCheckTruth)
    (truth : SnapshotTruth) (key : UUID × String) (id : UUID) : Prop :=
  ∃ row ∈ activeChecks, row.pageCheckId = id ∧ retirementKey activePages truth row = some key

/-- With one row for each check, a check has one place. -/
theorem Places.unique (hchecks : (activeChecks.map (·.pageCheckId)).Nodup)
    {key key' : UUID × String} {id : UUID}
    (h : Places activePages activeChecks truth key id)
    (h' : Places activePages activeChecks truth key' id) : key = key' := by
  obtain ⟨row, hrow, hid, hkey⟩ := h
  obtain ⟨row', hrow', hid', hkey'⟩ := h'
  rw [← hid'] at hid
  rw [List.inj_on_of_nodup_map hchecks hrow hrow' hid, hkey'] at hkey
  exact (Option.some_inj.mp hkey).symm

/-- The rows behind a group of checks. -/
theorem exists_row_of_mem_group {k : UUID × String} {ids : List UUID}
    (h : (k, ids) ∈ groupPairs (activeChecks.filterMap (checkGroup activePages truth)))
    {id : UUID} (hid : id ∈ ids) :
    ∃ row ∈ activeChecks, checkGroup activePages truth row = some (k, id) := by
  rw [(mem_groupPairs.mp h).2] at hid
  obtain ⟨⟨k', v⟩, hkv, rfl⟩ := List.mem_map.mp hid
  obtain ⟨hmem, hk⟩ := List.mem_filter.mp hkv
  obtain rfl : k' = k := of_decide_eq_true hk
  exact List.mem_filterMap.mp hmem

/-- **The checks of a decision have its place.** -/
theorem places_of_mem {d : RetirementDecision}
    (hd : d ∈ reconcileRetirementDecisions activePages activeChecks truth gate)
    {id : UUID} (hid : id ∈ d.pageCheckIds) :
    Places activePages activeChecks truth (d.pageAssetId, d.reason) id := by
  cases hgate : gate.allowRetirement with
  | false =>
    rw [reconcile_of_closed hgate] at hd
    exact absurd hd List.not_mem_nil
  | true =>
    rw [reconcile_of_open hgate] at hd
    rcases List.mem_append.mp hd with hd | hd
    · obtain ⟨assetId, hasset, rfl⟩ := List.mem_map.mp hd
      obtain ⟨row, hrow, rfl⟩ := List.mem_map.mp hid
      obtain ⟨hmem, rfl⟩ : row ∈ activeChecks ∧ row.pageAssetId = assetId := by
        simpa using List.mem_filter.mp hrow
      exact ⟨row, hmem, rfl, if_pos hasset⟩
    · obtain ⟨⟨k, ids⟩, hgroup, rfl⟩ := List.mem_map.mp hd
      obtain ⟨row, hrow, hsome⟩ := exists_row_of_mem_group hgroup (mem_sortedSet.mp hid)
      refine ⟨row, hrow, (checkGroup_eq_some hsome).2.1.symm, ?_⟩
      have hkept : row.pageAssetId ∉ missingAssetIds activePages truth := fun hmem => by
        rw [checkGroup, if_pos hmem] at hsome
        exact Option.some_ne_none _ hsome.symm
      rw [retirementKey, if_neg hkept, hsome]
      rfl

/-- **The page of a decision is an active page.** -/
theorem exists_page_of_mem {d : RetirementDecision}
    (hd : d ∈ reconcileRetirementDecisions activePages activeChecks truth gate) :
    ∃ page ∈ activePages, page.pageAssetId = d.pageAssetId := by
  cases hgate : gate.allowRetirement with
  | false =>
    rw [reconcile_of_closed hgate] at hd
    exact absurd hd List.not_mem_nil
  | true =>
    rw [reconcile_of_open hgate] at hd
    rcases List.mem_append.mp hd with hd | hd
    · obtain ⟨assetId, hasset, rfl⟩ := List.mem_map.mp hd
      obtain ⟨page, hpage, hid, -⟩ := mem_missingAssetIds.mp hasset
      exact ⟨page, hpage, hid⟩
    · obtain ⟨⟨k, ids⟩, hgroup, rfl⟩ := List.mem_map.mp hd
      obtain ⟨id, hid⟩ := List.exists_mem_of_ne_nil ids (ne_nil_of_mem_groupPairs hgroup)
      obtain ⟨row, -, hsome⟩ := exists_row_of_mem_group hgroup hid
      have hroute : routePathByAssetId activePages row.pageAssetId ≠ "" := fun hnil => by
        unfold checkGroup at hsome
        simp [hnil] at hsome
      obtain ⟨page, hpage, hpageId, -⟩ := exists_page_of_routePathByAssetId hroute
      exact ⟨page, hpage, hpageId.trans (checkGroup_eq_some hsome).1.symm⟩

/-- No two decisions stand at one place. -/
theorem nodup_decision_keys (hpages : (activePages.map (·.pageAssetId)).Nodup) :
    ((reconcileRetirementDecisions activePages activeChecks truth gate).map fun d =>
      (d.pageAssetId, d.reason)).Nodup := by
  cases hgate : gate.allowRetirement with
  | false =>
    rw [reconcile_of_closed hgate]
    exact List.nodup_nil
  | true =>
    rw [reconcile_of_open hgate, List.map_append, List.map_map, List.map_map]
    have hmissing : (missingAssetIds activePages truth).Nodup :=
      hpages.sublist (List.filter_sublist.map _)
    refine List.nodup_append.mpr ⟨hmissing.map fun _ _ h => congrArg Prod.fst h,
      nodup_keys_groupPairs _, ?_⟩
    rintro _ hleft _ hright rfl
    obtain ⟨assetId, -, rfl⟩ := List.mem_map.mp hleft
    obtain ⟨⟨k, ids⟩, hgroup, hk⟩ := List.mem_map.mp hright
    obtain ⟨id, hid⟩ := List.exists_mem_of_ne_nil ids (ne_nil_of_mem_groupPairs hgroup)
    obtain ⟨row, -, hsome⟩ := exists_row_of_mem_group hgroup hid
    exact (checkGroup_eq_some hsome).2.2 (congrArg Prod.snd hk)

theorem nodup_decision_ids (hchecks : (activeChecks.map (·.pageCheckId)).Nodup)
    {d : RetirementDecision}
    (hd : d ∈ reconcileRetirementDecisions activePages activeChecks truth gate) :
    d.pageCheckIds.Nodup := by
  cases hgate : gate.allowRetirement with
  | false =>
    rw [reconcile_of_closed hgate] at hd
    exact absurd hd List.not_mem_nil
  | true =>
    rw [reconcile_of_open hgate] at hd
    rcases List.mem_append.mp hd with hd | hd
    · obtain ⟨assetId, -, rfl⟩ := List.mem_map.mp hd
      exact hchecks.sublist (List.filter_sublist.map _)
    · obtain ⟨entry, -, rfl⟩ := List.mem_map.mp hd
      exact (List.perm_insertionSort _ _).nodup_iff.mpr (nodup_eraseDups _)

/-- **No check is decided twice.** -/
theorem nodup_decided_ids (hpages : (activePages.map (·.pageAssetId)).Nodup)
    (hchecks : (activeChecks.map (·.pageCheckId)).Nodup) :
    ((reconcileRetirementDecisions activePages activeChecks truth gate).flatMap
      (·.pageCheckIds)).Nodup := by
  refine List.nodup_flatMap.mpr ⟨fun d hd => nodup_decision_ids hchecks hd, ?_⟩
  refine (List.pairwise_map.mp (nodup_decision_keys hpages)).imp_of_mem ?_
  intro d d' hd hd' hne id hid hid'
  exact hne (Places.unique hchecks (places_of_mem hd hid) (places_of_mem hd' hid'))

/-- The check with this id is among the retired ones. -/
def Retired (decisions : List RetirementDecision) (id : UUID) : Prop :=
  ∃ d ∈ decisions, id ∈ d.pageCheckIds

/-- **A check is retired iff it has a place.** -/
theorem retired_iff_places {id : UUID} :
    Retired (reconcileRetirementDecisions activePages activeChecks truth gate) id ↔
      gate.allowRetirement = true ∧ ∃ key, Places activePages activeChecks truth key id := by
  rw [Retired, mem_reconcile]
  refine and_congr_right fun _ => ?_
  have hplace : ∀ row : ActiveCheckTruth,
      (row.pageAssetId ∈ missingAssetIds activePages truth ∨
        (checkGroup activePages truth row).isSome = true) ↔
      ∃ key, retirementKey activePages truth row = some key := by
    intro row
    rw [← Option.isSome_iff_exists, retirementKey]
    split
    · rename_i h
      exact iff_of_true (Or.inl h) rfl
    · rename_i h
      rw [or_iff_right h, Option.isSome_map]
  constructor
  · rintro ⟨row, hrow, hid, hcase⟩
    obtain ⟨key, hkey⟩ := (hplace row).mp hcase
    exact ⟨key, row, hrow, hid, hkey⟩
  · rintro ⟨key, row, hrow, hid, hkey⟩
    exact ⟨row, hrow, hid, (hplace row).mpr ⟨key, hkey⟩⟩

/-- More elements, nothing else new. -/
structure Enriches (truth richer : SnapshotTruth) : Prop where
  routePaths : richer.routePaths = truth.routePaths
  menuChainByRoute : richer.menuChainByRoute = truth.menuChainByRoute
  elements : ∀ routePath,
    truth.elementsByRoute.getD routePath ⊆ richer.elementsByRoute.getD routePath

theorem Lost.of_enriches {richer : SnapshotTruth} (h : Enriches truth richer) {routePath : String}
    {d : BlockingDependency} (hlost : Lost richer routePath d) : Lost truth routePath d := by
  unfold Lost at hlost ⊢
  rw [h.routePaths, h.menuChainByRoute] at hlost
  refine hlost.imp_right fun hlost => hlost.imp_right ?_
  rintro ⟨descriptor, hdescriptor, hnone⟩
  exact ⟨descriptor, hdescriptor, fun current hcurrent => hnone current (h.elements _ hcurrent)⟩

theorem retirementKey_fst {row : ActiveCheckTruth} {key : UUID × String}
    (h : retirementKey activePages truth row = some key) : key.1 = row.pageAssetId := by
  unfold retirementKey at h
  split at h
  · rw [← Option.some_inj.mp h]
  · obtain ⟨⟨k, id⟩, hgroup, rfl⟩ := Option.map_eq_some_iff.mp h
    exact (checkGroup_eq_some hgroup).1

end Places

/-! ## The decisions, exactly -/

section Exact

variable {activePages : List ActivePageTruth} {activeChecks : List ActiveCheckTruth}

/-- What a check is retired for: its page is listed with a route, and something is lost there. -/
def LostOnItsPage (activePages : List ActivePageTruth) (truth : SnapshotTruth)
    (row : ActiveCheckTruth) : Prop :=
  ∃ page ∈ activePages, page.pageAssetId = row.pageAssetId ∧ page.routePath ≠ "" ∧
    Lost truth page.routePath row.blockingDependencyJson

theorem retired_iff {truth : SnapshotTruth} {gate : QualityGateDecision}
    (hpages : (activePages.map (·.pageAssetId)).Nodup) {id : UUID} :
    Retired (reconcileRetirementDecisions activePages activeChecks truth gate) id ↔
      gate.allowRetirement = true ∧
        ∃ row ∈ activeChecks, row.pageCheckId = id ∧ LostOnItsPage activePages truth row := by
  rw [retired_iff_places]
  refine and_congr_right fun _ => ?_
  constructor
  · rintro ⟨key, row, hrow, hid, hkey⟩
    exact ⟨row, hrow, hid, (retirementKey_isSome_iff hpages).mp (by rw [hkey]; rfl)⟩
  · rintro ⟨row, hrow, hid, hlost⟩
    obtain ⟨key, hkey⟩ :=
      Option.isSome_iff_exists.mp ((retirementKey_isSome_iff hpages).mpr hlost)
    exact ⟨key, row, hrow, hid, hkey⟩

/-- **The retirement decisions, exactly.** -/
theorem retirement_decisions_exact (truth : SnapshotTruth) (gate : QualityGateDecision)
    (hpages : (activePages.map (·.pageAssetId)).Nodup)
    (hchecks : (activeChecks.map (·.pageCheckId)).Nodup) :
    let decisions := reconcileRetirementDecisions activePages activeChecks truth gate
    (gate.allowRetirement = false → decisions = []) ∧
    (decisions.flatMap (·.pageCheckIds)).Nodup ∧
    (∀ d ∈ decisions, (∃ page ∈ activePages, page.pageAssetId = d.pageAssetId) ∧
      ∀ id ∈ d.pageCheckIds, ∃ row ∈ activeChecks,
        row.pageCheckId = id ∧ row.pageAssetId = d.pageAssetId) ∧
    (gate.allowRetirement = true → ∀ row ∈ activeChecks,
      (Retired decisions row.pageCheckId ↔ LostOnItsPage activePages truth row)) ∧
    ∀ richer, Enriches truth richer → ∀ id, ¬ Retired decisions id →
      ¬ Retired (reconcileRetirementDecisions activePages activeChecks richer gate) id := by
  refine ⟨reconcile_of_closed, nodup_decided_ids hpages hchecks, ?_, ?_, ?_⟩
  · intro d hd
    refine ⟨exists_page_of_mem hd, fun id hid => ?_⟩
    obtain ⟨row, hrow, hrowId, hkey⟩ := places_of_mem hd hid
    exact ⟨row, hrow, hrowId, (retirementKey_fst hkey).symm⟩
  · intro hgate row hrow
    rw [retired_iff hpages, and_iff_right hgate]
    constructor
    · rintro ⟨row', hrow', hid, hlost⟩
      rwa [← List.inj_on_of_nodup_map hchecks hrow' hrow hid]
    · exact fun hlost => ⟨row, hrow, rfl, hlost⟩
  · intro richer henriches id hkept hretired
    obtain ⟨hgate, row, hrow, hid, page, hpage, hpageId, hroute, hlost⟩ :=
      (retired_iff hpages).mp hretired
    exact hkept ((retired_iff hpages).mpr
      ⟨hgate, row, hrow, hid, page, hpage, hpageId, hroute, hlost.of_enriches henriches⟩)

end Exact

namespace RetirementSample

def orders : ActivePageTruth := ⟨1, "/orders"⟩

def ordersCheck : ActiveCheckTruth := ⟨11, 1, ⟨["Sales", "Orders"], []⟩⟩

def stock : ActivePageTruth := ⟨2, "/stock"⟩

def stockCheck : ActiveCheckTruth := ⟨12, 2, ⟨[], []⟩⟩

def truth : SnapshotTruth where
  routePaths := ["/orders"]
  menuChainByRoute := [("/orders", ["Home", "Sales", "Orders"])]
  elementsByRoute := []

/-- The route of the one page is there, and that of the other is not. -/
theorem decisions_exact :
    Retired (reconcileRetirementDecisions [orders, stock] [ordersCheck, stockCheck] truth
        { allowRetirement := true }) 12 ∧
      ¬ Retired (reconcileRetirementDecisions [orders, stock] [ordersCheck, stockCheck] truth
        { allowRetirement := true }) 11 := by
  have h := @retirement_decisions_exact [orders, stock] [ordersCheck, stockCheck] truth
    { allowRetirement := true } (by decide) (by decide)
  have hiff := h.2.2.2.1 rfl
  refine ⟨(hiff stockCheck (by simp)).mpr ⟨stock, by simp, rfl, by decide, Or.inl (by decide)⟩, ?_⟩
  intro hretired
  obtain ⟨page, hpage, hid, -, hlost⟩ := (hiff ordersCheck (by simp)).mp hretired
  obtain rfl : page = orders := by
    rcases List.mem_pair.mp hpage with rfl | rfl
    · rfl
    · exact absurd hid (by decide)
  rcases hlost with hlost | hlost | ⟨descriptor, hdescriptor, -⟩
  · exact hlost (by decide)
  · exact hlost (by decide)
  · exact absurd hdescriptor List.not_mem_nil

/-- A page without a route. -/
def blank : ActivePageTruth := ⟨3, ""⟩

def blankCheck : ActiveCheckTruth := ⟨13, 3, ⟨[], []⟩⟩

/-- **Its route is in no truth, and its check is kept.** -/
theorem blank_route_kept :
    ¬ (Retired (reconcileRetirementDecisions [blank] [blankCheck] truth
        { allowRetirement := true }) blankCheck.pageCheckId ↔
      Lost truth blank.routePath blankCheck.blockingDependencyJson) := by
  intro h
  obtain ⟨d, hd, -⟩ := h.mpr (Or.inl (by decide))
  exact absurd hd List.not_mem_nil

end RetirementSample

end Reconciliation

end Runlet
