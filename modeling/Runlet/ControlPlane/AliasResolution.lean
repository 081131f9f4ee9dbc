import Runlet.ControlPlane.Resolution

/-!
# What a resolution answers

A pair that `resolve_page_asset_and_check` answers is a safe and active asset of the system with an
active check of it that the goal names.

A hint that is a navigation alias of one asset only, with a check for the goal, should lead to that
asset.  The matches are counted by their checks, though: with two checks of the asset for the goal
the hint is refused as an ambiguous page alias.  The two checks of a create dialog have one goal, so
the compiler itself makes such assets.
-/

namespace Runlet

open KeyedTable RowQuery

namespace Resolution

/-- What a request names in a system: a safe and active asset of it, and an active check of the
asset whose goal, or whose code, is the goal. -/
structure Names (db : Db) (systemId : UUID) (goal : String) (asset : PageAsset)
    (check : PageCheck) : Prop where
  asset_mem : asset ∈ db.pageAssets
  systemId_eq : asset.systemId = systemId
  safe : asset.status = .safe
  asset_active : asset.lifecycleStatus = .active
  check_mem : check ∈ db.pageChecks
  pageAssetId_eq : check.pageAssetId = asset.id
  check_active : check.lifecycleStatus = .active
  goal_eq : Text.lower check.goal = goal ∨ Text.lower check.checkCode = goal

theorem isActiveAssetOf_iff {systemId : UUID} {asset : PageAsset} :
    isActiveAssetOf systemId asset = true ↔
      asset.systemId = systemId ∧ asset.status = .safe ∧ asset.lifecycleStatus = .active := by
  simp only [isActiveAssetOf, isSafeAssetOf, Bool.and_eq_true, decide_eq_true_eq, and_assoc]

theorem matchesGoal_iff {goal : String} {check : PageCheck} :
    matchesGoal goal check = true ↔
      Text.lower check.goal = goal ∨ Text.lower check.checkCode = goal := by
  simp only [matchesGoal, lowerIs, Bool.or_eq_true, decide_eq_true_eq]

theorem isActiveCheckOf_iff {goal : String} {asset : PageAsset} {check : PageCheck} :
    isActiveCheckOf goal asset check = true ↔
      check.pageAssetId = asset.id ∧ check.lifecycleStatus = .active ∧
        (Text.lower check.goal = goal ∨ Text.lower check.checkCode = goal) := by
  simp only [isActiveCheckOf, Bool.and_eq_true, decide_eq_true_eq, matchesGoal_iff, and_assoc]

section Sound

variable {db : Db} {systemId : UUID} {pageHint goal : String} {asset : PageAsset}
  {check : PageCheck}

theorem names_iff :
    Names db systemId goal asset check ↔
      (asset ∈ db.pageAssets ∧ isActiveAssetOf systemId asset = true) ∧
        check ∈ db.pageChecks ∧ isActiveCheckOf goal asset check = true := by
  rw [isActiveAssetOf_iff, isActiveCheckOf_iff]
  constructor
  · exact fun h => ⟨⟨h.asset_mem, h.systemId_eq, h.safe, h.asset_active⟩, h.check_mem,
      h.pageAssetId_eq, h.check_active, h.goal_eq⟩
  · rintro ⟨⟨ha, hsystem, hsafe, hactive⟩, hc, hof, hcheck, hgoal⟩
    exact ⟨ha, hsystem, hsafe, hactive, hc, hof, hcheck, hgoal⟩

theorem names_of_mem_navigationRows {m : PageAsset × PageCheck × PageNavigationAlias}
    (h : m ∈ navigationRows systemId pageHint goal db) : Names db systemId goal m.1 m.2.1 := by
  obtain ⟨ha, hc, -⟩ := mem_navigationRows.mp h
  exact names_iff.mpr ⟨ha, hc⟩

/-- An asset that was found, with the check found for it. -/
theorem names_of_resolveCheckOf {system : System} {found : PageAsset}
    (hfound : found ∈ db.pageAssets ∧ isActiveAssetOf system.id found = true)
    (ha : (resolveCheckOf db system goal found).pageAsset = some asset)
    (hc : (resolveCheckOf db system goal found).pageCheck = some check) :
    Names db system.id goal asset check := by
  rw [pageAsset_resolveCheckOf, Option.some_inj] at ha
  subst ha
  rw [pageCheck_resolveCheckOf] at hc
  exact names_iff.mpr ⟨hfound, Table.mem_of_first? hc, Table.pred_of_first? hc⟩

theorem names_of_resolveByAliasOrPage [AliasTies] {system : System} {systemHint : String}
    (ha : (resolveByAliasOrPage db system systemHint pageHint goal).pageAsset = some asset)
    (hc : (resolveByAliasOrPage db system systemHint pageHint goal).pageCheck = some check) :
    Names db system.id goal asset check := by
  unfold resolveByAliasOrPage at ha hc
  split at ha
  · rename_i found halias
    rw [halias] at hc
    exact names_of_resolveCheckOf (exists_of_assetByAlias halias).1 ha hc
  · rename_i halias
    rw [halias] at hc
    split at ha
    · rename_i found hpage
      rw [hpage] at hc
      exact names_of_resolveCheckOf (mem_pageRows.mp (mem_pageRows_of_assetByPage hpage)).1 ha hc
    · exact absurd ha (Option.some_ne_none asset).symm

theorem names_of_resolveInSystem [AliasTies] {system : System} {systemHint : String}
    (ha : (resolveInSystem db system systemHint pageHint goal).pageAsset = some asset)
    (hc : (resolveInSystem db system systemHint pageHint goal).pageCheck = some check) :
    Names db system.id goal asset check := by
  unfold resolveInSystem at ha hc
  split at ha
  · rename_i hmatches
    rw [hmatches] at hc
    exact names_of_resolveByAliasOrPage ha hc
  · rename_i m hmatches
    rw [hmatches] at hc
    have hm : m ∈ listNavigationAliasResolutionMatches system.id pageHint goal db := by
      rw [hmatches]
      exact List.mem_singleton.mpr rfl
    rw [← Option.some_inj.mp ha, ← Option.some_inj.mp hc]
    exact names_of_mem_navigationRows (mem_navigationRows_of_mem_matches hm)
  · exact absurd ha (Option.some_ne_none asset).symm

end Sound

/-! ## What an answer matches -/

/-- The asset matches the page hint: by a navigation alias, by an intent alias, or by the fields of
its page. -/
def MatchesHint (db : Db) (systemHint pageHint goal : String) (asset : PageAsset) : Prop :=
  (∃ row ∈ db.pageNavigationAliases, row.pageAssetId = asset.id ∧
      matchesNavigation pageHint row = true) ∨
    (∃ row ∈ db.intentAliases, row.assetKey = asset.assetKey ∧
      (row.isActive && matchesIntent goal pageHint systemHint row) = true) ∨
    ∃ page ∈ db.pages, page.id = asset.pageId ∧ matchesPageFields pageHint page asset = true

section Matches

variable {db : Db} {system : System} {systemHint pageHint goal : String} {asset : PageAsset}

theorem exists_asset_of_resolveInSystem [AliasTies] {check : PageCheck}
    (hc : (resolveInSystem db system systemHint pageHint goal).pageCheck = some check) :
    ∃ asset, (resolveInSystem db system systemHint pageHint goal).pageAsset = some asset := by
  unfold resolveInSystem at hc ⊢
  split at hc
  · unfold resolveByAliasOrPage at hc ⊢
    split at hc
    · exact ⟨_, pageAsset_resolveCheckOf system _⟩
    · split at hc
      · exact ⟨_, pageAsset_resolveCheckOf system _⟩
      · exact absurd hc (Option.some_ne_none check).symm
  · exact ⟨_, rfl⟩
  · exact absurd hc (Option.some_ne_none check).symm

/-- An asset that was answered is active, and matches the hint. -/
theorem matchesHint_of_resolveInSystem [AliasTies]
    (ha : (resolveInSystem db system systemHint pageHint goal).pageAsset = some asset) :
    isActiveAssetOf system.id asset = true ∧ MatchesHint db systemHint pageHint goal asset := by
  unfold resolveInSystem at ha
  split at ha
  · unfold resolveByAliasOrPage at ha
    split at ha
    · rename_i found halias
      rw [pageAsset_resolveCheckOf, Option.some_inj] at ha
      obtain ⟨hfound, hrow⟩ := exists_of_assetByAlias halias
      subst ha
      exact ⟨hfound.2, Or.inr (Or.inl hrow)⟩
    · split at ha
      · rename_i found hpage
        rw [pageAsset_resolveCheckOf, Option.some_inj] at ha
        obtain ⟨hfound, hrow⟩ := mem_pageRows.mp (mem_pageRows_of_assetByPage hpage)
        subst ha
        exact ⟨hfound.2, Or.inr (Or.inr hrow)⟩
      · exact absurd ha (Option.some_ne_none asset).symm
  · rename_i m hmatches
    have hm : m ∈ listNavigationAliasResolutionMatches system.id pageHint goal db := by
      rw [hmatches]
      exact List.mem_singleton.mpr rfl
    obtain ⟨hactive, -, hrow⟩ := mem_navigationRows.mp (mem_navigationRows_of_mem_matches hm)
    rw [← Option.some_inj.mp ha]
    exact ⟨hactive.2, Or.inl ⟨m.2.2, hrow⟩⟩
  · exact absurd ha (Option.some_ne_none asset).symm

theorem system_resolveInSystem [AliasTies] :
    (resolveInSystem db system systemHint pageHint goal).system = some system := by
  unfold resolveInSystem
  split
  · unfold resolveByAliasOrPage
    split
    · unfold resolveCheckOf
      split <;> rfl
    · split
      · unfold resolveCheckOf
        split <;> rfl
      · rfl
  · rfl
  · rfl

end Matches

/-! ## Unique aliases -/

section Resolves

variable (db : Db) (systemHint : String) (pageHint : Option String) (checkGoal : String)

/-- What a resolution answers is named by the request. -/
def AnswersNamed [AliasTies] : Prop :=
  ∀ system asset check, resolveSystem systemHint db = some system →
    (resolvePageAssetAndCheck systemHint pageHint checkGoal db).pageAsset = some asset →
    (resolvePageAssetAndCheck systemHint pageHint checkGoal db).pageCheck = some check →
      Names db system.id (normalizedHint checkGoal) asset check

/-- The asset is the only safe and active one of the system with the page hint as a navigation
alias. -/
structure OnlyByNavigation (systemId : UUID) (hint : String) (asset : PageAsset) : Prop where
  asset_mem : asset ∈ db.pageAssets
  active : isActiveAssetOf systemId asset = true
  aliased : ∃ row ∈ db.pageNavigationAliases, row.pageAssetId = asset.id ∧
    matchesNavigation hint row = true
  only : ∀ other ∈ db.pageAssets, isActiveAssetOf systemId other = true →
    (∃ row ∈ db.pageNavigationAliases, row.pageAssetId = other.id ∧
      matchesNavigation hint row = true) → other = asset

/-- The only asset with the hint as a navigation alias, and with a check for the goal. -/
def UniquelyAliased (system : System) (asset : PageAsset) : Prop :=
  resolveSystem systemHint db = some system ∧
    (∃ hint ∈ pageHint, OnlyByNavigation db system.id (normalizedHint hint) asset) ∧
    ∃ check, Names db system.id (normalizedHint checkGoal) asset check

/-- A resolution with such an asset succeeds, and answers it. -/
def ResolvesUniqueAlias [AliasTies] : Prop :=
  ∀ system asset, UniquelyAliased db systemHint pageHint checkGoal system asset →
    ∃ check, (resolvePageAssetAndCheck systemHint pageHint checkGoal db) =
      ⟨some system, some asset, some check, none⟩

variable {db systemHint pageHint checkGoal}

theorem answersNamed [AliasTies] : AnswersNamed db systemHint pageHint checkGoal := by
  intro system asset check hsystem ha hc
  unfold resolvePageAssetAndCheck at ha hc
  rw [hsystem] at ha hc
  cases pageHint with
  | none => exact absurd ha (Option.some_ne_none asset).symm
  | some hint => exact names_of_resolveInSystem ha hc

/-- The rows for such an asset are its checks for the goal. -/
theorem exists_mem_navigationRows_iff {systemId : UUID} {hint goal : String} {asset : PageAsset}
    (honly : OnlyByNavigation db systemId hint asset) {check : PageCheck} :
    (∃ row, (asset, check, row) ∈ navigationRows systemId hint goal db) ↔
      Names db systemId goal asset check := by
  constructor
  · rintro ⟨row, hrow⟩
    exact names_of_mem_navigationRows hrow
  · intro h
    obtain ⟨row, hrow⟩ := honly.aliased
    obtain ⟨ha, hc⟩ := names_iff.mp h
    exact ⟨row, mem_navigationRows.mpr ⟨ha, hc, hrow⟩⟩

theorem eq_of_mem_navigationRows {systemId : UUID} {hint goal : String} {asset : PageAsset}
    (honly : OnlyByNavigation db systemId hint asset)
    {m : PageAsset × PageCheck × PageNavigationAlias}
    (hm : m ∈ navigationRows systemId hint goal db) : m.1 = asset := by
  obtain ⟨ha, -, hrow⟩ := mem_navigationRows.mp hm
  exact honly.only m.1 ha.1 ha.2 ⟨m.2.2, hrow⟩

/-- **One asset by its alias.**  The resolution answers the asset exactly when the asset has no
second check for the goal. -/
theorem resolves_iff_of_only [AliasTies] {system : System} {systemHint hint goal : String}
    {asset : PageAsset} (honly : OnlyByNavigation db system.id hint asset)
    (hhas : ∃ check, Names db system.id goal asset check) :
    (∃ check, resolveInSystem db system systemHint hint goal =
        ⟨some system, some asset, some check, none⟩) ↔
      ∀ check check', Names db system.id goal asset check →
        Names db system.id goal asset check' → check = check' := by
  obtain ⟨check, hcheck⟩ := hhas
  obtain ⟨row, hrow⟩ := (exists_mem_navigationRows_iff honly).mpr hcheck
  constructor
  · rintro ⟨answered, hanswer⟩ c c' hc hc'
    have hone : ∃ m, listNavigationAliasResolutionMatches system.id hint goal db = [m] := by
      unfold resolveInSystem at hanswer
      split at hanswer
      · rename_i hnil
        rw [matches_eq_nil_iff.mp hnil] at hrow
        exact absurd hrow List.not_mem_nil
      · rename_i m hm
        exact ⟨m, hm⟩
      · exact absurd (congrArg CheckResolution.pageAsset hanswer) (Option.some_ne_none asset).symm
    obtain ⟨r, hr⟩ := (exists_mem_navigationRows_iff honly).mpr hc
    obtain ⟨r', hr'⟩ := (exists_mem_navigationRows_iff honly).mpr hc'
    exact Table.eq_of_key_eq hc.check_mem hc'.check_mem
      ((matches_eq_singleton_iff.mp hone).2 _ hr _ hr')
  · intro hunique
    have hone : ∃ m, listNavigationAliasResolutionMatches system.id hint goal db = [m] := by
      refine matches_eq_singleton_iff.mpr ⟨List.ne_nil_of_mem hrow, fun m hm m' hm' => ?_⟩
      have hc := names_of_mem_navigationRows hm
      have hc' := names_of_mem_navigationRows hm'
      rw [eq_of_mem_navigationRows honly hm] at hc
      rw [eq_of_mem_navigationRows honly hm'] at hc'
      exact congrArg PageCheck.id (hunique _ _ hc hc')
    obtain ⟨m, hm⟩ := hone
    have hmem : m ∈ listNavigationAliasResolutionMatches system.id hint goal db := by
      rw [hm]
      exact List.mem_singleton.mpr rfl
    refine ⟨m.2.1, ?_⟩
    unfold resolveInSystem
    rw [hm]
    rw [← eq_of_mem_navigationRows honly (mem_navigationRows_of_mem_matches hmem)]

variable (db systemHint pageHint checkGoal) in
/-- **What a resolution answers.**  Every answer is named by the request; and every asset that is
the only one with the hint as a navigation alias is answered exactly when no such asset has two
active checks for the goal. -/
theorem resolves_unique_alias [AliasTies] :
    (AnswersNamed db systemHint pageHint checkGoal ∧
        ResolvesUniqueAlias db systemHint pageHint checkGoal) ↔
      ∀ system asset, UniquelyAliased db systemHint pageHint checkGoal system asset →
        ∀ check check', Names db system.id (normalizedHint checkGoal) asset check →
          Names db system.id (normalizedHint checkGoal) asset check' → check = check' := by
  rw [and_iff_right answersNamed]
  refine forall_congr' fun system => forall_congr' fun asset => ?_
  refine forall_congr' fun h => ?_
  obtain ⟨hsystem, ⟨hint, hhint, honly⟩, hhas⟩ := h
  rw [Option.mem_def] at hhint
  subst hhint
  have hresolve : resolvePageAssetAndCheck systemHint (some hint) checkGoal db =
      resolveInSystem db system (normalizedHint systemHint) (normalizedHint hint)
        (normalizedHint checkGoal) := by
    unfold resolvePageAssetAndCheck
    rw [hsystem]
  rw [hresolve]
  exact resolves_iff_of_only honly hhas

end Resolves

/-! ## A create dialog -/

section Sample

local instance : AliasTies := AliasTies.byKeys

def dialogSystem : System :=
  { id := 1, code := "crm", name := "CRM", baseUrl := "https://crm" }

def dialogAsset : PageAsset :=
  { id := 3, systemId := 1, pageId := 2, assetKey := "crm.users", assetVersion := "v1" }

/-- The check that opens the dialog. -/
def dialogCheck : PageCheck :=
  { id := 4, pageAssetId := 3, checkCode := "open_create_modal", goal := "open_create_modal" }

/-- A page with a create dialog: its asset, the check that opens the dialog and the check of the
state it opens, and one navigation alias. -/
def dialogDb : Db where
  systems := .single dialogSystem
  pages := .single { id := 2, systemId := 1, routePath := "/users" }
  pageAssets := .single dialogAsset
  pageChecks :=
    ⟨[dialogCheck,
      { id := 5, pageAssetId := 3, checkCode := "open_create_modal_state",
        goal := "open_create_modal" }], by decide⟩
  pageNavigationAliases := .single
    { id := 6, systemId := 1, pageAssetId := 3, aliasType := "leaf", aliasText := "Users",
      leafText := some "Users", displayChain := some "Users", chainComplete := true,
      source := "menu" }

theorem ambiguous_dialog :
    (resolvePageAssetAndCheck "crm" (some "Users") "open_create_modal" dialogDb).missReason =
      some .ambiguousPageAlias := by
  decide +kernel

theorem resolveSystem_dialog : resolveSystem "crm" dialogDb = some dialogSystem := by
  refine Table.first?_eq_some_iff.mpr ⟨List.mem_singleton.mpr rfl, by decide +kernel, ?_⟩
  intro row hrow _
  rw [List.mem_singleton.mp hrow]

theorem uniquelyAliased_dialog :
    UniquelyAliased dialogDb "crm" (some "Users") "open_create_modal" dialogSystem dialogAsset := by
  refine ⟨resolveSystem_dialog, ⟨"Users", rfl, ?_⟩, dialogCheck, names_iff.mpr ?_⟩
  · exact
      { asset_mem := List.mem_singleton.mpr rfl
        active := by decide +kernel
        aliased := ⟨_, List.mem_singleton.mpr rfl, rfl, by decide +kernel⟩
        only := fun other hother _ _ => List.mem_singleton.mp hother }
  · exact ⟨⟨List.mem_singleton.mpr rfl, by decide +kernel⟩, List.mem_cons_self,
      by decide +kernel⟩

/-- The only page with the alias is refused as ambiguous. -/
theorem resolves_unique_alias_fails :
    ¬ ∀ (db : Db) (systemHint : String) (pageHint : Option String) (checkGoal : String),
      AnswersNamed db systemHint pageHint checkGoal ∧
        ResolvesUniqueAlias db systemHint pageHint checkGoal := by
  intro h
  obtain ⟨check, hcheck⟩ := (h dialogDb "crm" (some "Users") "open_create_modal").2 _ _
    uniquelyAliased_dialog
  have hreason := ambiguous_dialog
  rw [hcheck] at hreason
  exact absurd hreason (Option.some_ne_none _).symm

end Sample

end Resolution

end Runlet
