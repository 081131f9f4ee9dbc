import Runlet.CrawlerService.Extractors.PageVisitTargets
import Runlet.CrawlerService.NavigationBudgets
import Runlet.Library.JsonReading
import Runlet.Library.Admission

/-!
# Which pages find a place among the visits

The registry of the visits admits targets as `Library/Admission` does: the key of a target is its
`dedupeKey`, its group is its route, a route has four places, and the kind budget is the room.
`visit_iff`: a route is visited exactly when the targets added before its first one ask for fewer
places than the budget has.  The budget follows the number of pages, and the navigation targets come
first; so many of them leave no room for a page that none of them leads to.
-/

namespace Runlet

open NavigationTargets

/-! ## The key of a target tells its route -/

namespace NavigationTarget

/-- The entries of a key, in the order of their names. -/
theorem sort_keyEntries (kind route context parent : String) :
    ([("target_kind", kind), ("route_hint", route), ("state_context", context),
        ("parent_target_key", parent)].insertionSort fun a b => a.1.toList ≤ b.1.toList) =
      [("parent_target_key", parent), ("route_hint", route), ("state_context", context),
        ("target_kind", kind)] := by
  have hstate : ¬ "state_context".toList ≤ "parent_target_key".toList := by decide
  have hroute : ¬ "route_hint".toList ≤ "parent_target_key".toList := by decide
  have hkind : ¬ "target_kind".toList ≤ "parent_target_key".toList := by decide
  have hkind' : ¬ "target_kind".toList ≤ "route_hint".toList := by decide
  have hkind'' : ¬ "target_kind".toList ≤ "state_context".toList := by decide
  have hroute' : "route_hint".toList ≤ "state_context".toList := by decide
  simp only [List.insertionSort_cons, List.insertionSort_nil, List.orderedInsert_nil,
    List.orderedInsert_cons, if_neg hstate, if_neg hroute, if_neg hkind, if_neg hkind',
    if_neg hkind'', if_pos hroute']

/-- The text of a key up to the route. -/
def keyHead (parent : Option String) : List Char :=
  '\x7b' :: ((Json.entryText " " false ("parent_target_key",
      Json.serialize " " false (optionJson parent))).toList ++
    (", ".toList ++ ((Json.dumpsText false "route_hint").toList ++ ": ".toList)))

theorem toList_dedupeKey (target : NavigationTarget) :
    ∃ rest, target.dedupeKey.toList = keyHead target.parentTargetKey ++
      ((Json.serialize " " false (optionJson target.routeHint)).toList ++ rest) := by
  unfold dedupeKey Json.dumpsSpaced keyHead
  rw [Json.toList_obj, Json.sortedEntries, Json.serializeEntries, Json.serializeEntries,
    Json.serializeEntries, Json.serializeEntries, Json.serializeEntries, sort_keyEntries,
    Text.toList_joinWith, List.map_cons, List.map_cons, List.map_cons, Json.intercalate_cons,
    List.map_cons, List.flatMap_cons]
  have hentry : (Json.entryText " " false ("route_hint",
      Json.serialize " " false (optionJson target.routeHint))).toList =
      (Json.dumpsText false "route_hint").toList ++ (": ".toList ++
        (Json.serialize " " false (optionJson target.routeHint)).toList) := by
    rw [Json.entryText, String.toList_append, String.toList_append, List.append_assoc]
    rfl
  have hcomma : ("," ++ " ").toList = ", ".toList := by decide
  rw [hentry, hcomma]
  simp only [List.cons_append, List.append_assoc]
  exact ⟨_, rfl⟩

theorem serialize_optionJson_some (s : String) :
    Json.serialize " " false (optionJson (some s)) = Json.dumpsText false s := by
  simp [optionJson, Json.serialize]

/-- A quoted text in front of a comma is not `null`. -/
theorem null_append_ne (s : String) (u v : List Char) :
    "null".toList ++ u ≠ (Json.dumpsText false s).toList ++ v := by
  intro h
  rw [Json.toList_dumpsText] at h
  have hhead := congrArg List.head? h
  simp at hhead

/-- **A common key has a common parent.** -/
theorem parentTargetKey_of_dedupeKey_eq {a b : NavigationTarget}
    (h : a.dedupeKey = b.dedupeKey) : a.parentTargetKey = b.parentTargetKey := by
  have hnull : Json.serialize " " false (optionJson none) = "null" := by
    simp [optionJson, Json.serialize]
  obtain ⟨rest, hkey⟩ := toList_dedupeKey a
  obtain ⟨rest', hkey'⟩ := toList_dedupeKey b
  rw [h, hkey', keyHead, keyHead, Json.entryText, Json.entryText] at hkey
  simp only [String.toList_append, List.cons_append, List.append_assoc] at hkey
  have hparent := List.append_cancel_left (List.append_cancel_left (List.append_cancel_left
    (List.cons.inj hkey).2))
  cases ha : a.parentTargetKey with
  | none =>
    cases hb : b.parentTargetKey with
    | none => rfl
    | some parent =>
      rw [ha, hb, hnull, serialize_optionJson_some] at hparent
      exact absurd hparent.symm (null_append_ne parent _ _)
  | some parent =>
    cases hb : b.parentTargetKey with
    | none =>
      rw [ha, hb, hnull, serialize_optionJson_some] at hparent
      exact absurd hparent (null_append_ne parent _ _)
    | some parent' =>
      rw [ha, hb, serialize_optionJson_some, serialize_optionJson_some] at hparent
      have htext : (Json.dumpsText false parent').toList = (Json.dumpsText false parent).toList :=
        ((Json.closed_dumpsText false parent').append_inj (Json.closed_dumpsText false parent)
          hparent).1
      rw [Json.dumpsText_injective (String.toList_injective htext)]

/-- Of two targets without a parent, a common key has a common route. -/
theorem routeHint_of_dedupeKey_eq {a b : NavigationTarget} {r r' : String}
    (hparent : a.parentTargetKey = b.parentTargetKey) (ha : a.routeHint = some r)
    (hb : b.routeHint = some r') (h : a.dedupeKey = b.dedupeKey) : r = r' := by
  obtain ⟨rest, hkey⟩ := toList_dedupeKey a
  obtain ⟨rest', hkey'⟩ := toList_dedupeKey b
  rw [h, hkey', hparent] at hkey
  have htail := List.append_cancel_left hkey
  rw [ha, hb, serialize_optionJson_some, serialize_optionJson_some] at htail
  have hroute : (Json.dumpsText false r').toList = (Json.dumpsText false r).toList :=
    ((Json.closed_dumpsText false r').append_inj (Json.closed_dumpsText false r) htail).1
  exact (Json.dumpsText_injective (String.toList_injective hroute)).symm

/-- The kind stands at the end of a key. -/
theorem exists_toList_dedupeKey (target : NavigationTarget) :
    ∃ front, target.dedupeKey.toList =
      (front ++ ' ' :: (Json.dumpsText false target.targetKind).toList) ++ ['\x7d'] := by
  have hentry : (Json.entryText " " false ("target_kind",
      Json.serialize " " false (.str target.targetKind))).toList =
      (Json.dumpsText false "target_kind").toList ++
        ':' :: ' ' :: (Json.dumpsText false target.targetKind).toList := by
    rw [Json.entryText, String.toList_append, String.toList_append, List.append_assoc]
    rfl
  have hlast : ∀ a b c d e sep : List Char,
      sep.intercalate [a, b, c, d ++ ':' :: ' ' :: e] =
        (a ++ (sep ++ (b ++ (sep ++ (c ++ (sep ++ (d ++ [':']))))))) ++ ' ' :: e := by
    intro a b c d e sep
    rw [List.intercalate_cons_cons, List.intercalate_cons_cons, List.intercalate_cons_cons,
      List.intercalate_singleton]
    simp only [List.append_assoc, List.cons_append, List.nil_append]
  unfold dedupeKey Json.dumpsSpaced
  rw [Json.toList_obj, Json.sortedEntries, Json.serializeEntries, Json.serializeEntries,
    Json.serializeEntries, Json.serializeEntries, Json.serializeEntries, sort_keyEntries,
    Text.toList_joinWith]
  simp only [List.map_cons, List.map_nil]
  rw [hentry, hlast]
  exact ⟨'\x7b' :: _, rfl⟩

/-- **A common key has a common kind.** -/
theorem targetKind_of_dedupeKey_eq {a b : NavigationTarget} (h : a.dedupeKey = b.dedupeKey) :
    a.targetKind = b.targetKind := by
  obtain ⟨front, hkey⟩ := exists_toList_dedupeKey a
  obtain ⟨front', hkey'⟩ := exists_toList_dedupeKey b
  rw [h, hkey'] at hkey
  exact (Json.append_dumpsText_inj (List.append_cancel_right hkey)).symm

end NavigationTarget

/-! ## The registry of the visits admits -/

namespace NavigationTargetRegistry

open Admission

variable {registry : NavigationTargetRegistry} {taken : List NavigationTarget}
  {target : NavigationTarget}

/-- A target that leads to a page. -/
structure IsVisit (target : NavigationTarget) : Prop where
  kind : target.targetKind = "page_route"
  parent : target.parentTargetKey = none
  route : ∃ route, target.routeHint = some route

/-- The registry holds the admitted targets, up to what merges added to them. -/
structure Holds (registry : NavigationTargetRegistry) (taken : List NavigationTarget) : Prop where
  sound : ∃ history, Sound registry history
  keys : registry.keys = taken.map (·.dedupeKey)
  routes : registry.targets.map (·.routeHint) = taken.map (·.routeHint)
  kinds : ∀ kind ∈ registry.kinds, kind = "page_route"
  perRoute : registry.maxTargetsPerRoute = 4
  total : registry.maxTargetsPerKind ≤ registry.maxTotalTargets

theorem count_routes (l : List NavigationTarget) (route : String) :
    (l.filterMap (·.routeHint)).count route = groupSize (·.routeHint) l (some route) := by
  induction l with
  | nil => rfl
  | cons target l ih =>
    rw [groupSize_cons, ← ih]
    cases h : target.routeHint with
    | none =>
      rw [List.filterMap_cons_none h]
      simp
    | some r =>
      rw [List.filterMap_cons_some h, List.count_cons]
      simp

/-- For a target that leads to a page there is room under two budgets. -/
theorem Holds.room_iff (h : Holds registry taken) (hvisit : IsVisit target) :
    registry.Room target ↔ groupSize (·.routeHint) taken target.routeHint < 4 ∧
      taken.length < registry.maxTargetsPerKind := by
  obtain ⟨route, hroute⟩ := hvisit.route
  have hlength : registry.targets.length = taken.length := by
    have hkeys := congrArg List.length h.keys
    rwa [NavigationTargetRegistry.keys, List.length_map, List.length_map] at hkeys
  have hall : ∀ kind ∈ registry.kinds, target.targetKind = kind := fun kind hkind => by
    rw [hvisit.kind]
    exact (h.kinds kind hkind).symm
  have hkinds : registry.kinds.count target.targetKind = taken.length := by
    rw [List.count_eq_length.mpr hall, NavigationTargetRegistry.kinds, List.length_map, hlength]
  have hsize : groupSize (·.routeHint) taken (some route) = registry.routes.count route := by
    rw [NavigationTargetRegistry.routes, count_routes, groupSize, groupSize, h.routes]
  unfold Room
  rw [hkinds, hlength, hvisit.parent, hroute, hsize, h.perRoute]
  constructor
  · rintro ⟨-, hperRoute, hkind, -⟩
    exact ⟨hperRoute route rfl, hkind⟩
  · rintro ⟨hperRoute, hkind⟩
    refine ⟨hkind.trans_le h.total, fun r hr => ?_, hkind, fun parent hparent =>
      absurd hparent (Option.not_mem_none parent)⟩
    rwa [← Option.some_inj.mp hr]

/-- **Adding a target admits it.** -/
theorem Holds.add (h : Holds registry taken) (hvisit : IsVisit target) :
    Holds (registry.add target).1
      (letIn (·.dedupeKey) (·.routeHint) 4 registry.maxTargetsPerKind taken target) := by
  obtain ⟨history, hsound⟩ := h.sound
  have hbudgets := budgets_add registry target
  have hiff : (registry.add target).2.accepted = true ↔
      target.dedupeKey ∉ registry.keys ∧ registry.Room target := hsound.accepted_add_iff
  rw [h.room_iff hvisit, h.keys] at hiff
  have hletIn : letIn (·.dedupeKey) (·.routeHint) 4 registry.maxTargetsPerKind taken target =
      taken ++ if (registry.add target).2.accepted then [target] else [] := by
    unfold letIn
    split
    · rename_i hkey
      rw [if_neg (fun hletIned => (hiff.mp hletIned).1 hkey), List.append_nil]
    · rename_i hkey
      split
      · rename_i hcap
        rw [if_neg (fun hletIned => Nat.not_le.mpr (hiff.mp hletIned).2.1 hcap),
          List.append_nil]
      · rename_i hcap
        split
        · rename_i hfull
          rw [if_neg (fun hletIned => Nat.not_le.mpr (hiff.mp hletIned).2.2 hfull),
            List.append_nil]
        · rename_i hroom
          rw [if_pos (hiff.mpr ⟨hkey, Nat.lt_of_not_le hcap, Nat.lt_of_not_le hroom⟩)]
  have hmap : ∀ {β : Type} (g : NavigationTarget → β),
      (taken ++ if (registry.add target).2.accepted then [target] else []).map g =
        taken.map g ++ if (registry.add target).2.accepted then [g target] else [] := by
    intro β g
    rw [List.map_append]
    split <;> rfl
  refine ⟨⟨_, hsound.add target⟩, ?_, ?_, ?_, ?_, ?_⟩
  · rw [hletIn, hmap, ← h.keys]
    exact map_targets_add (fun _ => rfl) rfl
  · rw [hletIn, hmap, ← h.routes]
    exact map_targets_add (fun _ => rfl) rfl
  · have hkinds : (registry.add target).1.kinds = registry.kinds ++
        if (registry.add target).2.accepted then [target.targetKind] else [] :=
      map_targets_add (fun _ => rfl) rfl
    rw [hkinds, List.forall_mem_append]
    refine ⟨h.kinds, fun kind hkind => ?_⟩
    split at hkind
    · rw [List.mem_singleton.mp hkind, hvisit.kind]
    · exact absurd hkind List.not_mem_nil
  · exact (congrArg (fun b => b.2.1) hbudgets).trans h.perRoute
  · have htotal : (registry.add target).1.maxTotalTargets = registry.maxTotalTargets :=
      congrArg (fun b => b.1) hbudgets
    have hkind : (registry.add target).1.maxTargetsPerKind = registry.maxTargetsPerKind :=
      congrArg (fun b => b.2.2.1) hbudgets
    rw [htotal, hkind]
    exact h.total

/-- **Adding targets admits them one after the other.** -/
theorem Holds.addAll (h : Holds registry taken) {targets : List NavigationTarget}
    (hvisits : ∀ target ∈ targets, IsVisit target) :
    Holds (registry.addAll targets).1
      (targets.foldl (letIn (·.dedupeKey) (·.routeHint) 4 registry.maxTargetsPerKind) taken) := by
  induction targets generalizing registry taken with
  | nil => exact h
  | cons target targets ih =>
    obtain ⟨hvisit, hrest⟩ := List.forall_mem_cons.mp hvisits
    have hkind : (registry.add target).1.maxTargetsPerKind = registry.maxTargetsPerKind :=
      congrArg (fun b => b.2.2.1) (budgets_add registry target)
    have hnext := ih (h.add hvisit) hrest
    rwa [hkind] at hnext

end NavigationTargetRegistry

namespace PageDiscovery

open NavigationTargetRegistry Admission

/-! ## Routes -/

theorem normalizeRoutePath_of_slash {s : String} (h : Text.startsWith "/" s = true) :
    ∃ route, normalizeRoutePath (.str s) = some route := by
  have hstrip := Text.startsWith_slash_strip h
  unfold normalizeRoutePath
  dsimp only
  rw [if_neg (by simp [hstrip, Text.ne_empty_of_startsWith_slash hstrip])]
  split
  · exact ⟨"/", rfl⟩
  · exact ⟨_, rfl⟩

/-- A normalized route starts with a slash. -/
theorem startsWith_of_normalizeRoutePath {value : Json} {route : String}
    (h : normalizeRoutePath value = some route) : Text.startsWith "/" route = true := by
  cases value with
  | str s =>
    unfold normalizeRoutePath at h
    dsimp only at h
    split at h
    · exact absurd h.symm (Option.some_ne_none route)
    · rename_i hguard
      have hslash : Text.startsWith "/" (Text.strip s) = true := by
        rw [Bool.or_eq_true, not_or, Bool.not_eq_true', Bool.not_eq_false] at hguard
        exact hguard.2
      split at h
      · rw [← Option.some_inj.mp h]
        decide
      · rename_i hne
        rw [← Option.some_inj.mp h]
        exact (Text.startsWith_slash_rstripChar hslash).resolve_left hne
  | null => exact absurd h.symm (Option.some_ne_none route)
  | bool b => exact absurd h.symm (Option.some_ne_none route)
  | int n => exact absurd h.symm (Option.some_ne_none route)
  | float literal value => exact absurd h.symm (Option.some_ne_none route)
  | arr l => exact absurd h.symm (Option.some_ne_none route)
  | obj l => exact absurd h.symm (Option.some_ne_none route)

/-- A route that starts with a slash is kept as the hint of a target. -/
theorem normalizeRoute_of_slash {s : String} (h : Text.startsWith "/" s = true) :
    ∃ route, normalizeRoute (.str s) = some route := by
  have hstrip := Text.startsWith_slash_strip h
  unfold normalizeRoute
  dsimp only
  rw [if_neg (by simp [hstrip, Text.ne_empty_of_startsWith_slash hstrip])]
  split
  · exact ⟨"/", rfl⟩
  · exact ⟨_, rfl⟩

/-- A target that is built for a page route leads to a page. -/
theorem isVisit_ofFields {fields : NavigationTargetFields} {value : Json} {route : String}
    (hroute : normalizeRoutePath value = some route)
    (hkind : fields.targetKind = .str "page_route") (hhint : fields.routeHint = .str route)
    (hparent : fields.parentTargetKey = .null) : IsVisit (NavigationTarget.ofFields fields) where
  kind := by
    change (normalizeText fields.targetKind).getD "unknown" = "page_route"
    rw [hkind]
    decide
  parent := by
    unfold NavigationTarget.ofFields
    rw [hparent]
    rfl
  route := by
    unfold NavigationTarget.ofFields
    rw [hhint]
    exact normalizeRoute_of_slash (startsWith_of_normalizeRoutePath hroute)

theorem isVisit_pageVisit {page : PageCandidate} {target : NavigationTarget}
    (h : pageVisit page = some target) : IsVisit target := by
  obtain ⟨route, hroute, rfl⟩ := Option.map_eq_some_iff.mp h
  exact isVisit_ofFields hroute rfl rfl rfl

theorem isVisit_navigationVisit {record : Json} {target : NavigationTarget}
    (h : navigationVisit record = some target) : IsVisit target := by
  unfold navigationVisit at h
  split at h
  · obtain ⟨route, hroute, rfl⟩ := Option.map_eq_some_iff.mp h
    exact isVisit_ofFields hroute rfl rfl rfl
  · exact absurd h.symm (Option.some_ne_none target)

variable {pages : List PageCandidate} {navigationTargets : List Json}

theorem isVisit_of_mem_visits {target : NavigationTarget}
    (h : target ∈ visits pages navigationTargets) : IsVisit target := by
  rcases List.mem_append.mp h with h | h
  · obtain ⟨record, -, hrecord⟩ := List.mem_filterMap.mp h
    exact isVisit_navigationVisit hrecord
  · obtain ⟨page, -, hpage⟩ := List.mem_filterMap.mp h
    exact isVisit_pageVisit hpage

/-! ## Which routes are visited -/

/-- The number of places there are. -/
def visitBudget (pages : List PageCandidate) : ℕ :=
  max 8 (pages.length + 4)

/-- The number of places the targets ask for that are added before the first one of a route: the
different states of each route, up to four. -/
def placesBefore (pages : List PageCandidate) (navigationTargets : List Json) (route : String) :
    ℕ :=
  slots (·.dedupeKey) (·.routeHint) 4
    (beforeGroup (·.routeHint) (some route) (visits pages navigationTargets))

/-- The route of a page, as a target of the page has it. -/
def visitRoute (page : PageCandidate) : Option String :=
  (pageVisit page).bind (·.routeHint)

/-- A page is visited at this route. -/
def Visits (targets : List NavigationTarget) (route : String) : Prop :=
  ∃ target ∈ targets, target.targetKind = "page_route" ∧ target.routeHint = some route

theorem coherent_visits :
    Coherent (·.dedupeKey) (·.routeHint) (visits pages navigationTargets) := by
  intro a ha b hb hkey
  have hvisit := isVisit_of_mem_visits ha
  have hvisit' := isVisit_of_mem_visits hb
  obtain ⟨route, hroute⟩ := hvisit.route
  obtain ⟨route', hroute'⟩ := hvisit'.route
  change a.routeHint = b.routeHint
  rw [hroute, hroute', NavigationTarget.routeHint_of_dedupeKey_eq
    (hvisit.parent.trans hvisit'.parent.symm) hroute hroute' hkey]

theorem holds_visitRegistry : Holds (visitRegistry pages navigationTargets) [] where
  sound := ⟨[], sound_new _ _ _ _⟩
  keys := rfl
  routes := rfl
  kinds _ hkind := absurd hkind List.not_mem_nil
  perRoute := rfl
  total := by
    unfold visitRegistry NavigationTargetRegistry.new
    dsimp only
    omega

theorem holds_visits :
    Holds ((visitRegistry pages navigationTargets).addAll (visits pages navigationTargets)).1
      (admitAll (·.dedupeKey) (·.routeHint) 4 (visitBudget pages)
        (visits pages navigationTargets)) := by
  have hroom : (visitRegistry pages navigationTargets).maxTargetsPerKind = visitBudget pages := by
    unfold visitRegistry NavigationTargetRegistry.new visitBudget
    dsimp only
    omega
  have hall := (@holds_visitRegistry pages navigationTargets).addAll fun target htarget =>
    @isVisit_of_mem_visits pages navigationTargets target htarget
  rwa [hroom] at hall

theorem visits_iff_mem {route : String} :
    Visits (buildPageVisitTargets pages navigationTargets) route ↔
      some route ∈ (admitAll (·.dedupeKey) (·.routeHint) 4 (visitBudget pages)
        (visits pages navigationTargets)).map (·.routeHint) := by
  have hholds := @holds_visits pages navigationTargets
  rw [← hholds.routes, List.mem_map]
  refine exists_congr fun target => and_congr_right fun htarget => and_iff_right ?_
  exact hholds.kinds _ (List.mem_map_of_mem htarget)

/-- **A route is visited exactly when what is added before it leaves a place.** -/
theorem visit_iff {page : PageCandidate} (hpage : page ∈ pages) {route : String}
    (hroute : visitRoute page = some route) :
    Visits (buildPageVisitTargets pages navigationTargets) route ↔
      placesBefore pages navigationTargets route < visitBudget pages := by
  obtain ⟨target, htarget, hhint⟩ := Option.bind_eq_some_iff.mp hroute
  rw [visits_iff_mem]
  refine mem_groups_admitAll_iff _ _ _ (by decide) coherent_visits ?_
  exact List.mem_map.mpr ⟨target, List.mem_append_right _
    (List.mem_filterMap.mpr ⟨page, hpage, htarget⟩), hhint⟩

/-- **Every page is visited exactly when every page finds a place.** -/
theorem every_page_visited_iff (pages : List PageCandidate) (navigationTargets : List Json) :
    (∀ page, Text.startsWith "/" page.routePath = true →
      ∃ route, visitRoute page = some route) ∧
    ((∀ page ∈ pages, ∀ route ∈ visitRoute page,
        Visits (buildPageVisitTargets pages navigationTargets) route) ↔
      ∀ page ∈ pages, ∀ route ∈ visitRoute page,
        placesBefore pages navigationTargets route < visitBudget pages) := by
  constructor
  · intro page hslash
    obtain ⟨route, hroute⟩ := normalizeRoutePath_of_slash hslash
    obtain ⟨hint, hhint⟩ :=
      normalizeRoute_of_slash (startsWith_of_normalizeRoutePath hroute)
    refine ⟨hint, ?_⟩
    rw [visitRoute, pageVisit, hroute, Option.map_some, Option.bind_some]
    exact hhint
  · exact forall_congr' fun page => forall_congr' fun hpage => forall_congr' fun route =>
      forall_congr' fun hroute => visit_iff hpage hroute

end PageDiscovery

namespace PageDiscovery.VisitSample

open NavigationTargetRegistry

/-- A page that a menu leads to. -/
def menuPage (route : String) : NavigationTarget :=
  NavigationTarget.ofFields
    { targetKind := .str "page_route", routeHint := .str route,
      discoverySource := .str "dom_menu_tree",
      metadata := .obj [("discovery_sources", .arr [.str "dom_menu_tree"])] }

/-- A dialog of a page to which nothing else leads. -/
def createDialog : NavigationTarget :=
  NavigationTarget.ofFields
    { targetKind := .str "open_modal", routeHint := .str "/quotas",
      stateContext := .obj [("modal_title", .str "Create")],
      parentTargetKey := .str "page:/quotas", discoverySource := .str "dom_menu_tree",
      metadata := .obj [("discovery_sources", .arr [.str "dom_menu_tree"])] }

def seeds : List NavigationTarget :=
  [menuPage "/users", createDialog] ++
    ["/b1", "/b2", "/b3", "/b4", "/b5", "/b6", "/b7"].map menuPage

/-- A discovery that takes one target of each kind: the seven pages after the first are refused. -/
def discovered : NavigationTargetRegistry :=
  ((NavigationTargetRegistry.new 128 16 1 32).addAll seeds).1

/-- The pages of the targets it took. -/
def found : List PageCandidate :=
  [{ routePath := "/quotas", discoverySources := ["dom_menu_tree"] },
    { routePath := "/users", discoverySources := ["dom_menu_tree"] }]

theorem quotas_not_visited : (serializeNavigationTargets discovered).toOption.map (fun records =>
    (buildPageVisitTargets found (records.map modelDump)).map (·.routeHint)) =
      some (["/users", "/b1", "/b2", "/b3", "/b4", "/b5", "/b6", "/b7"].map some) := by
  decide +kernel

/-- The refused pages take the place of a page of the crawl. -/
theorem page_left_out :
    ¬ ∀ (total perRoute perKind perParent : Int) (seeds : List NavigationTarget)
      (records : List NavigationTargetResult) (pages : List PageCandidate),
      serializeNavigationTargets
        ((NavigationTargetRegistry.new total perRoute perKind perParent).addAll seeds).1 =
          .ok records →
      (∀ page ∈ pages, Text.startsWith "/" page.routePath = true) →
      ∀ page ∈ pages, ∀ route ∈ visitRoute page,
        Visits (buildPageVisitTargets pages (records.map modelDump)) route := by
  intro hclaim
  have hrun := quotas_not_visited
  cases hrecords : serializeNavigationTargets discovered with
  | error e =>
    rw [hrecords] at hrun
    exact absurd hrun.symm (Option.some_ne_none _)
  | ok records =>
    rw [hrecords] at hrun
    obtain ⟨target, htarget, -, hroute⟩ := hclaim 128 16 1 32 seeds records found hrecords
      (by decide)
      { routePath := "/quotas", discoverySources := ["dom_menu_tree"] } List.mem_cons_self
      "/quotas" (by decide +kernel)
    have hroutes : (buildPageVisitTargets found (records.map modelDump)).map (·.routeHint) =
        ["/users", "/b1", "/b2", "/b3", "/b4", "/b5", "/b6", "/b7"].map some :=
      Option.some_inj.mp hrun
    have hmem : some "/quotas" ∈
        ["/users", "/b1", "/b2", "/b3", "/b4", "/b5", "/b6", "/b7"].map some := by
      rw [← hroutes, ← hroute]
      exact List.mem_map_of_mem htarget
    revert hmem
    decide

end PageDiscovery.VisitSample

end Runlet
