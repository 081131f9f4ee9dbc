import Runlet.CrawlerService.Extractors.DiscoveryGroups
import Runlet.Library.StableSort

/-!
# What page discovery keeps of its signals

A page is made of the seeds that joined the targets with its route (`MadeOf`).  So discovery loses
nothing and invents nothing (`extract_conserves`): a seed is carried by the page of its route or its
target is recorded as refused by a budget, whatever a page says was said by a signal, and the pages
are the routes of the targets that were taken.
-/

namespace Runlet

namespace PageDiscovery

open Dict (Entries Groups groupPairs)
open NavigationTargetRegistry Attempt

/-! ## The seeds of a page -/

section Seeds

variable {gathered : Gathered} {history : List SeedRecord}

theorem Gathers.mem_getD_iff (h : Gathers gathered history) {key : String}
    {seed : NavigationTargetSeed} :
    seed ∈ gathered.groupedTargets.getD key ↔
      ∃ e ∈ history, e.joins = true ∧ e.1 = seed ∧ seed.target.dedupeKey = key := by
  rw [h.groups, Dict.getD_groupPairs, List.mem_map]
  constructor
  · rintro ⟨p, hp, rfl⟩
    obtain ⟨hp, hkey⟩ := List.mem_filter.mp hp
    obtain ⟨e, he, rfl⟩ := List.mem_map.mp hp
    obtain ⟨he, hjoins⟩ := List.mem_filter.mp he
    exact ⟨e, he, hjoins, rfl, of_decide_eq_true hkey⟩
  · rintro ⟨e, he, hjoins, rfl, hkey⟩
    exact ⟨(e.1.target.dedupeKey, e.1), List.mem_filter.mpr
      ⟨List.mem_map.mpr ⟨e, List.mem_filter.mpr ⟨he, hjoins⟩, rfl⟩, decide_eq_true hkey⟩, rfl⟩

/-- A target that was taken is that of a seed. -/
theorem Gathers.exists_seed (h : Gathers gathered history) {target : NavigationTarget}
    (htarget : target ∈ gathered.registry.targets) :
    ∃ e ∈ history, e.2.accepted = true ∧ identity e.1.target = identity target := by
  have hmem := List.mem_map_of_mem (f := identity) htarget
  rw [h.taken] at hmem
  obtain ⟨e, he, heq⟩ := List.mem_map.mp hmem
  exact ⟨e, (List.mem_filter.mp he).1, (List.mem_filter.mp he).2, heq⟩

theorem key_of_identity_eq {a b : NavigationTarget} (h : identity a = identity b) :
    a.dedupeKey = b.dedupeKey :=
  congrArg Prod.fst h

theorem route_of_identity_eq {a b : NavigationTarget} (h : identity a = identity b) :
    a.routeHint = b.routeHint :=
  congrArg (fun p => p.2.1) h

theorem kind_of_identity_eq {a b : NavigationTarget} (h : identity a = identity b) :
    a.targetKind = b.targetKind :=
  congrArg (fun p => p.2.2.1) h

theorem context_of_identity_eq {a b : NavigationTarget} (h : identity a = identity b) :
    a.stateContext = b.stateContext :=
  congrArg (fun p => p.2.2.2) h

theorem Gathers.mem_pageSeeds_iff (h : Gathers gathered history)
    {group : String × List NavigationTargetSeed} :
    group ∈ pageSeeds gathered ↔ ∃ target ∈ gathered.registry.targets,
      target.routeHint = some group.1 ∧
        gathered.groupedTargets.getD target.dedupeKey = group.2 := by
  unfold pageSeeds
  rw [List.mem_filterMap]
  refine exists_congr fun target => and_congr_right fun htarget => ?_
  have hne : ¬ (gathered.groupedTargets.getD target.dedupeKey).isEmpty = true := by
    obtain ⟨e, he, haccepted, hsame⟩ := h.exists_seed htarget
    have hjoins : e.joins = true := by
      rw [SeedRecord.joins, AddRecord.joins, SeedRecord.added, haccepted, Bool.true_or]
    intro hempty
    have hmem := h.mem_getD_iff.mpr ⟨e, he, hjoins, rfl, key_of_identity_eq hsame⟩
    rw [List.isEmpty_iff.mp hempty] at hmem
    exact List.not_mem_nil hmem
  rw [Option.bind_eq_some_iff]
  simp only [if_neg hne, Option.some_inj]
  constructor
  · rintro ⟨route, hroute, rfl⟩
    exact ⟨hroute, rfl⟩
  · rintro ⟨hroute, hgroup⟩
    exact ⟨group.1, hroute, Prod.ext rfl hgroup⟩

/-- The routes of the pages are those of the targets that were taken. -/
theorem Gathers.mem_routes_iff (h : Gathers gathered history) {route : String} :
    route ∈ (pageSeeds gathered).map Prod.fst ↔
      ∃ target ∈ gathered.registry.targets, target.routeHint = some route := by
  rw [List.mem_map]
  constructor
  · rintro ⟨group, hgroup, rfl⟩
    obtain ⟨target, htarget, hroute, -⟩ := h.mem_pageSeeds_iff.mp hgroup
    exact ⟨target, htarget, hroute⟩
  · rintro ⟨target, htarget, hroute⟩
    exact ⟨(route, _), h.mem_pageSeeds_iff.mpr ⟨target, htarget, hroute, rfl⟩, rfl⟩

variable (hroutes : ∀ e ∈ history, ∃ route, e.1.target.routeHint = some route)
include hroutes

/-- Seeds of one key have one route. -/
theorem routeHint_eq_of_key_eq {e e' : SeedRecord} (he : e ∈ history) (he' : e' ∈ history)
    (hkey : e.1.target.dedupeKey = e'.1.target.dedupeKey) :
    e.1.target.routeHint = e'.1.target.routeHint := by
  obtain ⟨route, hroute⟩ := hroutes e he
  obtain ⟨route', hroute'⟩ := hroutes e' he'
  rw [hroute, hroute', NavigationTarget.routeHint_of_dedupeKey_eq
    (NavigationTarget.parentTargetKey_of_dedupeKey_eq hkey) hroute hroute' hkey]

/-- A seed that joined stands under a target with its route. -/
theorem Gathers.exists_target (h : Gathers gathered history) {e : SeedRecord}
    (he : e ∈ history) (hjoins : e.joins = true) :
    ∃ target ∈ gathered.registry.targets, target.dedupeKey = e.1.target.dedupeKey ∧
      target.routeHint = e.1.target.routeHint := by
  have hmem := h.sound.merged e.added (List.mem_map_of_mem he) hjoins
  obtain ⟨target, htarget, hkey⟩ := List.mem_map.mp hmem
  obtain ⟨e', he', -, hsame⟩ := h.exists_seed htarget
  refine ⟨target, htarget, hkey, ?_⟩
  rw [← route_of_identity_eq hsame]
  exact routeHint_eq_of_key_eq hroutes he' he ((key_of_identity_eq hsame).trans hkey)

/-- **The seeds of a route**, over all its targets. -/
theorem Gathers.mem_seedsOf_iff (h : Gathers gathered history) {route : String}
    {seed : NavigationTargetSeed} :
    seed ∈ ((pageSeeds gathered).filter fun g => g.1 = route).flatMap Prod.snd ↔
      ∃ e ∈ history, e.joins = true ∧ e.1 = seed ∧ seed.target.routeHint = some route := by
  rw [List.mem_flatMap]
  constructor
  · rintro ⟨group, hgroup, hseed⟩
    obtain ⟨hgroup, hroute⟩ := List.mem_filter.mp hgroup
    obtain ⟨target, htarget, hhint, hgetD⟩ := h.mem_pageSeeds_iff.mp hgroup
    rw [← hgetD] at hseed
    obtain ⟨e, he, hjoins, rfl, hkey⟩ := h.mem_getD_iff.mp hseed
    obtain ⟨e', he', -, hsame⟩ := h.exists_seed htarget
    refine ⟨e, he, hjoins, rfl, ?_⟩
    rw [routeHint_eq_of_key_eq hroutes he he' (hkey.trans (key_of_identity_eq hsame).symm),
      route_of_identity_eq hsame, hhint, of_decide_eq_true hroute]
  · rintro ⟨e, he, hjoins, rfl, hroute⟩
    obtain ⟨target, htarget, hkey, hhint⟩ := h.exists_target hroutes he hjoins
    refine ⟨(route, gathered.groupedTargets.getD target.dedupeKey), ?_, ?_⟩
    · exact List.mem_filter.mpr ⟨h.mem_pageSeeds_iff.mpr
        ⟨target, htarget, hhint.trans hroute, rfl⟩, decide_eq_true rfl⟩
    · exact h.mem_getD_iff.mpr ⟨e, he, hjoins, rfl, hkey.symm⟩

end Seeds

/-! ## What a page is made of -/

/-- The text by which an entry candidate is compared. -/
def entryText (candidate : Json) : String :=
  Json.dumpsSpaced false candidate

/-- The page says what these seeds say, and a title may come from these visits. -/
structure MadeOf (page : PageStore) (seeds : List NavigationTargetSeed) (visits : List Json) :
    Prop where
  sources : ∀ source, source ∈ page.sources ↔ ∃ seed ∈ seeds, source ∈ extractSources seed.signal
  sourcesNodup : page.sources.Nodup
  brought : ∀ candidate ∈ page.entryCandidates,
    ∃ seed ∈ seeds, seed.entryCandidate = some candidate
  kept : ∀ seed ∈ seeds, ∀ candidate ∈ seed.entryCandidate,
    entryText candidate ∈ page.entryCandidates.map entryText
  entriesNodup : (page.entryCandidates.map entryText).Nodup
  titled : ∀ seed ∈ seeds, seed.titleCandidate.isSome = true → page.title.isSome = true
  titleFrom : ∀ title ∈ page.title, (∃ seed ∈ seeds, seed.titleCandidate = some title) ∨
    ∃ metadata ∈ visits, metadataTitle metadata = some title

theorem mem_addEntryCandidate {entryCandidates : List Json} {candidate c : Json}
    (h : c ∈ addEntryCandidate entryCandidates candidate) :
    c ∈ entryCandidates ∨ c = candidate := by
  unfold addEntryCandidate at h
  split at h
  · exact Or.inl h
  · exact (List.mem_append.mp h).imp_right List.mem_singleton.mp

theorem map_addEntryCandidate (entryCandidates : List Json) (candidate : Json) :
    (addEntryCandidate entryCandidates candidate).map entryText =
      if entryText candidate ∈ entryCandidates.map entryText then entryCandidates.map entryText
      else entryCandidates.map entryText ++ [entryText candidate] := by
  have hany : (entryCandidates.any fun seen => decide (Json.dumpsSpaced false seen =
      Json.dumpsSpaced false candidate)) = true ↔
        entryText candidate ∈ entryCandidates.map entryText := by
    rw [List.any_eq_true, List.mem_map]
    exact exists_congr fun seen => and_congr_right fun _ => decide_eq_true_iff
  unfold addEntryCandidate
  by_cases hmem : entryText candidate ∈ entryCandidates.map entryText
  · rw [if_pos (hany.mpr hmem), if_pos hmem]
  · rw [if_neg fun h => hmem (hany.mp h), if_neg hmem, List.map_append, List.map_singleton]

theorem madeOf_nil : MadeOf {} [] [] where
  sources source := by simp
  sourcesNodup := List.nodup_nil
  brought _ h := absurd h List.not_mem_nil
  kept _ h := absurd h List.not_mem_nil
  entriesNodup := List.nodup_nil
  titled _ h := absurd h List.not_mem_nil
  titleFrom _ h := absurd h (Option.not_mem_none _)

/-- The entry candidates after one more of them, or none. -/
theorem entries_foldl {entryCandidates : List Json} {candidate? : Option Json}
    (hnodup : (entryCandidates.map entryText).Nodup) :
    let result := candidate?.toList.foldl addEntryCandidate entryCandidates
    (∀ c ∈ result, c ∈ entryCandidates ∨ candidate? = some c) ∧
      (∀ text ∈ entryCandidates.map entryText, text ∈ result.map entryText) ∧
      (∀ candidate ∈ candidate?, entryText candidate ∈ result.map entryText) ∧
      (result.map entryText).Nodup := by
  cases candidate? with
  | none =>
    exact ⟨fun c hc => Or.inl hc, fun text h => h,
      fun candidate h => absurd h (Option.not_mem_none candidate), hnodup⟩
  | some candidate =>
    change (∀ c ∈ addEntryCandidate entryCandidates candidate, _) ∧
      (∀ text ∈ _, text ∈ (addEntryCandidate entryCandidates candidate).map entryText) ∧
      (∀ c ∈ some candidate,
        entryText c ∈ (addEntryCandidate entryCandidates candidate).map entryText) ∧
      ((addEntryCandidate entryCandidates candidate).map entryText).Nodup
    rw [map_addEntryCandidate]
    have hfrom : ∀ c ∈ addEntryCandidate entryCandidates candidate,
        c ∈ entryCandidates ∨ some candidate = some c :=
      fun c hc => (mem_addEntryCandidate hc).imp_right fun h => congrArg some h.symm
    by_cases hmem : entryText candidate ∈ entryCandidates.map entryText
    · rw [if_pos hmem]
      exact ⟨hfrom, fun text h => h, fun c hc => Option.some_inj.mp hc ▸ hmem, hnodup⟩
    · rw [if_neg hmem]
      refine ⟨hfrom, fun text h => List.mem_append_left _ h, fun c hc => ?_, ?_⟩
      · rw [← Option.some_inj.mp hc]
        exact List.mem_append_right _ List.mem_cons_self
      · exact List.nodup_append.mpr ⟨hnodup, List.nodup_singleton _,
          fun a ha b hb hab => hmem (List.mem_singleton.mp hb ▸ hab ▸ ha)⟩

/-- **One more seed.** -/
theorem MadeOf.mergeSignalToPage {page : PageStore} {seeds : List NavigationTargetSeed}
    {visits : List Json} (h : MadeOf page seeds visits) (seed : NavigationTargetSeed) :
    MadeOf (mergeSignalToPage page seed) (seeds ++ [seed]) visits := by
  obtain ⟨hfrom, hold, hnew, hnodup⟩ :=
    @entries_foldl page.entryCandidates seed.entryCandidate h.entriesNodup
  have htitle : (PageDiscovery.mergeSignalToPage page seed).title =
      page.title.or seed.titleCandidate := rfl
  refine ⟨fun source => ?_, Dict.nodup_eraseDups _, ?_, ?_, hnodup, ?_, ?_⟩
  · change source ∈ (page.sources ++ extractSources seed.signal).eraseDups ↔ _
    rw [List.mem_eraseDups, List.mem_append, h.sources]
    simp only [List.mem_append, List.mem_singleton, or_and_right, exists_or, exists_eq_left]
  · intro candidate hcandidate
    rcases hfrom candidate hcandidate with hmem | hseed
    · obtain ⟨other, hother, heq⟩ := h.brought candidate hmem
      exact ⟨other, List.mem_append_left _ hother, heq⟩
    · exact ⟨seed, List.mem_append_right _ List.mem_cons_self, hseed⟩
  · refine List.forall_mem_append.mpr ⟨fun other hother candidate hcandidate => ?_, ?_⟩
    · exact hold _ (h.kept other hother candidate hcandidate)
    · exact List.forall_mem_singleton.mpr hnew
  · rw [htitle, Option.isSome_or]
    refine List.forall_mem_append.mpr ⟨fun other hother hsome => ?_, ?_⟩
    · rw [h.titled other hother hsome, Bool.true_or]
    · refine List.forall_mem_singleton.mpr fun hsome => ?_
      rw [hsome, Bool.or_true]
  · intro title hmem
    rcases Option.or_eq_some_iff.mp (htitle.symm.trans hmem) with hpage | ⟨-, hown⟩
    · refine (h.titleFrom title hpage).imp_left fun ⟨other, hother, heq⟩ => ?_
      exact ⟨other, List.mem_append_left _ hother, heq⟩
    · exact Or.inl ⟨seed, List.mem_append_right _ List.mem_cons_self, hown⟩

theorem madeOf_foldl (seeds : List NavigationTargetSeed) :
    MadeOf (seeds.foldl mergeSignalToPage {}) seeds [] := by
  induction seeds using List.reverseRecOn with
  | nil => exact madeOf_nil
  | append_singleton seeds seed ih =>
    rw [List.foldl_concat]
    exact ih.mergeSignalToPage seed

/-- **One more visit** only tells a title, and about the context. -/
theorem MadeOf.addMetadata {page : PageStore} {seeds : List NavigationTargetSeed}
    {visits : List Json} (h : MadeOf page seeds visits) (metadata : Json) :
    MadeOf (addMetadata page metadata) seeds (visits ++ [metadata]) := by
  have htitle : (PageDiscovery.addMetadata page metadata).title =
      page.title.or (metadataTitle metadata) := rfl
  refine ⟨h.sources, h.sourcesNodup, h.brought, h.kept, h.entriesNodup, ?_, ?_⟩
  · intro seed hseed hsome
    rw [htitle, Option.isSome_or, h.titled seed hseed hsome, Bool.true_or]
  · intro title hmem
    rcases Option.or_eq_some_iff.mp (htitle.symm.trans hmem) with hpage | ⟨-, hown⟩
    · refine (h.titleFrom title hpage).imp_right fun ⟨other, hother, heq⟩ => ?_
      exact ⟨other, List.mem_append_left _ hother, heq⟩
    · exact Or.inr ⟨metadata, List.mem_append_right _ List.mem_cons_self, hown⟩

/-! ## The page store -/

section Store

variable {acceptsNetloc : String → Bool} {facts : SessionFacts} {gathered : Gathered}

/-- The seeds of a route. -/
def seedsOf (gathered : Gathered) (route : String) : List NavigationTargetSeed :=
  ((pageSeeds gathered).filter fun g => g.1 = route).flatMap Prod.snd

variable (acceptsNetloc facts gathered) in
/-- The store has a page for each route of a target, made of the seeds of the route and of visits
to it. -/
structure Stored (pageStore : Entries String PageStore) : Prop where
  nodup : (pageStore.map Prod.fst).Nodup
  routes : ∀ route, route ∈ pageStore.map Prod.fst ↔ route ∈ (pageSeeds gathered).map Prod.fst
  madeOf : ∀ route page, pageStore.get? route = some page →
    ∃ visits, MadeOf page (seedsOf gathered route) visits ∧
      ∀ metadata ∈ visits, metadata ∈ facts.metadataSignals.1 ∧
        extractRoutePath acceptsNetloc metadata = .ok (some route)

theorem stored_pagesOf : Stored acceptsNetloc facts gathered (pagesOf gathered) := by
  have hget : ∀ route, (pagesOf gathered).get? route =
      if route ∈ (pageSeeds gathered).map Prod.fst then
        some ((seedsOf gathered route).foldl mergeSignalToPage {})
      else none := Entries.get?_foldl_grow (pageSeeds gathered)
  refine ⟨Entries.nodup_keys_foldl_grow (pageSeeds gathered), fun route => ?_,
    fun route page hpage => ?_⟩
  · rw [← Entries.isSome_get?, hget]
    split
    · rename_i hmem
      exact iff_of_true rfl hmem
    · rename_i hmem
      exact iff_of_false Bool.false_ne_true hmem
  · rw [hget] at hpage
    split at hpage
    · refine ⟨[], ?_, fun _ h => absurd h List.not_mem_nil⟩
      rw [← Option.some_inj.mp hpage]
      exact madeOf_foldl _
    · cases hpage

/-- **One more visit.** -/
theorem Stored.applyMetadata {pageStore pageStore' : Entries String PageStore}
    (h : Stored acceptsNetloc facts gathered pageStore) {metadata : Json}
    (hmetadata : metadata ∈ facts.metadataSignals.1)
    (happly : applyMetadata acceptsNetloc pageStore metadata = .ok pageStore') :
    Stored acceptsNetloc facts gathered pageStore' := by
  obtain ⟨route?, hroute, rfl⟩ := map_eq_ok_iff.mp happly
  split
  · exact h
  · rename_i route
    split
    · exact h
    · rename_i page hpage
      have hmem : route ∈ pageStore.map Prod.fst :=
        Entries.isSome_get?.mp (hpage ▸ Option.isSome_some)
      refine ⟨Entries.nodup_keys_set h.nodup _ _, fun other => ?_, fun other page' hpage' => ?_⟩
      · rw [Entries.keys_set, if_pos hmem, List.append_nil]
        exact h.routes other
      · rw [Entries.get?_set] at hpage'
        split at hpage'
        · rename_i heq
          subst heq
          obtain ⟨visits, hmade, hvisits⟩ := h.madeOf route page hpage
          rw [← Option.some_inj.mp hpage']
          exact ⟨visits ++ [metadata], hmade.addMetadata metadata, List.forall_mem_append.mpr
            ⟨hvisits, List.forall_mem_singleton.mpr ⟨hmetadata, hroute⟩⟩⟩
        · exact h.madeOf other page' hpage'

theorem stored_withMetadata {pageStore : Entries String PageStore}
    (h : withMetadata acceptsNetloc facts (pagesOf gathered) = .ok pageStore) :
    Stored acceptsNetloc facts gathered pageStore :=
  foldlM_invariant (p := Stored acceptsNetloc facts gathered)
    (fun _ _ hmetadata _ hstored => hstored.applyMetadata hmetadata) stored_pagesOf h

/-- The pages in order are those of the store. -/
theorem Stored.mem_sortedPages_iff {pageStore : Entries String PageStore}
    (h : Stored acceptsNetloc facts gathered pageStore) {candidate : PageCandidate} :
    candidate ∈ sortedPages pageStore ↔
      ∃ route page, pageStore.get? route = some page ∧
        toPageCandidate (route, page) = candidate := by
  unfold sortedPages
  rw [List.mem_map]
  constructor
  · rintro ⟨e, he, rfl⟩
    exact ⟨e.1, e.2, Entries.get?_of_mem h.nodup ((List.mem_insertionSort _).mp he), rfl⟩
  · rintro ⟨route, page, hpage, rfl⟩
    exact ⟨(route, page), (List.mem_insertionSort _).mpr (Entries.mem_of_get? hpage), rfl⟩

theorem Stored.pairwise_routes {pageStore : Entries String PageStore}
    (h : Stored acceptsNetloc facts gathered pageStore) :
    ((sortedPages pageStore).map (·.routePath)).Pairwise (· < ·) := by
  unfold sortedPages
  rw [List.map_map]
  exact StableSort.pairwise_lt_insertionSort h.nodup

end Store

/-! ## The records -/

/-- A record tells key, route, kind, context and status of its target. -/
theorem recorded_of_modelValidate {target : NavigationTarget} {record : NavigationTargetResult}
    (h : NavigationTargetResult.modelValidate target = .ok record) :
    record.targetKey = target.targetKey ∧ record.routeHint = target.routeHint ∧
      record.stateContext = target.stateContext ∧
      NavigationTargetKind.ofText? target.targetKind = some record.targetKind ∧
      NavigationMaterializationStatus.ofText? target.materializationStatus =
        some record.materializationStatus := by
  have hread : ∀ {α : Type} {field : String} {ofText? : String → Option α} {text : String} {a : α},
      readLiteral field ofText? text = .ok a → ofText? text = some a := by
    intro α field ofText? text a hread
    unfold readLiteral at hread
    split at hread
    · rename_i hsome
      rw [hsome, Except.ok.inj hread]
    · cases hread
  obtain ⟨kind, hkind, h⟩ := bind_eq_ok_iff.mp h
  obtain ⟨status, hstatus, h⟩ := bind_eq_ok_iff.mp h
  obtain ⟨reason, -, h⟩ := bind_eq_ok_iff.mp h
  unfold NavigationTargetResult.ofLiterals at h
  split at h
  · cases h
  · rw [← Except.ok.inj h]
    exact ⟨rfl, rfl, rfl, hread hkind, hread hstatus⟩

/-! ## A discovery that comes to its end -/

section Discoveries

variable {acceptsNetloc : String → Bool} {budgets : Budgets} {facts : SessionFacts}
  {discovery : Discovery}

variable (acceptsNetloc budgets facts discovery) in
/-- What a discovery has to do with the seeds that came and with the page store at its end. -/
structure IsDiscovery (gathered : Gathered) (history : List SeedRecord)
    (pageStore : Entries String PageStore) : Prop where
  seeds : buildSeeds acceptsNetloc facts = .ok (history.map Prod.fst)
  run : gathered = gatherAll budgets (history.map Prod.fst)
  isSeed : ∀ e ∈ history, ∃ signal ∈ facts.mergedSignals, IsSeed signal e.1
  gathers : Gathers gathered history
  stored : Stored acceptsNetloc facts gathered pageStore
  records : serializeNavigationTargets gathered.registry = .ok discovery.navigationTargets
  extraction : discovery.extraction = toExtraction facts gathered pageStore

theorem exists_isDiscovery (h : extract acceptsNetloc budgets facts = .ok discovery) :
    ∃ gathered history pageStore,
      IsDiscovery acceptsNetloc budgets facts discovery gathered history pageStore := by
  obtain ⟨seeds, hseeds, h⟩ := bind_eq_ok_iff.mp h
  obtain ⟨pageStore, hstore, h⟩ := bind_eq_ok_iff.mp h
  obtain ⟨records, hrecords, h⟩ := bind_eq_ok_iff.mp h
  have hbuild := mapError_eq_ok_iff.mp hseeds
  obtain ⟨history, hgathers, hhistory⟩ := exists_gathers budgets seeds
  refine ⟨gatherAll budgets seeds, history, pageStore, ?_, ?_, fun e he => ?_, hgathers,
    stored_withMetadata (mapError_eq_ok_iff.mp hstore), ?_, ?_⟩
  · rw [hhistory]
    exact hbuild
  · rw [hhistory]
  · exact isSeed_of_mem_buildSeeds hbuild e.1 (hhistory ▸ List.mem_map_of_mem he)
  · rw [← Except.ok.inj h]
    exact mapError_eq_ok_iff.mp hrecords
  · rw [← Except.ok.inj h]

namespace IsDiscovery

variable {gathered : Gathered} {history : List SeedRecord} {pageStore : Entries String PageStore}
  (h : IsDiscovery acceptsNetloc budgets facts discovery gathered history pageStore)
include h

theorem routes : ∀ e ∈ history, ∃ route, e.1.target.routeHint = some route := fun e he => by
  obtain ⟨signal, -, hseed⟩ := h.isSeed e he
  obtain ⟨route, hroute, -⟩ := hseed.target.route
  exact ⟨route, hroute⟩

theorem pages : discovery.extraction.pages = sortedPages pageStore := by
  rw [h.extraction]
  rfl

/-- A page of the discovery, as it stands in the store. -/
theorem exists_of_mem_pages {page : PageCandidate} (hpage : page ∈ discovery.extraction.pages) :
    ∃ stored visits, page = toPageCandidate (page.routePath, stored) ∧
      MadeOf stored (seedsOf gathered page.routePath) visits ∧
      ∀ metadata ∈ visits, metadata ∈ facts.metadataSignals.1 ∧
        extractRoutePath acceptsNetloc metadata = .ok (some page.routePath) := by
  rw [h.pages] at hpage
  obtain ⟨route, stored, hget, rfl⟩ := h.stored.mem_sortedPages_iff.mp hpage
  obtain ⟨visits, hmade, hvisits⟩ := h.stored.madeOf route stored hget
  exact ⟨stored, visits, rfl, hmade, hvisits⟩

/-- The routes of the pages are those of the targets that were taken. -/
theorem exists_page_iff {route : String} :
    (∃ page ∈ discovery.extraction.pages, page.routePath = route) ↔
      ∃ target ∈ gathered.registry.targets, target.routeHint = some route := by
  rw [← h.gathers.mem_routes_iff, ← h.stored.routes, ← Entries.isSome_get?,
    Option.isSome_iff_exists,
    h.pages]
  constructor
  · rintro ⟨page, hpage, rfl⟩
    obtain ⟨route, stored, hget, rfl⟩ := h.stored.mem_sortedPages_iff.mp hpage
    exact ⟨stored, hget⟩
  · rintro ⟨stored, hget⟩
    exact ⟨_, h.stored.mem_sortedPages_iff.mpr ⟨route, stored, hget, rfl⟩, rfl⟩

/-- A record of the discovery, and its target. -/
theorem exists_target_of_mem {record : NavigationTargetResult}
    (hrecord : record ∈ discovery.navigationTargets) :
    ∃ target, (target ∈ gathered.registry.targets ∨ target ∈ gathered.registry.rejectedTargets ∧
        target.materializationStatus = "blocked") ∧
      NavigationTargetResult.modelValidate target = .ok record := by
  obtain ⟨target, htarget, hvalidate⟩ := exists_of_mem_mapM h.records hrecord
  refine ⟨target, (List.mem_append.mp htarget).imp_right fun hmem => ?_, hvalidate⟩
  obtain ⟨hmem, hstatus⟩ := List.mem_filter.mp hmem
  exact ⟨hmem, of_decide_eq_true hstatus⟩

/-- The queued records are those of the targets that were taken. -/
theorem exists_queued_iff {route : String} :
    (∃ record ∈ discovery.navigationTargets,
        record.materializationStatus = .queued ∧ record.routeHint = some route) ↔
      ∃ target ∈ gathered.registry.targets, target.routeHint = some route := by
  constructor
  · rintro ⟨record, hrecord, hqueued, hroute⟩
    obtain ⟨target, htarget, hvalidate⟩ := h.exists_target_of_mem hrecord
    obtain ⟨-, hhint, -, -, hstatus⟩ := recorded_of_modelValidate hvalidate
    rcases htarget with htarget | ⟨-, hblocked⟩
    · exact ⟨target, htarget, hhint.symm.trans hroute⟩
    · rw [hblocked, hqueued] at hstatus
      exact absurd hstatus (by decide)
  · rintro ⟨target, htarget, hroute⟩
    obtain ⟨record, hrecord, hvalidate⟩ :=
      exists_mem_of_mapM h.records (List.mem_append_left _ htarget)
    obtain ⟨-, hhint, -, -, hstatus⟩ := recorded_of_modelValidate hvalidate
    refine ⟨record, hrecord, ?_, hhint.trans hroute⟩
    rw [h.gathers.queued target htarget] at hstatus
    exact (Option.some_inj.mp hstatus).symm

/-- A seed that a budget refused is recorded. -/
theorem exists_blocked {e : SeedRecord} (he : e ∈ history) (hrefused : ¬ e.joins = true) :
    ∃ record ∈ discovery.navigationTargets, record.materializationStatus = .blocked ∧
      record.targetKey = e.1.target.targetKey ∧ record.routeHint = e.1.target.routeHint := by
  have hjoins := Bool.eq_false_iff.mpr hrefused
  obtain ⟨reason, -, htarget⟩ := (h.gathers.decisions e he).refused hjoins
  have haccepted : (!e.2.accepted) = true := by
    rw [SeedRecord.joins, AddRecord.joins, SeedRecord.added, Bool.or_eq_false_iff] at hjoins
    rw [hjoins.1]
    rfl
  have hmem : e.2.target ∈ gathered.registry.rejectedTargets := by
    rw [h.gathers.sound.rejected]
    exact List.mem_map.mpr ⟨e.added,
      List.mem_filter.mpr ⟨List.mem_map_of_mem he, haccepted⟩, rfl⟩
  have hstatus : e.2.target.materializationStatus = "blocked" := by
    rw [htarget]
    rfl
  obtain ⟨record, hrecord, hvalidate⟩ := exists_mem_of_mapM h.records
    (List.mem_append_right _ (List.mem_filter.mpr ⟨hmem, decide_eq_true hstatus⟩))
  obtain ⟨hkey, hhint, -, -, hread⟩ := recorded_of_modelValidate hvalidate
  rw [hstatus] at hread
  rw [htarget] at hkey hhint
  exact ⟨record, hrecord, (Option.some_inj.mp hread).symm, hkey, hhint⟩

end IsDiscovery

/-! ## Nothing is lost and nothing is invented -/

/-- The page carries what the seed knows. -/
structure Carries (page : PageCandidate) (seed : NavigationTargetSeed) : Prop where
  route : seed.target.routeHint = some page.routePath
  sources : ∀ source ∈ extractSources seed.signal, source ∈ page.discoverySources
  entry : ∀ candidate ∈ seed.entryCandidate,
    entryText candidate ∈ page.entryCandidates.map entryText
  title : seed.titleCandidate.isSome = true → page.pageTitle.isSome = true

/-- The record says that a budget refused the target of the seed. -/
structure Refuses (record : NavigationTargetResult) (seed : NavigationTargetSeed) : Prop where
  status : record.materializationStatus = .blocked
  key : record.targetKey = seed.target.targetKey
  route : record.routeHint = seed.target.routeHint

variable (acceptsNetloc facts) in
/-- What the page says was said by a seed of its route; a title may come from a visit to it. -/
structure ComesFrom (page : PageCandidate) (seeds : List NavigationTargetSeed) : Prop where
  sources : ∀ source ∈ page.discoverySources, ∃ seed ∈ seeds,
    seed.target.routeHint = some page.routePath ∧ source ∈ extractSources seed.signal
  entries : ∀ candidate ∈ page.entryCandidates, ∃ seed ∈ seeds,
    seed.target.routeHint = some page.routePath ∧ seed.entryCandidate = some candidate
  title : ∀ title ∈ page.pageTitle,
    (∃ seed ∈ seeds, seed.target.routeHint = some page.routePath ∧
      seed.titleCandidate = some title) ∨
    ∃ metadata ∈ facts.metadataSignals.1,
      extractRoutePath acceptsNetloc metadata = .ok (some page.routePath) ∧
        metadataTitle metadata = some title
  once : page.discoverySources.Nodup ∧ (page.entryCandidates.map entryText).Nodup

theorem mem_sortBySource {sources : List String} {source : String} :
    source ∈ sortBySource sources ↔ source ∈ sources :=
  List.mem_insertionSort _

section Pages

variable {gathered : Gathered} {history : List SeedRecord} {pageStore : Entries String PageStore}
  (h : IsDiscovery acceptsNetloc budgets facts discovery gathered history pageStore)
include h

theorem IsDiscovery.pairwise_routes :
    (discovery.extraction.pages.map (·.routePath)).Pairwise (· < ·) := by
  rw [h.pages]
  exact h.stored.pairwise_routes

theorem IsDiscovery.carries {e : SeedRecord} (he : e ∈ history) (hjoins : e.joins = true) :
    ∃ page ∈ discovery.extraction.pages, Carries page e.1 := by
  obtain ⟨target, htarget, -, hhint⟩ := h.gathers.exists_target h.routes he hjoins
  obtain ⟨route, hroute⟩ := h.routes e he
  obtain ⟨page, hpage, rfl⟩ := h.exists_page_iff.mpr ⟨target, htarget, hhint.trans hroute⟩
  obtain ⟨stored, visits, hstored, hmade, -⟩ := h.exists_of_mem_pages hpage
  have hmem : e.1 ∈ seedsOf gathered page.routePath :=
    (h.gathers.mem_seedsOf_iff h.routes).mpr ⟨e, he, hjoins, rfl, hroute⟩
  refine ⟨page, hpage, hroute, fun source hsource => ?_, fun candidate hcandidate => ?_,
    fun hsome => ?_⟩
  · rw [hstored]
    exact mem_sortBySource.mpr ((hmade.sources source).mpr ⟨e.1, hmem, hsource⟩)
  · rw [hstored]
    exact hmade.kept e.1 hmem candidate hcandidate
  · rw [hstored]
    exact hmade.titled e.1 hmem hsome

theorem IsDiscovery.comesFrom {page : PageCandidate} (hpage : page ∈ discovery.extraction.pages) :
    ComesFrom acceptsNetloc facts page (history.map Prod.fst) := by
  obtain ⟨stored, visits, hstored, hmade, hvisits⟩ := h.exists_of_mem_pages hpage
  have hseed : ∀ seed ∈ seedsOf gathered page.routePath,
      seed ∈ history.map Prod.fst ∧ seed.target.routeHint = some page.routePath := by
    intro seed hmem
    obtain ⟨e, he, -, rfl, hroute⟩ := (h.gathers.mem_seedsOf_iff h.routes).mp hmem
    exact ⟨List.mem_map_of_mem he, hroute⟩
  have hsources : page.discoverySources = sortBySource stored.sources := by rw [hstored]; rfl
  have hentries : page.entryCandidates = stored.entryCandidates := by rw [hstored]; rfl
  have htitle : page.pageTitle = stored.title := by rw [hstored]; rfl
  refine ⟨fun source hsource => ?_, fun candidate hcandidate => ?_, fun title hmem => ?_, ?_⟩
  · rw [hsources] at hsource
    obtain ⟨seed, hmem, hin⟩ := (hmade.sources source).mp (mem_sortBySource.mp hsource)
    exact ⟨seed, (hseed seed hmem).1, (hseed seed hmem).2, hin⟩
  · rw [hentries] at hcandidate
    obtain ⟨seed, hmem, heq⟩ := hmade.brought candidate hcandidate
    exact ⟨seed, (hseed seed hmem).1, (hseed seed hmem).2, heq⟩
  · rw [htitle] at hmem
    refine (hmade.titleFrom title hmem).imp (fun ⟨seed, hin, heq⟩ => ?_)
      fun ⟨metadata, hin, heq⟩ => ?_
    · exact ⟨seed, (hseed seed hin).1, (hseed seed hin).2, heq⟩
    · exact ⟨metadata, (hvisits metadata hin).1, (hvisits metadata hin).2, heq⟩
  · rw [hsources, hentries]
    exact ⟨(List.perm_insertionSort _ _).nodup_iff.mpr hmade.sourcesNodup, hmade.entriesNodup⟩

end Pages

/-- **Page discovery loses nothing and invents nothing.** -/
theorem extract_conserves (h : extract acceptsNetloc budgets facts = .ok discovery) :
    ∃ seeds, buildSeeds acceptsNetloc facts = .ok seeds ∧
      (discovery.extraction.pages.map (·.routePath)).Pairwise (· < ·) ∧
      (∀ seed ∈ seeds, (∃ page ∈ discovery.extraction.pages, Carries page seed) ∨
        ∃ record ∈ discovery.navigationTargets, Refuses record seed) ∧
      (∀ page ∈ discovery.extraction.pages, ComesFrom acceptsNetloc facts page seeds) ∧
      ∀ route, (∃ page ∈ discovery.extraction.pages, page.routePath = route) ↔
        ∃ record ∈ discovery.navigationTargets,
          record.materializationStatus = .queued ∧ record.routeHint = some route := by
  obtain ⟨gathered, history, pageStore, h⟩ := exists_isDiscovery h
  refine ⟨history.map Prod.fst, h.seeds, h.pairwise_routes, fun seed hseed => ?_,
    fun page hpage => h.comesFrom hpage,
    fun route => h.exists_page_iff.trans h.exists_queued_iff.symm⟩
  obtain ⟨e, he, rfl⟩ := List.mem_map.mp hseed
  by_cases hjoins : SeedRecord.joins e = true
  · exact Or.inl (h.carries he hjoins)
  · obtain ⟨record, hrecord, hstatus, hkey, hroute⟩ := h.exists_blocked he hjoins
    exact Or.inr ⟨record, hrecord, hstatus, hkey, hroute⟩

/-- An application that tells one of its routes, with a menu that leads to a tab of it. -/
def sampleFacts : SessionFacts where
  routeHints := .ok (.arr [.obj [("path", .str "/users"), ("title", .str "Users")]])
  menuItems := .ok [.obj [("label", .str "Archived"), ("route_path", .str "/users"),
    ("entry_type", .str "tab")]]
  networkRequests := .error "timeout"

theorem extract_conserves_sample : ∃ discovery,
    extract (fun _ => true) {} sampleFacts = .ok discovery ∧
      ∃ seeds, buildSeeds (fun _ => true) sampleFacts = .ok seeds ∧
        ∀ page ∈ discovery.extraction.pages,
          ComesFrom (fun _ => true) sampleFacts page seeds := by
  have hok : (extract (fun _ => true) {} sampleFacts).toBool = true := by decide +kernel
  cases h : extract (fun _ => true) {} sampleFacts with
  | error error =>
    rw [h] at hok
    cases hok
  | ok discovery =>
    obtain ⟨seeds, hseeds, -, -, hpages, -⟩ := extract_conserves h
    exact ⟨discovery, rfl, seeds, hseeds, hpages⟩

end Discoveries

end PageDiscovery

end Runlet
