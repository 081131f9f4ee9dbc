import Runlet.AssetCompiler.CurrentStateSwitch
import Runlet.Library.Run
import Mathlib.Data.List.Chain

/-!
# What the switch of the current state does

A call ends in one of five ways (`SwitchCase`).  Each of them writes at most two snapshot rows of
one system, one after the other, and each write moves the state of its row forward: a draft can
become anything, an active snapshot can only be discarded, a discarded one is final
(`SnapshotKept`).  When the active snapshot of a system is replaced, it is discarded before its
successor is activated, so a system never has two (`AtMostOneActive`), not even between two
flushes.
-/

namespace Runlet

open KeyedTable

namespace CurrentStateSwitch

/-! ## Snapshot states -/

/-- A system has at most one active snapshot. -/
def AtMostOneActive (db : Db) : Prop :=
  ∀ a ∈ db.crawlSnapshots, ∀ b ∈ db.crawlSnapshots, a.state = .active → b.state = .active →
    a.systemId = b.systemId → a = b

instance (db : Db) : Decidable (AtMostOneActive db) :=
  inferInstanceAs (Decidable (∀ a ∈ db.crawlSnapshots.rows, ∀ b ∈ db.crawlSnapshots.rows,
    a.state = .active → b.state = .active → a.systemId = b.systemId → a = b))

/-- The state changes: a draft becomes active or discarded, an active snapshot is discarded. -/
def Allowed : SnapshotState → SnapshotState → Prop
  | .draft, _ => True
  | .active, s => s ≠ .draft
  | .discarded, s => s = .discarded

theorem Allowed.refl (s : SnapshotState) : Allowed s s := by
  cases s <;> simp [Allowed]

theorem Allowed.trans {s s' s'' : SnapshotState} (h : Allowed s s') (h' : Allowed s' s'') :
    Allowed s s'' := by
  cases s <;> cases s' <;> cases s'' <;> simp_all [Allowed]

/-- The columns a switch never changes. -/
def snapshotCore (s : CrawlSnapshot) : CrawlSnapshot :=
  { s with state := .draft, activatedAt := none, discardedAt := none }

/-- What a switch leaves of a snapshot row. -/
structure SnapshotKept (s s' : CrawlSnapshot) : Prop where
  core : snapshotCore s' = snapshotCore s
  allowed : Allowed s.state s'.state
  final : s.state = .discarded → s' = s

theorem SnapshotKept.refl (s : CrawlSnapshot) : SnapshotKept s s :=
  ⟨rfl, Allowed.refl _, fun _ => rfl⟩

theorem SnapshotKept.trans {a b c : CrawlSnapshot} (h : SnapshotKept a b)
    (h' : SnapshotKept b c) : SnapshotKept a c := by
  refine ⟨h'.core.trans h.core, h.allowed.trans h'.allowed, fun hdiscarded => ?_⟩
  have hb := h.final hdiscarded
  rw [h'.final (hb ▸ hdiscarded), hb]

theorem SnapshotKept.systemId {s s' : CrawlSnapshot} (h : SnapshotKept s s') :
    s'.systemId = s.systemId := by
  have hcore := congrArg CrawlSnapshot.systemId h.core
  exact hcore

theorem SnapshotKept.startedAt {s s' : CrawlSnapshot} (h : SnapshotKept s s') :
    s'.startedAt = s.startedAt := by
  have hcore := congrArg CrawlSnapshot.startedAt h.core
  exact hcore

/-- Snapshot rows are rewritten as far as a switch may, and none is added. -/
def SnapshotsEvolve (db db' : Db) : Prop :=
  Table.Evolves SnapshotKept (fun _ => False) db.crawlSnapshots db'.crawlSnapshots

theorem SnapshotsEvolve.refl (db : Db) : SnapshotsEvolve db db :=
  Table.Evolves.refl SnapshotKept.refl _

theorem SnapshotsEvolve.trans {db db' db'' : Db} (h : SnapshotsEvolve db db')
    (h' : SnapshotsEvolve db' db'') : SnapshotsEvolve db db'' :=
  Table.Evolves.trans (fun _ _ _ => SnapshotKept.trans) (fun _ _ hfalse _ => hfalse) h h'

theorem SnapshotsEvolve.of_eq {db db' : Db} (h : db'.crawlSnapshots = db.crawlSnapshots) :
    SnapshotsEvolve db db' := by
  unfold SnapshotsEvolve
  rw [h]
  exact Table.Evolves.refl SnapshotKept.refl _

instance : Trans SnapshotsEvolve SnapshotsEvolve SnapshotsEvolve := ⟨SnapshotsEvolve.trans⟩

/-! ## One write -/

section Write

variable {id : UUID} {f : CrawlSnapshot → CrawlSnapshot} {hf : ∀ s, key (f s) = key s} {db : Db}

theorem mem_writeSnapshot {r : CrawlSnapshot} :
    r ∈ (writeSnapshot id f hf db).crawlSnapshots ↔
      ∃ s ∈ db.crawlSnapshots, r = if s.id = id then f s else s := by
  unfold writeSnapshot
  refine Iff.trans List.mem_map (exists_congr fun s => and_congr_right fun _ => ?_)
  unfold Table.rewrite
  simp only [decide_eq_true_eq]
  exact eq_comm

theorem writeSnapshot_evolve (h : ∀ s ∈ db.crawlSnapshots, s.id = id → SnapshotKept s (f s)) :
    SnapshotsEvolve db (writeSnapshot id f hf db) := by
  refine Table.Evolves.update hf fun s hs => ?_
  unfold Table.rewrite
  split
  · rename_i hid
    exact h s hs (by simpa using hid)
  · exact SnapshotKept.refl s

/-- The rows of other snapshots stay. -/
theorem mem_writeSnapshot_of_ne {r : CrawlSnapshot} (h : r.id ≠ id) :
    r ∈ (writeSnapshot id f hf db).crawlSnapshots ↔ r ∈ db.crawlSnapshots := by
  rw [mem_writeSnapshot]
  constructor
  · rintro ⟨s, hs, rfl⟩
    by_cases hid : s.id = id
    · rw [if_pos hid] at h
      exact absurd ((hf s).trans hid) h
    · rwa [if_neg hid]
  · intro hr
    exact ⟨r, hr, (if_neg h).symm⟩

/-- Writing a snapshot of one system leaves the rows of the others. -/
theorem mem_writeSnapshot_of_system {systemId : UUID}
    (hid : ∀ s ∈ db.crawlSnapshots, s.id = id → s.systemId = systemId)
    (hsystem : ∀ s, (f s).systemId = s.systemId) {r : CrawlSnapshot}
    (hr : r.systemId ≠ systemId) :
    r ∈ (writeSnapshot id f hf db).crawlSnapshots ↔ r ∈ db.crawlSnapshots := by
  rw [mem_writeSnapshot]
  constructor
  · rintro ⟨s, hs, rfl⟩
    by_cases hsid : s.id = id
    · rw [if_pos hsid, hsystem] at hr
      exact absurd (hid s hs hsid) hr
    · rwa [if_neg hsid]
  · intro hmem
    exact ⟨r, hmem, (if_neg fun hrid => hr (hid r hmem hrid)).symm⟩

end Write

section Discard

variable {now : DateTime} {id : UUID} {db : Db}

theorem discard_evolve (h : ∀ s ∈ db.crawlSnapshots, s.id = id → s.state ≠ .discarded) :
    SnapshotsEvolve db (discard now id db) := by
  refine writeSnapshot_evolve fun s hs hid => ⟨rfl, ?_, fun hd => absurd hd (h s hs hid)⟩
  cases hstate : s.state <;> simp [Allowed]

theorem activate_evolve (h : ∀ s ∈ db.crawlSnapshots, s.id = id → s.state = .draft) :
    SnapshotsEvolve db (activate now id db) := by
  refine writeSnapshot_evolve fun s hs hid => ⟨rfl, ?_, fun hd => ?_⟩
  · rw [h s hs hid]
    trivial
  · rw [h s hs hid] at hd
    exact absurd hd (by decide)

/-- The active rows after a discard are those that were active, but for the discarded one. -/
theorem mem_active_discard {r : CrawlSnapshot} :
    r ∈ (discard now id db).crawlSnapshots ∧ r.state = .active ↔
      (r ∈ db.crawlSnapshots ∧ r.state = .active) ∧ r.id ≠ id := by
  constructor
  · rintro ⟨hr, hactive⟩
    have hne : r.id ≠ id := by
      intro hid
      obtain ⟨s, hs, rfl⟩ := mem_writeSnapshot.mp hr
      by_cases hsid : s.id = id
      · rw [if_pos hsid] at hactive
        exact SnapshotState.noConfusion hactive
      · rw [if_neg hsid] at hid
        exact hsid hid
    exact ⟨⟨(mem_writeSnapshot_of_ne hne).mp hr, hactive⟩, hne⟩
  · rintro ⟨⟨hr, hactive⟩, hne⟩
    exact ⟨(mem_writeSnapshot_of_ne hne).mpr hr, hactive⟩

theorem AtMostOneActive.discard (h : AtMostOneActive db) :
    AtMostOneActive (CurrentStateSwitch.discard now id db) := by
  intro a ha b hb haa hba hsys
  exact h a (mem_active_discard.mp ⟨ha, haa⟩).1.1 b (mem_active_discard.mp ⟨hb, hba⟩).1.1 haa hba
    hsys

/-- Activating a snapshot of a system that has no other active one. -/
theorem AtMostOneActive.activate (h : AtMostOneActive db) {s : CrawlSnapshot}
    (hs : s ∈ db.crawlSnapshots) (hid : s.id = id)
    (hnone : ∀ b ∈ db.crawlSnapshots, b.state = .active → b.systemId = s.systemId → b.id = id) :
    AtMostOneActive (CurrentStateSwitch.activate now id db) := by
  have hcase : ∀ r ∈ (CurrentStateSwitch.activate now id db).crawlSnapshots,
      (r.id = id ∧ r.systemId = s.systemId) ∨ (r.id ≠ id ∧ r ∈ db.crawlSnapshots) := by
    intro r hr
    by_cases hrid : r.id = id
    · obtain ⟨q, hq, rfl⟩ := mem_writeSnapshot.mp hr
      have hqid : q.id = id := by
        by_contra hne
        rw [if_neg hne] at hrid
        exact hne hrid
      rw [if_pos hqid]
      have hqs : q = s := Table.eq_of_key_eq hq hs (hqid.trans hid.symm)
      rw [hqs]
      exact Or.inl ⟨hid, rfl⟩
    · exact Or.inr ⟨hrid, (mem_writeSnapshot_of_ne hrid).mp hr⟩
  intro a ha b hb haa hba hsys
  rcases hcase a ha with ⟨haid, hasys⟩ | ⟨hane, hadb⟩ <;>
    rcases hcase b hb with ⟨hbid, hbsys⟩ | ⟨hbne, hbdb⟩
  · exact Table.eq_of_key_eq ha hb (haid.trans hbid.symm)
  · exact absurd (hnone b hbdb hba (hsys.symm.trans hasys)) hbne
  · exact absurd (hnone a hadb haa (hsys.trans hbsys)) hane
  · exact h a hadb b hbdb haa hba hsys

end Discard

/-! ## The active snapshot -/

theorem loadActiveSnapshot_eq_some {systemId excludeId : UUID} {db : Db} {s : CrawlSnapshot}
    (h : loadActiveSnapshot systemId excludeId db = some s) :
    s ∈ db.crawlSnapshots ∧ s.systemId = systemId ∧ s.state = .active ∧ s.id ≠ excludeId := by
  unfold loadActiveSnapshot at h
  have hmem := List.mem_of_mem_head? h
  rw [List.mem_insertionSort, Table.mem_select] at hmem
  simp only [Bool.and_eq_true, decide_eq_true_eq] at hmem
  exact ⟨hmem.1, hmem.2.1.1, hmem.2.1.2, hmem.2.2⟩

theorem loadActiveSnapshot_eq_none {systemId excludeId : UUID} {db : Db}
    (h : loadActiveSnapshot systemId excludeId db = none) :
    ∀ s ∈ db.crawlSnapshots, s.state = .active → s.systemId = systemId → s.id = excludeId := by
  intro s hs hactive hsys
  unfold loadActiveSnapshot at h
  rw [List.head?_eq_none_iff] at h
  by_contra hne
  have hmem : s ∈ db.crawlSnapshots.select fun s =>
      s.systemId = systemId && s.state = .active && s.id ≠ excludeId := by
    rw [Table.mem_select]
    simp only [Bool.and_eq_true, decide_eq_true_eq]
    exact ⟨hs, ⟨hsys, hactive⟩, hne⟩
  exact List.ne_nil_of_mem ((List.mem_insertionSort _).mpr hmem) h

/-- With at most one active snapshot, it is the one that is loaded. -/
theorem loadActiveSnapshot_of_mem {db : Db} (h : AtMostOneActive db) {a : CrawlSnapshot}
    (ha : a ∈ db.crawlSnapshots) (hactive : a.state = .active) {excludeId : UUID}
    (hne : a.id ≠ excludeId) : loadActiveSnapshot a.systemId excludeId db = some a := by
  cases hload : loadActiveSnapshot a.systemId excludeId db with
  | none => exact absurd (loadActiveSnapshot_eq_none hload a ha hactive rfl) hne
  | some b =>
    obtain ⟨hb, hsys, hbactive, -⟩ := loadActiveSnapshot_eq_some hload
    rw [h b hb a ha hbactive hactive hsys]

/-! ## The five ways a call ends -/

section Cases

variable (ids : IdSource) (now : DateTime) (db : Db) (draft : CrawlSnapshot)

inductive SwitchCase : Switched → Prop where
  | alreadyActive (hstate : draft.state = .active) :
      SwitchCase
        { flushes := []
          db := db
          result := { outcome := .promoted, activeSnapshotId := some draft.id } }
  | lowQuality (hstate : draft.state = .draft) (hlow : isHighQualitySnapshot draft = false) :
      SwitchCase
        { flushes := [discard now draft.id db]
          db := discard now draft.id db
          result := { outcome := .discardedLowQuality } }
  | firstActive (hstate : draft.state = .draft) (hhigh : isHighQualitySnapshot draft = true)
      (hnone : loadActiveSnapshot draft.systemId draft.id db = none) :
      SwitchCase
        { flushes := [activate now draft.id db]
          db := activate now draft.id db
          result := { outcome := .promoted, activeSnapshotId := some draft.id } }
  | noChange (hstate : draft.state = .draft) (hhigh : isHighQualitySnapshot draft = true)
      (activeSnapshot : CrawlSnapshot)
      (hactive : loadActiveSnapshot draft.systemId draft.id db = some activeSnapshot)
      (diff : SemanticStateDiff)
      (hdiff : CurrentStateDiff.compareSemanticStates
        (loadSnapshotSemanticState activeSnapshot.id db)
        (loadSnapshotSemanticState draft.id db) = .ok diff)
      (hsame : diff.hasChanges = false) :
      SwitchCase
        { flushes := [discard now draft.id db]
          db := discard now draft.id db
          result :=
            { outcome := .discardedNoChange, activeSnapshotId := some activeSnapshot.id } }
  | replaced (hstate : draft.state = .draft) (hhigh : isHighQualitySnapshot draft = true)
      (activeSnapshot : CrawlSnapshot)
      (hactive : loadActiveSnapshot draft.systemId draft.id db = some activeSnapshot)
      (diff : SemanticStateDiff)
      (hdiff : CurrentStateDiff.compareSemanticStates
        (loadSnapshotSemanticState activeSnapshot.id db)
        (loadSnapshotSemanticState draft.id db) = .ok diff)
      (hchanged : diff.hasChanges = true) :
      SwitchCase (replaceActive ids now activeSnapshot draft db)

variable {ids now db}

/-- **What a successful call is.** -/
theorem applyCurrentStateSwitch_cases {id : UUID} {switched : Switched}
    (h : applyCurrentStateSwitch ids now id db = .ok switched) :
    ∃ draft, db.crawlSnapshots.get? id = some draft ∧ SwitchCase ids now db draft switched := by
  unfold applyCurrentStateSwitch at h
  cases hget : db.crawlSnapshots.get? id with
  | none =>
    rw [hget] at h
    exact absurd h (by simp)
  | some draft =>
    rw [hget] at h
    dsimp only at h
    refine ⟨draft, rfl, ?_⟩
    split at h
    · rename_i hactive
      rw [← Except.ok.inj h]
      exact .alreadyActive hactive
    · split at h
      · exact absurd h (by simp)
      · rename_i hstate
        rw [not_not] at hstate
        split at h
        · rename_i hlow
          rw [Bool.not_eq_true'] at hlow
          rw [← Except.ok.inj h]
          exact .lowQuality hstate hlow
        · rename_i hhigh
          rw [Bool.not_eq_true', Bool.not_eq_false] at hhigh
          split at h
          · rename_i hload
            rw [← Except.ok.inj h]
            exact .firstActive hstate hhigh hload
          · rename_i activeSnapshot hload
            cases hdiff : CurrentStateDiff.compareSemanticStates
                (loadSnapshotSemanticState activeSnapshot.id db)
                (loadSnapshotSemanticState draft.id db) with
            | error e =>
              rw [hdiff] at h
              exact absurd h (by simp [bind, Except.bind])
            | ok diff =>
              rw [hdiff] at h
              simp only [bind, Except.bind, pure, Except.pure] at h
              split at h
              · rename_i hsame
                rw [Bool.not_eq_true'] at hsame
                rw [← Except.ok.inj h]
                exact .noChange hstate hhigh activeSnapshot hload diff hdiff hsame
              · rename_i hchanged
                rw [Bool.not_eq_true', Bool.not_eq_false] at hchanged
                rw [← Except.ok.inj h]
                exact .replaced hstate hhigh activeSnapshot hload diff hdiff hchanged

/-- A database without the tables a switch writes. -/
def outsideSwitch (db : Db) : Db :=
  { db with
    crawlSnapshots := .empty
    crawlSnapshotsHist := .empty
    pagesHist := .empty
    menuNodesHist := .empty
    pageElementsHist := .empty }

/-! ## What a history row is a copy of -/

/-- The columns of an archived snapshot. -/
structure ArchivesSnapshot (s : CrawlSnapshot) (hist : CrawlSnapshotHist) : Prop where
  snapshotId : hist.snapshotId = s.id
  systemId : hist.systemId = s.systemId
  crawlType : hist.crawlType = s.crawlType
  frameworkDetected : hist.frameworkDetected = s.frameworkDetected
  qualityScore : hist.qualityScore = s.qualityScore
  degraded : hist.degraded = s.degraded
  state : hist.state = s.state
  activatedAt : hist.activatedAt = s.activatedAt
  discardedAt : hist.discardedAt = s.discardedAt
  failureReason : hist.failureReason = s.failureReason
  warningMessages : hist.warningMessages = s.warningMessages
  structureHash : hist.structureHash = s.structureHash
  startedAt : hist.startedAt = s.startedAt
  finishedAt : hist.finishedAt = s.finishedAt

structure ArchivesPage (page : Page) (hist : PageHist) : Prop where
  pageId : hist.pageId = page.id
  systemId : hist.systemId = page.systemId
  snapshotId : hist.snapshotId = page.snapshotId
  routePath : hist.routePath = page.routePath
  pageTitle : hist.pageTitle = page.pageTitle
  pageSummary : hist.pageSummary = page.pageSummary
  keywords : hist.keywords = page.keywords
  discoverySources : hist.discoverySources = page.discoverySources
  entryCandidates : hist.entryCandidates = page.entryCandidates
  contextConstraints : hist.contextConstraints = page.contextConstraints
  navigationDiagnostics : hist.navigationDiagnostics = page.navigationDiagnostics
  crawledAt : hist.crawledAt = page.crawledAt

structure ArchivesMenuNode (menu : MenuNode) (hist : MenuNodeHist) : Prop where
  menuNodeId : hist.menuNodeId = menu.id
  systemId : hist.systemId = menu.systemId
  snapshotId : hist.snapshotId = menu.snapshotId
  parentId : hist.parentId = menu.parentId
  pageId : hist.pageId = menu.pageId
  label : hist.label = menu.label
  routePath : hist.routePath = menu.routePath
  depth : hist.depth = menu.depth
  sortOrder : hist.sortOrder = menu.sortOrder
  playwrightLocator : hist.playwrightLocator = menu.playwrightLocator
  discoverySources : hist.discoverySources = menu.discoverySources
  entryCandidates : hist.entryCandidates = menu.entryCandidates
  contextConstraints : hist.contextConstraints = menu.contextConstraints

structure ArchivesPageElement (element : PageElement) (hist : PageElementHist) : Prop where
  pageElementId : hist.pageElementId = element.id
  systemId : hist.systemId = element.systemId
  snapshotId : hist.snapshotId = element.snapshotId
  pageId : hist.pageId = element.pageId
  elementType : hist.elementType = element.elementType
  elementRole : hist.elementRole = element.elementRole
  elementText : hist.elementText = element.elementText
  attributes : hist.attributes = element.attributes
  playwrightLocator : hist.playwrightLocator = element.playwrightLocator
  stateSignature : hist.stateSignature = element.stateSignature
  stateContext : hist.stateContext = element.stateContext
  locatorCandidates : hist.locatorCandidates = element.locatorCandidates
  materializedBy : hist.materializedBy = element.materializedBy
  navigationDiagnostics : hist.navigationDiagnostics = element.navigationDiagnostics
  stabilityScore : hist.stabilityScore = element.stabilityScore
  usageDescription : hist.usageDescription = element.usageDescription

theorem archivedSnapshot_archives (s : CrawlSnapshot) (draftId id : UUID) :
    ArchivesSnapshot s (archivedSnapshot s draftId id) := by
  constructor <;> rfl

theorem archivedPage_archives (page : Page) (id : UUID) :
    ArchivesPage page (archivedPage page id) := by
  constructor <;> rfl

theorem archivedMenuNode_archives (menu : MenuNode) (id : UUID) :
    ArchivesMenuNode menu (archivedMenuNode menu id) := by
  constructor <;> rfl

theorem archivedPageElement_archives (element : PageElement) (id : UUID) :
    ArchivesPageElement element (archivedPageElement element id) := by
  constructor <;> rfl

/-- The archives only grow. -/
structure HistoryGrows (db db' : Db) : Prop where
  snapshots : db.crawlSnapshotsHist.rows <+: db'.crawlSnapshotsHist.rows
  pages : db.pagesHist.rows <+: db'.pagesHist.rows
  menus : db.menuNodesHist.rows <+: db'.menuNodesHist.rows
  elements : db.pageElementsHist.rows <+: db'.pageElementsHist.rows

theorem HistoryGrows.refl (db : Db) : HistoryGrows db db :=
  ⟨List.prefix_rfl, List.prefix_rfl, List.prefix_rfl, List.prefix_rfl⟩

variable (ids db) in
theorem historyGrows_archive (activeSnapshot : CrawlSnapshot) (draftId : UUID) :
    HistoryGrows db (archiveActiveSnapshotFacts ids activeSnapshot.id
      (archiveSnapshot ids activeSnapshot draftId db)) where
  snapshots := List.prefix_append _ _
  pages := (Table.copies_foldl_insert archivedPage_archives _ _).initial
  menus := (Table.copies_foldl_insert archivedMenuNode_archives _ _).initial
  elements := (Table.copies_foldl_insert archivedPageElement_archives _ _).initial

namespace SwitchCase

variable {draft} {switched : Switched}

/-- The database after a call is the last one that was flushed. -/
theorem db_mem (h : SwitchCase ids now db draft switched) : switched.db ∈ db :: switched.flushes := by
  cases h <;> simp [replaceActive]

/-- Each flush moves the states of the snapshots forward. -/
theorem chain (h : SwitchCase ids now db draft switched) (hdraft : draft ∈ db.crawlSnapshots) :
    List.IsChain SnapshotsEvolve (db :: switched.flushes) := by
  have hself : ∀ s ∈ db.crawlSnapshots, s.id = draft.id → s = draft := fun s hs hid =>
    Table.eq_of_key_eq hs hdraft hid
  have hdiscard : draft.state = .draft →
      List.IsChain SnapshotsEvolve [db, discard now draft.id db] := fun hstate =>
    List.isChain_pair.mpr (discard_evolve fun s hs hid => by
      rw [hself s hs hid, hstate]
      decide)
  cases h with
  | alreadyActive => exact List.IsChain.singleton _
  | lowQuality hstate => exact hdiscard hstate
  | noChange hstate => exact hdiscard hstate
  | firstActive hstate =>
    refine List.isChain_pair.mpr (activate_evolve fun s hs hid => ?_)
    rw [hself s hs hid, hstate]
  | replaced hstate hhigh activeSnapshot hactive =>
    obtain ⟨hmem, hsys, hstate', hne⟩ := loadActiveSnapshot_eq_some hactive
    refine List.isChain_cons_cons.mpr ⟨SnapshotsEvolve.of_eq rfl, ?_⟩
    refine List.isChain_cons_cons.mpr ⟨SnapshotsEvolve.of_eq rfl, ?_⟩
    refine List.isChain_cons_cons.mpr ⟨?_, List.isChain_pair.mpr ?_⟩
    · refine discard_evolve fun s hs hid => ?_
      have hs' : s = activeSnapshot := Table.eq_of_key_eq hs hmem hid
      rw [hs', hstate']
      decide
    · refine activate_evolve fun s hs hid => ?_
      have hs' := (mem_writeSnapshot_of_ne (by rw [hid]; exact fun he => hne he.symm)).mp hs
      rw [hself s hs' hid, hstate]

theorem evolve (h : SwitchCase ids now db draft switched) (hdraft : draft ∈ db.crawlSnapshots)
    {d : Db} (hd : d ∈ db :: switched.flushes) : SnapshotsEvolve db d := by
  rcases List.mem_cons.mp hd with rfl | hd
  · exact SnapshotsEvolve.refl d
  · have hpairs := List.IsChain.pairwise (h.chain hdraft)
    exact (List.pairwise_cons.mp hpairs).1 d hd

/-- **No system has two active snapshots, at any flush.** -/
theorem atMostOneActive (h : SwitchCase ids now db draft switched)
    (hdraft : draft ∈ db.crawlSnapshots) (hone : AtMostOneActive db) :
    ∀ d ∈ db :: switched.flushes, AtMostOneActive d := by
  intro d hd
  rcases List.mem_cons.mp hd with rfl | hd
  · exact hone
  cases h with
  | alreadyActive => exact absurd hd List.not_mem_nil
  | lowQuality => exact (List.mem_singleton.mp hd) ▸ hone.discard
  | noChange => exact (List.mem_singleton.mp hd) ▸ hone.discard
  | firstActive hstate hhigh hnone =>
    rw [List.mem_singleton.mp hd]
    exact hone.activate hdraft rfl fun b hb hactive hsys =>
      loadActiveSnapshot_eq_none hnone b hb hactive hsys
  | replaced hstate hhigh activeSnapshot hactive =>
    obtain ⟨hmem, hsys, hstate', hne⟩ := loadActiveSnapshot_eq_some hactive
    have harchived : AtMostOneActive (archiveActiveSnapshotFacts ids activeSnapshot.id
        (archiveSnapshot ids activeSnapshot draft.id db)) := hone
    have hdiscarded : AtMostOneActive (discard now activeSnapshot.id _) := harchived.discard
    simp only [replaceActive, List.mem_cons, List.not_mem_nil, or_false] at hd
    rcases hd with rfl | rfl | rfl | rfl
    · exact hone
    · exact harchived
    · exact hdiscarded
    · -- The one snapshot that was active is discarded by now.
      refine hdiscarded.activate (s := draft) ?_ rfl fun b hb hbactive hbsys => ?_
      · exact (mem_writeSnapshot_of_ne (fun he => hne he.symm)).mpr hdraft
      · obtain ⟨⟨hbdb, -⟩, hbne⟩ := mem_active_discard.mp ⟨hb, hbactive⟩
        have hb' := hone b hbdb activeSnapshot hmem hbactive hstate' (hbsys.trans hsys.symm)
        exact absurd (congrArg CrawlSnapshot.id hb') hbne

/-- The snapshots of other systems stay. -/
theorem mem_of_otherSystem (h : SwitchCase ids now db draft switched)
    (hdraft : draft ∈ db.crawlSnapshots) {d : Db} (hd : d ∈ db :: switched.flushes)
    {r : CrawlSnapshot} (hr : r.systemId ≠ draft.systemId) :
    r ∈ d.crawlSnapshots ↔ r ∈ db.crawlSnapshots := by
  have hself : ∀ s ∈ db.crawlSnapshots, s.id = draft.id → s.systemId = draft.systemId :=
    fun s hs hid => by rw [Table.eq_of_key_eq hs hdraft hid]
  rcases List.mem_cons.mp hd with rfl | hd
  · exact Iff.rfl
  cases h with
  | alreadyActive => exact absurd hd List.not_mem_nil
  | lowQuality =>
    rw [List.mem_singleton.mp hd]
    exact mem_writeSnapshot_of_system hself (by intro; rfl) hr
  | noChange =>
    rw [List.mem_singleton.mp hd]
    exact mem_writeSnapshot_of_system hself (by intro; rfl) hr
  | firstActive =>
    rw [List.mem_singleton.mp hd]
    exact mem_writeSnapshot_of_system hself (by intro; rfl) hr
  | replaced hstate hhigh activeSnapshot hactive =>
    obtain ⟨hmem, hsys, -, hne⟩ := loadActiveSnapshot_eq_some hactive
    have hdiscarded : r ∈ (discard now activeSnapshot.id (archiveActiveSnapshotFacts ids
        activeSnapshot.id (archiveSnapshot ids activeSnapshot draft.id db))).crawlSnapshots ↔
          r ∈ db.crawlSnapshots := by
      refine mem_writeSnapshot_of_system (fun s hs hid => ?_) (by intro; rfl) hr
      rw [Table.eq_of_key_eq hs hmem hid, hsys]
    simp only [replaceActive, List.mem_cons, List.not_mem_nil, or_false] at hd
    rcases hd with rfl | rfl | rfl | rfl
    · exact Iff.rfl
    · exact Iff.rfl
    · exact hdiscarded
    · refine Iff.trans (mem_writeSnapshot_of_system (fun s hs hid => ?_) (by intro; rfl) hr)
        hdiscarded
      exact hself s ((mem_writeSnapshot_of_ne (by rw [hid]; exact fun he => hne he.symm)).mp hs)
        hid

/-- A snapshot that is set aside leaves the active ones as they were. -/
theorem mem_active_of_discarded (h : SwitchCase ids now db draft switched)
    (hdraft : draft ∈ db.crawlSnapshots) (houtcome : switched.result.outcome ≠ .promoted)
    {r : CrawlSnapshot} :
    r ∈ switched.db.crawlSnapshots ∧ r.state = .active ↔
      r ∈ db.crawlSnapshots ∧ r.state = .active := by
  have hdiscard : draft.state = .draft →
      (r ∈ (discard now draft.id db).crawlSnapshots ∧ r.state = .active ↔
        r ∈ db.crawlSnapshots ∧ r.state = .active) := by
    intro hstate
    rw [mem_active_discard]
    refine and_iff_left_of_imp fun hr hid => ?_
    rw [Table.eq_of_key_eq hr.1 hdraft hid, hstate] at hr
    exact absurd hr.2 (by decide)
  cases h with
  | alreadyActive => exact absurd rfl houtcome
  | lowQuality hstate => exact hdiscard hstate
  | noChange hstate => exact hdiscard hstate
  | firstActive => exact absurd rfl houtcome
  | replaced => exact absurd rfl houtcome

/-- An active snapshot after a call was active before, or it is the draft, and good. -/
theorem active_source (h : SwitchCase ids now db draft switched)
    (hdraft : draft ∈ db.crawlSnapshots) {r : CrawlSnapshot}
    (hr : r ∈ switched.db.crawlSnapshots) (hactive : r.state = .active) :
    r ∈ db.crawlSnapshots ∨
      (snapshotCore r = snapshotCore draft ∧ isHighQualitySnapshot draft = true) := by
  have hevolve := h.evolve hdraft h.db_mem
  have hkept : r.id = draft.id → snapshotCore r = snapshotCore draft := fun hid =>
    (Table.Evolves.of_mem hevolve hdraft hr hid).core
  cases h with
  | alreadyActive => exact Or.inl hr
  | lowQuality => exact Or.inl (mem_active_discard.mp ⟨hr, hactive⟩).1.1
  | noChange => exact Or.inl (mem_active_discard.mp ⟨hr, hactive⟩).1.1
  | firstActive hstate hhigh =>
    by_cases hid : r.id = draft.id
    · exact Or.inr ⟨hkept hid, hhigh⟩
    · exact Or.inl ((mem_writeSnapshot_of_ne hid).mp hr)
  | replaced hstate hhigh activeSnapshot =>
    by_cases hid : r.id = draft.id
    · exact Or.inr ⟨hkept hid, hhigh⟩
    · have hdiscarded := (mem_writeSnapshot_of_ne hid).mp hr
      exact Or.inl (mem_active_discard.mp ⟨hdiscarded, hactive⟩).1.1

/-- A snapshot that is promoted is active. -/
theorem promoted_active (h : SwitchCase ids now db draft switched)
    (hdraft : draft ∈ db.crawlSnapshots) (houtcome : switched.result.outcome = .promoted) :
    ∃ r ∈ switched.db.crawlSnapshots, r.state = .active ∧ snapshotCore r = snapshotCore draft := by
  have hactivated : ∀ {d : Db}, draft ∈ d.crawlSnapshots →
      ∃ r ∈ (activate now draft.id d).crawlSnapshots, r.state = .active ∧
        snapshotCore r = snapshotCore draft := fun {d} hmem =>
    ⟨_, mem_writeSnapshot.mpr ⟨draft, hmem, (if_pos rfl).symm⟩, rfl, rfl⟩
  cases h with
  | alreadyActive hstate => exact ⟨draft, hdraft, hstate, rfl⟩
  | lowQuality => exact SwitchOutcome.noConfusion houtcome
  | noChange => exact SwitchOutcome.noConfusion houtcome
  | firstActive => exact hactivated hdraft
  | replaced hstate hhigh activeSnapshot hactive =>
    obtain ⟨-, -, -, hne⟩ := loadActiveSnapshot_eq_some hactive
    exact hactivated ((mem_writeSnapshot_of_ne fun he => hne he.symm).mpr hdraft)

/-- Only snapshot rows are rewritten. -/
theorem outsideSwitch_eq (h : SwitchCase ids now db draft switched) {d : Db}
    (hd : d ∈ db :: switched.flushes) : outsideSwitch d = outsideSwitch db := by
  cases h with
  | alreadyActive =>
    rw [List.mem_singleton.mp hd]
  | lowQuality | noChange | firstActive =>
    simp only [List.mem_cons, List.not_mem_nil, or_false] at hd
    rcases hd with rfl | rfl <;> rfl
  | replaced hstate hhigh activeSnapshot hactive =>
    simp only [replaceActive, List.mem_cons, List.not_mem_nil, or_false] at hd
    rcases hd with rfl | rfl | rfl | rfl | rfl <;> rfl

theorem historyGrows (h : SwitchCase ids now db draft switched) {d : Db}
    (hd : d ∈ db :: switched.flushes) : HistoryGrows db d := by
  cases h with
  | alreadyActive =>
    rw [List.mem_singleton.mp hd]
    exact HistoryGrows.refl db
  | lowQuality | noChange | firstActive =>
    simp only [List.mem_cons, List.not_mem_nil, or_false] at hd
    rcases hd with rfl | rfl <;>
      exact ⟨List.prefix_rfl, List.prefix_rfl, List.prefix_rfl, List.prefix_rfl⟩
  | replaced hstate hhigh activeSnapshot hactive =>
    have harchive := historyGrows_archive ids db activeSnapshot draft.id
    simp only [replaceActive, List.mem_cons, List.not_mem_nil, or_false] at hd
    rcases hd with rfl | rfl | rfl | rfl | rfl
    · exact HistoryGrows.refl _
    · exact ⟨harchive.snapshots, List.prefix_rfl, List.prefix_rfl, List.prefix_rfl⟩
    · exact harchive
    · exact ⟨harchive.snapshots, harchive.pages, harchive.menus, harchive.elements⟩
    · exact ⟨harchive.snapshots, harchive.pages, harchive.menus, harchive.elements⟩

end SwitchCase

end Cases

end CurrentStateSwitch

end Runlet
