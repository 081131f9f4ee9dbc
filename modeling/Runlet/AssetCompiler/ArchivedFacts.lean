import Runlet.AssetCompiler.SwitchInvariant

/-!
# What a promotion archives

When a draft takes the place of an active snapshot, the history gets one row for each row of the
replaced snapshot, column by column, and the rows themselves stay where they are.
-/

namespace Runlet

open KeyedTable

namespace CurrentStateSwitch

/-- The history of `db'` is that of `db` with a copy of every row of `replaced`; the rows that were
copied, and those of the other snapshots, are as they were. -/
structure ArchivesAll (replaced : CrawlSnapshot) (draftId : UUID) (db db' : Db) : Prop where
  snapshot : Table.Copies
    (fun s hist => ArchivesSnapshot s hist ∧ hist.sourceActiveSnapshotId = some replaced.id ∧
      hist.replacedBySnapshotId = some draftId)
    [replaced] db.crawlSnapshotsHist db'.crawlSnapshotsHist
  pages : Table.Copies ArchivesPage
    (db.pages.select fun page => page.snapshotId = some replaced.id) db.pagesHist db'.pagesHist
  menuNodes : Table.Copies ArchivesMenuNode
    (db.menuNodes.select fun menu => menu.snapshotId = replaced.id)
    db.menuNodesHist db'.menuNodesHist
  pageElements : Table.Copies ArchivesPageElement
    (db.pageElements.select fun element => element.snapshotId = replaced.id)
    db.pageElementsHist db'.pageElementsHist
  keptPages : db'.pages = db.pages
  keptMenuNodes : db'.menuNodes = db.menuNodes
  keptPageElements : db'.pageElements = db.pageElements

theorem byId_perm {α : Type} [Keyed UUID α] (rows : List α) : (byId rows).Perm rows :=
  List.perm_insertionSort _ rows

section Archive

variable (ids : IdSource) (activeSnapshot : CrawlSnapshot) (db : Db)

theorem copies_archiveSnapshot (draftId : UUID) :
    Table.Copies
      (fun s hist => ArchivesSnapshot s hist ∧
        hist.sourceActiveSnapshotId = some activeSnapshot.id ∧
          hist.replacedBySnapshotId = some draftId)
      [activeSnapshot] db.crawlSnapshotsHist
      (archiveSnapshot ids activeSnapshot draftId db).crawlSnapshotsHist :=
  ⟨[activeSnapshot], [_], List.Perm.refl _, rfl, List.Forall₂.cons
    ⟨archivedSnapshot_archives activeSnapshot draftId _, rfl, rfl⟩ List.Forall₂.nil⟩

/-- The three copy loops. -/
theorem copies_archiveActiveSnapshotFacts {db' : Db}
    (h : db' = archiveActiveSnapshotFacts ids activeSnapshot.id db) :
    Table.Copies ArchivesPage
        (db.pages.select fun page => page.snapshotId = some activeSnapshot.id)
        db.pagesHist db'.pagesHist ∧
      Table.Copies ArchivesMenuNode
        (db.menuNodes.select fun menu => menu.snapshotId = activeSnapshot.id)
        db.menuNodesHist db'.menuNodesHist ∧
      Table.Copies ArchivesPageElement
        (db.pageElements.select fun element => element.snapshotId = activeSnapshot.id)
        db.pageElementsHist db'.pageElementsHist := by
  rw [h]
  refine ⟨?_, ?_, ?_⟩
  · exact (Table.copies_foldl_insert archivedPage_archives _ _).of_perm (byId_perm _)
  · exact (Table.copies_foldl_insert archivedMenuNode_archives _ _).of_perm (byId_perm _)
  · exact (Table.copies_foldl_insert archivedPageElement_archives _ _).of_perm (byId_perm _)

end Archive

/-- Replacing the active snapshot archives it; the two changes of state that follow touch only the
table of snapshots. -/
theorem archivesAll_replaceActive (ids : IdSource) (now : DateTime)
    (activeSnapshot draft : CrawlSnapshot) (db : Db) :
    ArchivesAll activeSnapshot draft.id db (replaceActive ids now activeSnapshot draft db).db := by
  obtain ⟨hpages, hmenus, helements⟩ := copies_archiveActiveSnapshotFacts ids activeSnapshot
    (archiveSnapshot ids activeSnapshot draft.id db) rfl
  exact
    { snapshot := copies_archiveSnapshot ids activeSnapshot db draft.id
      pages := hpages
      menuNodes := hmenus
      pageElements := helements
      keptPages := rfl
      keptMenuNodes := rfl
      keptPageElements := rfl }

/-- **A promotion over an active snapshot archives all of it, and nothing else.** -/
theorem archives_replaced_snapshot {ids : IdSource} {now : DateTime} {db : Db}
    (hone : AtMostOneActive db) {active draft : CrawlSnapshot} (hactive : active ∈ db.crawlSnapshots)
    (hstate : active.state = .active) (hdraft : db.crawlSnapshots.get? draft.id = some draft)
    (hdraftState : draft.state = .draft) (hsystem : draft.systemId = active.systemId)
    {switched : Switched} (happly : applyCurrentStateSwitch ids now draft.id db = .ok switched)
    (hpromoted : switched.result.outcome = .promoted) :
    ArchivesAll active draft.id db switched.db := by
  obtain ⟨found, hfound, hcase⟩ := applyCurrentStateSwitch_cases happly
  obtain rfl : draft = found := Option.some_inj.mp (hdraft.symm.trans hfound)
  have hne : active.id ≠ draft.id := by
    intro hid
    have hmem : draft ∈ db.crawlSnapshots := Table.mem_of_get? hdraft
    rw [Table.eq_of_key_eq hactive hmem hid, hdraftState] at hstate
    exact absurd hstate (by decide)
  have hload : loadActiveSnapshot draft.systemId draft.id db = some active :=
    hsystem ▸ loadActiveSnapshot_of_mem hone hactive hstate hne
  cases hcase with
  | alreadyActive halready =>
    rw [hdraftState] at halready
    exact absurd halready (by decide)
  | lowQuality => exact SwitchOutcome.noConfusion hpromoted
  | noChange => exact SwitchOutcome.noConfusion hpromoted
  | firstActive _ _ hnone => exact absurd (hload.symm.trans hnone) (Option.some_ne_none _)
  | replaced _ _ activeSnapshot hactive' =>
    obtain rfl : active = activeSnapshot := Option.some_inj.mp (hload.symm.trans hactive')
    exact archivesAll_replaceActive ids now active draft db

/-- The sample database, in which the active snapshot has a page with a menu and an element. -/
def archiveDb : Db :=
  { sampleDb with
    pages := ⟨[{ id := 20, systemId := 1, snapshotId := some 11, routePath := "/a" },
      { id := 21, systemId := 1, snapshotId := some 10, routePath := "/b" }], by decide⟩
    menuNodes := Table.single
      { id := 30, systemId := 1, snapshotId := 10, pageId := some 21, label := "B" }
    pageElements := Table.single
      { id := 40, systemId := 1, snapshotId := 10, pageId := 21, elementType := "table" } }

/-- The good draft replaces the active snapshot. -/
theorem archives_replaced_sample :
    ∃ switched, applyCurrentStateSwitch .ascending 5 11 archiveDb = .ok switched ∧
      ArchivesAll (sampleSnapshot 10 1 .active) 11 archiveDb switched.db := by
  have hpromoted : (applyCurrentStateSwitch .ascending 5 11 archiveDb).toOption.map
      (fun switched => switched.result.outcome) = some .promoted := by
    decide +kernel
  cases happly : applyCurrentStateSwitch .ascending 5 11 archiveDb with
  | error e =>
    rw [happly] at hpromoted
    exact nomatch hpromoted
  | ok switched =>
    rw [happly] at hpromoted
    have hdraft : archiveDb.crawlSnapshots.get? 11 = some (sampleSnapshot 11 1 .draft) := by
      decide +kernel
    have hone : AtMostOneActive archiveDb := by decide
    exact ⟨switched, rfl, @archives_replaced_snapshot .ascending 5 archiveDb hone
      (sampleSnapshot 10 1 .active) (sampleSnapshot 11 1 .draft) List.mem_cons_self rfl hdraft rfl
      rfl switched happly (Option.some_inj.mp hpromoted)⟩

end CurrentStateSwitch

end Runlet
