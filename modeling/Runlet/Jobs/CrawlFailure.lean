import Runlet.Jobs.CrawlJob

/-!
# What a failed crawl leaves behind

`run_crawl` flushes its rows and leaves the commit to the crawl job.  When it raises, the job is
marked as failed and committed in the same session, with everything that was flushed before.
`leaves_nothing_iff`: a failed crawl leaves no row behind exactly when it had flushed none.
-/

namespace Runlet

open KeyedTable

namespace CrawlFailure

/-- No row of a crawl was added, and a compile finds the snapshots it found before. -/
structure LeavesNothing (db db' : Db) : Prop where
  crawlSnapshots : ∀ s ∈ db'.crawlSnapshots, s ∈ db.crawlSnapshots
  pages : ∀ page ∈ db'.pages, page ∈ db.pages
  menuNodes : ∀ menu ∈ db'.menuNodes, menu ∈ db.menuNodes
  pageElements : ∀ element ∈ db'.pageElements, element ∈ db.pageElements
  unseen : ∀ snapshotId, db'.crawlSnapshots.get? snapshotId = db.crawlSnapshots.get? snapshotId

/-- The job calls `run_crawl` for a system that exists. -/
def Crawls (jobId systemId : UUID) (db : Db) : Prop :=
  ∃ job, db.queuedJobs.get? jobId = some job ∧ job.payload.systemId = .uuid systemId ∧
    Text.strip (job.payload.crawlScope.getD "full") ≠ "" ∧ (db.systems.get? systemId).isSome = true

section Runs

variable (ids : IdSource) (now : DateTime) (jobId : UUID) (flushed : Option CrawlExtractionResult)
  (message : String)

theorem LeavesNothing.of_tables {db db' : Db} (hsnapshots : db'.crawlSnapshots = db.crawlSnapshots)
    (hpages : db'.pages = db.pages) (hmenus : db'.menuNodes = db.menuNodes)
    (helements : db'.pageElements = db.pageElements) : LeavesNothing db db' where
  crawlSnapshots s hs := by rwa [hsnapshots] at hs
  pages page hpage := by rwa [hpages] at hpage
  menuNodes menu hmenu := by rwa [hmenus] at hmenu
  pageElements element helement := by rwa [helements] at helement
  unseen snapshotId := by rw [hsnapshots]

/-- The rows of the queue are no rows of the crawl. -/
theorem LeavesNothing.markFailed {db db' : Db} (h : LeavesNothing db db') (message : String) :
    LeavesNothing db (CrawlJob.markFailed now jobId message db') :=
  ⟨h.crawlSnapshots, h.pages, h.menuNodes, h.pageElements, h.unseen⟩

theorem leavesNothing_markRunning (db : Db) :
    LeavesNothing db (CrawlJob.markRunning now jobId db) :=
  LeavesNothing.of_tables rfl rfl rfl rfl

/-- A crawl raises in one way only, also when it is a row that cannot be written: with what it had
flushed by then. -/
theorem exists_flushed {attempt : CrawlAttempt} {systemId : UUID} {crawlScope error : String}
    {db : Db} (h : (CrawlerService.runCrawl attempt ids now systemId crawlScope db).2 = .error error) :
    ∃ flushed, CrawlerService.runCrawl attempt ids now systemId crawlScope db =
      CrawlerService.runCrawl (.raised flushed error) ids now systemId crawlScope db := by
  unfold CrawlerService.runCrawl at h ⊢
  cases hsystem : db.systems.get? systemId with
  | none =>
    rw [hsystem] at h
    cases h
  | some system =>
    rw [hsystem] at h
    cases attempt with
    | refused status text => cases h
    | raised flushed text =>
      cases flushed with
      | none =>
        cases h
        exact ⟨none, rfl⟩
      | some extraction =>
        cases h
        exact ⟨some extraction, rfl⟩
    | extracted extraction text =>
      refine ⟨some extraction, ?_⟩
      dsimp only at h ⊢
      split at h
      next hpersist =>
        cases h
        rfl
      next => cases h

/-- So a job whose crawl raises runs as one that is `raised`. -/
theorem exists_run_raised {attempt : CrawlAttempt} {job : QueuedJob} {systemId : UUID}
    {error : String} {db : Db} (hget : db.queuedJobs.get? jobId = some job)
    (hsystem : job.payload.systemId = .uuid systemId)
    (h : (CrawlerService.runCrawl attempt ids now systemId (job.payload.crawlScope.getD "full")
      (CrawlJob.markRunning now jobId db)).2 = .error error) :
    ∃ flushed, CrawlJob.run attempt ids now jobId db =
      CrawlJob.run (.raised flushed error) ids now jobId db := by
  obtain ⟨flushed, hflushed⟩ := exists_flushed ids now h
  have hid : job.id = jobId := Table.key_of_get? hget
  refine ⟨flushed, ?_⟩
  unfold CrawlJob.run
  simp only [hget, hsystem, hid, hflushed]

/-- A run in which the crawl raises: it never gets to the crawl, or fails with what the crawl had
flushed. -/
theorem run_raised (db : Db) :
    ((¬ ∃ systemId, Crawls jobId systemId db) ∧
        LeavesNothing db (CrawlJob.run (.raised flushed message) ids now jobId db).1) ∨
      ∃ systemId crawlScope framework, Crawls jobId systemId db ∧
        (CrawlJob.run (.raised flushed message) ids now jobId db).1 =
          CrawlJob.markFailed now jobId message
            (flushed.elim (CrawlJob.markRunning now jobId db) fun extraction =>
              CrawlerService.persistRows ids now systemId crawlScope framework extraction
                (CrawlJob.markRunning now jobId db)) := by
  have hrunning := leavesNothing_markRunning now jobId db
  unfold CrawlJob.run
  cases hget : db.queuedJobs.get? jobId with
  | none =>
    refine Or.inl ⟨?_, LeavesNothing.of_tables rfl rfl rfl rfl⟩
    rintro ⟨systemId, job, hjob, -⟩
    rw [hget] at hjob
    cases hjob
  | some job =>
    have hid : job.id = jobId := Table.key_of_get? hget
    have hjob : ∀ systemId, Crawls jobId systemId db → job.payload.systemId = .uuid systemId ∧
        Text.strip (job.payload.crawlScope.getD "full") ≠ "" ∧
          (db.systems.get? systemId).isSome = true := by
      rintro systemId ⟨job', hjob', hrest⟩
      rw [hget, Option.some_inj] at hjob'
      rwa [← hjob'] at hrest
    simp only
    cases hsystem : job.payload.systemId with
    | absent =>
      refine Or.inl ⟨?_, LeavesNothing.of_tables rfl rfl rfl rfl⟩
      rintro ⟨systemId, hcrawls⟩
      have hnamed := (hjob systemId hcrawls).1
      rw [hsystem] at hnamed
      cases hnamed
    | malformed text =>
      refine Or.inl ⟨?_, ?_⟩
      · rintro ⟨systemId, hcrawls⟩
        have hnamed := (hjob systemId hcrawls).1
        rw [hsystem] at hnamed
        cases hnamed
      · simp only
        split <;> exact LeavesNothing.of_tables rfl rfl rfl rfl
    | uuid systemId =>
      simp only
      split
      · next hblank =>
        refine Or.inl ⟨?_, LeavesNothing.of_tables rfl rfl rfl rfl⟩
        rintro ⟨systemId', hcrawls⟩
        exact (hjob systemId' hcrawls).2.1 hblank
      · next hscope =>
        rw [hid]
        have hsame : (CrawlJob.markRunning now jobId db).systems = db.systems := rfl
        cases hfound : db.systems.get? systemId with
        | none =>
          refine Or.inl ⟨?_, ?_⟩
          · rintro ⟨systemId', hcrawls⟩
            obtain ⟨hnamed, -, hsome⟩ := hjob systemId' hcrawls
            rw [hsystem, IdField.uuid.injEq] at hnamed
            rw [← hnamed, hfound] at hsome
            exact Bool.false_ne_true hsome
          · simp only [CrawlerService.runCrawl, hsame, hfound]
            exact LeavesNothing.of_tables rfl rfl rfl rfl
        | some system =>
          refine Or.inr ⟨systemId, job.payload.crawlScope.getD "full", system.frameworkType,
            ⟨job, hget, hsystem, hscope, ?_⟩, ?_⟩
          · rw [hfound]
            rfl
          · cases flushed with
            | none => simp only [CrawlerService.runCrawl, hsame, hfound, Option.elim_none]
            | some extraction =>
              simp only [CrawlerService.runCrawl, hsame, hfound, Option.elim_some]

/-- **A failed crawl leaves nothing behind exactly when it had flushed nothing.** -/
theorem leaves_nothing_iff (db : Db) :
    LeavesNothing db (CrawlJob.run (.raised flushed message) ids now jobId db).1 ↔
      ((∃ systemId, Crawls jobId systemId db) → flushed = none) := by
  rcases run_raised ids now jobId flushed message db with
    ⟨hnot, hleaves⟩ | ⟨systemId, crawlScope, framework, hcrawls, hrun⟩
  · exact iff_of_true hleaves fun hcrawls => absurd hcrawls hnot
  · rw [hrun]
    cases flushed with
    | none =>
      refine iff_of_true ?_ fun _ => rfl
      exact (leavesNothing_markRunning now jobId db).markFailed now jobId message
    | some extraction =>
      refine iff_of_false (fun hleaves => ?_) fun h => ?_
      · -- The snapshot, which is the first row the crawl writes, is a new one.
        have hrow : CrawlerService.buildSnapshot systemId crawlScope framework extraction now
            (db.crawlSnapshots.nextKey ids) ∈ (CrawlerService.persistRows ids now systemId crawlScope
              framework extraction (CrawlJob.markRunning now jobId db)).crawlSnapshots := by
          rw [CrawlerService.persistRows, CrawlerService.persistCrawlResult,
            CrawlerService.crawlSnapshots_persistFacts]
          exact @Table.mem_insert_self _ _ _ _ ids _ fun _ => rfl
        exact db.crawlSnapshots.key_ne_nextKey ids (hleaves.crawlSnapshots _ hrow) rfl
      · exact absurd (h ⟨systemId, hcrawls⟩) (Option.some_ne_none extraction)

end Runs

/-! ## A crawl that fails after its first page -/

namespace CrawlFailureSample

def db : Db where
  systems := .single { id := 7, code := "erp", name := "ERP", baseUrl := "http://erp" }
  queuedJobs := .single { id := 1, jobType := "crawl", payload := { systemId := .uuid 7 } }

/-- The snapshot and one page. -/
def flushed : Option CrawlExtractionResult :=
  some { pages := [{ routePath := "/a" }] }

end CrawlFailureSample

/-- The draft and its page are committed together with the failure of the job. -/
theorem leaves_nothing_fails :
    ¬ ∀ (flushed : Option CrawlExtractionResult) (message : String) (ids : IdSource)
        (now : DateTime) (jobId : UUID) (db : Db),
      LeavesNothing db (CrawlJob.run (.raised flushed message) ids now jobId db).1 := by
  intro h
  have hleaves := h CrawlFailureSample.flushed "menu tree is broken" IdSource.ascending 5 1
    CrawlFailureSample.db
  have hdraft : ∃ s, s ∈ (CrawlJob.run (.raised CrawlFailureSample.flushed "menu tree is broken")
      IdSource.ascending 5 1 CrawlFailureSample.db).1.crawlSnapshots := ⟨_, List.mem_cons_self⟩
  obtain ⟨s, hs⟩ := hdraft
  exact Table.notMem_empty s (hleaves.crawlSnapshots s hs)

end CrawlFailure

end Runlet
