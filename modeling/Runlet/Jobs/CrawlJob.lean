import Runlet.ControlPlane.Service
import Runlet.CrawlerService.Persistence

/-!
# The crawl job

`jobs/crawl_job.py`.  A successful crawl leaves a draft snapshot and a compile job for it, and sets
aside the drafts of the system that no compile job mentions.  The crawl policies, which only record
when a crawl last ended and how, are left out.
-/

namespace Runlet

open KeyedTable

namespace CrawlJob

/-- Write a job row. -/
def writeJob (jobId : UUID) (f : QueuedJob → QueuedJob) (hf : ∀ j, key (f j) = key j) (db : Db) :
    Db :=
  { db with queuedJobs := db.queuedJobs.update (fun job => job.id = jobId) f hf }

theorem key_running (now : DateTime) (job : QueuedJob) :
    key { job with status := .running, startedAt := some (job.startedAt.getD now) } = key job := rfl

theorem key_failed (now : DateTime) (message : String) (job : QueuedJob) :
    key { job with
      status := .failed
      startedAt := some (job.startedAt.getD now)
      finishedAt := some now
      failureMessage := some message } = key job := rfl

def markRunning (now : DateTime) (jobId : UUID) (db : Db) : Db :=
  writeJob jobId
    (fun job => { job with status := .running, startedAt := some (job.startedAt.getD now) })
    (key_running now) db

/-- The failure is committed together with whatever the session holds. -/
def markFailed (now : DateTime) (jobId : UUID) (message : String) (db : Db) : Db :=
  writeJob jobId
    (fun job =>
      { job with
        status := .failed
        startedAt := some (job.startedAt.getD now)
        finishedAt := some now
        failureMessage := some message })
    (key_failed now message) db

def markCompleted (now : DateTime) (jobId snapshotId : UUID) (db : Db) : Db :=
  writeJob jobId
    (fun job =>
      { job with
        status := .completed
        finishedAt := some now
        failureMessage := none
        resultPayload := some (.crawl snapshotId) })
    (fun _ => rfl) db

/-- A compile job, whatever its status, names the snapshot. -/
def isQueuedForCompile (db : Db) (snapshotId : UUID) : Bool :=
  db.queuedJobs.rows.any fun job =>
    job.jobType = ControlPlane.assetCompileJobType && job.payload.snapshotId = .uuid snapshotId

/-- `_discard_superseded_uncompiled_drafts`. -/
def discardSupersededUncompiledDrafts (now : DateTime) (systemId keepSnapshotId : UUID) (db : Db) :
    Db :=
  { db with
    crawlSnapshots := db.crawlSnapshots.update
      (fun s => s.systemId = systemId && s.state = .draft && s.id ≠ keepSnapshotId &&
        !isQueuedForCompile db s.id)
      fun s =>
        { s with
          state := .discarded
          discardedAt := some now
          failureReason := some "superseded_by_newer_draft" } }

/-- The end of a successful crawl. -/
def handOver (ids : IdSource) (now : DateTime) (jobId systemId snapshotId : UUID) (db : Db) : Db :=
  markCompleted now jobId snapshotId
    (ControlPlane.enqueueJob ids now ControlPlane.assetCompileJobType
      { snapshotId := .uuid snapshotId, compileScope := some "impacted_pages_only" }
      (discardSupersededUncompiledDrafts now systemId snapshotId db))

/-- `CrawlJobHandler.run`. -/
def run (attempt : CrawlAttempt) (ids : IdSource) (now : DateTime) (jobId : UUID) (db : Db) :
    Transacted Unit :=
  match db.queuedJobs.get? jobId with
  | none => (db, .error s!"queued job {UUID.text jobId} not found")
  | some job =>
    let crawlScope := job.payload.crawlScope.getD "full"
    match job.payload.systemId with
    | .absent => (markFailed now job.id "missing system_id in crawl job payload" db, .ok ())
    | systemField =>
      if Text.strip crawlScope = "" then
        (markFailed now job.id "missing crawl_scope in crawl job payload" db, .ok ())
      else
        let running := markRunning now job.id db
        match systemField with
        | .uuid systemId =>
          match CrawlerService.runCrawl attempt ids now systemId crawlScope running with
          | (db, .error message) => (markFailed now job.id message db, .ok ())
          | (db, .ok result) =>
            match result.status = "success" && result.snapshotId.isSome, result.snapshotId with
            | true, some snapshotId =>
              (handOver ids now job.id systemId snapshotId db, .ok ())
            | _, _ =>
              let message := if result.message.getD "" = "" then result.status
                else result.message.getD ""
              (markFailed now job.id message db, .ok ())
        | _ =>
          (markFailed now job.id "badly formed hexadecimal UUID string" running, .ok ())

/-! ## What the job leaves alone -/

section Frame

variable (ids : IdSource) (now : DateTime) (jobId : UUID) (db : Db)

/-- A database without the tables a crawl writes. -/
def outsideCrawl (db : Db) : Db :=
  { db with
    crawlSnapshots := .empty
    pages := .empty
    menuNodes := .empty
    pageElements := .empty
    queuedJobs := .empty }

theorem outsideCrawl_persistFacts (systemId snapshotId : UUID)
    (extraction : CrawlExtractionResult) :
    outsideCrawl (CrawlerService.persistFacts ids now systemId snapshotId extraction db).1 =
      outsideCrawl db :=
  CrawlerService.persistFacts_frame ids now systemId snapshotId outsideCrawl (fun _ _ => rfl)
    (fun _ _ => rfl) (fun _ _ => rfl) extraction db

theorem outsideCrawl_runCrawl (attempt : CrawlAttempt) (systemId : UUID) (crawlScope : String) :
    outsideCrawl (CrawlerService.runCrawl attempt ids now systemId crawlScope db).1 =
      outsideCrawl db := by
  unfold CrawlerService.runCrawl
  split
  · rfl
  · split
    · rfl
    · rfl
    · exact outsideCrawl_persistFacts ids now _ systemId _ _
    · dsimp only
      split <;> exact outsideCrawl_persistFacts ids now _ systemId _ _

/-- **A crawl job writes snapshots, their facts and jobs.** -/
theorem outsideCrawl_run (attempt : CrawlAttempt) :
    outsideCrawl (run attempt ids now jobId db).1 = outsideCrawl db := by
  unfold run
  split
  · rfl
  · rename_i job hjob
    have hcrawl : ∀ systemId crawlScope,
        outsideCrawl (CrawlerService.runCrawl attempt ids now systemId crawlScope
          (markRunning now job.id db)).1 = outsideCrawl db := fun systemId crawlScope =>
      outsideCrawl_runCrawl ids now (markRunning now job.id db) attempt systemId crawlScope
    dsimp only
    split
    · rfl
    · split
      · rfl
      · split
        · rename_i systemId _
          have hran := hcrawl systemId (job.payload.crawlScope.getD "full")
          split
          · rename_i ran message hrun
            rw [hrun] at hran
            exact hran
          · rename_i ran result hrun
            rw [hrun] at hran
            split
            · exact hran
            · exact hran
        · rfl

end Frame

end CrawlJob

end Runlet
