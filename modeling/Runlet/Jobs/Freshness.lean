import Runlet.Jobs.CrawlJob
import Runlet.Jobs.AssetCompileJobSpec
import Runlet.ControlPlane.Cascades
import Runlet.AssetCompiler.SwitchInvariant

/-!
# Freshness of the current state

Crawls leave drafts, compiles turn drafts into the active snapshot of their system.  Does the active
snapshot only get younger?  Every event but one sort keeps the time at which the active snapshot of
a system was started, or moves it forward; the exception is a compile that takes a draft older than
the active snapshot (`TakesOlderDraft`), which happens since a crawl keeps every draft that some
compile job mentions, whatever became of that job.  `freshness_iff`: the time never decreases in a
run exactly when no event of the run is of that sort.
-/

namespace Runlet

open KeyedTable

namespace Freshness

open CurrentStateSwitch (AtMostOneActive SwitchCase)

/-! ## Events -/

/-- What happens to a system from outside: requests, and jobs that are picked up. -/
inductive Event where
  | triggerCrawl (ids : IdSource) (now : DateTime) (systemId : UUID) (crawlScope : String)
  | crawl (attempt : CrawlAttempt) (ids : IdSource) (now : DateTime) (jobId : UUID)
  | compileAssets (ids : IdSource) (now : DateTime) (snapshotId : UUID) (compileScope : String)
  | compile (controlPlaneService : Option ControlPlaneService) (ids : IdSource) (now : DateTime)
      (faults : Faults) (jobId : UUID)

def compileHandler (controlPlaneService : Option ControlPlaneService) (ids : IdSource)
    (now : DateTime) : AssetCompileJobHandler where
  compileSnapshot := AssetCompiler.compileSnapshot ids now
  controlPlaneService := controlPlaneService

/-- What an event commits. -/
def step (db : Db) : Event → Db
  | .triggerCrawl ids now systemId crawlScope =>
    (ControlPlane.triggerCrawl ids now systemId crawlScope db).1
  | .crawl attempt ids now jobId => (CrawlJob.run attempt ids now jobId db).1
  | .compileAssets ids now snapshotId compileScope =>
    (ControlPlane.compileAssets ids now snapshotId compileScope db).1
  | .compile controlPlaneService ids now faults jobId =>
    (AssetCompileJob.run (compileHandler controlPlaneService ids now) now faults jobId db).1

/-! ## The active snapshots -/

/-- The active snapshot of a system was started at `t`. -/
def ActiveSince (db : Db) (systemId : UUID) (t : DateTime) : Prop :=
  ∃ s ∈ db.crawlSnapshots, s.systemId = systemId ∧ s.state = .active ∧ s.startedAt = t

/-- No system has an active snapshot that was started before the one it had. -/
def NeverDecreases (db db' : Db) : Prop :=
  ∀ systemId t t', ActiveSince db systemId t → ActiveSince db' systemId t' → t ≤ t'

/-- Active snapshots stay as they are, and none is added. -/
def ActiveKept (s s' : CrawlSnapshot) : Prop :=
  s'.systemId = s.systemId ∧ s'.startedAt = s.startedAt ∧ (s'.state = .active ↔ s.state = .active)

def ActivesKept (db db' : Db) : Prop :=
  Table.Evolves ActiveKept (fun s => s.state ≠ .active) db.crawlSnapshots db'.crawlSnapshots

theorem ActiveKept.refl (s : CrawlSnapshot) : ActiveKept s s := ⟨rfl, rfl, Iff.rfl⟩

theorem ActiveKept.trans {a b c : CrawlSnapshot} (h : ActiveKept a b) (h' : ActiveKept b c) :
    ActiveKept a c :=
  ⟨h'.1.trans h.1, h'.2.1.trans h.2.1, h'.2.2.trans h.2.2⟩

theorem ActivesKept.of_eq {db db' : Db} (h : db'.crawlSnapshots = db.crawlSnapshots) :
    ActivesKept db db' := by
  unfold ActivesKept
  rw [h]
  exact Table.Evolves.refl ActiveKept.refl _

theorem ActivesKept.trans {db db' db'' : Db} (h : ActivesKept db db') (h' : ActivesKept db' db'') :
    ActivesKept db db'' :=
  Table.Evolves.trans (fun _ _ _ => ActiveKept.trans)
    (fun _ _ hnew hkept hactive => hnew (hkept.2.2.mp hactive)) h h'

/-- An active row afterwards was an active row before. -/
theorem ActivesKept.source {db db' : Db} (h : ActivesKept db db') {s' : CrawlSnapshot}
    (hs' : s' ∈ db'.crawlSnapshots) (hactive : s'.state = .active) :
    ∃ s ∈ db.crawlSnapshots, s.id = s'.id ∧ s.state = .active ∧ s.systemId = s'.systemId ∧
      s.startedAt = s'.startedAt := by
  rcases Table.Evolves.source h s' hs' with ⟨s, hs, hk, hkept⟩ | ⟨-, hnew⟩
  · exact ⟨s, hs, hk, hkept.2.2.mp hactive, hkept.1.symm, hkept.2.1.symm⟩
  · exact absurd hactive hnew

theorem ActivesKept.atMostOneActive {db db' : Db} (h : ActivesKept db db')
    (hone : AtMostOneActive db) : AtMostOneActive db' := by
  intro a ha b hb haa hba hsys
  obtain ⟨a₀, ha₀, hak, haa₀, hasys, -⟩ := h.source ha haa
  obtain ⟨b₀, hb₀, hbk, hba₀, hbsys, -⟩ := h.source hb hba
  have hab := hone a₀ ha₀ b₀ hb₀ haa₀ hba₀ (hasys.trans (hsys.trans hbsys.symm))
  exact Table.eq_of_key_eq ha hb (hak.symm.trans ((congrArg CrawlSnapshot.id hab).trans hbk))

theorem ActivesKept.neverDecreases {db db' : Db} (h : ActivesKept db db')
    (hone : AtMostOneActive db) : NeverDecreases db db' := by
  rintro systemId t t' ⟨s, hs, hsys, hactive, rfl⟩ ⟨s', hs', hsys', hactive', rfl⟩
  obtain ⟨s₀, hs₀, -, hactive₀, hsys₀, hstart⟩ := h.source hs' hactive'
  rw [hone s hs s₀ hs₀ hactive hactive₀ (hsys.trans (hsys'.symm.trans hsys₀.symm)), hstart]

/-! ## Crawls -/

section Crawl

variable (ids : IdSource) (now : DateTime)

/-- A crawl adds a draft. -/
theorem activesKept_persistRows (systemId : UUID) (crawlScope systemFramework : String)
    (extraction : CrawlExtractionResult) (db : Db) :
    ActivesKept db
      (CrawlerService.persistRows ids now systemId crawlScope systemFramework extraction db) := by
  unfold CrawlerService.persistRows CrawlerService.persistCrawlResult ActivesKept
  rw [CrawlerService.crawlSnapshots_persistFacts]
  refine Table.Evolves.insert (fun _ => rfl) ActiveKept.refl ?_
  intro h
  exact SnapshotState.noConfusion h

theorem activesKept_runCrawl (attempt : CrawlAttempt) (systemId : UUID) (crawlScope : String)
    (db : Db) :
    ActivesKept db (CrawlerService.runCrawl attempt ids now systemId crawlScope db).1 := by
  unfold CrawlerService.runCrawl
  cases db.systems.get? systemId with
  | none => exact ActivesKept.of_eq rfl
  | some system =>
    cases attempt with
    | refused status message => exact ActivesKept.of_eq rfl
    | raised flushed message =>
      cases flushed with
      | none => exact ActivesKept.of_eq rfl
      | some extraction => exact activesKept_persistRows ids now _ _ _ _ _
    | extracted extraction message =>
      have hrows := activesKept_persistRows ids now systemId crawlScope system.frameworkType
        extraction db
      dsimp only
      split
      · exact hrows
      · refine hrows.trans (Table.Evolves.update (by intro _; rfl) fun s _ => ?_)
        unfold Table.rewrite
        split
        · exact ⟨rfl, rfl, Iff.rfl⟩
        · exact ActiveKept.refl s

theorem activesKept_handOver (jobId systemId snapshotId : UUID) (db : Db) :
    ActivesKept db (CrawlJob.handOver ids now jobId systemId snapshotId db) := by
  refine Table.Evolves.update (by intro _; rfl) fun s _ => ?_
  unfold Table.rewrite
  split
  · rename_i hcond
    -- Only drafts are set aside.
    simp only [Bool.and_eq_true, decide_eq_true_eq] at hcond
    refine ⟨rfl, rfl, ?_⟩
    rw [hcond.1.1.2]
    exact ⟨fun h => SnapshotState.noConfusion h, fun h => SnapshotState.noConfusion h⟩
  · exact ActiveKept.refl s

/-- **A crawl job leaves the active snapshots alone.** -/
theorem activesKept_crawl (attempt : CrawlAttempt) (jobId : UUID) (db : Db) :
    ActivesKept db (CrawlJob.run attempt ids now jobId db).1 := by
  unfold CrawlJob.run
  cases db.queuedJobs.get? jobId with
  | none => exact ActivesKept.of_eq rfl
  | some job =>
    dsimp only
    cases job.payload.systemId with
    | absent => exact ActivesKept.of_eq rfl
    | malformed text =>
      dsimp only
      split <;> exact ActivesKept.of_eq rfl
    | uuid systemId =>
      dsimp only
      split
      · exact ActivesKept.of_eq rfl
      · have hrunning : ActivesKept db (CrawlJob.markRunning now job.id db) :=
          ActivesKept.of_eq rfl
        have hcrawl := hrunning.trans (activesKept_runCrawl ids now attempt systemId
          (job.payload.crawlScope.getD "full") (CrawlJob.markRunning now job.id db))
        split
        · rename_i db' message heq
          rw [heq] at hcrawl
          exact hcrawl.trans (ActivesKept.of_eq rfl)
        · rename_i db' result heq
          rw [heq] at hcrawl
          split
          · exact hcrawl.trans (activesKept_handOver ids now _ _ _ _)
          · exact hcrawl.trans (ActivesKept.of_eq rfl)

end Crawl

/-! ## The switch -/

section Switch

open CurrentStateSwitch

/-- The draft shows changes against a snapshot. -/
def ShowsChanges (db : Db) (activeSnapshot draft : CrawlSnapshot) : Prop :=
  ∃ diff, CurrentStateDiff.compareSemanticStates (loadSnapshotSemanticState activeSnapshot.id db)
    (loadSnapshotSemanticState draft.id db) = .ok diff ∧ diff.hasChanges = true

/-- A good draft that shows changes against an active snapshot younger than itself. -/
def IsOlderDraft (db : Db) (draft : CrawlSnapshot) : Prop :=
  draft.state = .draft ∧ isHighQualitySnapshot draft = true ∧
    ∃ a ∈ db.crawlSnapshots, a.state = .active ∧ a.systemId = draft.systemId ∧
      draft.startedAt < a.startedAt ∧ ShowsChanges db a draft

variable {ids : IdSource} {now : DateTime} {db : Db} {draft : CrawlSnapshot} {switched : Switched}

/-- An active snapshot after a write of the draft is the draft, or was active before. -/
theorem mem_active_activate {id : UUID} {r : CrawlSnapshot}
    (hr : r ∈ (activate now id db).crawlSnapshots) (hne : r.id ≠ id) : r ∈ db.crawlSnapshots :=
  (mem_writeSnapshot_of_ne hne).mp hr

theorem startedAt_of_mem {d : Db} (hkept : SnapshotsEvolve db d)
    (hdraft : draft ∈ db.crawlSnapshots) {r : CrawlSnapshot} (hr : r ∈ d.crawlSnapshots)
    (hid : r.id = draft.id) : r.startedAt = draft.startedAt ∧ r.systemId = draft.systemId := by
  have h := Table.Evolves.of_mem hkept hdraft hr hid
  exact ⟨h.startedAt, h.systemId⟩

/-- A draft that is put aside, and a snapshot that is active already, change no active row. -/
theorem neverDecreases_of_actives {db' : Db} (hone : AtMostOneActive db)
    (h : ∀ r : CrawlSnapshot, r ∈ db'.crawlSnapshots ∧ r.state = .active →
      r ∈ db.crawlSnapshots ∧ r.state = .active) : NeverDecreases db db' := by
  rintro systemId t t' ⟨s, hs, hsys, hactive, rfl⟩ ⟨s', hs', hsys', hactive', rfl⟩
  obtain ⟨hs'', -⟩ := h s' ⟨hs', hactive'⟩
  rw [hone s hs s' hs'' hactive hactive' (hsys.trans hsys'.symm)]

/-- **A switch takes the current state back in time** exactly when it is given an older draft. -/
theorem neverDecreases_switch_iff (hone : AtMostOneActive db)
    (hdraft : draft ∈ db.crawlSnapshots) (hcase : SwitchCase ids now db draft switched) :
    NeverDecreases db switched.db ↔ ¬ IsOlderDraft db draft := by
  have hevolve := hcase.evolve hdraft hcase.db_mem
  have haside : switched.result.outcome ≠ .promoted → NeverDecreases db switched.db := fun h =>
    neverDecreases_of_actives hone fun r hr => (hcase.mem_active_of_discarded hdraft h).mp hr
  cases hcase with
  | alreadyActive hstate =>
    refine iff_of_true (neverDecreases_of_actives hone fun r hr => hr) fun h => ?_
    exact SnapshotState.noConfusion (hstate.symm.trans h.1)
  | lowQuality hstate hlow =>
    refine iff_of_true (haside fun h => SwitchOutcome.noConfusion h) fun h => ?_
    exact Bool.false_ne_true (hlow.symm.trans h.2.1)
  | noChange hstate hhigh activeSnapshot hactive diff hdiff hsame =>
    refine iff_of_true (haside fun h => SwitchOutcome.noConfusion h) ?_
    rintro ⟨-, -, a, ha, haactive, hasys, -, diff', hdiff', hchanged⟩
    obtain ⟨hmem, hsys, hstate', -⟩ := loadActiveSnapshot_eq_some hactive
    rw [hone a ha activeSnapshot hmem haactive hstate' (hasys.trans hsys.symm), hdiff,
      Except.ok.injEq] at hdiff'
    rw [← hdiff', hsame] at hchanged
    exact Bool.false_ne_true hchanged
  | firstActive hstate hhigh hnone =>
    have hno := loadActiveSnapshot_eq_none hnone
    have hnot : ∀ a ∈ db.crawlSnapshots, a.state = .active → a.systemId ≠ draft.systemId := by
      intro a ha hactive hsys
      have had : a = draft := Table.eq_of_key_eq ha hdraft (hno a ha hactive hsys)
      rw [had, hstate] at hactive
      exact SnapshotState.noConfusion hactive
    refine iff_of_true ?_ ?_
    · rintro systemId t t' ⟨s, hs, hsys, hactive, rfl⟩ ⟨s', hs', hsys', hactive', rfl⟩
      by_cases hid : s'.id = draft.id
      · obtain ⟨-, hsame⟩ := startedAt_of_mem hevolve hdraft hs' hid
        exact absurd (hsys.trans (hsys'.symm.trans hsame)) (hnot s hs hactive)
      · rw [hone s hs s' (mem_active_activate hs' hid) hactive hactive' (hsys.trans hsys'.symm)]
    · rintro ⟨-, -, a, ha, hactive, hsys, -⟩
      exact hnot a ha hactive hsys
  | replaced hstate hhigh activeSnapshot hactive diff hdiff hchanged =>
    obtain ⟨hmem, hsys, hstate', hne⟩ := loadActiveSnapshot_eq_some hactive
    constructor
    · rintro hnever ⟨-, -, a, ha, haactive, hasys, hlt, -⟩
      have ha' : a = activeSnapshot := hone a ha activeSnapshot hmem haactive hstate'
        (hasys.trans hsys.symm)
      -- The draft is active now.
      obtain ⟨r, hr, hrid, hkept⟩ := Table.Evolves.kept hevolve draft hdraft
      have hractive : r.state = .active := by
        obtain ⟨q, hq, rfl⟩ := mem_writeSnapshot.mp hr
        by_cases hqid : q.id = draft.id
        · rw [if_pos hqid]
        · rw [if_neg hqid] at hrid
          exact absurd hrid hqid
      have hle := hnever draft.systemId a.startedAt draft.startedAt ⟨a, ha, hasys, haactive, rfl⟩
        ⟨r, hr, hkept.systemId, hractive, hkept.startedAt⟩
      exact absurd hlt (Nat.not_lt.mpr hle)
    · intro hnot systemId t t' ht ht'
      obtain ⟨s, hs, hssys, hsactive, rfl⟩ := ht
      obtain ⟨s', hs', hssys', hsactive', rfl⟩ := ht'
      by_cases hid : s'.id = draft.id
      · obtain ⟨hstart, hsame⟩ := startedAt_of_mem hevolve hdraft hs' hid
        have hs₀ : s = activeSnapshot := hone s hs activeSnapshot hmem hsactive hstate'
          (hssys.trans (hssys'.symm.trans (hsame.trans hsys.symm)))
        rw [hs₀, hstart]
        by_contra hlt
        exact hnot ⟨hstate, hhigh, activeSnapshot, hmem, hstate', hsys, Nat.lt_of_not_le hlt, diff,
          hdiff, hchanged⟩
      · have hdiscarded := mem_active_activate hs' hid
        obtain ⟨⟨hs'', -⟩, -⟩ := mem_active_discard.mp ⟨hdiscarded, hsactive'⟩
        rw [hone s hs s' hs'' hsactive hsactive' (hssys.trans hssys'.symm)]

end Switch

/-! ## Events, one by one -/

/-- The event is a compile that takes a draft older than the active snapshot of its system. -/
def TakesOlderDraft (db : Db) : Event → Prop
  | .compile _ _ _ faults jobId =>
    ∃ draft, AssetCompileJob.Claims faults jobId db draft.id ∧
      db.crawlSnapshots.get? draft.id = some draft ∧
      (db.systems.get? draft.systemId).isSome = true ∧ IsOlderDraft db draft
  | _ => False

/-- The snapshots after a compile job are as before, or as the switch left them. -/
theorem crawlSnapshots_compile (service : Option ControlPlaneService) (ids : IdSource)
    (now : DateTime) (faults : Faults) (jobId : UUID) (db : Db) :
    ((step db (.compile service ids now faults jobId)).crawlSnapshots = db.crawlSnapshots ∧
        ∀ snapshotId, AssetCompileJob.Claims faults jobId db snapshotId →
          ∃ e, AssetCompiler.compileSnapshot ids now snapshotId
            (AssetCompileJob.markRunning now jobId db) = .error e) ∨
      ∃ draft switched, AssetCompileJob.Claims faults jobId db draft.id ∧
        db.crawlSnapshots.get? draft.id = some draft ∧
        (db.systems.get? draft.systemId).isSome = true ∧
        SwitchCase ids now (AssetCompileJob.markRunning now jobId db) draft switched ∧
        (step db (.compile service ids now faults jobId)).crawlSnapshots =
          switched.db.crawlSnapshots := by
  have hcompiled : ∀ snapshotId (compiled : Db) (result : CompileSnapshotResult),
      AssetCompileJob.Claims faults jobId db snapshotId →
      AssetCompiler.compileSnapshot ids now snapshotId
        (AssetCompileJob.markRunning now jobId db) = .ok (compiled, result) →
      ∃ draft switched, AssetCompileJob.Claims faults jobId db draft.id ∧
        db.crawlSnapshots.get? draft.id = some draft ∧
        (db.systems.get? draft.systemId).isSome = true ∧
        SwitchCase ids now (AssetCompileJob.markRunning now jobId db) draft switched ∧
        compiled.crawlSnapshots = switched.db.crawlSnapshots := by
    intro snapshotId compiled result hclaims hcompile
    obtain ⟨draft, system, hdraft, hsystem, hcase⟩ :=
      AssetCompiler.compileSnapshot_cases hcompile
    obtain ⟨switched, hswitch, hsame⟩ := hcase.crawlSnapshots
    have hid : draft.id = snapshotId := Table.key_of_get? hdraft
    subst hid
    refine ⟨draft, switched, hclaims, hdraft, ?_, hswitch, hsame⟩
    exact Option.isSome_iff_exists.mpr ⟨system, hsystem⟩
  rcases AssetCompileJob.runCase (compileHandler service ids now) now faults jobId db with
    ⟨hdb, hno⟩ | ⟨snapshotId, hclaims, compiled, result, hcompile, e, -, hdb⟩ |
    ⟨snapshotId, hclaims, compiled, result, hcompile, cascaded, applied, hcascade, hdb⟩
  · have hsame := congrArg Db.crawlSnapshots hdb
    exact Or.inl ⟨hsame, hno⟩
  · obtain ⟨draft, switched, hclaims', hdraft, hsystem, hswitch, hsame⟩ :=
      hcompiled snapshotId compiled result hclaims hcompile
    have hjobs := congrArg Db.crawlSnapshots hdb
    exact Or.inr ⟨draft, switched, hclaims', hdraft, hsystem, hswitch, Eq.trans hjobs hsame⟩
  · obtain ⟨draft, switched, hclaims', hdraft, hsystem, hswitch, hsame⟩ :=
      hcompiled snapshotId compiled result hclaims hcompile
    have hjobs := congrArg Db.crawlSnapshots hdb
    have hcascaded : cascaded.crawlSnapshots = compiled.crawlSnapshots := by
      rcases (AssetCompileJob.cascade_eq_ok hcascade).2 with ⟨-, rfl⟩ | ⟨controlPlane, -, rfl⟩
      · rfl
      · rfl
    exact Or.inr ⟨draft, switched, hclaims', hdraft, hsystem, hswitch,
      Eq.trans hjobs (Eq.trans hcascaded hsame)⟩

/-- A compile that takes an older draft compiles it. -/
theorem not_error_of_takesOlderDraft (ids : IdSource) (now : DateTime) {db : Db}
    (hone : AtMostOneActive db) {draft : CrawlSnapshot}
    (hdraft : db.crawlSnapshots.get? draft.id = some draft)
    (hsystem : (db.systems.get? draft.systemId).isSome = true) (holder : IsOlderDraft db draft) :
    ∃ returned, AssetCompiler.compileSnapshot ids now draft.id db = .ok returned := by
  obtain ⟨system, hsystem⟩ := Option.isSome_iff_exists.mp hsystem
  obtain ⟨hstate, hhigh, a, ha, hactive, hsys, -, diff, hdiff, hchanged⟩ := holder
  have hne : a.id ≠ draft.id := by
    intro hid
    have had : a = draft := Table.eq_of_key_eq ha (Table.mem_of_get? hdraft) hid
    rw [had, hstate] at hactive
    exact SnapshotState.noConfusion hactive
  have hload := CurrentStateSwitch.loadActiveSnapshot_of_mem hone ha hactive hne
  rw [hsys] at hload
  have happly : CurrentStateSwitch.applyCurrentStateSwitch ids now draft.id db =
      .ok (CurrentStateSwitch.replaceActive ids now a draft db) := by
    unfold CurrentStateSwitch.applyCurrentStateSwitch
    rw [hdraft]
    dsimp only
    rw [if_neg (by rw [hstate]; exact fun h => SnapshotState.noConfusion h),
      if_neg (not_not.mpr hstate), if_neg (by rw [hhigh]; decide), hload]
    dsimp only
    rw [hdiff]
    simp [bind, Except.bind, pure, Except.pure, hchanged]
  exact AssetCompiler.compileSnapshot_of_switch hdraft hsystem happly

/-- **One event** keeps the order of time unless it takes an older draft. -/
theorem neverDecreases_step_iff {db : Db} (hone : AtMostOneActive db) (event : Event) :
    NeverDecreases db (step db event) ↔ ¬ TakesOlderDraft db event := by
  cases event with
  | triggerCrawl ids now systemId crawlScope =>
    refine iff_of_true (ActivesKept.neverDecreases (ActivesKept.of_eq ?_) hone) id
    unfold step ControlPlane.triggerCrawl
    dsimp only
    split <;> rfl
  | crawl attempt ids now jobId =>
    exact iff_of_true ((activesKept_crawl ids now attempt jobId db).neverDecreases hone) id
  | compileAssets ids now snapshotId compileScope =>
    refine iff_of_true (ActivesKept.neverDecreases (ActivesKept.of_eq ?_) hone) id
    unfold step ControlPlane.compileAssets
    dsimp only
    split <;> rfl
  | compile service ids now faults jobId =>
    have hrunning : AtMostOneActive (AssetCompileJob.markRunning now jobId db) := hone
    rcases crawlSnapshots_compile service ids now faults jobId db with
      ⟨hsame, hno⟩ | ⟨draft, switched, hclaims, hdraft, hsystem, hcase, hsame⟩
    · refine iff_of_true (ActivesKept.neverDecreases (ActivesKept.of_eq hsame) hone) ?_
      rintro ⟨draft, hclaims, hdraft, hsystem, holder⟩
      obtain ⟨e, herror⟩ := hno draft.id hclaims
      obtain ⟨returned, hok⟩ := not_error_of_takesOlderDraft ids now hrunning hdraft hsystem holder
      rw [herror] at hok
      exact absurd hok (by simp)
    · have hiff := neverDecreases_switch_iff hrunning (Table.mem_of_get? hdraft) hcase
      have hstep : NeverDecreases db (step db (.compile service ids now faults jobId)) ↔
          NeverDecreases (AssetCompileJob.markRunning now jobId db) switched.db := by
        unfold NeverDecreases ActiveSince
        rw [hsame]
        rfl
      rw [hstep, hiff, not_iff_not]
      constructor
      · intro holder
        exact ⟨draft, hclaims, hdraft, hsystem, holder⟩
      · rintro ⟨draft', hclaims', hdraft', -, holder⟩
        obtain ⟨job, hjob, hpayload⟩ := hclaims.job
        obtain ⟨job', hjob', hpayload'⟩ := hclaims'.job
        rw [hjob, Option.some_inj] at hjob'
        rw [← hjob', hpayload, IdField.uuid.injEq] at hpayload'
        rw [← hpayload', hdraft, Option.some_inj] at hdraft'
        rw [hdraft']
        exact holder

/-- Every event keeps a system from having two active snapshots. -/
theorem atMostOneActive_step {db : Db} (hone : AtMostOneActive db) (event : Event) :
    AtMostOneActive (step db event) := by
  cases event with
  | triggerCrawl ids now systemId crawlScope =>
    refine ActivesKept.atMostOneActive (ActivesKept.of_eq ?_) hone
    unfold step ControlPlane.triggerCrawl
    dsimp only
    split <;> rfl
  | crawl attempt ids now jobId =>
    exact (activesKept_crawl ids now attempt jobId db).atMostOneActive hone
  | compileAssets ids now snapshotId compileScope =>
    refine ActivesKept.atMostOneActive (ActivesKept.of_eq ?_) hone
    unfold step ControlPlane.compileAssets
    dsimp only
    split <;> rfl
  | compile service ids now faults jobId =>
    rcases crawlSnapshots_compile service ids now faults jobId db with
      ⟨hsame, -⟩ | ⟨draft, switched, -, hdraft, -, hcase, hsame⟩
    · exact (ActivesKept.of_eq hsame).atMostOneActive hone
    · unfold AtMostOneActive
      rw [hsame]
      exact hcase.atMostOneActive (Table.mem_of_get? hdraft) hone _ hcase.db_mem

/-- **The freshness of the current state**, over runs: in a run from a database in which a system
has at most one active snapshot, no event replaces an active snapshot by one that was started
before it exactly when no event takes an older draft. -/
theorem freshness_iff (db : Db) (hone : AtMostOneActive db) (events : List Event) :
    Run.Along step (fun db event => NeverDecreases db (step db event)) db events ↔
      Run.Along step (fun db event => ¬ TakesOlderDraft db event) db events :=
  Run.along_congr (fun _ event hs => atMostOneActive_step hs event)
    (fun _ event hs => neverDecreases_step_iff hs event) hone

/-! ## Two crawls -/

/-- No draft is older than the active snapshot of its system. -/
def NoOlderDraft (db : Db) : Prop :=
  ∀ d ∈ db.crawlSnapshots.rows, ∀ a ∈ db.crawlSnapshots.rows, d.state = .draft →
    a.state = .active → a.systemId = d.systemId → a.startedAt ≤ d.startedAt

instance (db : Db) : Decidable (NoOlderDraft db) := by
  unfold NoOlderDraft
  infer_instance

instance (db : Db) (systemId : UUID) (t : DateTime) : Decidable (ActiveSince db systemId t) :=
  inferInstanceAs (Decidable (∃ s ∈ db.crawlSnapshots.rows,
    s.systemId = systemId ∧ s.state = .active ∧ s.startedAt = t))

theorem NoOlderDraft.not_takesOlderDraft {db : Db} (h : NoOlderDraft db) (event : Event) :
    ¬ TakesOlderDraft db event := by
  intro htakes
  cases event with
  | compile service ids now faults jobId =>
    obtain ⟨draft, -, hdraft, -, hstate, -, a, ha, hactive, hsys, hlt, -⟩ := htakes
    exact absurd hlt (Nat.not_lt.mpr
      (h draft (Table.mem_of_get? hdraft) a ha hstate hactive hsys))
  | triggerCrawl | crawl | compileAssets => exact htakes

/-- A system that has not been crawled. -/
def sampleDb : Db :=
  { systems := .single { id := 1, code := "erp", name := "ERP", baseUrl := "/" } }

def sampleCrawl (routePath : String) : CrawlAttempt :=
  .extracted { qualityScore := some 1, pages := [{ routePath := routePath }] } none

/-- The system is crawled twice, and shows another page the second time. -/
def sampleCrawls : List Event :=
  [.triggerCrawl .ascending 100 1 "full", .triggerCrawl .ascending 100 1 "full",
    .crawl (sampleCrawl "/a") .ascending 200 1, .crawl (sampleCrawl "/b") .ascending 300 2]

/-- The two drafts are compiled in their order. -/
def orderedEvents : List Event :=
  sampleCrawls ++ [.compile none .ascending 400 {} 3, .compile none .ascending 500 {} 4]

/-- The compile of the first draft fails, the second draft is compiled, and then the first is
requested again. -/
def retriedEvents : List Event :=
  sampleCrawls ++
    [.compile none .ascending 400 { points := [.compile], message := "unavailable" } 3,
      .compile none .ascending 500 {} 4, .compileAssets .ascending 600 1 "full"]

theorem freshness_ordered :
    Run.Along step (fun db event => NeverDecreases db (step db event)) sampleDb orderedEvents :=
  (freshness_iff sampleDb (by decide) orderedEvents).mpr
    (Run.Along.mono (fun _ event h => NoOlderDraft.not_takesOlderDraft h event)
      (by decide +kernel :
        Run.Along step (fun db _ => NoOlderDraft db) sampleDb orderedEvents))

/-- The active snapshot goes back in time: the draft of the first crawl was kept for its failed
compile job, and replaces the snapshot of the second crawl. -/
theorem freshness_fails :
    ¬ ∀ (db : Db) (events : List Event), AtMostOneActive db →
      Run.Along step (fun db event => NeverDecreases db (step db event)) db events := by
  intro h
  have hrun := h sampleDb (retriedEvents ++ [.compile none .ascending 700 {} 5]) (by decide)
  have hlast := (Run.along_append.mp hrun).2.1
  have hle := hlast 1 300 200 (by decide +kernel) (by decide +kernel)
  exact absurd hle (by decide)

end Freshness

end Runlet
