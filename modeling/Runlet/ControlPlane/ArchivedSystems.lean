import Runlet.AssetCompiler.SwitchInvariant
import Runlet.ControlPlane.TeardownOutcome

/-!
# Systems with a history stay

A switch of the current state archives the snapshot it replaces, and a teardown takes neither the
archives nor the access log, whose rows name their system.  So a system whose snapshot was replaced
once can no longer be torn down, whatever switches and teardowns come after
(`archived_systems_stay`).
-/

namespace Runlet

open KeyedTable
open References (Intact goneInAny)
open CurrentStateSwitch (SwitchCall HistoryGrows outsideSwitch)

namespace SystemAdmin

/-- A row that no teardown takes names the system. -/
def IsArchived (systemId : UUID) (db : PlatformDb) : Prop :=
  (∃ row ∈ db.crawlSnapshotsHist, row.systemId = systemId) ∨
    ∃ row ∈ db.authAuditLogs, row.systemId = some systemId

/-- No system, archived snapshot or log row is deleted; the last two are not changed either. -/
structure KeepsArchives (db db' : PlatformDb) : Prop where
  systems : ∀ row ∈ db.systems, ∃ row' ∈ db'.systems, row'.id = row.id
  crawlSnapshotsHist : ∀ row ∈ db.crawlSnapshotsHist, row ∈ db'.crawlSnapshotsHist
  authAuditLogs : ∀ row ∈ db.authAuditLogs, row ∈ db'.authAuditLogs

/-- A switch of the current state, a teardown while the scheduler has these jobs, if any, or other
work, which deletes none of the rows that matter here. -/
inductive AdminStep where
  | switch (call : SwitchCall)
  | teardown (systemCode : String) (scheduler : Option SchedulerJobs)
  | other (act : PlatformDb → PlatformDb) (keeps : ∀ db, KeepsArchives db (act db))

def AdminStep.apply (db : PlatformDb) : AdminStep → PlatformDb
  | .switch call => { db with toDb := call.step db.toDb }
  | .teardown systemCode scheduler => (teardownSystem systemCode db scheduler).2.1
  | .other act _ => act db

section Step

variable {system : System} {db : PlatformDb}

/-- Where a system is archived, the database refuses to delete it. -/
theorem not_intact_of_isArchived (hsystem : system ∈ db.systems)
    (harchived : IsArchived system.id db) :
    ¬ Intact (goneInAny ((collectSystemTeardownIds system db.toDb).deletes.map PlatformDb.takes))
      db.entries := by
  have hkey : (TableName.systems, system.id) ∈ db.entries.map References.Entry.key :=
    List.mem_map.mpr ⟨⟨(.systems, system.id), []⟩,
      PlatformDb.mem_entries.mpr (List.mem_map.mpr ⟨system, hsystem, rfl⟩), rfl⟩
  have hgone : (TableName.systems, system.id).2 ∈
      (collectSystemTeardownIds system db.toDb).taken .systems := List.mem_singleton_self _
  intro hintact
  simp only [Intact, goneInAny_deletes] at hintact
  rcases harchived with ⟨row, hrow, hnamed⟩ | ⟨row, hrow, hnamed⟩
  · refine hintact ⟨(.crawlSnapshotsHist, row.id), [(.systems, row.systemId)]⟩
      (PlatformDb.mem_entries.mpr (List.mem_map.mpr ⟨row, hrow, rfl⟩)) List.not_mem_nil
      (.systems, system.id) ?_ hkey hgone
    exact List.mem_singleton.mpr (congrArg _ hnamed.symm)
  · refine hintact ⟨(.authAuditLogs, row.id), ForeignKeys.optional .systems row.systemId⟩
      (PlatformDb.mem_entries.mpr (List.mem_map.mpr ⟨row, hrow, rfl⟩)) List.not_mem_nil
      (.systems, system.id) ?_ hkey hgone
    exact ForeignKeys.mem_optional.mpr ⟨rfl, hnamed⟩

theorem deleteAll_of_isArchived (hsystem : system ∈ db.systems)
    (harchived : IsArchived system.id db) :
    db.deleteAll (collectSystemTeardownIds system db.toDb).deletes = none := by
  rw [deleteAll_deletes, if_neg (not_intact_of_isArchived hsystem harchived)]

/-- A teardown leaves the database as it was, or takes the rows of a system it can take. -/
theorem teardownSystem_db (systemCode : String) (scheduler : Option SchedulerJobs) :
    (teardownSystem systemCode db scheduler).2.1 = db ∨
      ∃ other ∈ db.systems,
        db.deleteAll (collectSystemTeardownIds other db.toDb).deletes ≠ none ∧
          (teardownSystem systemCode db scheduler).2.1 = leftBy other db := by
  unfold teardownSystem
  cases hfound : db.systems.first? (hasCode systemCode) with
  | none => exact Or.inl rfl
  | some other =>
    cases scheduler with
    | none => exact Or.inl rfl
    | some jobs =>
      dsimp only
      cases hdeleted : db.deleteAll (collectSystemTeardownIds other db.toDb).deletes with
      | none => exact Or.inl rfl
      | some left =>
        have hleft : left = leftBy other db := by
          rw [deleteAll_deletes] at hdeleted
          split at hdeleted
          · exact (Option.some.inj hdeleted).symm
          · cases hdeleted
        have hsome : db.deleteAll (collectSystemTeardownIds other db.toDb).deletes ≠ none := by
          rw [hdeleted]
          exact Option.some_ne_none left
        refine Or.inr ⟨other, Table.mem_of_first? hfound, hsome, ?_⟩
        dsimp only
        split
        · exact hleft
        · exact hleft

/-- **One step keeps a system that is archived.** -/
theorem stays_apply {systemId : UUID} (hsystem : ∃ system ∈ db.systems, system.id = systemId)
    (harchived : IsArchived systemId db) (step : AdminStep) :
    (∃ system ∈ (step.apply db).systems, system.id = systemId) ∧
      IsArchived systemId (step.apply db) := by
  obtain ⟨system, hsystem, rfl⟩ := hsystem
  cases step with
  | switch call =>
    rcases SwitchCall.step_cases call db.toDb with hstep | ⟨switched, happly, hstep⟩
    · rw [AdminStep.apply, hstep]
      exact ⟨⟨system, hsystem, rfl⟩, harchived⟩
    · obtain ⟨draft, -, hcase⟩ := CurrentStateSwitch.applyCurrentStateSwitch_cases happly
      have houtside := hcase.outsideSwitch_eq hcase.db_mem
      have hgrows := hcase.historyGrows hcase.db_mem
      rw [AdminStep.apply, hstep]
      constructor
      · have hsystems : (outsideSwitch switched.db).systems = (outsideSwitch db.toDb).systems :=
          congrArg Db.systems houtside
        have hmem : system ∈ (outsideSwitch switched.db).systems := hsystems ▸ hsystem
        exact ⟨system, hmem, rfl⟩
      · exact harchived.imp (fun ⟨row, hrow, hnamed⟩ => ⟨row, hgrows.snapshots.subset hrow, hnamed⟩)
          fun hlogged => hlogged
  | teardown systemCode scheduler =>
    rcases @teardownSystem_db db systemCode scheduler with hsame | ⟨other, hother, hdeleted, hleft⟩
    · rw [AdminStep.apply, hsame]
      exact ⟨⟨system, hsystem, rfl⟩, harchived⟩
    · have hne : system.id ≠ other.id := by
        intro heq
        have hsame : system = other := Table.eq_of_key_eq hsystem hother heq
        exact hdeleted (hsame ▸ deleteAll_of_isArchived hsystem harchived)
      rw [AdminStep.apply, hleft]
      refine ⟨⟨system, Table.mem_deleteListed.mpr ⟨hsystem, ?_⟩, rfl⟩, harchived⟩
      exact fun hmem => hne (List.mem_singleton.mp hmem)
  | other act keeps =>
    obtain ⟨hsystems, hsnapshots, hlogs⟩ := keeps db
    exact ⟨hsystems system hsystem,
      harchived.imp (fun ⟨row, hrow, hnamed⟩ => ⟨row, hsnapshots row hrow, hnamed⟩)
        fun ⟨row, hrow, hnamed⟩ => ⟨row, hlogs row hrow, hnamed⟩⟩

/-- A run keeps it as well. -/
theorem stays_foldl {systemId : UUID} (hsystem : ∃ system ∈ db.systems, system.id = systemId)
    (harchived : IsArchived systemId db) (steps : List AdminStep) :
    (∃ system ∈ (steps.foldl AdminStep.apply db).systems, system.id = systemId) ∧
      IsArchived systemId (steps.foldl AdminStep.apply db) := by
  induction steps generalizing db with
  | nil => exact ⟨hsystem, harchived⟩
  | cons step steps ih =>
    obtain ⟨hsystem, harchived⟩ := stays_apply hsystem harchived step
    exact ih hsystem harchived

end Step

/-- The system is there, and every teardown of it is refused. -/
structure CannotBeTornDown (systemId : UUID) (db : PlatformDb) : Prop where
  present : ∃ system ∈ db.systems, system.id = systemId
  refused : ∀ systemCode system jobs, db.systems.first? (hasCode systemCode) = some system →
    system.id = systemId → (teardownSystem systemCode db (some jobs)).1 = .error .integrityError

/-- **A system that is archived is kept by every run, and every teardown of it is refused.** -/
theorem archived_systems_stay {systemId : UUID} {db : PlatformDb}
    (hsystem : ∃ system ∈ db.systems, system.id = systemId) (harchived : IsArchived systemId db)
    (steps : List AdminStep) : CannotBeTornDown systemId (steps.foldl AdminStep.apply db) := by
  obtain ⟨hkept, hstill⟩ := stays_foldl hsystem harchived steps
  refine ⟨hkept, fun systemCode system jobs hfound hid => ?_⟩
  subst hid
  unfold teardownSystem
  rw [hfound]
  dsimp only
  rw [deleteAll_of_isArchived (Table.mem_of_first? hfound) hstill]

/-- A system with an archived snapshot. -/
def archivedDb : PlatformDb where
  systems := .single { id := 1, code := "erp", name := "ERP", baseUrl := "https://erp.example" }
  crawlSnapshotsHist := .single
    { id := 2, snapshotId := 3, systemId := 1, crawlType := "full", state := .discarded,
      startedAt := 0 }

theorem archived_systems_stay_sample : CannotBeTornDown 1
    ([AdminStep.teardown "erp" (some fun _ => none)].foldl AdminStep.apply archivedDb) := by
  have hsystem : ∃ system ∈ archivedDb.systems, system.id = 1 :=
    ⟨_, List.mem_singleton_self _, rfl⟩
  have harchived : IsArchived 1 archivedDb := Or.inl ⟨_, List.mem_singleton_self _, rfl⟩
  exact archived_systems_stay hsystem harchived _

end SystemAdmin

end Runlet
