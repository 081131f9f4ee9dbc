import Runlet.AssetCompiler.SwitchSpec

/-!
# The invariant of the current state

Whatever calls are made, in whatever order, on drafts, on snapshots that were handled before and
with failures on the way, a system has at most one active snapshot, the states of snapshots only
move forward, and what a call does stays within its system.
-/

namespace Runlet

open KeyedTable

namespace CurrentStateSwitch

/-- A call, with the number of flushes after which its transaction raises, if it does. -/
structure SwitchCall where
  ids : IdSource
  now : DateTime
  draftSnapshotId : UUID
  raisesAfter : Option ℕ := none

namespace SwitchCall

variable (call : SwitchCall) (db : Db)

def apply : Except String Switched :=
  applyCurrentStateSwitch call.ids call.now call.draftSnapshotId db

/-- The databases at the flush points the call gets to. -/
def flushes : List Db :=
  match call.apply db with
  | .error _ => []
  | .ok switched =>
    match call.raisesAfter with
    | none => switched.flushes
    | some n => switched.flushes.take n

def raises : Bool :=
  match call.apply db with
  | .error _ => true
  | .ok _ => call.raisesAfter.isSome

/-- The database after the call: what it flushed, or what was there when it was rolled back. -/
def step (db : Db) (call : SwitchCall) : Db :=
  match call.apply db with
  | .error _ => db
  | .ok switched => if call.raisesAfter.isSome then db else switched.db

/-- The call sets the snapshot aside. -/
def SetsAside : Prop :=
  ∃ switched, call.apply db = .ok switched ∧ switched.result.outcome ≠ .promoted

variable {call db}

theorem mem_flushes {d : Db} (h : d ∈ call.flushes db) :
    ∃ switched, call.apply db = .ok switched ∧ d ∈ switched.flushes := by
  unfold flushes at h
  split at h
  · exact absurd h List.not_mem_nil
  · rename_i switched happly
    refine ⟨switched, happly, ?_⟩
    split at h
    · exact h
    · exact List.mem_of_mem_take h

variable (call db) in
theorem step_cases : step db call = db ∨
    ∃ switched, call.apply db = .ok switched ∧ step db call = switched.db := by
  unfold step
  split
  · exact Or.inl rfl
  · rename_i switched happly
    split
    · exact Or.inl rfl
    · exact Or.inr ⟨switched, happly, rfl⟩

/-- The databases of a call, from the first to the last it shows. -/
theorem mem_states {d : Db} (h : d = db ∨ d ∈ call.flushes db ∨ d = step db call) :
    d = db ∨ ∃ switched, call.apply db = .ok switched ∧ d ∈ db :: switched.flushes := by
  rcases h with rfl | h | rfl
  · exact Or.inl rfl
  · obtain ⟨switched, happly, hd⟩ := mem_flushes h
    exact Or.inr ⟨switched, happly, List.mem_cons_of_mem _ hd⟩
  · rcases step_cases call db with h | ⟨switched, happly, h⟩
    · exact Or.inl h
    · obtain ⟨draft, -, hcase⟩ := applyCurrentStateSwitch_cases happly
      exact Or.inr ⟨switched, happly, h ▸ hcase.db_mem⟩

end SwitchCall

/-- What a call keeps. -/
structure SwitchGuarantee (db : Db) (call : SwitchCall) : Prop where
  /-- At every flush, and after the call, a system has at most one active snapshot. -/
  atMostOne : ∀ d, d ∈ call.flushes db ∨ d = call.step db → AtMostOneActive d
  /-- From flush to flush, and over the call, states only move forward. -/
  transitions : List.IsChain SnapshotsEvolve (db :: call.flushes db) ∧
    SnapshotsEvolve db (call.step db)
  /-- A snapshot that is set aside leaves the active ones as they were. -/
  setAside : call.SetsAside db → ∀ r : CrawlSnapshot,
    r ∈ (call.step db).crawlSnapshots ∧ r.state = .active ↔
      r ∈ db.crawlSnapshots ∧ r.state = .active
  /-- A call that raises leaves no trace. -/
  raises : call.raises db = true → call.step db = db
  /-- The snapshots of other systems stay, at every flush and after the call. -/
  otherSystems : ∀ draft, db.crawlSnapshots.get? call.draftSnapshotId = some draft →
    ∀ d, d ∈ call.flushes db ∨ d = call.step db → ∀ r : CrawlSnapshot,
      r.systemId ≠ draft.systemId → (r ∈ d.crawlSnapshots ↔ r ∈ db.crawlSnapshots)
  /-- No other row is changed; the archives get new ones. -/
  frame : ∀ d, d ∈ call.flushes db ∨ d = call.step db →
    outsideSwitch d = outsideSwitch db ∧ HistoryGrows db d

theorem SwitchCall.chain (db : Db) (call : SwitchCall) :
    List.IsChain SnapshotsEvolve (db :: call.flushes db) := by
  unfold SwitchCall.flushes
  split
  · exact List.IsChain.singleton db
  · rename_i switched happly
    obtain ⟨draft, hget, hcase⟩ := applyCurrentStateSwitch_cases happly
    have hchain := hcase.chain (Table.mem_of_get? hget)
    split
    · exact hchain
    · rename_i n _
      have htake := hchain.take (n + 1)
      rwa [List.take_succ_cons] at htake

/-- One call. -/
theorem switchGuarantee {db : Db} (hone : AtMostOneActive db) (call : SwitchCall) :
    SwitchGuarantee db call := by
  have hstates : ∀ d, d ∈ call.flushes db ∨ d = call.step db → d = db ∨
      ∃ draft switched, db.crawlSnapshots.get? call.draftSnapshotId = some draft ∧
        SwitchCase call.ids call.now db draft switched ∧ d ∈ db :: switched.flushes := by
    intro d hd
    rcases SwitchCall.mem_states (Or.inr hd) with h | ⟨switched, happly, hmem⟩
    · exact Or.inl h
    · obtain ⟨draft, hget, hcase⟩ := applyCurrentStateSwitch_cases happly
      exact Or.inr ⟨draft, switched, hget, hcase, hmem⟩
  constructor
  · intro d hd
    rcases hstates d hd with rfl | ⟨draft, switched, hget, hcase, hmem⟩
    · exact hone
    · exact hcase.atMostOneActive (Table.mem_of_get? hget) hone d hmem
  · refine ⟨SwitchCall.chain db call, ?_⟩
    rcases hstates (call.step db) (Or.inr rfl) with h | ⟨draft, switched, hget, hcase, hmem⟩
    · rw [h]
      exact SnapshotsEvolve.refl db
    · exact hcase.evolve (Table.mem_of_get? hget) hmem
  · rintro ⟨switched, happly, houtcome⟩ r
    obtain ⟨draft, hget, hcase⟩ := applyCurrentStateSwitch_cases happly
    rcases SwitchCall.step_cases call db with h | ⟨switched', happly', h⟩
    · rw [h]
    · rw [happly, Except.ok.injEq] at happly'
      rw [h, ← happly']
      exact hcase.mem_active_of_discarded (Table.mem_of_get? hget) houtcome
  · intro hraises
    unfold SwitchCall.raises at hraises
    unfold SwitchCall.step
    split
    · rfl
    · rename_i switched happly
      rw [happly] at hraises
      exact if_pos hraises
  · intro draft hdraft d hd r hr
    rcases hstates d hd with rfl | ⟨draft', switched, hget, hcase, hmem⟩
    · exact Iff.rfl
    · rw [hdraft, Option.some_inj] at hget
      subst hget
      exact hcase.mem_of_otherSystem (Table.mem_of_get? hdraft) hmem hr
  · intro d hd
    rcases hstates d hd with rfl | ⟨draft, switched, hget, hcase, hmem⟩
    · exact ⟨rfl, HistoryGrows.refl d⟩
    · exact ⟨hcase.outsideSwitch_eq hmem, hcase.historyGrows hmem⟩

/-- A discarded snapshot is final: no call changes its row. -/
theorem mem_step_of_discarded {db : Db} (call : SwitchCall) {r : CrawlSnapshot}
    (hr : r ∈ db.crawlSnapshots) (hdiscarded : r.state = .discarded) :
    r ∈ (call.step db).crawlSnapshots := by
  have hevolve : SnapshotsEvolve db (call.step db) := by
    rcases SwitchCall.step_cases call db with h | ⟨switched, happly, h⟩
    · rw [h]
      exact SnapshotsEvolve.refl db
    · obtain ⟨draft, hget, hcase⟩ := applyCurrentStateSwitch_cases happly
      rw [h]
      exact hcase.evolve (Table.mem_of_get? hget) hcase.db_mem
  obtain ⟨r', hr', -, hkept⟩ := Table.Evolves.kept hevolve r hr
  rw [hkept.final hdiscarded] at hr'
  exact hr'

/-- **The invariant of the current state.**  From any database in which a system has at most one
active snapshot, every call of every sequence keeps its guarantee, and a snapshot that is
discarded at some point of the sequence stays as it is from then on. -/
theorem currentState_invariant (db : Db) (hone : AtMostOneActive db) (calls : List SwitchCall) :
    Run.Along SwitchCall.step SwitchGuarantee db calls ∧
      ∀ before after, calls = before ++ after →
        ∀ r ∈ (Run.final SwitchCall.step db before).crawlSnapshots, r.state = .discarded →
          r ∈ (Run.final SwitchCall.step db calls).crawlSnapshots := by
  constructor
  · refine Run.along_of_invariant (fun s call hs => ?_) (fun s call hs => ?_) calls hone
    · exact (switchGuarantee hs call).atMostOne _ (Or.inr rfl)
    · exact switchGuarantee hs call
  · rintro before after rfl r hr hdiscarded
    rw [Run.final_append]
    exact (Run.invariant (I := fun d : Db => r ∈ d.crawlSnapshots)
      (fun s call hs => mem_step_of_discarded call hs hdiscarded) after hr)

/-! ## A sequence of calls -/

def sampleSnapshot (id : UUID) (qualityScore : Rat) (state : SnapshotState) : CrawlSnapshot where
  id := id
  systemId := 1
  crawlType := "full"
  qualityScore := some qualityScore
  state := state
  startedAt := id

/-- An active snapshot, a good draft that shows a page, and a poor one. -/
def sampleDb : Db :=
  { crawlSnapshots := ⟨[sampleSnapshot 10 1 .active, sampleSnapshot 11 1 .draft,
      sampleSnapshot 12 (1 / 2) .draft], by decide⟩
    pages := ⟨[{ id := 20, systemId := 1, snapshotId := some 11, routePath := "/a" }], by decide⟩ }

/-- The poor draft, the good draft with a failure between its two flushes and then without, and
the snapshot that was replaced. -/
def sampleCalls : List SwitchCall :=
  [⟨.ascending, 1, 12, none⟩, ⟨.ascending, 2, 11, some 3⟩, ⟨.ascending, 3, 11, none⟩,
    ⟨.ascending, 4, 10, none⟩]

theorem currentState_invariant_sample :
    AtMostOneActive sampleDb ∧ Run.Along SwitchCall.step SwitchGuarantee sampleDb sampleCalls :=
  ⟨by decide, (currentState_invariant sampleDb (by decide) sampleCalls).1⟩

example : (Run.final SwitchCall.step sampleDb sampleCalls).crawlSnapshots.rows.map
    (fun s => (s.id, s.state)) = [(10, .discarded), (11, .active), (12, .discarded)] := by
  decide +kernel

end CurrentStateSwitch

end Runlet
