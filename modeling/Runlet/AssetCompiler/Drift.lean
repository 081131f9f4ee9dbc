import Runlet.AssetCompiler.CompileSpec

/-!
# Which row drift is judged against

Each turn of the loop over the pages compares the fingerprint of its page with an asset snapshot,
and appends a new one.  The one it compares with is the one with the greatest identifier; the one
it should compare with is the one written last (`latestWritten`).  They are the same row exactly when
identifiers happen to be drawn in ascending order: `drift_judged_iff`.
-/

namespace Runlet

open KeyedTable

namespace AssetCompiler

/-! ## Asset snapshots in the order in which they were written -/

/-- The asset snapshot of an asset that was written last. -/
def latestWritten (pageAssetId : UUID) (db : Db) : Option AssetSnapshot :=
  (db.assetSnapshots.rows.filter fun snapshot => snapshot.pageAssetId = pageAssetId).getLast?

theorem latestWritten_mem {pageAssetId : UUID} {db : Db} {s : AssetSnapshot}
    (h : latestWritten pageAssetId db = some s) :
    s ∈ db.assetSnapshots ∧ s.pageAssetId = pageAssetId := by
  have hmem := List.mem_filter.mp (List.mem_of_getLast? h)
  exact ⟨hmem.1, by simpa using hmem.2⟩

theorem latestWritten_eq_none_iff {pageAssetId : UUID} {db : Db} :
    latestWritten pageAssetId db = none ↔
      ∀ s ∈ db.assetSnapshots, s.pageAssetId ≠ pageAssetId := by
  unfold latestWritten
  rw [List.getLast?_eq_none_iff, List.filter_eq_nil_iff]
  simp only [decide_eq_true_eq]
  rfl

/-- The row written last has the greatest identifier. -/
def LatestIsGreatest (pageAssetId : UUID) (db : Db) : Prop :=
  ∀ s, latestWritten pageAssetId db = some s →
    ∀ r ∈ db.assetSnapshots, r.pageAssetId = pageAssetId → r.id ≤ s.id

/-- **The row found is the row written last** exactly when its identifier is the greatest. -/
theorem findLatestAssetSnapshot_eq_iff {pageAssetId : UUID} {db : Db} :
    findLatestAssetSnapshot pageAssetId db = latestWritten pageAssetId db ↔
      LatestIsGreatest pageAssetId db := by
  unfold findLatestAssetSnapshot LatestIsGreatest
  constructor
  · intro h s hs r hr hasset
    rw [hs] at h
    exact (Table.last?_eq_some_iff.mp h).2.2 r hr (by simpa using hasset)
  · intro h
    cases hlatest : latestWritten pageAssetId db with
    | none =>
      rw [latestWritten_eq_none_iff] at hlatest
      rw [Table.last?_eq_none_iff]
      intro s hs
      simpa using hlatest s hs
    | some s =>
      obtain ⟨hs, hasset⟩ := latestWritten_mem hlatest
      rw [Table.last?_eq_some_iff]
      refine ⟨hs, by simpa using hasset, fun r hr hr' => ?_⟩
      exact h s hlatest r hr (by simpa using hr')

/-! ## A turn -/

section Turn

variable (cx : CompileContext) (page : Page) (db : Db)

/-- The asset a turn works on. -/
def turnAssetId : UUID :=
  (upsertPageAsset cx page db.pageAssets).2.id

/-- The row a turn appends. -/
def turnSnapshot (id : UUID) : AssetSnapshot where
  id := id
  pageAssetId := (compileAsset cx page db).2.1.id
  crawlSnapshotId := cx.snapshot.id
  assetVersion := (compileAsset cx page db).2.1.assetVersion
  structureHash := (pageFingerprint cx page).structureHash
  navigationHash := (pageFingerprint cx page).navigationHash
  keyLocatorHash := (pageFingerprint cx page).keyLocatorHash
  semanticSummaryHash := (pageFingerprint cx page).semanticSummaryHash
  diffScoreVsPrevious := (compileAsset cx page db).2.2.score
  status := (compileAsset cx page db).2.2.status

theorem turnSnapshot_pageAssetId (id : UUID) :
    (turnSnapshot cx page db id).pageAssetId = turnAssetId cx page db :=
  key_recordDrift cx _ _

theorem assetSnapshots_foldl_compileCheck (asset : PageAsset)
    (definitions : List StandardCheckDefinition) (st : CompileState) :
    (definitions.foldl (compileCheck cx page asset) st).db.assetSnapshots =
      st.db.assetSnapshots := by
  induction definitions generalizing st with
  | nil => rfl
  | cons d l ih => exact ih _

/-- A turn appends one asset snapshot, with the hashes of its page. -/
theorem assetSnapshots_compilePage (st : CompileState) :
    (compilePage cx st page).db.assetSnapshots.rows =
      st.db.assetSnapshots.rows ++
        [turnSnapshot cx page st.db (st.db.assetSnapshots.nextKey cx.ids)] := by
  have hchecks := assetSnapshots_foldl_compileCheck cx page (compileAsset cx page st.db).2.1
    (standardChecks cx page)
    { st with
      db := (compileAsset cx page st.db).1
      assetsUpdated :=
        if (st.db.pageAssets.first? (isAssetFor cx.system.id (assetKeyOf cx page))).isNone
        then st.assetsUpdated else st.assetsUpdated + 1
      driftStates := st.driftStates ++ [(compileAsset cx page st.db).2.2.status] }
  exact congrArg Table.rows hchecks

/-- After a turn, the row written last for its asset holds the hashes of its page. -/
theorem latestWritten_compilePage (st : CompileState) :
    ∃ s, latestWritten (turnAssetId cx page st.db) (compilePage cx st page).db = some s ∧
      s.crawlSnapshotId = cx.snapshot.id ∧
      previousSnapshotToDict s = Fingerprints.PageFingerprint.stored (pageFingerprint cx page) := by
  unfold latestWritten
  rw [assetSnapshots_compilePage, List.filter_append, List.filter_singleton,
    turnSnapshot_pageAssetId, decide_eq_true rfl, cond_true, List.getLast?_append]
  exact ⟨_, rfl, rfl, rfl⟩

/-- The other assets keep the row that was written last for them. -/
theorem latestWritten_compilePage_of_ne (st : CompileState) {pageAssetId : UUID}
    (h : pageAssetId ≠ turnAssetId cx page st.db) :
    latestWritten pageAssetId (compilePage cx st page).db = latestWritten pageAssetId st.db := by
  unfold latestWritten
  rw [assetSnapshots_compilePage, List.filter_append, List.filter_singleton,
    turnSnapshot_pageAssetId, decide_eq_false (Ne.symm h), cond_false, List.append_nil]

/-- The drift of a turn is judged against the row written last for its asset. -/
structure DriftJudged : Prop where
  baseline : findLatestAssetSnapshot (turnAssetId cx page db) db =
    latestWritten (turnAssetId cx page db) db
  diff : (compileAsset cx page db).2.2 =
    Fingerprints.compareFingerprints
      ((latestWritten (turnAssetId cx page db) db).map previousSnapshotToDict)
      (pageFingerprint cx page)
  noDrift : ∀ s, latestWritten (turnAssetId cx page db) db = some s →
    previousSnapshotToDict s = Fingerprints.PageFingerprint.stored (pageFingerprint cx page) →
      (compileAsset cx page db).2.2 = ⟨0, .safe⟩

variable {cx page db}

theorem compileAsset_diff :
    (compileAsset cx page db).2.2 =
      Fingerprints.compareFingerprints
        ((findLatestAssetSnapshot (turnAssetId cx page db) db).map previousSnapshotToDict)
        (pageFingerprint cx page) := by
  change pageDiff cx page (turnAssetId cx page db) db = _
  unfold pageDiff
  rfl

theorem driftJudged_iff :
    DriftJudged cx page db ↔ LatestIsGreatest (turnAssetId cx page db) db := by
  rw [← findLatestAssetSnapshot_eq_iff]
  refine ⟨fun h => h.baseline, fun h => ?_⟩
  have hdiff : (compileAsset cx page db).2.2 =
      Fingerprints.compareFingerprints
        ((latestWritten (turnAssetId cx page db) db).map previousSnapshotToDict)
        (pageFingerprint cx page) := by
    rw [compileAsset_diff, h]
  refine ⟨h, hdiff, fun s hs hsame => ?_⟩
  rw [hdiff, hs, Option.map_some, hsame]
  exact Fingerprints.compareFingerprints_stored _

end Turn

/-! ## Runs -/

open CompileCall (Turns)

/-- **The baseline of drift**, over runs of compiles: every turn of every compile judges its drift
against the row written by the latest compile of its asset exactly when at every turn that row
has the greatest identifier among those of the asset. -/
theorem drift_judged_iff (db : Db) (calls : List CompileCall) :
    Run.Along CompileCall.step (Turns DriftJudged) db calls ↔
      Run.Along CompileCall.step
        (Turns fun cx page db => LatestIsGreatest (turnAssetId cx page db) db) db calls := by
  constructor
  · exact Run.Along.mono fun _ _ => Turns.mono fun _ _ _ => driftJudged_iff.mp
  · exact Run.Along.mono fun _ _ => Turns.mono fun _ _ _ => driftJudged_iff.mpr

/-! ## Three compiles -/

namespace DriftSample

def snapshot (id : UUID) : CrawlSnapshot where
  id := id
  systemId := 1
  crawlType := "full"
  qualityScore := some 1
  startedAt := 0

/-- Two snapshots of a system; the second shows another title on its only page. -/
def db : Db :=
  { systems := .single { id := 1, code := "erp", name := "ERP", baseUrl := "/" }
    crawlSnapshots := ⟨[snapshot 10, snapshot 11], by decide⟩
    pages := ⟨[
      { id := 20, systemId := 1, snapshotId := some 10, routePath := "/a", pageTitle := some "A" },
      { id := 21, systemId := 1, snapshotId := some 11, routePath := "/a", pageTitle := some "B" }],
      by decide⟩ }

/-- The first snapshot is compiled, then the second, twice. -/
def calls : List CompileCall :=
  [⟨.preferring 100, 1, 10⟩, ⟨.preferring 50, 2, 11⟩, ⟨.preferring 75, 3, 11⟩]

/-- Where the row written last has the hashes of the page, no drift is reported. -/
def NoDriftReported (cx : CompileContext) (page : Page) (db : Db) : Prop :=
  ∀ s ∈ (latestWritten (turnAssetId cx page db) db).toList,
    previousSnapshotToDict s = Fingerprints.PageFingerprint.stored (pageFingerprint cx page) →
      (compileAsset cx page db).2.2.status = .safe

instance (cx : CompileContext) (page : Page) (db : Db) : Decidable (NoDriftReported cx page db) := by
  unfold NoDriftReported
  infer_instance

theorem noDriftReported_of_judged {cx : CompileContext} {page : Page} {db : Db}
    (h : DriftJudged cx page db) : NoDriftReported cx page db := by
  intro s hs hsame
  rw [h.noDrift s (Option.mem_toList.mp hs) hsame]

end DriftSample

/-- The third compile sees what the second saw, and reports drift: it is judged against the first,
whose row has the greatest identifier. -/
theorem drift_judged_fails :
    ¬ ∀ (db : Db) (calls : List CompileCall),
      Run.Along CompileCall.step (Turns DriftJudged) db calls := by
  intro h
  have hsame : Run.Along CompileCall.step (Turns DriftSample.NoDriftReported) DriftSample.db
      DriftSample.calls :=
    Run.Along.mono (fun _ _ => Turns.mono fun _ _ _ => DriftSample.noDriftReported_of_judged)
      (h DriftSample.db DriftSample.calls)
  exact absurd hsame (by decide +kernel)

end AssetCompiler

end Runlet
