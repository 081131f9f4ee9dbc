import Runlet.AssetCompiler.Compiled
import Runlet.AssetCompiler.Dependencies

/-!
# A compile and its own checks

A compile derives checks from the pages of a snapshot, and then retires the checks that the truth
of the same snapshot does not support.  The two sides disagree in two ways: a check is derived from
the type of an element but retired by its type and its role, and a check is derived from one page
but retired by the route of the page that has its asset in the end, which is the last page with the
same asset key.

`retires_no_own_check_iff` says exactly when a compile keeps all the checks it derives.
-/

namespace Runlet

open KeyedTable

namespace AssetCompiler

section OwnChecks

variable (cx : CompileContext)

/-- What the row of a check is found by: the key of its asset, and its code. -/
def writeKey (w : CheckWrite) : String × String :=
  (assetKeyOf cx w.1, w.2.checkCode)

/-- What is written last under an asset key and a code. -/
def lastWrite (i : String × String) : Option CheckWrite :=
  Dict.latest ((checkWrites cx cx.pages).map fun w => (writeKey cx w, w)) i

/-- The page that has an asset in the end. -/
def lastPage (assetKey : String) : Option Page :=
  Dict.latest (assetHistory cx cx.pages) (cx.system.id, assetKey)

/-- Every check finds what it needs on the route of the page that has its asset in the end. -/
def OwnChecksShown : Prop :=
  ∀ i w page, lastWrite cx i = some w → lastPage cx i.1 = some page →
    Text.strip page.routePath ≠ "" →
      ShowsNeeds cx w.1 w.2.checkCode (Text.strip page.routePath)

/-- No check that the loop creates or refreshes is retired by the decisions of the same compile. -/
def RetiresNoOwnCheck (db : Db) : Prop :=
  ∀ id ∈ (compilePages cx db).pageCheckIds,
    ∀ decision ∈ retirementDecisions cx (qualityGate cx db) (compilePages cx db).db,
      id ∉ decision.pageCheckIds

variable {cx} {db : Db}

/-- The rows of checks and what they are found by correspond to each other. -/
theorem lastWrite_eq_latest {H : CheckHistory} (hH : H.map Prod.snd = checkWrites cx cx.pages)
    (hinv : LoopInv cx db cx.pages H (compilePages cx db)) {e : (UUID × String) × CheckWrite}
    (he : e ∈ H) : lastWrite cx (writeKey cx e.2) = Dict.latest H e.1 := by
  have hkeys : ∀ a ∈ H, ∀ b ∈ H, writeKey cx a.2 = writeKey cx b.2 ↔ a.1 = b.1 := by
    intro a ha b hb
    obtain ⟨hacode, x, hx, hxid⟩ := hinv.checks.named a ha
    obtain ⟨hbcode, y, hy, hyid⟩ := hinv.checks.named b hb
    constructor
    · intro h
      obtain ⟨hkey, hcode⟩ := Prod.mk.inj h
      have hindex : assetIndex cx a.2.1 = assetIndex cx b.2.1 := Prod.ext rfl hkey
      rw [hindex, hy, Option.some_inj] at hx
      refine Prod.ext ?_ (hacode.trans (hcode.trans hbcode.symm))
      rw [← hxid, ← hyid, hx]
    · intro h
      have hxy : x = y := Table.eq_of_key_eq (Table.mem_of_first? hx) (Table.mem_of_first? hy)
        (hxid.trans ((congrArg Prod.fst h).trans hyid.symm))
      have hxkey := (assetSel_iff.mp (Table.pred_of_first? hx)).2
      have hykey := (assetSel_iff.mp (Table.pred_of_first? hy)).2
      rw [hxy] at hxkey
      refine Prod.ext (hxkey.symm.trans hykey) ?_
      exact hacode.symm.trans ((congrArg Prod.snd h).trans hbcode)
  unfold lastWrite
  rw [← hH, List.map_map]
  exact Dict.latest_map (f := fun e => writeKey cx e.2) hkeys he

/-- **When a derived check is retired.** -/
theorem mem_decisions_iff {H : CheckHistory} (hH : H.map Prod.snd = checkWrites cx cx.pages)
    (hinv : LoopInv cx db cx.pages H (compilePages cx db)) (hpages : PagesIn cx db)
    (hgate : (qualityGate cx db).allowRetirement = true) {i : UUID × String} {w : CheckWrite}
    {c : PageCheck} (hw : WrittenCheck H (compilePages cx db).db.pageChecks i w c) {page : Page}
    (hpage : lastPage cx (assetKeyOf cx w.1) = some page) :
    (∃ decision ∈ retirementDecisions cx (qualityGate cx db) (compilePages cx db).db,
        c.id ∈ decision.pageCheckIds) ↔
      Text.strip page.routePath ≠ "" ∧
        ¬ ShowsNeeds cx w.1 w.2.checkCode (Text.strip page.routePath) := by
  have hgood := isHighQuality_of_gate hgate
  obtain ⟨a, ha, hcheck⟩ := touchedCheck_of_written hH hinv hw
  obtain ⟨a', hasset, ha'⟩ := exists_touchedAsset_of_latest db hpage
  rw [show (cx.system.id, assetKeyOf cx w.1) = assetIndex cx w.1 from rfl, ha,
    Option.some_inj] at ha'
  subst ha'
  have hamem := Table.mem_of_first? ha
  have hroute : assetRoute (compilePages cx db).db a = Text.strip page.routePath :=
    assetRoute_of_pageId (hpages.compilePages page hasset.page_mem) hasset.pageId
  have hactive : IsActiveCheck cx (compilePages cx db).db a c :=
    ⟨⟨hamem, hasset.systemId, hasset.active hgood⟩, Table.mem_of_first? hw.2,
      hcheck.pageAssetId, hcheck.active hgood⟩
  have hdeps : dependenciesOf (compilePages cx db).db c = blockingDependencies cx w.1 w.2 := by
    unfold dependenciesOf
    rw [hcheck.dependencies]
    rfl
  rw [mem_retirementDecisions, and_iff_right hgate]
  constructor
  · rintro ⟨b, d, hbd, hcase, hid⟩
    obtain ⟨rfl, rfl⟩ := hbd.eq hactive hid
    rcases hcase with hmissing | ⟨hne, -, hsome⟩
    · exact absurd hmissing (hasset.not_missing hpages.compilePages)
    · rw [hroute] at hne hsome
      refine ⟨hne, fun hshown => ?_⟩
      rw [hdeps, (checkRetireReason_iff_showsNeeds hcheck.definition_mem hne).mpr hshown] at hsome
      exact Bool.noConfusion hsome
  · rintro ⟨hne, hnot⟩
    refine ⟨a, c, hactive, Or.inr ⟨?_, ?_, ?_⟩, rfl⟩
    · rw [hroute]
      exact hne
    · rw [hroute]
      exact mem_routePaths.mpr ⟨hne, page, hasset.page_mem, rfl⟩
    · rw [hroute, hdeps, Option.isSome_iff_ne_none]
      exact fun hnone => hnot ((checkRetireReason_iff_showsNeeds hcheck.definition_mem hne).mp hnone)

theorem retiresNoOwnCheck_iff (hpages : PagesIn cx db)
    (hgate : (qualityGate cx db).allowRetirement = true) :
    RetiresNoOwnCheck cx db ↔ OwnChecksShown cx := by
  obtain ⟨H, hH, hinv⟩ := compilePages_inv cx db
  constructor
  · intro hnone i w page hlast hpage hroute
    have hmem := Dict.mem_of_latest hlast
    obtain ⟨w', hw', heq⟩ := List.mem_map.mp hmem
    obtain ⟨rfl, rfl⟩ := Prod.mk.inj heq
    rw [← hH] at hw'
    obtain ⟨e, he, rfl⟩ := List.mem_map.mp hw'
    rw [lastWrite_eq_latest hH hinv he] at hlast
    obtain ⟨c, hc, -⟩ := hinv.checks.written.found e.1 e.2 hlast
    have hlisted := (hinv.checks.listed c.id).mpr ⟨e.1, e.2, c, ⟨hlast, hc⟩, rfl⟩
    by_contra hnot
    obtain ⟨decision, hdecision, hid⟩ :=
      (mem_decisions_iff hH hinv hpages hgate ⟨hlast, hc⟩ hpage).mpr ⟨hroute, hnot⟩
    exact hnone c.id hlisted decision hdecision hid
  · intro hshown id hid decision hdecision hretired
    obtain ⟨i, w, c, hw, rfl⟩ := (hinv.checks.listed id).mp hid
    have he := Dict.mem_of_latest hw.1
    have hmem : w ∈ checkWrites cx cx.pages := by
      rw [← hH]
      exact List.mem_map.mpr ⟨(i, w), he, rfl⟩
    obtain ⟨page, hpage⟩ := exists_latest_assetHistory (mem_checkWrites.mp hmem).1
    obtain ⟨hroute, hnot⟩ :=
      (mem_decisions_iff hH hinv hpages hgate hw hpage).mp ⟨decision, hdecision, hretired⟩
    refine hnot (hshown (writeKey cx w) w page ?_ hpage hroute)
    exact (lastWrite_eq_latest hH hinv he).trans hw.1

end OwnChecks

/-- **When a compile retires no check of its own**: exactly when every check that it derives finds
what it needs on the route of the last page with the asset key of its page. -/
theorem retires_no_own_check_iff {call : CompileCall} {db db' : Db} {cx : CompileContext}
    (hcontext : call.promotedContext db = some (cx, db'))
    (hgate : (qualityGate cx db').allowRetirement = true) :
    RetiresNoOwnCheck cx db' ↔ OwnChecksShown cx := by
  obtain ⟨draft, system, switched, -, -, -, -, rfl, rfl⟩ := call.promotedContext_cases hcontext
  exact retiresNoOwnCheck_iff (pagesIn_compileContext _ _ _ _) hgate

/-! ## A table that is a grid -/

namespace OwnCheckSample

def system : System where
  id := 1
  code := "erp"
  name := "ERP"
  baseUrl := "/"

def snapshot : CrawlSnapshot where
  id := 10
  systemId := 1
  crawlType := "full"
  qualityScore := some 1
  state := .active
  startedAt := 0

/-- An element of the type `table` and the role `grid`. -/
def element : PageElement where
  id := 30
  systemId := 1
  snapshotId := 10
  pageId := 20
  elementType := "table"
  elementRole := some "grid"

def db : Db :=
  { systems := ⟨[system], by decide⟩
    crawlSnapshots := ⟨[snapshot], by decide⟩
    pages := ⟨[{ id := 20, systemId := 1, snapshotId := some 10, routePath := "/a" }], by decide⟩
    pageElements := ⟨[element], by decide⟩ }

def call : CompileCall := ⟨.ascending, 1, 10⟩

def context : CompileContext :=
  compileContext .ascending 1 system snapshot db

end OwnCheckSample

instance (cx : CompileContext) (db : Db) : Decidable (RetiresNoOwnCheck cx db) := by
  unfold RetiresNoOwnCheck
  infer_instance

theorem retires_no_own_check_iff_sample :
    OwnCheckSample.call.promotedContext OwnCheckSample.db =
        some (OwnCheckSample.context, OwnCheckSample.db) ∧
      (qualityGate OwnCheckSample.context OwnCheckSample.db).allowRetirement = true ∧
      (RetiresNoOwnCheck OwnCheckSample.context OwnCheckSample.db ↔
        OwnChecksShown OwnCheckSample.context) :=
  have hcontext : OwnCheckSample.call.promotedContext OwnCheckSample.db =
    some (OwnCheckSample.context, OwnCheckSample.db) := rfl
  have hgate : (qualityGate OwnCheckSample.context OwnCheckSample.db).allowRetirement = true := by
    decide +kernel
  ⟨hcontext, hgate, retires_no_own_check_iff hcontext hgate⟩

/-- The check for the table is created and retired by one compile: it is derived from the type of
the element, and retired because a table is expected to have the role `table`. -/
theorem retires_no_own_check_fails :
    ¬ ∀ (call : CompileCall) (db db' : Db) (cx : CompileContext),
      call.promotedContext db = some (cx, db') →
        (qualityGate cx db').allowRetirement = true → RetiresNoOwnCheck cx db' := by
  intro h
  have hown := h OwnCheckSample.call OwnCheckSample.db OwnCheckSample.db OwnCheckSample.context rfl
    (by decide +kernel)
  exact absurd hown (by decide +kernel)

end AssetCompiler

end Runlet
