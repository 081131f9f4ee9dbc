import Runlet.AssetCompiler.LocatorBundles
import Runlet.Library.Attempts
import Runlet.Library.Sha256
import Runlet.Infrastructure.Database

/-!
# Persisting a crawl

The part of `crawler_service/service.py` that writes rows: a draft snapshot and the pages, menus
and elements that were extracted.  What the browser shows is a parameter (`CrawlAttempt`); a call
that raises may have flushed some of its rows, and it is the caller that commits or not.
-/

namespace Runlet

open KeyedTable
open Attempt (exists_bind_eq_ok_iff)

structure PageCandidate where
  routePath : String
  pageTitle : Option String := none
  pageSummary : Option String := none
  keywords : Option Json := none
  discoverySources : List String := []
  entryCandidates : List Json := []
  contextConstraints : Option Json := none
  navigationDiagnostics : Option Json := none

structure MenuCandidate where
  label : String
  routePath : Option String := none
  depth : Int := 0
  sortOrder : Int := 0
  playwrightLocator : Option String := none
  parentLabel : Option String := none
  pageRoutePath : Option String := none
  discoverySources : List String := []
  entryCandidates : List Json := []
  contextConstraints : Option Json := none
  navigationIdentity : Option Json := none
  parentNavigationIdentity : Option Json := none

structure ElementCandidate where
  pageRoutePath : String
  elementType : String
  stateSignature : Option String := none
  stateContext : Option Json := none
  locatorCandidates : List Json := []
  elementRole : Option String := none
  elementText : Option String := none
  attributes : Option Json := none
  playwrightLocator : Option String := none
  materializedBy : Option String := none
  navigationDiagnostics : Option Json := none
  stabilityScore : Option Rat := none
  usageDescription : Option String := none

structure CrawlExtractionResult where
  frameworkDetected : Option String := none
  qualityScore : Option Rat := none
  pages : List PageCandidate := []
  menus : List MenuCandidate := []
  elements : List ElementCandidate := []
  failureReason : Option String := none
  warningMessages : List String := []
  degraded : Bool := false

/-- How a crawl goes, up to the writing of its rows. -/
inductive CrawlAttempt where
  /-- It ends without a snapshot. -/
  | refused (status : String) (message : Option String)
  /-- It raises; `flushed` is what it had written by then, if anything. -/
  | raised (flushed : Option CrawlExtractionResult) (message : String)
  | extracted (extraction : CrawlExtractionResult) (message : Option String)

structure CrawlRunResult where
  systemId : UUID
  status : String
  snapshotId : Option UUID := none
  pagesSaved : ℕ := 0
  menusSaved : ℕ := 0
  elementsSaved : ℕ := 0
  message : Option String := none

namespace CrawlerService

/-! ## Navigation identities -/

/-- The text `_serialize_navigation_identity` builds, as the fields it is built from. -/
structure NavigationIdentity where
  label : String
  depth : Int
  role : Option String
  ariaLabel : Option String
  siblingIndex : Option Int
  deriving DecidableEq

/-- `int(value)` of a floating-point number: towards zero. -/
def truncate (q : Rat) : Int :=
  if 0 ≤ q then q.floor else q.ceil

/-- A whole number in one of the forms that are accepted.  A text of digits is one of them; `int`,
which reads it, may refuse the digits. -/
def wholeNumber : Option Json → Except String (Option Int)
  | some (.int n) => .ok (some n)
  | some (.float _ q) => .ok (some (truncate q))
  | some (.str s) =>
    if Digits.isDigits (Text.strip s) then (Digits.read (Text.strip s)).map some else .ok none
  | _ => .ok none

def textField (v : Json) (name : String) : Option String :=
  match v.get? name with
  | some (.str s) => if Text.strip s = "" then none else some (Text.strip s)
  | _ => none

/-- `_serialize_navigation_identity`. -/
def serializeNavigationIdentity : Option Json → Except String (Option NavigationIdentity)
  | some (.obj entries) =>
    let v := Json.obj entries
    match textField v "label", v.get? "depth" with
    | none, _ => .ok none
    | some _, some (.bool _) => .ok none
    | some label, depth => do
      let depth ← wholeNumber depth
      let siblingIndex ← wholeNumber (v.get? "sibling_index")
      return some
        { label := label
          depth := depth.getD 0
          role := textField v "role"
          ariaLabel := textField v "aria_label"
          siblingIndex := siblingIndex }
  | _ => .ok none

/-- Digits for which `int` raises. -/
def IsRefused : Option Json → Prop
  | some (.str s) => Digits.Unreadable (Text.strip s)
  | _ => False

theorem exists_wholeNumber_iff {value : Option Json} :
    (∃ n, wholeNumber value = .ok n) ↔ ¬ IsRefused value := by
  match value with
  | none => exact ⟨fun _ => not_false, fun _ => ⟨none, rfl⟩⟩
  | some .null => exact ⟨fun _ => not_false, fun _ => ⟨none, rfl⟩⟩
  | some (.bool _) => exact ⟨fun _ => not_false, fun _ => ⟨none, rfl⟩⟩
  | some (.int n) => exact ⟨fun _ => not_false, fun _ => ⟨some n, rfl⟩⟩
  | some (.float _ q) => exact ⟨fun _ => not_false, fun _ => ⟨some (truncate q), rfl⟩⟩
  | some (.arr _) => exact ⟨fun _ => not_false, fun _ => ⟨none, rfl⟩⟩
  | some (.obj _) => exact ⟨fun _ => not_false, fun _ => ⟨none, rfl⟩⟩
  | some (.str s) =>
    rw [wholeNumber, IsRefused]
    by_cases hdigits : Digits.isDigits (Text.strip s) = true
    · rw [if_pos hdigits, ← Digits.exists_read_iff hdigits]
      cases hread : Digits.read (Text.strip s) with
      | ok n => exact ⟨fun _ => ⟨n, rfl⟩, fun _ => ⟨some n, rfl⟩⟩
      | error e => exact ⟨fun h => (nomatch h), fun h => (nomatch h)⟩
    · rw [if_neg hdigits]
      exact ⟨fun _ h => hdigits h.1, fun _ => ⟨none, rfl⟩⟩

/-- The numbers that are read from a navigation identity. -/
def serializedNumbers : Option Json → List (Option Json)
  | some (.obj entries) =>
    match textField (.obj entries) "label", (Json.obj entries).get? "depth" with
    | none, _ => []
    | some _, some (.bool _) => []
    | some _, depth => [depth, (Json.obj entries).get? "sibling_index"]
  | _ => []

theorem exists_serializeNavigationIdentity_iff {value : Option Json} :
    (∃ identity, serializeNavigationIdentity value = .ok identity) ↔
      ∀ v ∈ serializedNumbers value, ¬ IsRefused v := by
  unfold serializeNavigationIdentity serializedNumbers
  split
  next entries =>
    dsimp only
    split
    · exact ⟨fun _ v hv => absurd hv List.not_mem_nil, fun _ => ⟨none, rfl⟩⟩
    · exact ⟨fun _ v hv => absurd hv List.not_mem_nil, fun _ => ⟨none, rfl⟩⟩
    · rw [exists_bind_eq_ok_iff]
      simp only [List.forall_mem_cons, ← exists_wholeNumber_iff]
      constructor
      · rintro ⟨depth, hdepth, h⟩
        obtain ⟨siblingIndex, hsibling, -⟩ := exists_bind_eq_ok_iff.mp h
        exact ⟨⟨depth, hdepth⟩, ⟨siblingIndex, hsibling⟩, fun v hv => absurd hv List.not_mem_nil⟩
      · rintro ⟨⟨depth, hdepth⟩, ⟨siblingIndex, hsibling⟩, -⟩
        exact ⟨depth, hdepth, exists_bind_eq_ok_iff.mpr ⟨siblingIndex, hsibling, _, rfl⟩⟩
  next => exact ⟨fun _ v hv => absurd hv List.not_mem_nil, fun _ => ⟨none, rfl⟩⟩

/-! ## Writing the rows -/

/-- A dictionary, as its assignments from the latest to the first. -/
abbrev Assignments (κ : Type) :=
  List (κ × UUID)

def Assignments.get? {κ : Type} [DecidableEq κ] (l : Assignments κ) (k : κ) : Option UUID :=
  (l.find? fun e => e.1 = k).map Prod.snd

def buildSnapshot (systemId : UUID) (crawlScope systemFramework : String)
    (extraction : CrawlExtractionResult) (startedAt : DateTime) (id : UUID) : CrawlSnapshot where
  id := id
  systemId := systemId
  crawlType := crawlScope
  frameworkDetected :=
    some (if extraction.frameworkDetected.getD "" = "" then systemFramework
      else extraction.frameworkDetected.getD "")
  qualityScore := extraction.qualityScore
  degraded := extraction.degraded
  state := .draft
  failureReason := extraction.failureReason
  warningMessages := extraction.warningMessages
  structureHash := some (Sha256.hexdigest (Json.dumps true (.arr
    ((extraction.pages.map (·.routePath)).insertionSort (· ≤ ·) |>.map .str))))
  startedAt := startedAt

def textArray (l : List String) : Option Json :=
  some (.arr (l.map .str))

/-- One turn of `_persist_pages`: the row and its entry in `page_map`. -/
def persistPage (ids : IdSource) (now : DateTime) (systemId snapshotId : UUID)
    (acc : Db × Assignments String) (candidate : PageCandidate) : Db × Assignments String :=
  let pageId := acc.1.pages.nextKey ids
  ({ acc.1 with
      pages := acc.1.pages.insert ids fun id =>
        { id := id
          systemId := systemId
          snapshotId := some snapshotId
          routePath := candidate.routePath
          pageTitle := candidate.pageTitle
          pageSummary := candidate.pageSummary
          keywords := candidate.keywords
          discoverySources := textArray candidate.discoverySources
          entryCandidates := some (.arr candidate.entryCandidates)
          contextConstraints := candidate.contextConstraints
          navigationDiagnostics := candidate.navigationDiagnostics
          crawledAt := now } },
    (candidate.routePath, pageId) :: acc.2)

/-- What `_persist_menus` keeps: the database, and the menus by identity and by label. -/
structure MenuState where
  db : Db
  byIdentity : Assignments NavigationIdentity := []
  byLabel : Assignments String := []

/-- `a or b or ""`. -/
def orText (a b : Option String) : String :=
  if a.getD "" = "" then b.getD "" else a.getD ""

/-- The row of a menu, and its entry among the labels. -/
def storeMenu (ids : IdSource) (systemId snapshotId : UUID) (pageMap : Assignments String)
    (parentIdentity : Option NavigationIdentity) (st : MenuState) (candidate : MenuCandidate) :
    MenuState :=
  let menuId := st.db.menuNodes.nextKey ids
  let parentId :=
    (parentIdentity.bind st.byIdentity.get?).or (st.byLabel.get? (candidate.parentLabel.getD ""))
  { st with
    db :=
      { st.db with
        menuNodes := st.db.menuNodes.insert ids fun id =>
          { id := id
            systemId := systemId
            snapshotId := snapshotId
            parentId := parentId
            pageId := pageMap.get? (orText candidate.pageRoutePath candidate.routePath)
            label := candidate.label
            routePath := candidate.routePath
            depth := candidate.depth
            sortOrder := candidate.sortOrder
            playwrightLocator := candidate.playwrightLocator
            discoverySources := textArray candidate.discoverySources
            entryCandidates := some (.arr candidate.entryCandidates)
            contextConstraints := candidate.contextConstraints } }
    byLabel := (candidate.label, menuId) :: st.byLabel }

/-- One turn of `_persist_menus`.  The identity of the parent is read before the row is written, the
menu's own afterwards. -/
def persistMenu (ids : IdSource) (systemId snapshotId : UUID) (pageMap : Assignments String)
    (st : MenuState) (candidate : MenuCandidate) : MenuState × Except String Unit :=
  match serializeNavigationIdentity candidate.parentNavigationIdentity with
  | .error message => (st, .error message)
  | .ok parentIdentity =>
    let menuId := st.db.menuNodes.nextKey ids
    let stored := storeMenu ids systemId snapshotId pageMap parentIdentity st candidate
    match serializeNavigationIdentity candidate.navigationIdentity with
    | .error message => (stored, .error message)
    | .ok none => (stored, .ok ())
    | .ok (some identity) =>
      ({ stored with byIdentity := (identity, menuId) :: stored.byIdentity }, .ok ())

/-- `_persist_menus`: what it has written when it ends or raises. -/
def persistMenus (ids : IdSource) (systemId snapshotId : UUID) (pageMap : Assignments String) :
    MenuState → List MenuCandidate → MenuState × Except String Unit
  | st, [] => (st, .ok ())
  | st, candidate :: menus =>
    match persistMenu ids systemId snapshotId pageMap st candidate with
    | (st, .error message) => (st, .error message)
    | (st, .ok ()) => persistMenus ids systemId snapshotId pageMap st menus

def persistElement (ids : IdSource) (systemId snapshotId : UUID) (pageMap : Assignments String)
    (db : Db) (candidate : ElementCandidate) : Db :=
  match pageMap.get? candidate.pageRoutePath with
  | none => db
  | some pageId =>
    { db with
      pageElements := db.pageElements.insert ids fun id =>
        { id := id
          systemId := systemId
          snapshotId := snapshotId
          pageId := pageId
          elementType := candidate.elementType
          elementRole := candidate.elementRole
          elementText := candidate.elementText
          attributes := candidate.attributes
          playwrightLocator := candidate.playwrightLocator
          stateSignature := candidate.stateSignature
          stateContext := candidate.stateContext
          locatorCandidates := some candidate.locatorCandidates
          materializedBy := candidate.materializedBy
          navigationDiagnostics := candidate.navigationDiagnostics
          stabilityScore := candidate.stabilityScore
          usageDescription := candidate.usageDescription } }

/-- The facts of a snapshot: pages, then menus, then elements. -/
def persistFacts (ids : IdSource) (now : DateTime) (systemId snapshotId : UUID)
    (extraction : CrawlExtractionResult) (db : Db) : Db × Except String Unit :=
  let (db, pageMap) := extraction.pages.foldl (persistPage ids now systemId snapshotId) (db, [])
  match persistMenus ids systemId snapshotId pageMap { db := db } extraction.menus with
  | (menus, .error message) => (menus.db, .error message)
  | (menus, .ok ()) =>
    (extraction.elements.foldl (persistElement ids systemId snapshotId pageMap) menus.db, .ok ())

/-! ### What the loops leave alone -/

section Frame

variable (ids : IdSource) (now : DateTime) (systemId snapshotId : UUID)
  (pageMap : Assignments String)

theorem outside_foldl_persistPage (l : List PageCandidate) (acc : Db × Assignments String)
    (pages : Table Page) :
    { (l.foldl (persistPage ids now systemId snapshotId) acc).1 with pages := pages } =
      { acc.1 with pages := pages } := by
  induction l generalizing acc with
  | nil => rfl
  | cons candidate l ih => exact ih _

theorem outside_persistMenu (st : MenuState) (candidate : MenuCandidate)
    (menuNodes : Table MenuNode) :
    { (persistMenu ids systemId snapshotId pageMap st candidate).1.db with menuNodes := menuNodes } =
      { st.db with menuNodes := menuNodes } := by
  unfold persistMenu
  split
  · rfl
  · dsimp only
    split <;> rfl

theorem outside_persistMenus (l : List MenuCandidate) (st : MenuState)
    (menuNodes : Table MenuNode) :
    { (persistMenus ids systemId snapshotId pageMap st l).1.db with menuNodes := menuNodes } =
      { st.db with menuNodes := menuNodes } := by
  induction l generalizing st with
  | nil => rfl
  | cons candidate l ih =>
    have hone := outside_persistMenu ids systemId snapshotId pageMap st candidate menuNodes
    unfold persistMenus
    split
    next heq =>
      rw [heq] at hone
      exact hone
    next heq =>
      rw [heq] at hone
      exact (ih _).trans hone

theorem outside_foldl_persistElement (l : List ElementCandidate) (db : Db)
    (pageElements : Table PageElement) :
    { l.foldl (persistElement ids systemId snapshotId pageMap) db with
        pageElements := pageElements } = { db with pageElements := pageElements } := by
  induction l generalizing db with
  | nil => rfl
  | cons candidate l ih =>
    refine (ih _).trans ?_
    unfold persistElement
    split <;> rfl

/-- What does not look at pages, menus and elements is the same when the facts were written. -/
theorem persistFacts_frame {α : Type*} (f : Db → α)
    (hpages : ∀ (db : Db) pages, f { db with pages := pages } = f db)
    (hmenus : ∀ (db : Db) menuNodes, f { db with menuNodes := menuNodes } = f db)
    (helements : ∀ (db : Db) pageElements, f { db with pageElements := pageElements } = f db)
    (extraction : CrawlExtractionResult) (db : Db) :
    f (persistFacts ids now systemId snapshotId extraction db).1 = f db := by
  have hafterPages :
      f (extraction.pages.foldl (persistPage ids now systemId snapshotId) (db, [])).1 = f db :=
    (hpages _ .empty).symm.trans ((congrArg f
      (outside_foldl_persistPage ids now systemId snapshotId extraction.pages (db, []) .empty)).trans
        (hpages _ .empty))
  unfold persistFacts
  generalize extraction.pages.foldl (persistPage ids now systemId snapshotId) (db, []) = stored
    at hafterPages ⊢
  have hafterMenus : f (persistMenus ids systemId snapshotId stored.2 { db := stored.1 }
      extraction.menus).1.db = f stored.1 :=
    (hmenus _ .empty).symm.trans ((congrArg f (outside_persistMenus ids systemId snapshotId stored.2
      extraction.menus { db := stored.1 } .empty)).trans (hmenus _ .empty))
  dsimp only
  generalize persistMenus ids systemId snapshotId stored.2 { db := stored.1 } extraction.menus = run
    at hafterMenus ⊢
  obtain ⟨menus, outcome⟩ := run
  cases outcome with
  | error message => exact hafterMenus.trans hafterPages
  | ok =>
    have hafterElements := (helements _ .empty).symm.trans ((congrArg f
      (outside_foldl_persistElement ids systemId snapshotId stored.2 extraction.elements menus.db
        .empty)).trans (helements _ .empty))
    exact hafterElements.trans (hafterMenus.trans hafterPages)

/-- The facts of a snapshot are no snapshots. -/
theorem crawlSnapshots_persistFacts (extraction : CrawlExtractionResult) (db : Db) :
    (persistFacts ids now systemId snapshotId extraction db).1.crawlSnapshots =
      db.crawlSnapshots :=
  persistFacts_frame ids now systemId snapshotId Db.crawlSnapshots (fun _ _ => rfl) (fun _ _ => rfl)
    (fun _ _ => rfl) extraction db

end Frame

/-- `_persist_crawl_result` up to the last flush: the rows it leaves, and whether it raises. -/
def persistCrawlResult (ids : IdSource) (now : DateTime) (systemId : UUID)
    (crawlScope systemFramework : String) (extraction : CrawlExtractionResult) (db : Db) :
    Db × Except String Unit :=
  persistFacts ids now systemId (db.crawlSnapshots.nextKey ids) extraction
    { db with
      crawlSnapshots := db.crawlSnapshots.insert ids
        (buildSnapshot systemId crawlScope systemFramework extraction now) }

/-- The rows that `_persist_crawl_result` leaves in the session, whether it raises or not. -/
def persistRows (ids : IdSource) (now : DateTime) (systemId : UUID)
    (crawlScope systemFramework : String) (extraction : CrawlExtractionResult) (db : Db) : Db :=
  (persistCrawlResult ids now systemId crawlScope systemFramework extraction db).1

/-- `run_crawl` with `auto_commit=False`: the rows it leaves in the session, and how it ends. -/
def runCrawl (attempt : CrawlAttempt) (ids : IdSource) (now : DateTime) (systemId : UUID)
    (crawlScope : String) (db : Db) : Db × Except String CrawlRunResult :=
  match db.systems.get? systemId with
  | none => (db, .ok { systemId := systemId, status := "failed", message := some "system not found" })
  | some system =>
    match attempt with
    | .refused status message =>
      (db, .ok { systemId := systemId, status := status, message := message })
    | .raised none message => (db, .error message)
    | .raised (some flushed) message =>
      (persistRows ids now systemId crawlScope system.frameworkType flushed db, .error message)
    | .extracted extraction message =>
      let snapshotId := db.crawlSnapshots.nextKey ids
      let persisted := persistRows ids now systemId crawlScope system.frameworkType extraction db
      match (persistCrawlResult ids now systemId crawlScope system.frameworkType extraction db).2 with
      | .error error => (persisted, .error error)
      | .ok () =>
        ({ persisted with
            crawlSnapshots := persisted.crawlSnapshots.update (fun s => s.id = snapshotId)
              fun s => { s with finishedAt := some now } },
          .ok
            { systemId := systemId
              status := "success"
              snapshotId := some snapshotId
              pagesSaved := (extraction.pages.map (·.routePath)).eraseDups.length
              menusSaved := extraction.menus.length
              elementsSaved := extraction.elements.length
              message := message })

end CrawlerService

end Runlet
