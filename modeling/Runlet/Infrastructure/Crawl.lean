import Runlet.Shared.Enums
import Runlet.Library.Json
import Runlet.Library.Table

/-!
# Crawl rows

The rows of `db/models/systems.py`, `db/models/crawl.py` and `db/models/crawl_history.py` that
the modelled functions read or write.  A history row has the columns of the row it archives under a
key of its own; the references between rows are kept as plain columns.
-/

namespace Runlet

open KeyedTable

structure System where
  id : UUID
  code : String
  name : String
  baseUrl : String
  frameworkType : String := ""

instance : Keyed UUID System := ⟨System.id⟩

structure CrawlSnapshot where
  id : UUID
  systemId : UUID
  crawlType : String
  frameworkDetected : Option String := none
  qualityScore : Option Rat := none
  degraded : Bool := false
  state : SnapshotState := .draft
  activatedAt : Option DateTime := none
  discardedAt : Option DateTime := none
  failureReason : Option String := none
  warningMessages : List String := []
  structureHash : Option String := none
  startedAt : DateTime
  finishedAt : Option DateTime := none
  deriving DecidableEq

instance : Keyed UUID CrawlSnapshot := ⟨CrawlSnapshot.id⟩

structure Page where
  id : UUID
  systemId : UUID
  snapshotId : Option UUID := none
  routePath : String
  pageTitle : Option String := none
  pageSummary : Option String := none
  keywords : Option Json := none
  discoverySources : Option Json := none
  entryCandidates : Option Json := none
  contextConstraints : Option Json := none
  navigationDiagnostics : Option Json := none
  crawledAt : DateTime := 0

instance : Keyed UUID Page := ⟨Page.id⟩

structure MenuNode where
  id : UUID
  systemId : UUID
  snapshotId : UUID
  parentId : Option UUID := none
  pageId : Option UUID := none
  label : String
  routePath : Option String := none
  depth : Int := 0
  sortOrder : Int := 0
  playwrightLocator : Option String := none
  discoverySources : Option Json := none
  entryCandidates : Option Json := none
  contextConstraints : Option Json := none

instance : Keyed UUID MenuNode := ⟨MenuNode.id⟩

structure PageElement where
  id : UUID
  systemId : UUID
  snapshotId : UUID
  pageId : UUID
  elementType : String
  elementRole : Option String := none
  elementText : Option String := none
  attributes : Option Json := none
  playwrightLocator : Option String := none
  stateSignature : Option String := none
  stateContext : Option Json := none
  locatorCandidates : Option (List Json) := none
  materializedBy : Option String := none
  navigationDiagnostics : Option Json := none
  stabilityScore : Option Rat := none
  usageDescription : Option String := none

instance : Keyed UUID PageElement := ⟨PageElement.id⟩

/-- The archive of a replaced snapshot: its columns, and why and for what it was replaced. -/
structure CrawlSnapshotHist where
  id : UUID
  snapshotId : UUID
  systemId : UUID
  crawlType : String
  frameworkDetected : Option String := none
  qualityScore : Option Rat := none
  degraded : Bool := false
  state : SnapshotState
  sourceActiveSnapshotId : Option UUID := none
  replacedBySnapshotId : Option UUID := none
  archiveReason : Option String := none
  activatedAt : Option DateTime := none
  discardedAt : Option DateTime := none
  failureReason : Option String := none
  warningMessages : List String := []
  structureHash : Option String := none
  startedAt : DateTime
  finishedAt : Option DateTime := none

instance : Keyed UUID CrawlSnapshotHist := ⟨CrawlSnapshotHist.id⟩

structure PageHist where
  id : UUID
  pageId : UUID
  systemId : UUID
  snapshotId : Option UUID := none
  routePath : String
  pageTitle : Option String := none
  pageSummary : Option String := none
  keywords : Option Json := none
  discoverySources : Option Json := none
  entryCandidates : Option Json := none
  contextConstraints : Option Json := none
  navigationDiagnostics : Option Json := none
  crawledAt : DateTime

instance : Keyed UUID PageHist := ⟨PageHist.id⟩

structure MenuNodeHist where
  id : UUID
  menuNodeId : UUID
  systemId : UUID
  snapshotId : UUID
  parentId : Option UUID := none
  pageId : Option UUID := none
  label : String
  routePath : Option String := none
  depth : Int := 0
  sortOrder : Int := 0
  playwrightLocator : Option String := none
  discoverySources : Option Json := none
  entryCandidates : Option Json := none
  contextConstraints : Option Json := none

instance : Keyed UUID MenuNodeHist := ⟨MenuNodeHist.id⟩

structure PageElementHist where
  id : UUID
  pageElementId : UUID
  systemId : UUID
  snapshotId : UUID
  pageId : UUID
  elementType : String
  elementRole : Option String := none
  elementText : Option String := none
  attributes : Option Json := none
  playwrightLocator : Option String := none
  stateSignature : Option String := none
  stateContext : Option Json := none
  locatorCandidates : Option (List Json) := none
  materializedBy : Option String := none
  navigationDiagnostics : Option Json := none
  stabilityScore : Option Rat := none
  usageDescription : Option String := none

instance : Keyed UUID PageElementHist := ⟨PageElementHist.id⟩

end Runlet
