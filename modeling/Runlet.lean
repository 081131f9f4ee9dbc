import Runlet.Api.Credentials
import Runlet.AssetCompiler.ArchivedFacts
import Runlet.AssetCompiler.AssetKeys
import Runlet.AssetCompiler.CompiledPlans
import Runlet.AssetCompiler.DefaultStates
import Runlet.AssetCompiler.Drift
import Runlet.AssetCompiler.LifecycleInvariant
import Runlet.AssetCompiler.NavigationChains
import Runlet.AssetCompiler.OwnChecks
import Runlet.AssetCompiler.RetirementDecisions
import Runlet.AssetCompiler.RowOrder
import Runlet.AssetCompiler.SemanticComparison
import Runlet.AssetCompiler.SwitchInvariant
import Runlet.ControlPlane.ArchivedSystems
import Runlet.ControlPlane.Candidates
import Runlet.ControlPlane.CascadeTransaction
import Runlet.ControlPlane.FailedOnboarding
import Runlet.ControlPlane.OtherSystems
import Runlet.ControlPlane.OwnWork
import Runlet.ControlPlane.PolicyUpserts
import Runlet.ControlPlane.ProbeRequests
import Runlet.ControlPlane.PublishedLinks
import Runlet.ControlPlane.Recommendation
import Runlet.ControlPlane.Reload
import Runlet.ControlPlane.RepeatedOnboarding
import Runlet.ControlPlane.RetiredTargets
import Runlet.ControlPlane.RoundTrip
import Runlet.CrawlerService.CrawlOnce
import Runlet.CrawlerService.Extractors.DegradedDiscovery
import Runlet.CrawlerService.Extractors.DisallowedProbes
import Runlet.CrawlerService.Extractors.DiscoveredVisits
import Runlet.CrawlerService.Extractors.MenuMerge
import Runlet.CrawlerService.Extractors.ProbeTrace
import Runlet.CrawlerService.Extractors.StateElements
import Runlet.CrawlerService.Extractors.StateSeparation
import Runlet.CrawlerService.NavigationBudgets
import Runlet.CrawlerService.PageRows
import Runlet.CrawlerService.PageVisits
import Runlet.CrawlerService.PersistedFacts
import Runlet.CrawlerService.RouteNormalizers
import Runlet.Jobs.AuthRefreshJob
import Runlet.Jobs.CrawlFailure
import Runlet.Jobs.Freshness
import Runlet.Jobs.JobRuns
import Runlet.Jobs.Reruns
import Runlet.Jobs.RetiredChecks
import Runlet.Jobs.StepFailures
import Runlet.Library.Stages
import Runlet.RunnerService.CronAgreement
import Runlet.RunnerService.ModalTargets
import Runlet.RunnerService.OncePerMinute
import Runlet.RunnerService.RenderedSteps
import Runlet.RunnerService.StateChecks
import Runlet.RunnerService.TemplateSlots
import Runlet.Runtime.PolicyInterleavings
import Runlet.Workers.HandedOnce
import Runlet.Workers.Wiring
