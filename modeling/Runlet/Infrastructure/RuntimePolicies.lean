import Runlet.Infrastructure.Jobs

/-!
# Policy rows

The rows of `db/models/runtime_policies.py`.  Both kinds of policy have the columns of
`RuntimePolicy`; a crawl policy has a scope as well.  The columns that only the handlers of the
queued jobs read are left out.
-/

namespace Runlet

open KeyedTable

inductive RuntimePolicyState where
  | active
  | paused
  deriving DecidableEq, Repr

/-- The columns of every policy. -/
structure RuntimePolicy where
  id : UUID
  systemId : UUID
  enabled : Bool := true
  state : RuntimePolicyState := .active
  scheduleExpr : String
  lastTriggeredAt : Option DateTime := none
  deriving DecidableEq

structure SystemAuthPolicy extends RuntimePolicy where
  deriving DecidableEq

instance : Keyed UUID SystemAuthPolicy := ⟨fun policy => policy.id⟩

structure SystemCrawlPolicy extends RuntimePolicy where
  crawlScope : String := "full"
  deriving DecidableEq

instance : Keyed UUID SystemCrawlPolicy := ⟨fun policy => policy.id⟩

/-- Enabled, and in the active state. -/
def RuntimePolicy.isActive (policy : RuntimePolicy) : Bool :=
  policy.enabled && policy.state = .active

end Runlet
