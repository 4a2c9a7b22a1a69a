import BrokerBridge.Channel.Basic
import BrokerBridge.Identity
import BrokerBridge.Settings.Basic

/-!
# Routing rules

A rule says where the deliveries of one queue go.  The bridge serves five rules: one for the queue
of CEGA, whose messages go to the exchange of LEGA, and one for each status queue of LEGA, whose
messages go to the exchange of CEGA (`RoutingRule.standard`).
-/
namespace BrokerBridge

/-- Where the deliveries of a queue go. -/
structure RoutingRule where
  queue : String
  direction : Direction
  exchange : String
  defaultRoutingKey : String
  deriving DecidableEq, Repr

/-- The routing key of error records. -/
def errorRoutingKey : String := "files.error"

/-- The status queues of LEGA, each with the routing key of a message without a type. -/
def statusQueues : List (String × String) := [
  ("error", "files.error"),
  ("verified", "files.verified"),
  ("completed", "files.completed"),
  ("inbox", "files.inbox")]

/-- The rules of the bridge. -/
def RoutingRule.standard (s : Settings) : List RoutingRule :=
  ⟨s.cega.queue, .cegaToLega, s.lega.exchange, ""⟩ ::
    statusQueues.map fun (queue, key) => ⟨queue, .legaToCega, s.cega.exchange, key⟩

/-- **The five rules of the bridge.** -/
theorem RoutingRule.mem_standard_iff {s : Settings} {rule : RoutingRule} :
    rule ∈ RoutingRule.standard s ↔
      rule = ⟨s.cega.queue, .cegaToLega, s.lega.exchange, ""⟩ ∨
      rule = ⟨"error", .legaToCega, s.cega.exchange, "files.error"⟩ ∨
      rule = ⟨"verified", .legaToCega, s.cega.exchange, "files.verified"⟩ ∨
      rule = ⟨"completed", .legaToCega, s.cega.exchange, "files.completed"⟩ ∨
      rule = ⟨"inbox", .legaToCega, s.cega.exchange, "files.inbox"⟩ := by
  simp [standard, statusQueues]

/-- The channel on which deliveries of a direction are consumed and settled. -/
def Direction.source : Direction → Endpoint
  | .cegaToLega => .cegaConsume
  | .legaToCega => .legaConsume

/-- The channel on which messages of a direction are published. -/
def Direction.destination : Direction → Endpoint
  | .cegaToLega => .legaPublish
  | .legaToCega => .cegaPublish

end BrokerBridge
