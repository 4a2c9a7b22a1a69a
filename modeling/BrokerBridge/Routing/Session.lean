import BrokerBridge.Channel.Memory
import BrokerBridge.Routing.Consumer

/-!
# Sessions

A `Session` is a bridge over four channels in memory, together with the mapping of ids and the
failures that are injected: of the store, and of each kind of operation on each channel.  An
operation whose failure is injected fails and leaves its channel as it is.

What happens to a session, one `SessionEvent` after the other, are forwards and failures that begin
or end.  `Session.run` is the session afterwards, `Session.forwards` the forwards made on the way.
-/
namespace BrokerBridge

/-! ## 1. Channels whose operations may fail -/

/-- Injected failures of the operations on a channel. -/
structure Injected where
  ack : Option ChannelError := none
  nack : Option ChannelError := none
  reject : Option ChannelError := none
  publish : Option ChannelError := none
  deriving Repr

namespace Injected

/-- The failure of a kind of operation. -/
def get (i : Injected) : OperationKind → Option ChannelError
  | .ack => i.ack
  | .nack => i.nack
  | .reject => i.reject
  | .publish => i.publish

/-- Injects a failure of a kind of operation, or removes it. -/
def set (i : Injected) (kind : OperationKind) (e : Option ChannelError) : Injected :=
  match kind with
  | .ack => { i with ack := e }
  | .nack => { i with nack := e }
  | .reject => { i with reject := e }
  | .publish => { i with publish := e }

end Injected

/-- A channel in memory whose operations may fail. -/
structure FaultyChannel where
  memory : MemoryChannel
  injected : Injected := {}
  deriving Repr

/-- Does what a channel is asked to do, unless its failure is injected. -/
def FaultyChannel.perform (c : FaultyChannel) (op : Operation) : Response × FaultyChannel :=
  match c.injected.get op.kind with
  | some e => (.error e, c)
  | none =>
    let (response, memory) := c.memory.perform op
    (response, { c with memory })

/-- The channels of a bridge. -/
abbrev BridgeChannels := Endpoints FaultyChannel

/-- Makes a call on the channels of a bridge. -/
def BridgeChannels.perform (channels : BridgeChannels) (call : Call) : Response × BridgeChannels :=
  let (response, channel) := (channels.get call.endpoint).perform call.operation
  (response, channels.set call.endpoint channel)

/-! ## 2. Sessions -/

/-- A bridge in memory. -/
structure Session where
  settings : Settings
  mapping : Mapping
  storeFailure : Option StoreFailure := none
  channels : BridgeChannels

namespace Session

/-- The resolver of the session. -/
def resolver (s : Session) : Resolver := .ofMapping s.mapping s.storeFailure

/-- The router of the session. -/
def router (s : Session) : Router := .ofSettings s.resolver s.settings

/-- Forwards a delivery under a rule. -/
def forward (s : Session) (rule : RoutingRule) (d : Delivery) :
    Outcome BridgeChannels ForwardResult :=
  (s.router.forward rule d).run BridgeChannels.perform s.channels

/-- Consumes a stream under a rule. -/
def consume (s : Session) (rule : RoutingRule) (stream : List StreamItem) :
    Outcome BridgeChannels ForwardError :=
  s.router.consume rule BridgeChannels.perform s.channels stream

/-- Makes a kind of operation on a channel fail from now on, or lets it succeed again. -/
def inject (s : Session) (endpoint : Endpoint) (kind : OperationKind) (e : Option ChannelError) :
    Session :=
  let channel := s.channels.get endpoint
  { s with
    channels := s.channels.set endpoint
      { channel with injected := channel.injected.set kind e } }

/-- Makes a channel unavailable for a reason, or available again. -/
def setUnavailable (s : Session) (endpoint : Endpoint) (reason : Option String) : Session :=
  let channel := s.channels.get endpoint
  { s with
    channels := s.channels.set endpoint
      { channel with memory := channel.memory.setUnavailable reason } }

/-- Makes every lookup fail from now on, or lets lookups succeed again. -/
def setStoreFailure (s : Session) (failure : Option StoreFailure) : Session :=
  { s with storeFailure := failure }

end Session

/-! ## 3. What happens to a session -/

/-- Something that happens to a session. -/
inductive SessionEvent where
  | forward (rule : RoutingRule) (delivery : Delivery)
  | inject (endpoint : Endpoint) (kind : OperationKind) (error : Option ChannelError)
  | setUnavailable (endpoint : Endpoint) (reason : Option String)
  | setStoreFailure (failure : Option StoreFailure)

/-- A forward that was made in a session: the router at that time, the rule, the delivery and what
came of it. -/
structure Forwarded where
  router : Router
  rule : RoutingRule
  delivery : Delivery
  outcome : Outcome BridgeChannels ForwardResult

namespace Session

/-- The session after an event. -/
def after (s : Session) : SessionEvent → Session
  | .forward rule d => { s with channels := (s.forward rule d).state }
  | .inject endpoint kind e => s.inject endpoint kind e
  | .setUnavailable endpoint reason => s.setUnavailable endpoint reason
  | .setStoreFailure failure => s.setStoreFailure failure

/-- The session after some events. -/
def run (s : Session) (events : List SessionEvent) : Session := events.foldl after s

/-- The forwards that an event makes: one or none. -/
def forwardsOf (s : Session) : SessionEvent → List Forwarded
  | .forward rule d => [⟨s.router, rule, d, s.forward rule d⟩]
  | _ => []

/-- The forwards that events make, in order. -/
def forwards (s : Session) : List SessionEvent → List Forwarded
  | [] => []
  | event :: rest => s.forwardsOf event ++ (s.after event).forwards rest

end Session

end BrokerBridge
