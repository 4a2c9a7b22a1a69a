import BrokerBridge.Log
import BrokerBridge.Routing.ErrorRecord
import BrokerBridge.Routing.Rule

/-!
# Forwarding one delivery

`Router.forward` says how a delivery is forwarded: it is transformed, published on the other side
and settled on its own side.  A delivery that cannot be transformed is nacked for good and an error
record is published; one that cannot be published is nacked to be delivered again.

The answer is a `Plan`, a tree of what to do next: note an event, call a channel and go on by its
response, or end.  `Plan.run` carries a plan out against channels; a schedule of several consumers
takes it apart step by step.
-/
namespace BrokerBridge

/-! ## 1. Events -/

/-- What happens while deliveries are forwarded. -/
inductive ForwardEvent where
  | consuming (rule : RoutingRule)
  | replaced (replacement : Replacement)
  | rejecting (rule : RoutingRule) (delivery : Delivery) (error : TransformError)
  | requeueing (rule : RoutingRule) (delivery : Delivery) (routingKey : String)
      (error : ChannelError)
  | forwarded (rule : RoutingRule) (delivery : Delivery) (routingKey : String)
  | forwardedBody (delivery : Delivery)
  deriving Repr

/-- The entry of an event. -/
def ForwardEvent.entry : ForwardEvent → Entry
  | .consuming rule =>
    ⟨.info, "Consuming queue",
      [("queue", .text rule.queue), ("direction", .text rule.direction.describe)]⟩
  | .replaced replacement => replacement.entry
  | .rejecting rule d e =>
    ⟨.warn, "Rejecting delivery",
      [("queue", .text rule.queue), ("direction", .text rule.direction.describe),
        ("correlation_id", .text d.correlation), ("error", .text e.message)]⟩
  | .requeueing rule d routingKey e =>
    ⟨.warn, "Publish failed, requeueing delivery",
      [("queue", .text rule.queue), ("to_exchange", .text rule.exchange),
        ("to_routing_key", .text routingKey), ("correlation_id", .text d.correlation),
        ("error", .text e.message)]⟩
  | .forwarded rule d routingKey =>
    ⟨.info, "Forwarded message",
      [("from_exchange", .text d.exchange), ("from_routing_key", .text d.routingKey),
        ("to_exchange", .text rule.exchange), ("to_routing_key", .text routingKey),
        ("correlation_id", .text d.correlation), ("redelivered", .flag d.redelivered)]⟩
  | .forwardedBody d => ⟨.debug, "Forwarded body", [("body", .text d.bodyText)]⟩

/-! ## 2. Results -/

/-- How a delivery was settled. -/
inductive Disposition where
  | acked
  | rejected
  | requeued
  deriving DecidableEq, Repr

/-- The operations that settle a forwarded delivery. -/
inductive Settling where
  | ack
  | nack
  deriving DecidableEq, Repr

/-- The name of a settling operation. -/
def Settling.name : Settling → String
  | .ack => "ack"
  | .nack => "nack"

/-- Why forwarding cannot go on. -/
inductive ForwardError where
  | disposition (action : Settling) (tag : Tag) (error : ChannelError)
  | errorReport (error : ChannelError)
  | errorEncode (error : Json.ReadError)
  | consume (queue : String) (error : ChannelError)
  | consumerClosed (queue : String)
  deriving DecidableEq, Repr

namespace ForwardError

/-- Why forwarding cannot go on, in words. -/
def message : ForwardError → String
  | .disposition action tag e =>
    "failed to " ++ action.name ++ " delivery " ++ toString tag.toNat ++ ": " ++ e.message
  | .errorReport e => "failed to publish error record: " ++ e.message
  | .errorEncode e => "failed to encode error record: " ++ e.message
  | .consume queue e => "consumer for queue '" ++ queue ++ "' failed: " ++ e.message
  | .consumerClosed queue => "consumer for queue '" ++ queue ++ "' closed"

/-- What stands behind the failure. -/
def sources : ForwardError → List String
  | .disposition _ _ e | .errorReport e | .consume _ e => e.chain
  | .errorEncode e => [e.message]
  | .consumerClosed _ => []

end ForwardError

/-! ## 3. Plans -/

/-- What to do, step by step, up to a result. -/
inductive Plan (α : Type) where
  | done (result : α)
  | note (event : ForwardEvent) (next : Plan α)
  | call (request : Call) (next : Response → Plan α)

/-- What came of a plan: the result, the calls made with their responses, the events noted and the
state of the channels. -/
structure Outcome (σ α : Type) where
  result : α
  calls : List (Call × Response)
  events : List ForwardEvent
  state : σ

/-- Carries out a plan; `perform` makes a call on channels in state `s`. -/
def Plan.run (perform : σ → Call → Response × σ) (s : σ) : Plan α → Outcome σ α
  | .done result => ⟨result, [], [], s⟩
  | .note event next =>
    let o := next.run perform s
    { o with events := event :: o.events }
  | .call request next =>
    let (response, s) := perform s request
    let o := (next response).run perform s
    { o with calls := (request, response) :: o.calls }

/-- Notes events in order before a plan. -/
def Plan.noting (events : List ForwardEvent) (plan : Plan α) : Plan α :=
  events.foldr .note plan

/-! ## 4. The router -/

/-- What forwarding has to know. -/
structure Router where
  resolver : Resolver
  legaQueue : String
  cegaExchange : String

/-- The router of some settings. -/
def Router.ofSettings (resolver : Resolver) (s : Settings) : Router :=
  ⟨resolver, s.lega.queue, s.cega.exchange⟩

/-- What forwarding a delivery ends in. -/
abbrev ForwardResult := Except ForwardError Disposition

namespace Router

/-- The routing key of a transformed message.  LEGA takes all messages under one key; CEGA takes
them under their type, when they have one. -/
def routingKey (r : Router) (rule : RoutingRule) (t : Transformed) : String :=
  match rule.direction with
  | .cegaToLega => r.legaQueue
  | .legaToCega => t.messageType.getD rule.defaultRoutingKey

/-- Acks a delivery and goes on when that succeeds. -/
def ack (rule : RoutingRule) (d : Delivery) (next : Plan ForwardResult) : Plan ForwardResult :=
  .call ⟨rule.direction.source, .ack d.tag false⟩ fun
    | .ok () => next
    | .error e => .done (.error (.disposition .ack d.tag e))

/-- Nacks a delivery and goes on when that succeeds. -/
def nack (rule : RoutingRule) (d : Delivery) (requeue : Bool) (next : Plan ForwardResult) :
    Plan ForwardResult :=
  .call ⟨rule.direction.source, .nack d.tag false requeue⟩ fun
    | .ok () => next
    | .error e => .done (.error (.disposition .nack d.tag e))

/-- Publishes on the destination's channel. -/
def publish (endpoint : Endpoint) (exchange routingKey : String) (p : Publishing)
    (next : Response → Plan ForwardResult) : Plan ForwardResult :=
  .call ⟨endpoint, .publish ⟨exchange, routingKey, false, false, p⟩⟩ next

/-- Publishes the error record of a delivery. -/
def reportError (r : Router) (d : Delivery) (e : TransformError) : Plan ForwardResult :=
  publish .cegaPublish r.cegaExchange errorRoutingKey ((ErrorRecord.ofFailure d e).publishing d) fun
    | .ok () => .done (.ok .rejected)
    | .error e => .done (.error (.errorReport e))

/-- Publishes a transformed message and settles its delivery. -/
def deliver (r : Router) (rule : RoutingRule) (d : Delivery) (t : Transformed) :
    Plan ForwardResult :=
  let key := r.routingKey rule t
  publish rule.direction.destination rule.exchange key t.publishing fun
    | .ok () =>
      ack rule d <|
        .noting [.forwarded rule d key, .forwardedBody d] <| .done (.ok .acked)
    | .error e =>
      .note (.requeueing rule d key e) <| nack rule d true <| .done (.ok .requeued)

/-- Forwards a delivery and settles it. -/
def forward (r : Router) (rule : RoutingRule) (d : Delivery) : Plan ForwardResult :=
  match transform r.resolver rule.direction d with
  | .error e => .note (.rejecting rule d e) <| nack rule d false <| r.reportError d e
  | .ok t => .noting (t.replaced.map ForwardEvent.replaced).toList <| r.deliver rule d t

end Router

end BrokerBridge
