import BrokerBridge.Routing.Session

/-!
# Several consumers at once

Consumers share one router and its lock.  A consumer that has a delivery waits for the lock,
forwards the delivery with the lock in its hands, and gives the lock back at the end of the forward,
whatever the forward ends in.  It may be suspended anywhere on the way, also in a publication before
that acts.

`Crowd.step` lets one consumer take one step, so a list of the numbers of consumers is an
interleaving (`Crowd.follow`); `Crowd.run` takes turns.  The crowd remembers the forwards in the
order in which they took the lock (`Crowd.turns`) and the calls in the order in which they were made
(`Crowd.trace`).
-/
namespace BrokerBridge

/-! ## 1. Consumers -/

/-- A forward among those of all consumers.  Its number counts the forwards that took the lock
before it. -/
structure Turn where
  number : Nat
  consumer : Nat
  rule : RoutingRule
  delivery : Delivery

/-- Where a forward stands. -/
inductive Phase where
  /-- At the transformation of the delivery. -/
  | transforming
  /-- Between two steps of its plan. -/
  | following (plan : Plan ForwardResult)
  /-- Suspended in a publication. -/
  | publishing (request : Call) (next : Response → Plan ForwardResult)

/-- Where a consumer stands. -/
inductive Stage where
  /-- Between deliveries. -/
  | ready (stream : List StreamItem)
  /-- With a delivery, waiting for the lock. -/
  | waiting (delivery : Delivery) (stream : List StreamItem)
  /-- Forwarding, with the lock. -/
  | forwarding (turn : Turn) (phase : Phase) (stream : List StreamItem)
  | ended (error : ForwardError)

/-- A consumer: its rule and where it stands. -/
structure Consumer where
  rule : RoutingRule
  stage : Stage

namespace Stage

/-- Whether a consumer is forwarding: between the start of a transformation and the end of the
settlement. -/
def isForwarding : Stage → Bool
  | .forwarding .. => true
  | _ => false

/-- Whether a consumer is in the midst of a publication. -/
def isPublishing : Stage → Bool
  | .forwarding _ (.publishing ..) _ => true
  | _ => false

/-- The failure that a consumer has ended with. -/
def end? : Stage → Option ForwardError
  | .ended e => some e
  | _ => none

/-- The stage after a forward. -/
def afterForward (stream : List StreamItem) : ForwardResult → Stage
  | .ok _ => .ready stream
  | .error e => .ended e

end Stage

/-! ## 2. Crowds -/

/-- Consumers over shared channels: who has the lock, the forwards that took it so far, and the
calls made so far, each with the forward in whose course it was made. -/
structure Crowd (σ : Type) where
  consumers : List Consumer
  channels : σ
  holder : Option Nat := none
  turns : List Turn := []
  trace : List (Turn × Call × Response) := []

namespace Crowd

variable {σ : Type}

/-- Consumers of streams under rules, before their first step. -/
def start (consumers : List (RoutingRule × List StreamItem)) (channels : σ) : Crowd σ where
  consumers := consumers.map fun (rule, stream) => ⟨rule, .ready stream⟩
  channels := channels

/-- How many publications are under way. -/
def inFlight (c : Crowd σ) : Nat := c.consumers.countP fun t => t.stage.isPublishing

/-- Whether every consumer has ended. -/
def finished (c : Crowd σ) : Bool := c.consumers.all fun t => t.stage.end?.isSome

/-- The failures that the consumers have ended with. -/
def ends (c : Crowd σ) : List ForwardError := c.consumers.filterMap fun t => t.stage.end?

/-! ## 3. Steps -/

/-- Moves a consumer to a stage. -/
def move (c : Crowd σ) (i : Nat) (t : Consumer) (stage : Stage) : Crowd σ :=
  { c with consumers := c.consumers.set i { t with stage } }

/-- Gives the lock to a consumer, which begins a forward. -/
def take (c : Crowd σ) (i : Nat) (t : Consumer) (d : Delivery) (stream : List StreamItem) :
    Crowd σ :=
  let turn : Turn := ⟨c.turns.length, i, t.rule, d⟩
  { c.move i t (.forwarding turn .transforming stream) with
    holder := some i, turns := c.turns ++ [turn] }

/-- Makes a call for a consumer, which goes on by the response. -/
def act (perform : σ → Call → Response × σ) (c : Crowd σ) (i : Nat) (t : Consumer) (turn : Turn)
    (request : Call) (next : Response → Plan ForwardResult) (stream : List StreamItem) : Crowd σ :=
  let (response, channels) := perform c.channels request
  { c.move i t (.forwarding turn (.following (next response)) stream) with
    channels, trace := c.trace ++ [(turn, request, response)] }

/-- Takes the lock back at the end of a forward. -/
def release (c : Crowd σ) (i : Nat) (t : Consumer) (stream : List StreamItem)
    (result : ForwardResult) : Crowd σ :=
  { c.move i t (.afterForward stream result) with holder := none }

/-- A step of a forward. -/
def advance (perform : σ → Call → Response × σ) (r : Router) (c : Crowd σ) (i : Nat) (t : Consumer)
    (turn : Turn) (stream : List StreamItem) : Phase → Crowd σ
  | .transforming =>
    c.move i t (.forwarding turn (.following (r.forward turn.rule turn.delivery)) stream)
  | .following (.done result) => c.release i t stream result
  | .following (.note _ next) => c.move i t (.forwarding turn (.following next) stream)
  | .following (.call request next) =>
    if request.operation.kind = .publish then
      c.move i t (.forwarding turn (.publishing request next) stream)
    else c.act perform i t turn request next stream
  | .publishing request next => c.act perform i t turn request next stream

/-- A step of consumer `i`; nothing when it cannot take one. -/
def step (perform : σ → Call → Response × σ) (r : Router) (c : Crowd σ) (i : Nat) :
    Option (Crowd σ) :=
  c.consumers[i]?.bind fun t =>
    match t.stage with
    | .ready [] => some (c.move i t (.ended (.consumerClosed t.rule.queue)))
    | .ready (.error e :: _) => some (c.move i t (.ended (.consume t.rule.queue e)))
    | .ready (.ok d :: rest) => some (c.move i t (.waiting d rest))
    | .waiting d rest => if c.holder.isSome then none else some (c.take i t d rest)
    | .forwarding turn phase rest => some (c.advance perform r i t turn rest phase)
    | .ended _ => none

/-- The crowd after an interleaving: the consumers take steps in this order.  Nothing when one of
them cannot. -/
def follow (perform : σ → Call → Response × σ) (r : Router) (c : Crowd σ) :
    List Nat → Option (Crowd σ)
  | [] => some c
  | i :: rest => (c.step perform r i).bind fun c => c.follow perform r rest

/-! ## 4. Taking turns -/

/-- A step of each consumer in turn, with the most publications that were under way. -/
def pass (perform : σ → Call → Response × σ) (r : Router) (most : Nat) (c : Crowd σ) :
    Nat × Crowd σ :=
  (List.range c.consumers.length).foldl (fun (most, c) i =>
    let c := (c.step perform r i).getD c
    (max most c.inFlight, c)) (most, c)

/-- Takes turns until every consumer has ended, at most `fuel` times. -/
def runFor (perform : σ → Call → Response × σ) (r : Router) :
    (fuel : Nat) → (most : Nat) → Crowd σ → Nat × Crowd σ
  | 0, most, c => (most, c)
  | fuel + 1, most, c =>
    if c.finished then (most, c)
    else
      let (most, c) := c.pass perform r most
      runFor perform r fuel most c

/-- More steps than a consumer takes for a delivery. -/
def stepsPerDelivery : Nat := 16

/-- Rounds enough for every consumer to end. -/
def rounds (c : Crowd σ) : Nat :=
  stepsPerDelivery * c.consumers.foldl (fun n t => n + match t.stage with
    | .ready stream => stream.length + 1
    | _ => 1) 0

/-- Takes turns until every consumer has ended: the most publications that were under way at once,
and the crowd then. -/
def run (r : Router) (c : Crowd BridgeChannels) : Nat × Crowd BridgeChannels :=
  c.runFor BridgeChannels.perform r c.rounds 0

end Crowd

/-- Consumers of streams under rules over the channels of a session. -/
def Session.crowd (s : Session) (consumers : List (RoutingRule × List StreamItem)) :
    Crowd BridgeChannels :=
  .start consumers s.channels

end BrokerBridge
