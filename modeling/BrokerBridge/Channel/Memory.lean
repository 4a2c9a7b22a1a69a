import BrokerBridge.Assoc
import BrokerBridge.Channel.Basic

/-!
# Channels in memory

A `MemoryChannel` stands for one exchange.  A published message goes to the end of the queue that
its routing key is bound to, or of the queue of the key's own name when it has no binding.  Two
flags and a mark remember how deliveries were settled.

A channel may be unavailable: then every publication fails and nothing changes.
-/
namespace BrokerBridge

/-- An exchange with its queues. -/
structure MemoryChannel where
  exchange : String
  bindings : Assoc String := []
  queues : Assoc (List Publishing) := []
  acked : Bool := false
  nacked : Bool := false
  lastRequeue : Option Bool := none
  unavailable : Option String := none
  deriving Repr

namespace MemoryChannel

/-! ## 1. Routing -/

/-- A channel without bindings. -/
def ofExchange (exchange : String) : MemoryChannel := { exchange }

/-- Binds a routing key to a queue; the last binding of a key counts. -/
def bind (c : MemoryChannel) (routingKey queue : String) : MemoryChannel :=
  { c with bindings := c.bindings.put routingKey queue }

/-- The queue that a routing key leads to. -/
def route (c : MemoryChannel) (routingKey : String) : String :=
  (c.bindings.get? routingKey).getD routingKey

/-- The messages of a queue, oldest first. -/
def messages (c : MemoryChannel) (queue : String) : List Publishing :=
  (c.queues.get? queue).getD []

/-! ## 2. Operations -/

/-- Puts a message at the end of the queue that its routing key leads to. -/
def publish (c : MemoryChannel) (p : Publication) : Response × MemoryChannel :=
  match c.unavailable with
  | some reason => (.error (.unavailable reason), c)
  | none =>
    if p.exchange = c.exchange then
      let queue := c.route p.routingKey
      (.ok (), { c with queues := c.queues.put queue (c.messages queue ++ [p.publishing]) })
    else (.error (.wrongExchange c.exchange p.exchange), c)

/-- Does what a channel is asked to do. -/
def perform (c : MemoryChannel) : Operation → Response × MemoryChannel
  | .ack _ _ => (.ok (), { c with acked := true })
  | .nack _ _ requeue => (.ok (), { c with nacked := true, lastRequeue := some requeue })
  | .reject _ requeue => (.ok (), { c with lastRequeue := some requeue })
  | .publish p => c.publish p

/-! ## 3. Looking inside -/

/-- Removes the oldest message of a queue. -/
def take (c : MemoryChannel) (queue : String) : Option Publishing × MemoryChannel :=
  match c.messages queue with
  | [] => (none, c)
  | message :: rest => (some message, { c with queues := c.queues.put queue rest })

/-- Removes all messages of a queue. -/
def drain (c : MemoryChannel) (queue : String) : List Publishing × MemoryChannel :=
  match c.messages queue with
  | [] => ([], c)
  | messages => (messages, { c with queues := c.queues.put queue [] })

/-- Whether deliveries were acked and nacked since this was last asked. -/
def takeSettled (c : MemoryChannel) : (Bool × Bool) × MemoryChannel :=
  ((c.acked, c.nacked), { c with acked := false, nacked := false })

/-- Makes every publication fail for a reason, or lets them succeed again. -/
def setUnavailable (c : MemoryChannel) (reason : Option String) : MemoryChannel :=
  { c with unavailable := reason }

/-! ## 4. The view -/

theorem messages_publish {c : MemoryChannel} {p : Publication} (queue : String)
    (h : (c.publish p).1 = .ok ()) :
    (c.publish p).2.messages queue =
      c.messages queue ++ if c.route p.routingKey = queue then [p.publishing] else [] := by
  unfold publish at h ⊢
  cases hu : c.unavailable with
  | some reason => simp [hu] at h
  | none =>
    by_cases he : p.exchange = c.exchange
    · by_cases hq : c.route p.routingKey = queue
      · subst hq
        simp [he, messages]
      · simp [he, hq, messages, Assoc.get?_put]
    · simp [hu, he] at h

/-- A publication that fails changes nothing. -/
theorem publish_of_error {c : MemoryChannel} {p : Publication} {e : ChannelError}
    (h : (c.publish p).1 = .error e) : (c.publish p).2 = c := by
  unfold publish at h ⊢
  cases hu : c.unavailable with
  | some reason => simp
  | none =>
    by_cases he : p.exchange = c.exchange
    · simp [hu, he] at h
    · simp [he]

end MemoryChannel

end BrokerBridge
