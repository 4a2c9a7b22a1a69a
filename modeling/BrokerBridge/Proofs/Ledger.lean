import BrokerBridge.Proofs.Settlement
import BrokerBridge.Routing.Session

/-!
# The queues of a session are a ledger of its forwards

Channels in memory keep every message they took.  This module says which messages those are.

* `BridgeChannels.queued_answered`: calls answered by channels in memory add to a queue what they
  landed there, in order, and nothing else.
* `Course.filterMap_landed`: what the calls of one forward land is what `Forwarded.left` says, a
  function of its result.
* **`Session.queued_run`**: after any events, a queue holds what it held before and then what each
  forward left there, in the order of the forwards.  A delivery that was taken off its own queue has
  left one message, except where its error record could not be published.
-/
namespace BrokerBridge

/-! ## 1. What a call lands in a queue -/

namespace BridgeChannels

/-- The messages in a queue of a channel, oldest first. -/
def queued (channels : BridgeChannels) (endpoint : Endpoint) (queue : String) : List Publishing :=
  (channels.get endpoint).memory.messages queue

/-- The queue of a channel that a routing key leads to. -/
def route (channels : BridgeChannels) (endpoint : Endpoint) (routingKey : String) : String :=
  (channels.get endpoint).memory.route routingKey

/-- The message that a call landed in a queue: it was a publication on the queue's channel, its
routing key leads to the queue, and it succeeded. -/
def landed (channels : BridgeChannels) (endpoint : Endpoint) (queue : String) :
    Call × Response → Option Publishing
  | (⟨e, .publish p⟩, .ok ()) =>
    if e = endpoint ∧ channels.route endpoint p.routingKey = queue then some p.publishing else none
  | _ => none

@[simp] theorem landed_error (channels : BridgeChannels) (endpoint : Endpoint) (queue : String)
    (call : Call) (e : ChannelError) : channels.landed endpoint queue (call, .error e) = none := by
  obtain ⟨_, _ | _ | _ | _⟩ := call <;> rfl

@[simp] theorem landed_ackCall (channels : BridgeChannels) (endpoint : Endpoint) (queue : String)
    (rule : RoutingRule) (d : Delivery) (response : Response) :
    channels.landed endpoint queue (rule.ackCall d, response) = none := rfl

@[simp] theorem landed_nackCall (channels : BridgeChannels) (endpoint : Endpoint) (queue : String)
    (rule : RoutingRule) (d : Delivery) (requeue : Bool) (response : Response) :
    channels.landed endpoint queue (rule.nackCall d requeue, response) = none := rfl

theorem landed_congr {channels channels' : BridgeChannels} {endpoint : Endpoint}
    (h : ∀ key, channels'.route endpoint key = channels.route endpoint key) (queue : String) :
    channels'.landed endpoint queue = channels.landed endpoint queue := by
  funext c
  unfold landed
  split
  · rw [h]
  · rfl

end BridgeChannels

/-- What an operation adds to a queue, given how it ended. -/
theorem MemoryChannel.messages_perform (c : MemoryChannel) (op : Operation) (queue : String) :
    (c.perform op).2.messages queue = c.messages queue ++
      match op, (c.perform op).1 with
      | .publish p, .ok () => if c.route p.routingKey = queue then [p.publishing] else []
      | _, _ => [] := by
  cases op with
  | ack _ _ | nack _ _ _ | reject _ _ => exact (List.append_nil _).symm
  | publish p =>
    simp only [perform]
    cases h : (c.publish p).1 with
    | ok u => exact messages_publish queue h
    | error e => rw [publish_of_error h, List.append_nil]

theorem MemoryChannel.route_perform (c : MemoryChannel) (op : Operation) (key : String) :
    (c.perform op).2.route key = c.route key := by
  cases op with
  | ack _ _ | nack _ _ _ | reject _ _ => rfl
  | publish p =>
    simp only [perform, publish]
    split
    · rfl
    · split <;> rfl

theorem FaultyChannel.messages_perform (c : FaultyChannel) (op : Operation) (queue : String) :
    (c.perform op).2.memory.messages queue = c.memory.messages queue ++
      match op, (c.perform op).1 with
      | .publish p, .ok () => if c.memory.route p.routingKey = queue then [p.publishing] else []
      | _, _ => [] := by
  unfold perform
  split
  · cases op <;> exact (List.append_nil _).symm
  · exact c.memory.messages_perform op queue

theorem FaultyChannel.route_perform (c : FaultyChannel) (op : Operation) (key : String) :
    (c.perform op).2.memory.route key = c.memory.route key := by
  unfold perform
  split
  · rfl
  · exact c.memory.route_perform op key

namespace BridgeChannels

theorem get_perform (channels : BridgeChannels) (call : Call) (endpoint : Endpoint) :
    (channels.perform call).2.get endpoint =
      if call.endpoint = endpoint then ((channels.get endpoint).perform call.operation).2
      else channels.get endpoint := by
  simp only [perform, Endpoints.get_set]
  split
  · rename_i h; rw [h]
  · rfl

theorem perform_fst (channels : BridgeChannels) (call : Call) :
    (channels.perform call).1 = ((channels.get call.endpoint).perform call.operation).1 := rfl

theorem route_perform (channels : BridgeChannels) (call : Call) (endpoint : Endpoint)
    (key : String) :
    (channels.perform call).2.route endpoint key = channels.route endpoint key := by
  simp only [route, get_perform]
  split
  · exact FaultyChannel.route_perform _ _ _
  · rfl

/-- A call adds to every queue what it landed there. -/
theorem queued_perform (channels : BridgeChannels) (call : Call) (endpoint : Endpoint)
    (queue : String) :
    (channels.perform call).2.queued endpoint queue = channels.queued endpoint queue ++
      (channels.landed endpoint queue (call, (channels.perform call).1)).toList := by
  obtain ⟨e, op⟩ := call
  simp only [queued, get_perform]
  by_cases he : e = endpoint
  · subst he
    rw [if_pos rfl, FaultyChannel.messages_perform, perform_fst]
    congr 1
    cases op with
    | ack _ _ | nack _ _ _ | reject _ _ => rfl
    | publish p =>
      cases ((channels.get e).perform (.publish p)).1 with
      | error _ => rfl
      | ok u =>
        simp only [landed, route, true_and]
        split <;> rfl
  · rw [if_neg he]
    cases op with
    | ack _ _ | nack _ _ _ | reject _ _ => exact (List.append_nil _).symm
    | publish p =>
      cases (channels.perform ⟨e, .publish p⟩).1 with
      | error _ => exact (List.append_nil _).symm
      | ok u => simp [landed, he]

theorem route_answered {channels channels' : BridgeChannels} {calls : List (Call × Response)}
    (h : Answered perform channels calls channels') (endpoint : Endpoint) (key : String) :
    channels'.route endpoint key = channels.route endpoint key := by
  induction h with
  | nil s => rfl
  | @cons s s' s'' request response rest head _ ih =>
    have hs : (s.perform request).2 = s' := by rw [head]
    rw [ih, ← hs, route_perform]

/-- **Calls in a row add to every queue what they landed there, in order.** -/
theorem queued_answered {channels channels' : BridgeChannels} {calls : List (Call × Response)}
    (h : Answered perform channels calls channels') (endpoint : Endpoint) (queue : String) :
    channels'.queued endpoint queue =
      channels.queued endpoint queue ++ calls.filterMap (channels.landed endpoint queue) := by
  induction h with
  | nil s => exact (List.append_nil _).symm
  | @cons s s' s'' request response rest head tail ih =>
    have hs : (s.perform request).2 = s' := by rw [head]
    have hres : (s.perform request).1 = response := by rw [head]
    have hroute : ∀ key, s'.route endpoint key = s.route endpoint key := by
      intro key
      rw [← hs, route_perform]
    rw [ih, landed_congr hroute, ← hs, queued_perform, hres, List.append_assoc]
    congr 1
    rw [List.filterMap_cons]
    cases s.landed endpoint queue (request, response) <;> rfl

end BridgeChannels

/-! ## 2. What a forward leaves behind -/

theorem transform_publishing {resolver : Resolver} {direction : Direction} {d : Delivery}
    {t : Transformed} (h : transform resolver direction d = .ok t) :
    t.publishing = .forward d t.publishing.body := by
  unfold transform at h
  split at h
  · exact absurd h (by simp)
  · dsimp only at h
    split at h
    · rw [← Except.ok.inj h]
      rfl
    · split at h
      · exact absurd h (by simp)
      · rw [← Except.ok.inj h]
        rfl

/-- **What a forward leaves behind, by its result**: the channel, the routing key and the message.
A forward that was acked, or whose ack failed, leaves the transformed body with the properties of
its delivery; a forward that was rejected leaves an error record; no other one leaves anything. -/
def Forwarded.left (f : Forwarded) : Option (Endpoint × String × Publishing) :=
  match transform f.router.resolver f.rule.direction f.delivery, f.outcome.result with
  | .ok t, .ok .acked | .ok t, .error (.disposition .ack _ _) =>
    some (f.rule.direction.destination, f.router.routingKey f.rule t,
      .forward f.delivery t.publishing.body)
  | .error e, .ok .rejected =>
    some (.cegaPublish, errorRoutingKey, (ErrorRecord.ofFailure f.delivery e).publishing f.delivery)
  | _, _ => none

/-- A delivery that was taken off its own queue: acked, or nacked for good. -/
def Forwarded.Removed (f : Forwarded) : Prop :=
  (f.rule.ackCall f.delivery, .ok ()) ∈ f.outcome.calls ∨
    (f.rule.nackCall f.delivery false, .ok ()) ∈ f.outcome.calls

namespace BridgeChannels

/-- The message that a forward leaves in a queue, if what it leaves goes there. -/
def leftIn (channels : BridgeChannels) (endpoint : Endpoint) (queue : String) (f : Forwarded) :
    Option Publishing :=
  f.left.bind fun (e, key, message) =>
    if e = endpoint ∧ channels.route endpoint key = queue then some message else none

/-- **The ledger of a queue**: what some forwards leave in it, oldest first. -/
def ledger (channels : BridgeChannels) (endpoint : Endpoint) (queue : String)
    (fs : List Forwarded) : List Publishing :=
  fs.filterMap (channels.leftIn endpoint queue)

theorem ledger_append (channels : BridgeChannels) (endpoint : Endpoint) (queue : String)
    (fs gs : List Forwarded) :
    channels.ledger endpoint queue (fs ++ gs) =
      channels.ledger endpoint queue fs ++ channels.ledger endpoint queue gs :=
  List.filterMap_append

theorem ledger_congr {channels channels' : BridgeChannels} {endpoint : Endpoint}
    (h : ∀ key, channels'.route endpoint key = channels.route endpoint key) (queue : String) :
    channels'.ledger endpoint queue = channels.ledger endpoint queue := by
  funext fs
  simp only [ledger]
  congr 1
  funext f
  simp only [leftIn, h]

end BridgeChannels

namespace Forwarded

variable {f : Forwarded}

/-- A forward went as the plan of its router says. -/
def Planned (f : Forwarded) : Prop :=
  Course f.router f.rule f.delivery f.outcome.calls f.outcome.result

/-- **The calls of a forward land what its result says it left.** -/
theorem Planned.filterMap_landed (h : f.Planned) (channels : BridgeChannels) (endpoint : Endpoint)
    (queue : String) :
    f.outcome.calls.filterMap (channels.landed endpoint queue) =
      (channels.leftIn endpoint queue f).toList := by
  obtain ⟨r, rule, d, result, calls, events, state⟩ := f
  change Course r rule d calls result at h
  simp only [BridgeChannels.leftIn, left]
  cases h with
  | @acked t ht | @ackFailed t e ht =>
    have hl : channels.landed endpoint queue (r.forwardCall rule t, .ok ()) =
        if rule.direction.destination = endpoint ∧
            channels.route endpoint (r.routingKey rule t) = queue
          then some (.forward d t.publishing.body) else none := by
      rw [← transform_publishing ht]
      rfl
    simp only [List.filterMap_cons, hl, BridgeChannels.landed_ackCall, ht]
    split <;> simp_all
  | @rejected e hf =>
    have hl : channels.landed endpoint queue (r.reportCall d e, .ok ()) =
        if .cegaPublish = endpoint ∧ channels.route endpoint errorRoutingKey = queue
          then some ((ErrorRecord.ofFailure d e).publishing d) else none := rfl
    simp only [List.filterMap_cons, hl, BridgeChannels.landed_nackCall, hf]
    split <;> simp_all
  | requeued ht | requeueFailed ht | nackFailed ht | reportFailed ht => simp [ht]

/-- A forward leaves a message exactly when it was acked, when its ack failed, and when it was
rejected. -/
theorem Planned.left_isSome_iff (h : f.Planned) :
    f.left.isSome ↔
      f.outcome.result = .ok .acked ∨
        (∃ tag e, f.outcome.result = .error (.disposition .ack tag e)) ∨
          f.outcome.result = .ok .rejected := by
  obtain ⟨r, rule, d, result, calls, events, state⟩ := f
  change Course r rule d calls result at h
  cases h with
  | acked ht | ackFailed ht | requeued ht | requeueFailed ht | nackFailed ht | rejected ht
  | reportFailed ht => simp [left, ht]

/-- **Nothing is lost and nothing is sent twice**: a delivery that is taken off its queue leaves one
message, unless its error record could not be published. -/
theorem Planned.left_isSome_of_removed (h : f.Planned) (hr : f.Removed) :
    f.left.isSome ↔ ∀ e, f.outcome.result ≠ .error (.errorReport e) := by
  obtain ⟨r, rule, d, result, calls, events, state⟩ := f
  change Course r rule d calls result at h
  cases h with
  | acked ht | rejected ht | reportFailed ht => simp [left, ht]
  | ackFailed ht | requeued ht | requeueFailed ht | nackFailed ht =>
    simp [Removed, RoutingRule.ackCall, RoutingRule.nackCall, Router.forwardCall] at hr

end Forwarded

/-! ## 3. Whole sessions -/

namespace Session

variable {s : Session}

theorem forward_planned (s : Session) (rule : RoutingRule) (d : Delivery) :
    Forwarded.Planned ⟨s.router, rule, d, s.forward rule d⟩ :=
  Router.forward_course _ _ _ _ _

/-- A forward of a session is one of its router's, on the channels of that time. -/
theorem exists_run_of_mem_forwards {f : Forwarded} : ∀ {events : List SessionEvent} {s : Session},
    f ∈ s.forwards events → ∃ channels,
      f.outcome = (f.router.forward f.rule f.delivery).run BridgeChannels.perform channels
  | [], _, hf => absurd hf (List.not_mem_nil)
  | event :: rest, s, hf => by
    rcases List.mem_append.mp hf with hf | hf
    · cases event with
      | forward rule d =>
        rw [List.mem_singleton.mp hf]
        exact ⟨s.channels, rfl⟩
      | inject _ _ _ | setUnavailable _ _ | setStoreFailure _ => exact absurd hf List.not_mem_nil
    · exact exists_run_of_mem_forwards hf

theorem planned_of_mem_forwards {f : Forwarded} {events : List SessionEvent}
    (hf : f ∈ s.forwards events) : f.Planned := by
  obtain ⟨channels, h⟩ := exists_run_of_mem_forwards hf
  rw [Forwarded.Planned, h]
  exact Router.forward_course _ _ _ _ _

/-- A change to one channel that keeps its bindings and its queues is not seen in any queue. -/
theorem queued_set (channels : BridgeChannels) (target : Endpoint) (channel : FaultyChannel)
    (hq : channel.memory.queues = (channels.get target).memory.queues)
    (hb : channel.memory.bindings = (channels.get target).memory.bindings) (endpoint : Endpoint) :
    (∀ queue, BridgeChannels.queued (channels.set target channel) endpoint queue =
        channels.queued endpoint queue) ∧
      ∀ key, BridgeChannels.route (channels.set target channel) endpoint key =
        channels.route endpoint key := by
  simp only [BridgeChannels.queued, BridgeChannels.route, Endpoints.get_set]
  split
  · rename_i h
    subst h
    exact ⟨fun _ => by rw [MemoryChannel.messages, hq]; rfl,
      fun _ => by rw [MemoryChannel.route, hb]; rfl⟩
  · exact ⟨fun _ => rfl, fun _ => rfl⟩

/-- **One event** adds to a queue what its forward leaves there, and leads no routing key to another
queue. -/
theorem queued_after (s : Session) (event : SessionEvent) (endpoint : Endpoint) :
    (∀ queue, (s.after event).channels.queued endpoint queue =
        s.channels.queued endpoint queue ++
          s.channels.ledger endpoint queue (s.forwardsOf event)) ∧
      ∀ key, (s.after event).channels.route endpoint key = s.channels.route endpoint key := by
  cases event with
  | forward rule d =>
    have ha : Answered BridgeChannels.perform s.channels (s.forward rule d).calls
        (s.forward rule d).state := Plan.run_answered _ _
    refine ⟨fun queue => ?_, BridgeChannels.route_answered ha endpoint⟩
    rw [after, BridgeChannels.queued_answered ha endpoint queue,
      (forward_planned s rule d).filterMap_landed]
    simp only [BridgeChannels.ledger, forwardsOf, List.filterMap_cons, List.filterMap_nil]
    cases s.channels.leftIn endpoint queue ⟨s.router, rule, d, s.forward rule d⟩ <;> rfl
  | inject target kind e =>
    obtain ⟨hq, hr⟩ := queued_set s.channels target
      { s.channels.get target with injected := (s.channels.get target).injected.set kind e }
      rfl rfl endpoint
    exact ⟨fun queue => (hq queue).trans (List.append_nil _).symm, hr⟩
  | setUnavailable target reason =>
    obtain ⟨hq, hr⟩ := queued_set s.channels target
      { s.channels.get target with
        memory := (s.channels.get target).memory.setUnavailable reason }
      rfl rfl endpoint
    exact ⟨fun queue => (hq queue).trans (List.append_nil _).symm, hr⟩
  | setStoreFailure failure =>
    exact ⟨fun queue => (List.append_nil _).symm, fun _ => rfl⟩

/-- Events add to a queue what their forwards leave there. -/
theorem queued_run_eq (endpoint : Endpoint) (queue : String) :
    ∀ (events : List SessionEvent) (s : Session),
      (s.run events).channels.queued endpoint queue =
        s.channels.queued endpoint queue ++ s.channels.ledger endpoint queue (s.forwards events)
  | [], s => (List.append_nil _).symm
  | event :: rest, s => by
    obtain ⟨hq, hr⟩ := queued_after s event endpoint
    calc (s.run (event :: rest)).channels.queued endpoint queue
        = (s.after event).channels.queued endpoint queue ++
            (s.after event).channels.ledger endpoint queue ((s.after event).forwards rest) :=
          queued_run_eq endpoint queue rest (s.after event)
      _ = s.channels.queued endpoint queue ++
            (s.channels.ledger endpoint queue (s.forwardsOf event) ++
              s.channels.ledger endpoint queue ((s.after event).forwards rest)) := by
          rw [hq, BridgeChannels.ledger_congr hr, List.append_assoc]
      _ = s.channels.queued endpoint queue ++
            s.channels.ledger endpoint queue (s.forwards (event :: rest)) := by
          rw [forwards, BridgeChannels.ledger_append]

/-- **Nothing is lost, invented or sent twice over a session.**  Whatever happens to a session, in
any order, every queue of every channel holds in the end what it held before, and then what the
forwards left there by their results, in the order of the forwards: one message for a forward that
was acked, whose ack failed or that was rejected, and none for any other.  So a delivery that was
taken off its own queue has left one message, unless its error record could not be published; then
it has left none. -/
theorem queued_run (s : Session) (events : List SessionEvent) :
    (∀ endpoint queue, (s.run events).channels.queued endpoint queue =
      s.channels.queued endpoint queue ++
        s.channels.ledger endpoint queue (s.forwards events)) ∧
    ∀ f ∈ s.forwards events,
      (f.left.isSome ↔
        f.outcome.result = .ok .acked ∨
          (∃ tag e, f.outcome.result = .error (.disposition .ack tag e)) ∨
            f.outcome.result = .ok .rejected) ∧
      (f.Removed → (f.left.isSome ↔ ∀ e, f.outcome.result ≠ .error (.errorReport e))) := by
  refine ⟨fun endpoint queue => queued_run_eq endpoint queue events s, fun f hf => ?_⟩
  have hp : f.Planned := planned_of_mem_forwards hf
  exact ⟨hp.left_isSome_iff, hp.left_isSome_of_removed⟩

/-- A session in which nothing has happened. -/
def fresh : Session where
  settings := {}
  mapping := {}
  channels :=
    { cegaConsume := ⟨.ofExchange "localega.v1", {}⟩
      cegaPublish := ⟨.ofExchange "localega.v1", {}⟩
      legaConsume := ⟨.ofExchange "sda", {}⟩
      legaPublish := ⟨.ofExchange "sda", {}⟩ }

/-- A message that is put back, and forwarded when LEGA is available again. -/
def secondAttempt : List SessionEvent :=
  [.setUnavailable .legaPublish (some "down"), .forward fileRule emptyFile,
    .setUnavailable .legaPublish none, .forward fileRule emptyFile]

/-- The second attempt took the message off its queue, and left the only message there is. -/
theorem left_by_second_attempt :
    ∃ f ∈ fresh.forwards secondAttempt, f.Removed ∧ f.left.isSome ∧
      (fresh.run secondAttempt).channels.queued .legaPublish "files" =
        fresh.channels.ledger .legaPublish "files" (fresh.forwards secondAttempt) ∧
      (fresh.channels.ledger .legaPublish "files" (fresh.forwards secondAttempt)).length = 1 := by
  obtain ⟨hqueued, hleft⟩ := queued_run fresh secondAttempt
  let f : Forwarded := (fresh.forwards secondAttempt)[1]
  have hf : f ∈ fresh.forwards secondAttempt := List.getElem_mem _
  have hremoved : f.Removed := Or.inl (.tail _ (.head _))
  have hresult : ∀ e, f.outcome.result ≠ .error (.errorReport e) := fun e => nofun
  refine ⟨f, hf, hremoved, ((hleft f hf).2 hremoved).mpr hresult, ?_, by decide⟩
  exact (hqueued .legaPublish "files").trans (List.nil_append _)

end Session

end BrokerBridge
