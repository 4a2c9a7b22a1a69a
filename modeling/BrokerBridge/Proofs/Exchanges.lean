import BrokerBridge.Proofs.Fifo
import BrokerBridge.Proofs.Serialization

/-!
# The rules, the router and the channels agree on the exchanges

Three places name an exchange.  The rules say where the messages of a queue go, the router where
error records go, and every channel which exchange it stands for.  All three take the name from the
settings.

* `BridgeChannels.Used`: what channels that were made for some settings can come to, by forwards and
  by failures that begin and end.
* `BridgeChannels.Used.exchange_eq`: whatever happens to them, each keeps its exchange.
* `Endpoint.exchange_of_standard`: a standard rule names the exchange of the channel that its
  messages are published on.
* **`exchanges_agree`**: no message and no error record is ever published to an exchange that its
  channel does not stand for, and where nothing fails a forward settles its delivery by whether it
  could be transformed.
-/
namespace BrokerBridge

/-! ## 1. Channels that were made for some settings -/

/-- The exchange that the settings name for a channel: both channels of a side have one. -/
def Endpoint.exchange (s : Settings) : Endpoint → String
  | .cegaConsume | .cegaPublish => s.cega.exchange
  | .legaConsume | .legaPublish => s.lega.exchange

namespace BridgeChannels

/-- The channels of a bridge as they are made for some settings, each with bindings of its own. -/
def ofSettings (s : Settings) (bindings : Endpoints (List (String × String))) :
    BridgeChannels where
  cegaConsume := { memory := .made s.cega.exchange bindings.cegaConsume }
  cegaPublish := { memory := .made s.cega.exchange bindings.cegaPublish }
  legaConsume := { memory := .made s.lega.exchange bindings.legaConsume }
  legaPublish := { memory := .made s.lega.exchange bindings.legaPublish }

/-- What the channels of a bridge can come to: deliveries are forwarded, under any rules and with
whatever a store says; failures are injected and removed; channels become unavailable and available
again. -/
inductive Used (s : Settings) (bindings : Endpoints (List (String × String))) :
    BridgeChannels → Prop where
  | fresh : Used s bindings (ofSettings s bindings)
  | forwarded {channels : BridgeChannels} (h : Used s bindings channels) (resolver : Resolver)
      (rule : RoutingRule) (d : Delivery) :
      Used s bindings
        (((Router.ofSettings resolver s).forward rule d).run BridgeChannels.perform channels).state
  | injected {channels : BridgeChannels} (h : Used s bindings channels) (endpoint : Endpoint)
      (kind : OperationKind) (e : Option ChannelError) :
      Used s bindings (channels.set endpoint { channels.get endpoint with
        injected := (channels.get endpoint).injected.set kind e })
  | unavailable {channels : BridgeChannels} (h : Used s bindings channels) (endpoint : Endpoint)
      (reason : Option String) :
      Used s bindings (channels.set endpoint { channels.get endpoint with
        memory := (channels.get endpoint).memory.setUnavailable reason })

variable {s : Settings} {bindings : Endpoints (List (String × String))} {channels : BridgeChannels}

/-- Channels in the same modes have the same exchanges. -/
theorem Alike.exchange_eq {a b : BridgeChannels} (h : Alike a b) (endpoint : Endpoint) :
    (a.get endpoint).memory.exchange = (b.get endpoint).memory.exchange :=
  congrArg Prod.fst (h endpoint)

/-- A change to one channel that leaves its exchange as it is leaves all exchanges as they are. -/
theorem exchange_set (channels : BridgeChannels) (target : Endpoint) (channel : FaultyChannel)
    (h : channel.memory.exchange = (channels.get target).memory.exchange) (endpoint : Endpoint) :
    (Endpoints.get (Endpoints.set channels target channel) endpoint).memory.exchange =
      (channels.get endpoint).memory.exchange := by
  rw [Endpoints.get_set]
  split
  · rename_i heq
    rw [← heq, h]
  · rfl

/-- **Whatever happens to the channels of a bridge, each keeps its exchange.** -/
theorem Used.exchange_eq (h : Used s bindings channels) (endpoint : Endpoint) :
    (channels.get endpoint).memory.exchange = endpoint.exchange s := by
  induction h with
  | fresh => cases endpoint <;> exact MemoryChannel.exchange_made _ _
  | forwarded _ resolver rule d ih => rw [(alike_run _ _).exchange_eq, ih]
  | injected _ target kind e ih =>
    rw [exchange_set, ih]
    rfl
  | unavailable _ target reason ih =>
    rw [exchange_set, ih]
    rfl

end BridgeChannels

/-! ## 2. What channels in memory answer -/

/-- A failure that is injected is the answer; else the channel in memory answers. -/
theorem FaultyChannel.perform_fst (c : FaultyChannel) (op : Operation) :
    (c.perform op).1 =
      match c.injected.get op.kind with
      | some e => .error e
      | none => (c.memory.perform op).1 := by
  unfold perform
  cases c.injected.get op.kind <;> rfl

/-- Channels answer call after call as they would answer each of them at once. -/
theorem BridgeChannels.perform_fst_of_answered {channels channels' : BridgeChannels}
    {calls : List (Call × Response)} (h : Answered perform channels calls channels') :
    ∀ c ∈ calls, (channels.perform c.1).1 = c.2 := by
  induction h with
  | nil s => exact List.forall_mem_nil _
  | @cons s s' s'' request response rest head _ ih =>
    have hs : (s.perform request).2 = s' := by rw [head]
    have hr : (s.perform request).1 = response := by rw [head]
    refine List.forall_mem_cons.mpr ⟨hr, fun c hc => ?_⟩
    rw [← ih c hc, ← hs]
    exact ((alike_perform s request).perform c.1).symm

/-- A publication to the channel's own exchange fails only for a failure that is injected, or when
the channel is unavailable. -/
theorem FaultyChannel.publish_own {c : FaultyChannel} {p : Publication}
    (h : p.exchange = c.memory.exchange) :
    (c.perform (.publish p)).1 =
      match c.injected.publish, c.memory.unavailable with
      | some e, _ => .error e
      | none, some reason => .error (.unavailable reason)
      | none, none => .ok () := by
  rw [perform_fst]
  simp only [Operation.kind, Injected.get, MemoryChannel.perform]
  cases c.injected.publish with
  | some e => rfl
  | none =>
    rw [MemoryChannel.publish_eq]
    cases c.memory.unavailable with
    | some reason => rfl
    | none =>
      dsimp only
      rw [if_pos h]

/-! ## 3. A forward under a standard rule -/

/-- **A standard rule names the exchange of the channel on which its messages are published.** -/
theorem Endpoint.exchange_of_standard {s : Settings} {rule : RoutingRule}
    (h : rule ∈ RoutingRule.standard s) :
    rule.direction.destination.exchange s = rule.exchange := by
  obtain rfl | rfl | rfl | rfl | rfl := RoutingRule.mem_standard_iff.mp h <;> rfl

/-- A call goes to an exchange that its channel stands for, if it is a publication. -/
def BridgeChannels.Fits (channels : BridgeChannels) (call : Call) : Prop :=
  match call.operation with
  | .publish p => p.exchange = (channels.get call.endpoint).memory.exchange
  | _ => True

namespace BridgeChannels

variable {channels : BridgeChannels} {call : Call}

/-- A call that fits is not answered with a wrong exchange, unless that failure is injected. -/
theorem Fits.injected_of_wrongExchange (h : channels.Fits call) {expected actual : String}
    (hwrong : (channels.perform call).1 = .error (.wrongExchange expected actual)) :
    (channels.get call.endpoint).injected.get call.operation.kind =
      some (.wrongExchange expected actual) := by
  obtain ⟨endpoint, op⟩ := call
  rw [perform_fst] at hwrong
  cases op with
  | publish p =>
    rw [FaultyChannel.publish_own h] at hwrong
    simp only [Operation.kind, Injected.get]
    split at hwrong
    · rename_i e _ hinjected
      rw [hinjected, Except.error.inj hwrong]
    · cases hwrong
    · cases hwrong
  | ack _ _ | nack _ _ _ | reject _ _ =>
    rw [FaultyChannel.perform_fst] at hwrong
    split at hwrong
    · rename_i e hinjected
      rw [hinjected, Except.error.inj hwrong]
    · cases hwrong

/-- No failure is injected, and both channels for publishing are available. -/
structure Healthy (channels : BridgeChannels) : Prop where
  injected (endpoint : Endpoint) (kind : OperationKind) :
    (channels.get endpoint).injected.get kind = none
  cega : channels.cegaPublish.memory.unavailable = none
  lega : channels.legaPublish.memory.unavailable = none

/-- What a publication goes through. -/
theorem Healthy.unavailable_eq_none (h : channels.Healthy) (direction : Direction) :
    (channels.get direction.destination).memory.unavailable = none := by
  cases direction
  · exact h.lega
  · exact h.cega

end BridgeChannels

/-- Where every call succeeds, a forward publishes the message if the delivery was transformed and
the error record if it was not. -/
theorem Course.publishes_of_ok {r : Router} {rule : RoutingRule} {d : Delivery}
    {calls : List (Call × Response)} {result : ForwardResult} (h : Course r rule d calls result)
    (hok : ∀ c ∈ calls, c.2 = .ok ()) :
    match transform r.resolver rule.direction d with
    | .ok t => (r.forwardCall rule t, .ok ()) ∈ calls
    | .error f => (r.reportCall d f, .ok ()) ∈ calls := by
  cases h with
  | acked ht =>
    rw [ht]
    exact List.mem_cons_self
  | rejected hf =>
    rw [hf]
    exact List.mem_cons_of_mem _ List.mem_cons_self
  | requeued ht | requeueFailed ht | nackFailed hf => cases hok _ List.mem_cons_self
  | ackFailed ht | reportFailed hf => cases hok _ (List.mem_cons_of_mem _ List.mem_cons_self)

/-- Where every call succeeds, a forward settles its delivery by whether it was transformed. -/
theorem Course.result_of_ok {r : Router} {rule : RoutingRule} {d : Delivery}
    {calls : List (Call × Response)} {result : ForwardResult} (h : Course r rule d calls result)
    (hok : ∀ c ∈ calls, c.2 = .ok ()) :
    result =
      match transform r.resolver rule.direction d with
      | .ok _ => .ok .acked
      | .error _ => .ok .rejected := by
  cases h with
  | acked ht => rw [ht]
  | rejected hf => rw [hf]
  | requeued ht | requeueFailed ht | nackFailed hf => cases hok _ List.mem_cons_self
  | ackFailed ht | reportFailed hf => cases hok _ (List.mem_cons_of_mem _ List.mem_cons_self)

section

variable {s : Settings} {resolver : Resolver} {rule : RoutingRule} {d : Delivery}
  {channels : BridgeChannels} {calls : List (Call × Response)} {result : ForwardResult}

/-- **Every publication of a forward under a standard rule goes to the exchange of its channel.** -/
theorem Course.fits (h : Course (Router.ofSettings resolver s) rule d calls result)
    (hrule : rule ∈ RoutingRule.standard s)
    (hexchange : ∀ endpoint, (channels.get endpoint).memory.exchange = endpoint.exchange s) :
    ∀ c ∈ calls, channels.Fits c.1 := by
  intro c hc
  obtain heq | ⟨requeue, heq⟩ | ⟨t, heq⟩ | ⟨f, heq⟩ := h.mem_calls hc <;> rw [heq]
  · trivial
  · trivial
  · exact ((hexchange _).trans (Endpoint.exchange_of_standard hrule)).symm
  · exact (hexchange .cegaPublish).symm

/-- Channels without failures let every call of such a forward succeed. -/
theorem Course.perform_eq_ok (h : Course (Router.ofSettings resolver s) rule d calls result)
    (hfits : ∀ c ∈ calls, channels.Fits c.1) (hhealthy : channels.Healthy) :
    ∀ c ∈ calls, (channels.perform c.1).1 = .ok () := by
  -- an ack and a nack succeed unless a failure is injected
  have settles (endpoint : Endpoint) (op : Operation)
      (hop : ((channels.get endpoint).memory.perform op).1 = .ok ()) :
      (channels.perform ⟨endpoint, op⟩).1 = .ok () := by
    rw [BridgeChannels.perform_fst, FaultyChannel.perform_fst, hhealthy.injected]
    exact hop
  -- a publication also needs the exchange and the availability of its channel
  have publishes (direction : Direction) (p : Publication)
      (hfit : channels.Fits ⟨direction.destination, .publish p⟩) :
      (channels.perform ⟨direction.destination, .publish p⟩).1 = .ok () := by
    have hinjected : (channels.get direction.destination).injected.publish = none :=
      hhealthy.injected direction.destination .publish
    rw [BridgeChannels.perform_fst, FaultyChannel.publish_own hfit, hinjected,
      hhealthy.unavailable_eq_none]
  intro c hc
  have hfit := hfits c hc
  obtain heq | ⟨requeue, heq⟩ | ⟨t, heq⟩ | ⟨f, heq⟩ := h.mem_calls hc <;> rw [heq] at hfit ⊢
  · exact settles _ _ rfl
  · exact settles _ _ rfl
  · exact publishes _ _ hfit
  · exact publishes .legaToCega _ hfit

end

/-- **No message is published to a wrong exchange.**  The channels were made for some settings, with
any names of exchanges and queues and any bindings, and have been used in any way.  Then, whatever
the store says, a forward under a standard rule of these settings

* gets the answer that an exchange is wrong only where that answer is injected as a failure;
* where no failure is injected and messages can be published on both sides, is acked if its delivery
  could be transformed and rejected if it could not be;
* publishes to nothing but the exchange that the settings name for the channel, and under the same
  conditions the message that was made of the delivery, on the channel of its destination, or else
  the error record, on that of CEGA (`Router.forwardCall`, `Router.reportCall`). -/
theorem exchanges_agree {s : Settings} {bindings : Endpoints (List (String × String))}
    {channels : BridgeChannels} (hused : channels.Used s bindings) {rule : RoutingRule}
    (hrule : rule ∈ RoutingRule.standard s) (resolver : Resolver) (d : Delivery) :
    let o := ((Router.ofSettings resolver s).forward rule d).run BridgeChannels.perform channels
    (∀ c ∈ o.calls, ∀ expected actual, c.2 = .error (.wrongExchange expected actual) →
      (channels.get c.1.endpoint).injected.get c.1.operation.kind =
        some (.wrongExchange expected actual)) ∧
    (channels.Healthy → o.result =
      match transform resolver rule.direction d with
      | .ok _ => .ok .acked
      | .error _ => .ok .rejected) ∧
    (∀ c ∈ o.calls, ∀ p, c.1.operation = .publish p → p.exchange = c.1.endpoint.exchange s) ∧
    (channels.Healthy →
      match transform resolver rule.direction d with
      | .ok t => ((Router.ofSettings resolver s).forwardCall rule t, .ok ()) ∈ o.calls
      | .error f => ((Router.ofSettings resolver s).reportCall d f, .ok ()) ∈ o.calls) := by
  intro o
  have hcourse : Course (Router.ofSettings resolver s) rule d o.calls o.result :=
    Router.forward_course _ _ _ _ _
  have hanswers : ∀ c ∈ o.calls, (channels.perform c.1).1 = c.2 :=
    BridgeChannels.perform_fst_of_answered (Plan.run_answered _ _)
  have hfits := hcourse.fits hrule hused.exchange_eq
  have hok (hhealthy : channels.Healthy) : ∀ c ∈ o.calls, c.2 = .ok () := fun c hc =>
    (hanswers c hc).symm.trans (hcourse.perform_eq_ok hfits hhealthy c hc)
  refine ⟨fun c hc expected actual hwrong => ?_, fun hhealthy => ?_, fun c hc p hp => ?_,
    fun hhealthy => ?_⟩
  · exact (hfits c hc).injected_of_wrongExchange ((hanswers c hc).trans hwrong)
  · exact hcourse.result_of_ok (hok hhealthy)
  · have hfit := hfits c hc
    rw [BridgeChannels.Fits, hp] at hfit
    exact hfit.trans (hused.exchange_eq _)
  · exact hcourse.publishes_of_ok (hok hhealthy)

/-- Settings with one exchange for both sides. -/
def oneExchange : Settings where
  cega := { exchange := "bridge", queue := "in" }
  lega := { exchange := "bridge", queue := "out" }

/-- Its rule for the second status queue of LEGA. -/
def verifiedRule : RoutingRule := ⟨"verified", .legaToCega, "bridge", "files.verified"⟩

/-- Its channels, once LEGA was down for a while and a message was forwarded. -/
def outlived : BridgeChannels :=
  let fresh := BridgeChannels.ofSettings oneExchange ⟨[], [("files.verified", "back")], [], []⟩
  let down := fresh.set .legaPublish { fresh.legaPublish with
    memory := fresh.legaPublish.memory.setUnavailable "down" }
  let up := down.set .legaPublish { down.legaPublish with
    memory := down.legaPublish.memory.setUnavailable none }
  (((Router.ofSettings bareRouter.resolver oneExchange).forward verifiedRule emptyFile).run
    BridgeChannels.perform up).state

/-- They take the next message. -/
theorem acked_on_outlived :
    outlived.Used oneExchange ⟨[], [("files.verified", "back")], [], []⟩ ∧
    verifiedRule ∈ RoutingRule.standard oneExchange ∧ outlived.Healthy ∧
    (((Router.ofSettings bareRouter.resolver oneExchange).forward verifiedRule emptyFile).run
      BridgeChannels.perform outlived).result = .ok .acked := by
  have hused : outlived.Used oneExchange ⟨[], [("files.verified", "back")], [], []⟩ :=
    .forwarded (.unavailable (.unavailable .fresh .legaPublish (some "down")) .legaPublish none) _ _
      _
  have hrule : verifiedRule ∈ RoutingRule.standard oneExchange := by decide
  have hhealthy : outlived.Healthy := by
    refine ⟨fun endpoint kind => ?_, rfl, rfl⟩
    cases endpoint <;> cases kind <;> rfl
  exact ⟨hused, hrule, hhealthy,
    (exchanges_agree hused hrule bareRouter.resolver emptyFile).2.1 hhealthy⟩

end BrokerBridge
