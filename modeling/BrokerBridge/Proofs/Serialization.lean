import BrokerBridge.Proofs.Exclusion
import BrokerBridge.Proofs.Ledger

/-!
# The schedule of the consumers does not show

Several consumers over the channels of a session, with failures that are fixed.  What a channel in
memory answers depends on its mode, which no call changes (`BridgeChannels.Alike`); so a forward
makes the same calls, gets the same answers and ends in the same way whatever was forwarded before.

* `Router.drain_result_cons`, `Router.drain_calls`: what a consumer does alone, delivery by
  delivery.
* **`Crowd.Progress`**: at any time, a consumer has attended to a first part of what it attends to
  alone, and has the rest and the same end before it.
* `Session.schedule_independent`: in every complete interleaving each consumer does what it does
  alone, the channels are those of the serial order, and no queue shows more of the schedule than
  the order of messages of different consumers.  No interleaving gets stuck.
-/
namespace BrokerBridge

/-! ## 1. What the answers depend on -/

/-- What the answers of a channel depend on, and where it puts messages: its exchange and bindings,
whether it is unavailable, and the failures that are injected. -/
def FaultyChannel.mode (c : FaultyChannel) :
    String × Assoc String × Option String × Injected :=
  (c.memory.exchange, c.memory.bindings, c.memory.unavailable, c.injected)

theorem FaultyChannel.mode_perform (c : FaultyChannel) (op : Operation) :
    (c.perform op).2.mode = c.mode := by
  unfold perform
  split
  · rfl
  · cases op with
    | ack _ _ | nack _ _ _ | reject _ _ => rfl
    | publish p =>
      simp only [mode, MemoryChannel.perform, MemoryChannel.publish]
      split
      · rfl
      · split <;> rfl

theorem FaultyChannel.perform_congr {c c' : FaultyChannel} (h : c.mode = c'.mode) (op : Operation) :
    (c.perform op).1 = (c'.perform op).1 := by
  simp only [mode, Prod.mk.injEq] at h
  obtain ⟨hx, hb, hu, hi⟩ := h
  unfold perform
  rw [hi]
  split
  · rfl
  · cases op with
    | ack _ _ | nack _ _ _ | reject _ _ => rfl
    | publish p =>
      simp only [MemoryChannel.perform, MemoryChannel.publish, hu, hx]
      split
      · rfl
      · split <;> rfl

namespace BridgeChannels

/-- Channels in the same modes. -/
def Alike (a b : BridgeChannels) : Prop := ∀ endpoint, (a.get endpoint).mode = (b.get endpoint).mode

theorem Alike.refl (a : BridgeChannels) : Alike a a := fun _ => rfl

theorem Alike.symm {a b : BridgeChannels} (h : Alike a b) : Alike b a :=
  fun endpoint => (h endpoint).symm

theorem Alike.trans {a b c : BridgeChannels} (h : Alike a b) (h' : Alike b c) : Alike a c :=
  fun endpoint => (h endpoint).trans (h' endpoint)

theorem alike_perform (channels : BridgeChannels) (call : Call) :
    Alike (channels.perform call).2 channels := by
  intro endpoint
  rw [get_perform]
  split
  · exact FaultyChannel.mode_perform _ _
  · rfl

theorem Alike.perform {a b : BridgeChannels} (h : Alike a b) (call : Call) :
    (a.perform call).1 = (b.perform call).1 := FaultyChannel.perform_congr (h _) _

/-- **A plan goes the same way over channels in the same modes**, and leaves the modes as they
were. -/
theorem Alike.run {α : Type} (p : Plan α) {a b : BridgeChannels} (h : Alike a b) :
    (p.run BridgeChannels.perform a).calls = (p.run BridgeChannels.perform b).calls ∧
      (p.run BridgeChannels.perform a).result = (p.run BridgeChannels.perform b).result ∧
        Alike (p.run BridgeChannels.perform a).state b := by
  induction p generalizing a b with
  | done result => exact ⟨rfl, rfl, h⟩
  | note event next ih => exact ih h
  | call request next ih =>
    have hr : (a.perform request).1 = (b.perform request).1 := h.perform request
    have hs : Alike (a.perform request).2 (b.perform request).2 :=
      (alike_perform a request).trans (h.trans (alike_perform b request).symm)
    obtain ⟨hc, hv, hst⟩ := ih (a.perform request).1 hs
    rw [Plan.run_call (Prod.eta _).symm, Plan.run_call (Prod.eta _).symm]
    rw [hr] at hc hv hst ⊢
    exact ⟨by rw [hc], hv, hst.trans (alike_perform b request)⟩

/-- No plan changes the modes. -/
theorem alike_run {α : Type} (p : Plan α) (channels : BridgeChannels) :
    Alike (p.run BridgeChannels.perform channels).state channels :=
  ((Alike.refl channels).run p).2.2

end BridgeChannels

open BridgeChannels (Alike alike_run)

/-! ## 2. A consumer alone -/

namespace Router

variable {r : Router} {rule : RoutingRule}

/-- The deliveries of a stream that a consumer alone attends to: those before the first failure of
the stream, and no further than the first forward that fails. -/
def attended {σ : Type} (perform : σ → Call → Response × σ) (r : Router) (rule : RoutingRule)
    (s : σ) : List StreamItem → List Delivery
  | .ok d :: rest =>
    let o := (r.forward rule d).run perform s
    d :: match o.result with
      | .ok _ => attended perform r rule o.state rest
      | .error _ => []
  | _ => []

theorem attended_alike : ∀ (stream : List StreamItem) {a b : BridgeChannels}, Alike a b →
    attended BridgeChannels.perform r rule a stream =
      attended BridgeChannels.perform r rule b stream
  | [], _, _, _ => rfl
  | .error _ :: _, _, _, _ => rfl
  | .ok d :: rest, a, b, h => by
    obtain ⟨-, hv, hs⟩ := h.run (r.forward rule d)
    have ih := attended_alike rest (hs.trans (alike_run (r.forward rule d) b).symm)
    simp only [attended, hv, ih]

/-- A consumer alone attends to the beginning of its stream. -/
theorem attended_prefix {σ : Type} (perform : σ → Call → Response × σ) :
    ∀ (stream : List StreamItem) (s : σ),
      (attended perform r rule s stream).map Except.ok <+: stream
  | [], _ => List.nil_prefix
  | .error _ :: _, _ => List.nil_prefix
  | .ok d :: rest, s => by
    simp only [attended, List.map_cons, List.cons_prefix_cons, true_and]
    split
    · exact attended_prefix perform rest _
    · exact List.nil_prefix

theorem drain_alike : ∀ (stream : List StreamItem) {a b : BridgeChannels}, Alike a b →
    (r.drain rule BridgeChannels.perform a stream).result =
        (r.drain rule BridgeChannels.perform b stream).result ∧
      (r.drain rule BridgeChannels.perform a stream).calls =
        (r.drain rule BridgeChannels.perform b stream).calls
  | [], _, _, _ => ⟨rfl, rfl⟩
  | .error _ :: _, _, _, _ => ⟨rfl, rfl⟩
  | .ok d :: rest, a, b, h => by
    obtain ⟨hc, hv, hs⟩ := h.run (r.forward rule d)
    obtain ⟨ih₁, ih₂⟩ := drain_alike rest (hs.trans (alike_run (r.forward rule d) b).symm)
    simp only [drain, hv]
    split
    · exact ⟨rfl, hc⟩
    · exact ⟨ih₁, by simp only [Outcome.after, hc, ih₂]⟩

variable (s : BridgeChannels) (d : Delivery) (rest : List StreamItem)

/-- What a delivery comes to, from the first state of the channels as from any later one. -/
def verdict (r : Router) (rule : RoutingRule) (s : BridgeChannels) (d : Delivery) : ForwardResult :=
  ((r.forward rule d).run BridgeChannels.perform s).result

theorem attended_cons :
    attended BridgeChannels.perform r rule s (.ok d :: rest) =
      d :: match verdict r rule s d with
        | .ok _ => attended BridgeChannels.perform r rule s rest
        | .error _ => [] := by
  have hs : Alike _ s := alike_run (r.forward rule d) s
  simp only [attended, verdict, attended_alike rest hs]

theorem drain_result_cons :
    (r.drain rule BridgeChannels.perform s (.ok d :: rest)).result =
      match verdict r rule s d with
      | .ok _ => (r.drain rule BridgeChannels.perform s rest).result
      | .error e => e := by
  have hs : Alike _ s := alike_run (r.forward rule d) s
  simp only [drain, verdict]
  split <;> rename_i hv
  · simp only [hv]
  · simp only [hv, Outcome.after]
    exact (drain_alike rest hs).1

/-- **Alone, a consumer makes the calls of the deliveries it attends to**, one after the other. -/
theorem drain_calls : ∀ stream : List StreamItem,
    (r.drain rule BridgeChannels.perform s stream).calls =
      (attended BridgeChannels.perform r rule s stream).flatMap fun d =>
        ((r.forward rule d).run BridgeChannels.perform s).calls
  | [] => rfl
  | .error _ :: _ => rfl
  | .ok d :: rest => by
    have hs : Alike _ s := alike_run (r.forward rule d) s
    rw [attended_cons, List.flatMap_cons]
    simp only [drain, verdict]
    split <;> rename_i hv
    · simp only [hv, List.flatMap_nil, List.append_nil]
    · simp only [hv, Outcome.after, (drain_alike rest hs).2, drain_calls rest]

end Router

/-! ## 3. How far a consumer has come -/

namespace Stage

variable (r : Router) (rule : RoutingRule) (s : BridgeChannels)

/-- The deliveries that a consumer has yet to attend to. -/
def ahead : Stage → List Delivery
  | .ready stream => r.attended BridgeChannels.perform rule s stream
  | .waiting d stream => r.attended BridgeChannels.perform rule s (.ok d :: stream)
  | .forwarding turn _ stream =>
    match r.verdict rule s turn.delivery with
    | .ok _ => r.attended BridgeChannels.perform rule s stream
    | .error _ => []
  | .ended _ => []

/-- The failure that a consumer is going to end with. -/
def fate : Stage → ForwardError
  | .ready stream => (r.drain rule BridgeChannels.perform s stream).result
  | .waiting d stream => (r.drain rule BridgeChannels.perform s (.ok d :: stream)).result
  | .forwarding turn _ stream =>
    match r.verdict rule s turn.delivery with
    | .ok _ => (r.drain rule BridgeChannels.perform s stream).result
    | .error e => e
  | .ended e => e

end Stage

namespace Crowd

variable {r : Router} {s : BridgeChannels} {consumers : List (RoutingRule × List StreamItem)}
  {c c' : Crowd BridgeChannels}

/-- The deliveries that a consumer has taken the lock for, in order. -/
def attendedBy {σ : Type} (c : Crowd σ) (i : Nat) : List Delivery :=
  (c.turns.filter fun turn => turn.consumer = i).map Turn.delivery

/-- **Each consumer is on its way through what it does alone.** -/
structure Progress (r : Router) (s : BridgeChannels)
    (consumers : List (RoutingRule × List StreamItem)) (c : Crowd BridgeChannels) : Prop where
  length : c.consumers.length = consumers.length
  rules : ∀ turn ∈ c.turns, ∃ stream, consumers[turn.consumer]? = some (turn.rule, stream)
  each : ∀ {i : Nat} {t : Consumer}, c.consumers[i]? = some t →
    ∃ stream, consumers[i]? = some (t.rule, stream) ∧
      c.attendedBy i ++ t.stage.ahead r t.rule s =
        r.attended BridgeChannels.perform t.rule s stream ∧
      t.stage.fate r t.rule s = (r.drain t.rule BridgeChannels.perform s stream).result

theorem progress_start : Progress r s consumers (start consumers s) where
  length := List.length_map _
  rules _ h := absurd h List.not_mem_nil
  each {i t} ht := by
    simp only [start, List.getElem?_map] at ht
    obtain ⟨p, hp, rfl⟩ := Option.map_eq_some_iff.mp ht
    exact ⟨p.2, hp, rfl, rfl⟩

/-- A consumer moved, and it has the same before it as it had, less what it has now attended to. -/
theorem Progress.set (h : Progress r s consumers c) {i : Nat} {t : Consumer} {stage : Stage}
    (ht : c.consumers[i]? = some t) (hc : c'.consumers = c.consumers.set i { t with stage })
    (hr : ∀ turn ∈ c'.turns, ∃ stream, consumers[turn.consumer]? = some (turn.rule, stream))
    (hj : ∀ j, i ≠ j → c'.attendedBy j = c.attendedBy j)
    (ha : c'.attendedBy i ++ stage.ahead r t.rule s = c.attendedBy i ++ t.stage.ahead r t.rule s)
    (hf : stage.fate r t.rule s = t.stage.fate r t.rule s) : Progress r s consumers c' where
  length := by rw [hc, List.length_set, h.length]
  rules := hr
  each {j u} hu := by
    rw [hc] at hu
    rcases of_getElem?_set_consumer ht hu with ⟨rfl, rfl⟩ | ⟨hij, hu⟩
    · obtain ⟨stream, hs, hsa, hsf⟩ := h.each ht
      exact ⟨stream, hs, ha.trans hsa, hf.trans hsf⟩
    · rw [hj j hij]
      exact h.each hu

/-- A move that begins no forward. -/
theorem Progress.set_same (h : Progress r s consumers c) {i : Nat} {t : Consumer} {stage : Stage}
    (ht : c.consumers[i]? = some t) (hc : c'.consumers = c.consumers.set i { t with stage })
    (hturns : c'.turns = c.turns) (ha : stage.ahead r t.rule s = t.stage.ahead r t.rule s)
    (hf : stage.fate r t.rule s = t.stage.fate r t.rule s) : Progress r s consumers c' := by
  have hat : ∀ j, c'.attendedBy j = c.attendedBy j := by
    intro j
    rw [attendedBy, hturns]
    rfl
  exact h.set ht hc (hturns ▸ h.rules) (fun j _ => hat j) (by rw [hat i, ha]) hf

theorem attendedBy_take {i : Nat} {t : Consumer} {d : Delivery} {rest : List StreamItem} (j : Nat) :
    (c.take i t d rest).attendedBy j = c.attendedBy j ++ if i = j then [d] else [] := by
  simp only [attendedBy, take, List.filter_append, List.map_append]
  congr 1
  by_cases h : i = j <;> simp [h]

/-- The channels are alike after any forwards. -/
theorem alike_afterTurns : ∀ (turns : List Turn) (s : BridgeChannels),
    Alike (Router.afterTurns BridgeChannels.perform r s turns) s
  | [], s => Alike.refl s
  | turn :: rest, s =>
    (alike_afterTurns rest _).trans (alike_run (r.forward turn.rule turn.delivery) s)

theorem Progress.transition {i : Nat} (hserial : Serial BridgeChannels.perform r s c)
    (h : Progress r s consumers c) (hstep : Transition BridgeChannels.perform r c i c') :
    Progress r s consumers c' := by
  cases hstep with
  | @idle t stage ht hs =>
    obtain ⟨rule, before⟩ := t
    cases hs with
    | close | fail | fetch => exact h.set_same ht rfl rfl rfl rfl
  | @take t d rest ht hs hfree =>
    refine h.set ht rfl ?_ (fun j hij => ?_) ?_ ?_
    · intro turn hturn
      rcases List.mem_append.mp hturn with hturn | hturn
      · exact h.rules turn hturn
      · obtain ⟨stream, hst, -⟩ := h.each ht
        rw [List.mem_singleton.mp hturn]
        exact ⟨stream, hst⟩
    · rw [attendedBy_take, if_neg hij, List.append_nil]
    · rw [attendedBy_take, if_pos rfl, hs, List.append_assoc]
      simp only [Stage.ahead, Router.attended_cons]
      rfl
    · rw [hs]
      simp only [Stage.fate, Router.drain_result_cons]
  | silent ht hs _ => exact h.set_same ht rfl rfl (by rw [hs]; rfl) (by rw [hs]; rfl)
  | act ht hs _ => exact h.set_same ht rfl rfl (by rw [hs]; rfl) (by rw [hs]; rfl)
  | @release t turn phase result rest ht hs hp =>
    -- the forward ends as the delivery would have ended at the start
    obtain ⟨-, hrule, before, made, -, -, hres⟩ := hserial.held ht hs
    have hv : r.verdict t.rule s turn.delivery = result := by
      have hend := hres.result
      rw [hp, Plan.run_done] at hend
      rw [Router.verdict, ← hrule]
      exact ((alike_afterTurns before s).run _).2.1.symm.trans hend
    refine h.set_same ht rfl rfl ?_ ?_ <;> rw [hs] <;> simp only [Stage.ahead, Stage.fate, hv] <;>
      cases result <;> rfl

theorem Reaches.progress (h : Reaches BridgeChannels.perform r (start consumers s) c) :
    Progress r s consumers c := by
  induction h with
  | refl => exact progress_start
  | step head last ih => exact ih.transition head.serial (step_transition last)

/-! ## 4. Complete interleavings -/

theorem exists_ended_of_finished {σ : Type} {c : Crowd σ} (hf : c.finished = true)
    {i : Nat} {t : Consumer} (ht : c.consumers[i]? = some t) : ∃ e, t.stage = .ended e := by
  have hend := List.all_eq_true.mp hf t (List.mem_of_getElem? ht)
  cases hs : t.stage with
  | ended e => exact ⟨e, rfl⟩
  | ready _ | waiting _ _ | forwarding _ _ _ => simp [hs, Stage.end?] at hend

theorem holder_eq_none_of_finished {σ : Type} {c : Crowd σ} (hl : Locked c)
    (hf : c.finished = true) : c.holder = none := by
  cases hh : c.holder with
  | none => rfl
  | some i =>
    obtain ⟨t, ht, hforw⟩ := (hl i).mp hh
    obtain ⟨e, hs⟩ := exists_ended_of_finished hf ht
    exact absurd hforw (by simp [hs, Stage.isForwarding])

/-- **Nobody is left waiting**: the holder of the lock can go on, and when there is none, everybody
can who has not ended. -/
theorem Locked.exists_step {σ : Type} {perform : σ → Call → Response × σ} {c : Crowd σ}
    (hl : Locked c) (hf : c.finished = false) : ∃ i c', c.step perform r i = some c' := by
  cases hh : c.holder with
  | some i =>
    obtain ⟨⟨rule, stage⟩, ht, hforw⟩ := (hl i).mp hh
    cases stage with
    | ready _ | waiting _ _ | ended _ => exact absurd hforw (by simp [Stage.isForwarding])
    | forwarding turn phase rest => exact ⟨i, _, by rw [step, ht]; rfl⟩
  | none =>
    obtain ⟨⟨rule, stage⟩, hmem, hend⟩ := List.all_eq_false.mp hf
    obtain ⟨i, ht⟩ := List.mem_iff_getElem?.mp hmem
    cases stage with
    | ready stream =>
      rcases stream with _ | ⟨_ | _, _⟩ <;> exact ⟨i, _, by rw [step, ht]; rfl⟩
    | waiting d rest => exact ⟨i, _, by rw [step, ht]; simp only [Option.bind_some, hh]; rfl⟩
    | forwarding turn phase rest => exact ⟨i, _, by rw [step, ht]; rfl⟩
    | ended e => exact absurd rfl hend

/-- Over channels whose modes are fixed, every forward makes the calls it would have made first. -/
theorem traceOf_served : ∀ (turns : List Turn) {a : BridgeChannels}, Alike a s →
    Router.traceOf (Router.served BridgeChannels.perform r a turns) =
      Router.row (turns.map fun turn =>
        (turn, ((r.forward turn.rule turn.delivery).run BridgeChannels.perform s).calls))
  | [], _, _ => rfl
  | turn :: rest, a, h => by
    obtain ⟨hc, -, hs⟩ := h.run (r.forward turn.rule turn.delivery)
    have ih := traceOf_served rest hs
    simp only [Router.traceOf, Router.served, Router.row, List.map_cons, List.flatMap_cons, hc]
      at ih ⊢
    rw [ih]

/-- The calls of some forwards are calls of theirs. -/
theorem fst_mem_of_mem_traceOf {σ : Type} {perform : σ → Call → Response × σ} (turns : List Turn)
    {s : σ} {x : Turn × Call × Response}
    (hx : x ∈ Router.traceOf (Router.served perform r s turns)) : x.1 ∈ turns := by
  obtain ⟨b, hb, hx⟩ := List.mem_flatMap.mp hx
  obtain ⟨y, -, rfl⟩ := List.mem_map.mp hx
  obtain ⟨o, ho, rfl⟩ := List.mem_map.mp hb
  rw [← Router.map_fst_served turns s]
  exact List.mem_map_of_mem ho

/-- The calls of one consumer in a row of blocks. -/
theorem filter_row (f : Turn → List (Call × Response)) (i : Nat) (turns : List Turn) :
    ((Router.row (turns.map fun turn => (turn, f turn))).filter fun x => x.1.consumer = i).map
        Prod.snd = (turns.filter fun turn => turn.consumer = i).flatMap f := by
  induction turns with
  | nil => rfl
  | cons turn rest ih =>
    simp only [Router.row, List.map_cons, List.flatMap_cons, List.filter_append, List.map_append,
      List.filter_map] at ih ⊢
    rw [ih]
    by_cases h : turn.consumer = i
    · simp [h, Function.comp_def]
    · simp [h, Function.comp_def]

/-- A trace in which every consumer made the calls that it makes alone. -/
theorem Progress.filter_trace (h : Progress r s consumers c) {i : Nat}
    {rule : RoutingRule} {stream : List StreamItem} (hi : consumers[i]? = some (rule, stream))
    (htrace : c.trace = Router.traceOf (Router.served BridgeChannels.perform r s c.turns)) :
    (c.trace.filter fun x => x.1.consumer = i).map Prod.snd =
      (c.attendedBy i).flatMap fun d =>
        ((r.forward rule d).run BridgeChannels.perform s).calls := by
  rw [htrace, traceOf_served c.turns (Alike.refl s),
    filter_row fun turn => ((r.forward turn.rule turn.delivery).run BridgeChannels.perform s).calls,
    attendedBy, List.flatMap_map]
  refine congrArg List.flatten (List.map_congr_left fun turn hturn => ?_)
  obtain ⟨hmem, hturn⟩ := List.mem_filter.mp hturn
  obtain ⟨stream', hrule⟩ := h.rules turn hmem
  rw [of_decide_eq_true hturn, hi] at hrule
  rw [(Prod.mk.inj (Option.some.inj hrule)).1]

/-- A consumer that has ended has attended to all that it attends to alone, and has ended as it
ends alone. -/
theorem Progress.of_finished (h : Progress r s consumers c) (hf : c.finished = true) {i : Nat}
    {rule : RoutingRule} {stream : List StreamItem} (hi : consumers[i]? = some (rule, stream)) :
    c.consumers[i]? = some ⟨rule, .ended (r.drain rule BridgeChannels.perform s stream).result⟩ ∧
      c.attendedBy i = r.attended BridgeChannels.perform rule s stream := by
  obtain ⟨hlt, -⟩ := List.getElem?_eq_some_iff.mp hi
  obtain ⟨⟨rule', stage⟩, ht⟩ : ∃ t, c.consumers[i]? = some t :=
    ⟨_, List.getElem?_eq_getElem (h.length ▸ hlt)⟩
  obtain ⟨e, rfl⟩ := exists_ended_of_finished hf ht
  obtain ⟨stream', hs, ha, he⟩ := h.each ht
  obtain ⟨rfl, rfl⟩ := Prod.mk.inj (Option.some.inj (hi.symm.trans hs))
  refine ⟨?_, ?_⟩
  · rw [ht, ← he]
    rfl
  · rw [← ha]
    exact (List.append_nil _).symm

end Crowd

/-! ## 5. Messages by consumer -/

/-- Items with the numbers of their owners are those of owner 0, of owner 1, and so on, in another
order. -/
theorem perm_flatMap_owner {β : Type} : ∀ (n : Nat) (l : List (Nat × β)), (∀ x ∈ l, x.1 < n) →
    (l.map Prod.snd).Perm
      ((List.range n).flatMap fun i => (l.filter fun x => x.1 = i).map Prod.snd)
  | 0, l, h => by
    obtain rfl : l = [] := List.eq_nil_iff_forall_not_mem.mpr fun x hx => absurd (h x hx) (by simp)
    exact .refl _
  | n + 1, l, h => by
    -- take the items of the last owner out, and put them at the end
    have hsplit := (List.filter_append_perm (fun x => decide (x.1 = n)) l).symm
    have hlt : ∀ x ∈ l.filter (fun x => !decide (x.1 = n)), x.1 < n := by
      intro x hx
      obtain ⟨hmem, hne⟩ := List.mem_filter.mp hx
      have := h x hmem
      simp only [Bool.not_eq_true', decide_eq_false_iff_not] at hne
      omega
    have ih := perm_flatMap_owner n _ hlt
    have hfilter : ∀ i ∈ List.range n,
        ((l.filter fun x => !decide (x.1 = n)).filter fun x => x.1 = i).map Prod.snd =
          (l.filter fun x => x.1 = i).map Prod.snd := by
      intro i hi
      have hin := List.mem_range.mp hi
      rw [List.filter_filter]
      congr 2
      funext x
      by_cases hx : x.1 = i
      · simp [hx, show i ≠ n by omega]
      · simp [hx]
    rw [List.flatMap_def, List.map_congr_left hfilter, ← List.flatMap_def] at ih
    rw [List.range_succ, List.flatMap_append, List.flatMap_singleton]
    refine (hsplit.map Prod.snd).trans ?_
    rw [List.map_append]
    exact List.perm_append_comm.trans (ih.append_right _)

namespace Crowd

/-- The messages that the calls so far landed in a queue of channels that started as `s`, each with
the consumer it came from. -/
def landings (s : BridgeChannels) (endpoint : Endpoint) (queue : String)
    (c : Crowd BridgeChannels) : List (Nat × Publishing) :=
  c.trace.filterMap fun x => (s.landed endpoint queue x.2).map (x.1.consumer, ·)

variable (s : BridgeChannels) (endpoint : Endpoint) (queue : String) (c : Crowd BridgeChannels)

theorem map_snd_landings :
    (c.landings s endpoint queue).map Prod.snd =
      (c.trace.map Prod.snd).filterMap (s.landed endpoint queue) := by
  rw [landings, List.map_filterMap, List.filterMap_map]
  congr 1
  funext x
  cases h : s.landed endpoint queue x.2 <;> simp [h]

theorem filter_landings (i : Nat) :
    ((c.landings s endpoint queue).filter fun x => x.1 = i).map Prod.snd =
      ((c.trace.filter fun x => x.1.consumer = i).map Prod.snd).filterMap
        (s.landed endpoint queue) := by
  unfold landings
  induction c.trace with
  | nil => rfl
  | cons x rest ih =>
    rw [List.filterMap_cons]
    cases hx : s.landed endpoint queue x.2 <;> by_cases hi : x.1.consumer = i <;>
      simp [hx, hi, ih]

/-- With nobody forwarding, a queue holds what it held at the start and what the calls landed
there. -/
theorem Serial.queued {r : Router} {s : BridgeChannels} {c : Crowd BridgeChannels}
    (h : Serial BridgeChannels.perform r s c) (hfree : c.holder = none) (endpoint : Endpoint)
    (queue : String) :
    c.channels.queued endpoint queue =
      s.queued endpoint queue ++ (c.landings s endpoint queue).map Prod.snd := by
  obtain ⟨htrace, hchannels⟩ := h.free hfree
  rw [hchannels, map_snd_landings, htrace]
  exact BridgeChannels.queued_answered (Router.answered_served c.turns s) endpoint queue

/-- Messages come from consumers. -/
theorem Progress.lt_of_mem_landings {r : Router} {s : BridgeChannels}
    {consumers : List (RoutingRule × List StreamItem)} {c : Crowd BridgeChannels}
    (h : Progress r s consumers c)
    (htrace : c.trace = Router.traceOf (Router.served BridgeChannels.perform r s c.turns))
    {endpoint : Endpoint} {queue : String} {x : Nat × Publishing}
    (hx : x ∈ c.landings s endpoint queue) : x.1 < consumers.length := by
  obtain ⟨y, hy, hyx⟩ := List.mem_filterMap.mp hx
  obtain ⟨p, -, rfl⟩ := Option.map_eq_some_iff.mp hyx
  obtain ⟨stream, hs⟩ := h.rules y.1 (fst_mem_of_mem_traceOf c.turns (htrace ▸ hy))
  exact (List.getElem?_eq_some_iff.mp hs).1

end Crowd

/-! ## 6. The schedule does not show -/

namespace Session

/-- The deliveries of a stream that a consumer alone in a session attends to. -/
def attended (s : Session) (rule : RoutingRule) (stream : List StreamItem) : List Delivery :=
  s.router.attended BridgeChannels.perform rule s.channels stream

/-- The messages that a consumer alone in a session sends to a queue, delivery by delivery. -/
def sent (s : Session) (endpoint : Endpoint) (queue : String) (rule : RoutingRule)
    (stream : List StreamItem) : List Publishing :=
  (s.attended rule stream).flatMap fun d =>
    (s.forward rule d).calls.filterMap (s.channels.landed endpoint queue)

variable {s : Session} {rule : RoutingRule} {stream : List StreamItem}

theorem calls_consume :
    (s.consume rule stream).calls =
      (s.attended rule stream).flatMap fun d => (s.forward rule d).calls :=
  Router.drain_calls s.channels stream

/-- **The schedule of the consumers does not show.**  Any number of consumers share the router of a
session.  Once all of them have ended, in whatever order they took their steps:

* the channels are those of the same forwards one after the other, in the order in which they took
  the lock;
* every consumer has ended as it ends alone, has attended to the same deliveries, the first ones of
  its stream, and has made the same calls with the same responses;
* every queue holds what it held before and then the messages that the consumers send to it when
  they are alone, those of each consumer in the order of its stream.

And as long as a consumer has not ended, some consumer can take a step. -/
theorem schedule_independent (s : Session) (consumers : List (RoutingRule × List StreamItem))
    {c : Crowd BridgeChannels}
    (h : Crowd.Reaches BridgeChannels.perform s.router (s.crowd consumers) c) :
    (c.finished = true →
      c.channels = Router.afterTurns BridgeChannels.perform s.router s.channels c.turns ∧
      (∀ i rule stream, consumers[i]? = some (rule, stream) →
        c.consumers[i]? = some ⟨rule, .ended (s.consume rule stream).result⟩ ∧
        c.attendedBy i = s.attended rule stream ∧
        (s.attended rule stream).map Except.ok <+: stream ∧
        (c.trace.filter fun x => x.1.consumer = i).map Prod.snd = (s.consume rule stream).calls) ∧
      ∀ endpoint queue,
        c.channels.queued endpoint queue = s.channels.queued endpoint queue ++
          (c.landings s.channels endpoint queue).map Prod.snd ∧
        (c.channels.queued endpoint queue).Perm (s.channels.queued endpoint queue ++
          consumers.flatMap fun p => s.sent endpoint queue p.1 p.2) ∧
        ∀ i rule stream, consumers[i]? = some (rule, stream) →
          ((c.landings s.channels endpoint queue).filter fun x => x.1 = i).map Prod.snd =
            s.sent endpoint queue rule stream) ∧
    (c.finished = false → ∃ i c', c.step BridgeChannels.perform s.router i = some c') := by
  have hl : Crowd.Locked c := h.locked
  have hserial : Crowd.Serial BridgeChannels.perform s.router s.channels c := h.serial
  have hp : Crowd.Progress s.router s.channels consumers c := h.progress
  refine ⟨fun hf => ?_, hl.exists_step⟩
  obtain ⟨htrace, hchannels⟩ := hserial.free (Crowd.holder_eq_none_of_finished hl hf)
  have hcalls : ∀ i rule stream, consumers[i]? = some (rule, stream) →
      (c.trace.filter fun x => x.1.consumer = i).map Prod.snd = (s.consume rule stream).calls := by
    intro i rule stream hi
    rw [hp.filter_trace hi htrace, (hp.of_finished hf hi).2, calls_consume]
    rfl
  refine ⟨hchannels, fun i rule stream hi => ?_, fun endpoint queue => ?_⟩
  · obtain ⟨hend, hatt⟩ := hp.of_finished hf hi
    exact ⟨hend, hatt, Router.attended_prefix _ stream _, hcalls i rule stream hi⟩
  · have hqueue := hserial.queued (Crowd.holder_eq_none_of_finished hl hf) endpoint queue
    have hsent : ∀ i rule stream, consumers[i]? = some (rule, stream) →
        ((c.landings s.channels endpoint queue).filter fun x => x.1 = i).map Prod.snd =
          s.sent endpoint queue rule stream := by
      intro i rule stream hi
      rw [Crowd.filter_landings, hcalls i rule stream hi, calls_consume, List.filterMap_flatMap]
      rfl
    refine ⟨hqueue, ?_, hsent⟩
    rw [hqueue]
    refine List.Perm.append_left _ ?_
    have hperm := perm_flatMap_owner consumers.length (c.landings s.channels endpoint queue)
      fun x hx => hp.lt_of_mem_landings htrace hx
    refine hperm.trans (List.Perm.of_eq (congrArg List.flatten (List.ext_getElem ?_ ?_)))
    · rw [List.length_map, List.length_map, List.length_range]
    · intro i hi _
      rw [List.getElem_map, List.getElem_map, List.getElem_range]
      exact hsent i _ _ (List.getElem?_eq_getElem (by simpa using hi))

/-- A session in which files cannot be acked. -/
def withoutAcks : Session := fresh.inject .cegaConsume .ack (some (.unavailable "down"))

/-- One consumer ended early, the other with its stream. -/
theorem finished_without_acks :
    ∃ c, Crowd.Reaches BridgeChannels.perform withoutAcks.router
        (withoutAcks.crowd Crowd.twoConsumers) c ∧
      c.ends = [.disposition .ack 1 (.unavailable "down"), .consumerClosed "inbox"] ∧
      c.channels =
        Router.afterTurns BridgeChannels.perform withoutAcks.router withoutAcks.channels c.turns ∧
      (c.channels.queued .legaPublish "files").Perm (Crowd.twoConsumers.flatMap fun p =>
        withoutAcks.sent .legaPublish "files" p.1 p.2) := by
  have hr := Crowd.reaches_run withoutAcks.router (withoutAcks.crowd Crowd.twoConsumers)
  obtain ⟨hfinished, -⟩ := schedule_independent withoutAcks Crowd.twoConsumers hr
  obtain ⟨hchannels, -, hqueues⟩ := hfinished (by decide)
  obtain ⟨-, hperm, -⟩ := hqueues .legaPublish "files"
  exact ⟨_, hr, by decide, hchannels, hperm⟩

end Session

end BrokerBridge
