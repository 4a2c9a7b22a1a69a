import BrokerBridge.Proofs.Settlement
import BrokerBridge.Routing.Schedule

/-!
# One forward at a time

Any number of consumers share a router and its lock, over any channels and in any order of steps.

* **`Crowd.Transition`** says once what a step can do; all invariants below go by its cases.
* `Crowd.Locked`: the holder of the lock is the consumer that is forwarding.
* **`Crowd.Serial`**: the calls made so far, and the channels, are those of the forwards carried out
  one after the other in the order in which they took the lock; of the last one, what is left of its
  plan is what is left of the whole.
* `Crowd.one_forward_at_a_time` puts both into words: one forward at most is under way, one
  publication at most, and the trace is a row of blocks, one for each forward.
-/
namespace BrokerBridge

variable {σ : Type} {perform : σ → Call → Response × σ} {r : Router}

/-! ## 1. Interleavings -/

/-- The plan that a forward still has before it. -/
def Phase.plan (r : Router) (turn : Turn) : Phase → Plan ForwardResult
  | .transforming => r.forward turn.rule turn.delivery
  | .following plan => plan
  | .publishing request next => .call request next

namespace Crowd

/-- **The crowds that can be reached** from a crowd, by steps of its consumers in any order. -/
inductive Reaches (perform : σ → Call → Response × σ) (r : Router) (c : Crowd σ) :
    Crowd σ → Prop where
  | refl : Reaches perform r c c
  | step {c' c'' : Crowd σ} {i : Nat} (head : Reaches perform r c c')
      (last : c'.step perform r i = some c'') : Reaches perform r c c''

theorem reaches_of_follow {c₀ c' : Crowd σ} : ∀ {schedule : List Nat} {c : Crowd σ},
    Reaches perform r c₀ c → c.follow perform r schedule = some c' → Reaches perform r c₀ c'
  | [], c, h, hf => Option.some.inj hf ▸ h
  | i :: rest, c, h, hf => by
    obtain ⟨c₁, h₁, hf⟩ := Option.bind_eq_some_iff.mp hf
    exact reaches_of_follow (h.step h₁) hf

theorem follow_append_singleton (schedule : List Nat) (i : Nat) (c : Crowd σ) :
    c.follow perform r (schedule ++ [i]) =
      (c.follow perform r schedule).bind fun c => c.step perform r i := by
  induction schedule generalizing c with
  | nil => simp [follow]
  | cons j rest ih => simp only [List.cons_append, follow, ih, Option.bind_assoc]

/-- What can be reached is what a list of the numbers of consumers leads to. -/
theorem reaches_iff_follow {c c' : Crowd σ} :
    Reaches perform r c c' ↔ ∃ schedule, c.follow perform r schedule = some c' := by
  refine ⟨fun h => ?_, fun ⟨schedule, hf⟩ => reaches_of_follow .refl hf⟩
  induction h with
  | refl => exact ⟨[], rfl⟩
  | @step c' c'' i _ last ih =>
    obtain ⟨schedule, hf⟩ := ih
    exact ⟨schedule ++ [i], by rw [follow_append_singleton, hf]; exact last⟩

theorem Reaches.step_getD {c₀ c : Crowd σ} (h : Reaches perform r c₀ c) (i : Nat) :
    Reaches perform r c₀ ((c.step perform r i).getD c) := by
  cases hs : c.step perform r i with
  | none => exact h
  | some c' => exact h.step hs

theorem Reaches.pass {c₀ c : Crowd σ} (h : Reaches perform r c₀ c) (most : Nat) :
    Reaches perform r c₀ (c.pass perform r most).2 := by
  unfold Crowd.pass
  induction List.range c.consumers.length generalizing c most with
  | nil => exact h
  | cons i rest ih =>
    rw [List.foldl_cons]
    exact ih (h.step_getD i) _

theorem Reaches.runFor {c₀ : Crowd σ} : ∀ (fuel : Nat) {most : Nat} {c : Crowd σ},
    Reaches perform r c₀ c → Reaches perform r c₀ (c.runFor perform r fuel most).2
  | 0, _, _, h => h
  | fuel + 1, most, c, h => by
    rw [Crowd.runFor]
    split
    · exact h
    · exact Reaches.runFor fuel (h.pass most)

/-- Taking turns is one of the interleavings. -/
theorem reaches_run (r : Router) (c : Crowd BridgeChannels) :
    Reaches BridgeChannels.perform r c (c.run r).2 := Reaches.runFor _ .refl

/-- The steps of a consumer outside of any forward. -/
inductive Idle (rule : RoutingRule) : Stage → Stage → Prop where
  | close : Idle rule (.ready []) (.ended (.consumerClosed rule.queue))
  | fail {e : ChannelError} {rest : List StreamItem} :
      Idle rule (.ready (.error e :: rest)) (.ended (.consume rule.queue e))
  | fetch {d : Delivery} {rest : List StreamItem} :
      Idle rule (.ready (.ok d :: rest)) (.waiting d rest)

/-- **What a step of consumer `i` can do.** -/
inductive Transition (perform : σ → Call → Response × σ) (r : Router) (c : Crowd σ) (i : Nat) :
    Crowd σ → Prop where
  /-- Something outside of a forward. -/
  | idle {t : Consumer} {stage : Stage} (ht : c.consumers[i]? = some t)
      (hs : Idle t.rule t.stage stage) : Transition perform r c i (c.move i t stage)
  /-- Take the lock. -/
  | take {t : Consumer} {d : Delivery} {rest : List StreamItem} (ht : c.consumers[i]? = some t)
      (hs : t.stage = .waiting d rest) (hfree : c.holder = none) :
      Transition perform r c i (c.take i t d rest)
  /-- Go on in a forward without a call. -/
  | silent {t : Consumer} {turn : Turn} {phase phase' : Phase} {rest : List StreamItem}
      (ht : c.consumers[i]? = some t) (hs : t.stage = .forwarding turn phase rest)
      (hp : phase.plan r turn = phase'.plan r turn ∨
        ∃ event, phase.plan r turn = .note event (phase'.plan r turn)) :
      Transition perform r c i (c.move i t (.forwarding turn phase' rest))
  /-- Make a call. -/
  | act {t : Consumer} {turn : Turn} {phase : Phase} {request : Call}
      {next : Response → Plan ForwardResult} {rest : List StreamItem}
      (ht : c.consumers[i]? = some t) (hs : t.stage = .forwarding turn phase rest)
      (hp : phase.plan r turn = .call request next) :
      Transition perform r c i (c.act perform i t turn request next rest)
  /-- Give the lock back. -/
  | release {t : Consumer} {turn : Turn} {phase : Phase} {result : ForwardResult}
      {rest : List StreamItem} (ht : c.consumers[i]? = some t)
      (hs : t.stage = .forwarding turn phase rest) (hp : phase.plan r turn = .done result) :
      Transition perform r c i (c.release i t rest result)

/-- A step within a forward. -/
theorem advance_transition {c : Crowd σ} {i : Nat} {t : Consumer} {turn : Turn} {phase : Phase}
    {rest : List StreamItem} (ht : c.consumers[i]? = some t)
    (hs : t.stage = .forwarding turn phase rest) :
    Transition perform r c i (c.advance perform r i t turn rest phase) := by
  cases phase with
  | transforming => exact .silent ht hs (Or.inl rfl)
  | publishing request next => exact .act ht hs rfl
  | following plan =>
    cases plan with
    | done result => exact .release ht hs rfl
    | note event next => exact .silent ht hs (Or.inr ⟨event, rfl⟩)
    | call request next =>
      simp only [advance]
      split
      · exact .silent ht hs (Or.inl rfl)
      · exact .act ht hs rfl

theorem step_transition {c c' : Crowd σ} {i : Nat} (h : c.step perform r i = some c') :
    Transition perform r c i c' := by
  unfold step at h
  obtain ⟨t, ht, h⟩ := Option.bind_eq_some_iff.mp h
  split at h
  · rename_i hs
    rw [← Option.some.inj h]
    exact .idle ht (hs ▸ .close)
  · rename_i hs
    rw [← Option.some.inj h]
    exact .idle ht (hs ▸ .fail)
  · rename_i hs
    rw [← Option.some.inj h]
    exact .idle ht (hs ▸ .fetch)
  · rename_i hs
    split at h
    · exact absurd h (by simp)
    · rename_i hfree
      rw [← Option.some.inj h]
      exact .take ht hs (by simpa using hfree)
  · rename_i hs
    rw [← Option.some.inj h]
    exact advance_transition ht hs
  · exact absurd h (by simp)

/-! ## 2. The lock -/

/-- **The lock is held by the consumer that is forwarding**, and by nobody when none is. -/
def Locked (c : Crowd σ) : Prop :=
  ∀ i, c.holder = some i ↔ ∃ t, c.consumers[i]? = some t ∧ t.stage.isForwarding = true

theorem getElem?_set_consumer {c : Crowd σ} {i : Nat} {t : Consumer} (ht : c.consumers[i]? = some t)
    (t' : Consumer) (j : Nat) :
    (c.consumers.set i t')[j]? = if i = j then some t' else c.consumers[j]? := by
  obtain ⟨hi, -⟩ := List.getElem?_eq_some_iff.mp ht
  rw [List.getElem?_set]
  by_cases h : i = j
  · subst h
    rw [if_pos rfl, if_pos rfl, if_pos hi]
  · rw [if_neg h, if_neg h]

theorem Idle.isForwarding_eq_false {rule : RoutingRule} {stage stage' : Stage}
    (h : Idle rule stage stage') :
    stage.isForwarding = false ∧ stage'.isForwarding = false := by
  cases h <;> exact ⟨rfl, rfl⟩

theorem of_getElem?_set_consumer {c : Crowd σ} {i j : Nat} {t t' u : Consumer}
    (ht : c.consumers[i]? = some t) (hu : (c.consumers.set i t')[j]? = some u) :
    (i = j ∧ t' = u) ∨ (i ≠ j ∧ c.consumers[j]? = some u) := by
  rw [getElem?_set_consumer ht] at hu
  by_cases h : i = j
  · rw [if_pos h] at hu
    exact Or.inl ⟨h, Option.some.inj hu⟩
  · rw [if_neg h] at hu
    exact Or.inr ⟨h, hu⟩

/-- The lock after a consumer has moved: right for that consumer, and for the others as before. -/
theorem Locked.set {c c' : Crowd σ} (h : Locked c) {i : Nat} {t t' : Consumer}
    (ht : c.consumers[i]? = some t) (hc : c'.consumers = c.consumers.set i t')
    (hi : c'.holder = some i ↔ t'.stage.isForwarding = true)
    (hj : ∀ j, i ≠ j → (c'.holder = some j ↔ c.holder = some j)) : Locked c' := by
  intro j
  rw [hc, getElem?_set_consumer ht]
  by_cases hij : i = j
  · subst hij
    simpa using hi
  · rw [if_neg hij, hj j hij]
    exact h j

theorem locked_start (consumers : List (RoutingRule × List StreamItem)) (s : σ) :
    Locked (start consumers s) := by
  intro i
  simp only [start, List.getElem?_map, reduceCtorEq, false_iff]
  rintro ⟨t, ht, hf⟩
  obtain ⟨p, -, rfl⟩ := Option.map_eq_some_iff.mp ht
  exact absurd hf (by simp [Stage.isForwarding])

theorem Locked.holder_iff {c : Crowd σ} (h : Locked c) {i : Nat} {t : Consumer}
    (ht : c.consumers[i]? = some t) : c.holder = some i ↔ t.stage.isForwarding = true := by
  rw [h i]
  exact ⟨fun ⟨_, ht', hf⟩ => Option.some.inj (ht.symm.trans ht') ▸ hf, fun hf => ⟨t, ht, hf⟩⟩

/-- The holder of the lock is the one that is forwarding. -/
theorem Locked.holder_eq {c : Crowd σ} (h : Locked c) {i : Nat} {t : Consumer} {turn : Turn}
    {phase : Phase} {rest : List StreamItem} (ht : c.consumers[i]? = some t)
    (hs : t.stage = .forwarding turn phase rest) : c.holder = some i :=
  (h.holder_iff ht).mpr (by rw [hs]; rfl)

theorem Locked.transition {c c' : Crowd σ} {i : Nat} (h : Locked c)
    (hstep : Transition perform r c i c') : Locked c' := by
  cases hstep with
  | idle ht hs =>
    refine h.set ht rfl ((h.holder_iff ht).trans ?_) (fun _ _ => Iff.rfl)
    rw [hs.isForwarding_eq_false.1, hs.isForwarding_eq_false.2]
  | take ht hs hfree =>
    refine h.set ht rfl (by simp [take, Stage.isForwarding]) (fun j hij => ?_)
    simp [take, hfree, hij]
  | silent ht hs _ =>
    refine h.set ht rfl ((h.holder_iff ht).trans ?_) (fun _ _ => Iff.rfl)
    simp [hs, Stage.isForwarding]
  | act ht hs _ =>
    refine h.set ht rfl ((h.holder_iff ht).trans ?_) (fun _ _ => Iff.rfl)
    simp [hs, Stage.isForwarding]
  | @release t turn phase result rest ht hs _ =>
    have hi : c.holder = some i := h.holder_eq ht hs
    refine h.set ht rfl ?_ (fun j hij => ?_)
    · cases result <;> simp [release, Stage.afterForward, Stage.isForwarding]
    · simp [release, hi, hij]

theorem Reaches.locked {consumers : List (RoutingRule × List StreamItem)} {s : σ} {c : Crowd σ}
    (h : Reaches perform r (start consumers s) c) : Locked c := by
  induction h with
  | refl => exact locked_start consumers s
  | step _ last ih => exact ih.transition (step_transition last)

/-- A list with a property at one place at most. -/
theorem countP_le_one {α : Type} {p : α → Bool} : ∀ {l : List α},
    (∀ (i j : Nat) (a b : α), l[i]? = some a → l[j]? = some b → p a = true → p b = true → i = j) →
      l.countP p ≤ 1
  | [], _ => by simp
  | a :: l, h => by
    rw [List.countP_cons]
    split
    · rename_i ha
      have hl : l.countP p = 0 := by
        rw [List.countP_eq_zero]
        intro b hb hpb
        obtain ⟨j, hj⟩ := List.mem_iff_getElem?.mp hb
        exact absurd (h 0 (j + 1) a b rfl hj ha hpb) (by omega)
      omega
    · have ih : l.countP p ≤ 1 := countP_le_one fun i j a b hi hj ha hb => by
        have := h (i + 1) (j + 1) a b hi hj ha hb
        omega
      omega

theorem Locked.countP_isForwarding_le {c : Crowd σ} (h : Locked c) :
    (c.consumers.countP fun t => t.stage.isForwarding) ≤ 1 := by
  refine countP_le_one fun i j a b hi hj ha hb => ?_
  have hi' : c.holder = some i := (h i).mpr ⟨a, hi, ha⟩
  have hj' : c.holder = some j := (h j).mpr ⟨b, hj, hb⟩
  exact Option.some.inj (hi'.symm.trans hj')

theorem Locked.inFlight_le {c : Crowd σ} (h : Locked c) : c.inFlight ≤ 1 := by
  refine Nat.le_trans (List.countP_mono_left fun t _ ht => ?_) h.countP_isForwarding_le
  unfold Stage.isPublishing at ht
  split at ht
  · rename_i hs
    simp [hs, Stage.isForwarding]
  · exact absurd ht (by simp)

end Crowd

/-! ## 3. Forwards one after the other -/

namespace Router

/-- The forwards of some turns, carried out one after the other from channels in state `s`. -/
def served (perform : σ → Call → Response × σ) (r : Router) : σ → List Turn →
    List (Turn × Outcome σ ForwardResult)
  | _, [] => []
  | s, turn :: rest =>
    let o := (r.forward turn.rule turn.delivery).run perform s
    (turn, o) :: served perform r o.state rest

/-- The channels after the forwards of some turns, carried out one after the other. -/
def afterTurns (perform : σ → Call → Response × σ) (r : Router) (s : σ) (turns : List Turn) : σ :=
  turns.foldl (fun s turn => ((r.forward turn.rule turn.delivery).run perform s).state) s

theorem served_append (s : σ) (turns : List Turn) (turn : Turn) :
    served perform r s (turns ++ [turn]) = served perform r s turns ++
      [(turn, (r.forward turn.rule turn.delivery).run perform (afterTurns perform r s turns))] := by
  induction turns generalizing s with
  | nil => rfl
  | cons first rest ih =>
    simp only [List.cons_append, served, ih]
    rfl

theorem afterTurns_append (s : σ) (turns : List Turn) (turn : Turn) :
    afterTurns perform r s (turns ++ [turn]) =
      ((r.forward turn.rule turn.delivery).run perform (afterTurns perform r s turns)).state := by
  rw [afterTurns, List.foldl_append]
  rfl

theorem map_fst_served (turns : List Turn) : ∀ s : σ,
    (served perform r s turns).map Prod.fst = turns := by
  induction turns with
  | nil => exact fun _ => rfl
  | cons turn rest ih => exact fun s => congrArg (turn :: ·) (ih _)

/-- Each of the forwards takes one of its courses. -/
theorem course_of_mem_served {b : Turn × Outcome σ ForwardResult} :
    ∀ {turns : List Turn} {s : σ}, b ∈ served perform r s turns →
      Course r b.1.rule b.1.delivery b.2.calls b.2.result
  | [], _, hb => absurd hb List.not_mem_nil
  | turn :: rest, s, hb => by
    rcases List.mem_cons.mp hb with rfl | hb
    · exact forward_course perform s r turn.rule turn.delivery
    · exact course_of_mem_served hb

/-- Blocks of calls in a row, each call with the forward of its block. -/
def row (blocks : List (Turn × List (Call × Response))) : List (Turn × Call × Response) :=
  blocks.flatMap fun b => b.2.map (b.1, ·)

theorem row_append (blocks : List (Turn × List (Call × Response))) (turn : Turn)
    (calls : List (Call × Response)) :
    row (blocks ++ [(turn, calls)]) = row blocks ++ calls.map (turn, ·) := by
  simp [row]

/-- The calls of some forwards. -/
def traceOf (bs : List (Turn × Outcome σ ForwardResult)) : List (Turn × Call × Response) :=
  row (bs.map fun b => (b.1, b.2.calls))

theorem traceOf_append (bs : List (Turn × Outcome σ ForwardResult)) (turn : Turn)
    (o : Outcome σ ForwardResult) :
    traceOf (bs ++ [(turn, o)]) = traceOf bs ++ o.calls.map (turn, ·) := by
  rw [traceOf, List.map_append]
  exact row_append _ turn o.calls

/-- Forwards one after the other make their calls one after the other. -/
theorem answered_served : ∀ (turns : List Turn) (s : σ),
    Answered perform s ((traceOf (served perform r s turns)).map Prod.snd)
      (afterTurns perform r s turns)
  | [], s => .nil s
  | turn :: rest, s => by
    have ho : Answered perform s _ _ := Plan.run_answered (r.forward turn.rule turn.delivery) s
    have hcalls : (traceOf (served perform r s (turn :: rest))).map Prod.snd =
        ((r.forward turn.rule turn.delivery).run perform s).calls ++
          (traceOf (served perform r ((r.forward turn.rule turn.delivery).run perform s).state
            rest)).map Prod.snd := by
      simp only [traceOf, served, row, List.map_cons, List.flatMap_cons, List.map_append,
        List.map_map]
      congr 1
      exact List.map_id'' (fun _ => rfl) _
    rw [hcalls]
    exact ho.append (answered_served rest _)

/-- The calls of forwards one after the other come in whole courses. -/
theorem exists_blocks_served (s : σ) (turns : List Turn) :
    ∃ blocks : List (Turn × List (Call × Response)), blocks.map Prod.fst = turns ∧
      traceOf (served perform r s turns) = row blocks ∧
      ∀ b ∈ blocks, ∃ result, Course r b.1.rule b.1.delivery b.2 result := by
  refine ⟨(served perform r s turns).map fun b => (b.1, b.2.calls), ?_, rfl, fun b hb => ?_⟩
  · rw [List.map_map]
    exact map_fst_served turns s
  · obtain ⟨o, ho, rfl⟩ := List.mem_map.mp hb
    exact ⟨o.2.result, course_of_mem_served ho⟩

end Router

namespace Crowd

open Router

/-- The plan `p` on channels in state `s'` is what is left of the plan `q` on channels in state `s`,
after the calls `made`. -/
structure Resumes (perform : σ → Call → Response × σ) (s : σ) (q : Plan ForwardResult)
    (made : List (Call × Response)) (s' : σ) (p : Plan ForwardResult) : Prop where
  calls : (q.run perform s).calls = made ++ (p.run perform s').calls
  result : (q.run perform s).result = (p.run perform s').result
  state : (q.run perform s).state = (p.run perform s').state

theorem Resumes.refl {s : σ} {q : Plan ForwardResult} : Resumes perform s q [] s q :=
  ⟨rfl, rfl, rfl⟩

theorem Resumes.note {s s' : σ} {q p : Plan ForwardResult} {made : List (Call × Response)}
    {event : ForwardEvent} (h : Resumes perform s q made s' (.note event p)) :
    Resumes perform s q made s' p := ⟨h.calls, h.result, h.state⟩

theorem Resumes.call {s s' s'' : σ} {q : Plan ForwardResult} {made : List (Call × Response)}
    {request : Call} {response : Response} {next : Response → Plan ForwardResult}
    (h : Resumes perform s q made s' (.call request next))
    (hr : perform s' request = (response, s'')) :
    Resumes perform s q (made ++ [(request, response)]) s'' (next response) := by
  obtain ⟨hc, hv, hs⟩ := h
  rw [Plan.run_call hr] at hc hv hs
  exact ⟨by rw [hc, List.append_assoc]; rfl, hv, hs⟩

/-- **The last forward is under way**: the calls so far are those of the forwards before it, one
after the other, and then the first ones of its own; `p` is what is left of its plan. -/
def Underway (perform : σ → Call → Response × σ) (r : Router) (s : σ) (c : Crowd σ) (turn : Turn)
    (p : Plan ForwardResult) : Prop :=
  ∃ before made, c.turns = before ++ [turn] ∧
    c.trace = traceOf (served perform r s before) ++ made.map (turn, ·) ∧
    Resumes perform (afterTurns perform r s before) (r.forward turn.rule turn.delivery) made
      c.channels p

/-- **No forward is under way**: the calls so far, and the channels, are those of the forwards one
after the other. -/
def Settled (perform : σ → Call → Response × σ) (r : Router) (s : σ) (c : Crowd σ) : Prop :=
  c.trace = traceOf (served perform r s c.turns) ∧ c.channels = afterTurns perform r s c.turns

section Forwarding

variable {s : σ} {c : Crowd σ} {i : Nat} {t : Consumer} {turn : Turn} {rest : List StreamItem}

theorem Settled.take (h : Settled perform r s c) (i : Nat) (t : Consumer) (d : Delivery)
    (rest : List StreamItem) :
    Underway perform r s (c.take i t d rest) ⟨c.turns.length, i, t.rule, d⟩
      (r.forward t.rule d) := by
  obtain ⟨htr, hch⟩ := h
  refine ⟨c.turns, [], rfl, by simp [Crowd.take, move, htr], ?_⟩
  rw [← hch]
  exact .refl

theorem Underway.note {event : ForwardEvent} {p : Plan ForwardResult}
    (h : Underway perform r s c turn (.note event p)) : Underway perform r s c turn p := by
  obtain ⟨before, made, hb, htr, hres⟩ := h
  exact ⟨before, made, hb, htr, hres.note⟩

theorem Underway.act {request : Call} {next : Response → Plan ForwardResult}
    (h : Underway perform r s c turn (.call request next)) :
    Underway perform r s (c.act perform i t turn request next rest) turn
      (next (perform c.channels request).1) := by
  obtain ⟨before, made, hb, htr, hres⟩ := h
  refine ⟨before, made ++ [(request, (perform c.channels request).1)], hb, ?_, hres.call rfl⟩
  simp [Crowd.act, htr]

theorem Underway.done {result : ForwardResult} (h : Underway perform r s c turn (.done result)) :
    Settled perform r s c := by
  obtain ⟨before, made, hb, htr, hres⟩ := h
  have hcalls := hres.calls
  rw [Plan.run_done, List.append_nil] at hcalls
  refine ⟨?_, ?_⟩
  · rw [htr, hb, served_append, traceOf_append, hcalls]
  · rw [hb, afterTurns_append, hres.state, Plan.run_done]

end Forwarding

/-- **A crowd is as if its forwards had been carried out one after the other**, in the order in
which they took the lock; the one that has the lock now, up to where it stands. -/
structure Serial (perform : σ → Call → Response × σ) (r : Router) (s : σ) (c : Crowd σ) :
    Prop where
  numbers : c.turns.map Turn.number = List.range c.turns.length
  free : c.holder = none → Settled perform r s c
  held : ∀ {i : Nat} {t : Consumer} {turn : Turn} {phase : Phase} {rest : List StreamItem},
    c.consumers[i]? = some t → t.stage = .forwarding turn phase rest →
      turn.consumer = i ∧ turn.rule = t.rule ∧ Underway perform r s c turn (phase.plan r turn)

theorem serial_start (consumers : List (RoutingRule × List StreamItem)) (s : σ) :
    Serial perform r s (start consumers s) where
  numbers := rfl
  free _ := ⟨rfl, rfl⟩
  held {i t turn phase rest} ht hs := by
    simp only [start, List.getElem?_map] at ht
    obtain ⟨p, -, rfl⟩ := Option.map_eq_some_iff.mp ht
    exact absurd hs (by simp)

theorem Serial.transition {s : σ} {c c' : Crowd σ} {i : Nat} (hl : Locked c)
    (h : Serial perform r s c) (hstep : Transition perform r c i c') : Serial perform r s c' := by
  cases hstep with
  | @idle t stage ht hs =>
    refine ⟨h.numbers, h.free, fun {j u turn phase rest} hu hf => ?_⟩
    rcases of_getElem?_set_consumer ht hu with ⟨-, rfl⟩ | ⟨-, hu⟩
    · have hstage : stage = .forwarding turn phase rest := hf
      exact absurd hs.isForwarding_eq_false.2 (by simp [hstage, Stage.isForwarding])
    · exact h.held hu hf
  | @take t d rest ht hs hfree =>
    refine ⟨?_, fun hn => absurd hn (by simp [take]), fun {j u turn phase rest'} hu hf => ?_⟩
    · simp only [take, List.map_append, List.length_append, h.numbers, List.map_cons, List.map_nil,
        List.length_singleton, List.range_succ]
    · rcases of_getElem?_set_consumer ht hu with ⟨rfl, rfl⟩ | ⟨-, hu⟩
      · obtain ⟨rfl, rfl, -⟩ := Stage.forwarding.inj hf
        exact ⟨rfl, rfl, (h.free hfree).take i t d rest⟩
      · exact absurd (hl.holder_eq hu hf) (by simp [hfree])
  | @silent t turn phase phase' rest ht hs hp =>
    refine ⟨h.numbers, h.free, fun {j u turn' _ rest'} hu hf => ?_⟩
    rcases of_getElem?_set_consumer ht hu with ⟨rfl, rfl⟩ | ⟨-, hu⟩
    · obtain ⟨rfl, rfl, -⟩ := Stage.forwarding.inj hf
      obtain ⟨hn, hr, hunder⟩ := h.held ht hs
      refine ⟨hn, hr, ?_⟩
      rcases hp with hp | ⟨event, hp⟩
      · exact hp ▸ hunder
      · exact Underway.note (hp ▸ hunder)
    · exact h.held hu hf
  | @act t turn phase request next rest ht hs hp =>
    have hi : c.holder = some i := hl.holder_eq ht hs
    refine ⟨h.numbers, fun hn => absurd (hi.symm.trans hn) (by simp),
      fun {j u turn' _ rest'} hu hf => ?_⟩
    rcases of_getElem?_set_consumer ht hu with ⟨rfl, rfl⟩ | ⟨hij, hu⟩
    · obtain ⟨rfl, rfl, -⟩ := Stage.forwarding.inj hf
      obtain ⟨hn, hr, hunder⟩ := h.held ht hs
      exact ⟨hn, hr, Underway.act (hp ▸ hunder)⟩
    · exact absurd (hi.symm.trans (hl.holder_eq hu hf)) (by simp [hij])
  | @release t turn phase result rest ht hs hp =>
    have hi : c.holder = some i := hl.holder_eq ht hs
    refine ⟨h.numbers, fun _ => ?_, fun {j u turn' _ rest'} hu hf => ?_⟩
    · obtain ⟨-, -, hunder⟩ := h.held ht hs
      exact Underway.done (hp ▸ hunder)
    · rcases of_getElem?_set_consumer ht hu with ⟨-, rfl⟩ | ⟨hij, hu⟩
      · cases result <;> exact absurd hf (by simp [Stage.afterForward])
      · exact absurd (hi.symm.trans (hl.holder_eq hu hf)) (by simp [hij])

theorem Reaches.serial {consumers : List (RoutingRule × List StreamItem)} {s : σ} {c : Crowd σ}
    (h : Reaches perform r (start consumers s) c) : Serial perform r s c := by
  induction h with
  | refl => exact serial_start consumers s
  | step head last ih => exact ih.transition head.locked (step_transition last)

/-! ## 4. What the lock gives -/

/-- The trace of a crowd in one block for each forward: a whole course of the forward, or the
beginning of one when the forward is under way. -/
theorem exists_blocks {s : σ} {c : Crowd σ} (hl : Locked c) (h : Serial perform r s c) :
    ∃ blocks : List (Turn × List (Call × Response)),
      blocks.map Prod.fst = c.turns ∧ c.trace = row blocks ∧
      ∀ b ∈ blocks, ∃ rest result, Course r b.1.rule b.1.delivery (b.2 ++ rest) result ∧
        (rest = [] ∨
          ∃ t ∈ c.consumers, ∃ phase stream, t.stage = .forwarding b.1 phase stream) := by
  cases hh : c.holder with
  | none =>
    obtain ⟨htr, -⟩ := h.free hh
    obtain ⟨blocks, h₁, h₂, h₃⟩ := exists_blocks_served s c.turns
    refine ⟨blocks, h₁, htr.trans h₂, fun b hb => ?_⟩
    obtain ⟨result, hc⟩ := h₃ b hb
    exact ⟨[], result, by rwa [List.append_nil], Or.inl rfl⟩
  | some i =>
    obtain ⟨⟨rule, stage⟩, ht, hf⟩ := (hl i).mp hh
    cases stage with
    | ready _ | waiting _ _ | ended _ => exact absurd hf (by simp [Stage.isForwarding])
    | forwarding turn phase stream =>
      obtain ⟨-, -, before, made, hb, htr, hres⟩ := h.held ht rfl
      obtain ⟨blocks, h₁, h₂, h₃⟩ := exists_blocks_served s before
      refine ⟨blocks ++ [(turn, made)], ?_, ?_, fun b hmem => ?_⟩
      · rw [List.map_append, h₁, hb]
        rfl
      · rw [htr, h₂, row_append]
      · rcases List.mem_append.mp hmem with hmem | hmem
        · obtain ⟨result, hc⟩ := h₃ b hmem
          exact ⟨[], result, by rwa [List.append_nil], Or.inl rfl⟩
        · obtain rfl := List.mem_singleton.mp hmem
          exact ⟨_, _, hres.calls ▸ forward_course perform _ r turn.rule turn.delivery,
            Or.inr ⟨_, List.mem_of_getElem? ht, phase, stream, rfl⟩⟩

/-- **One forward at a time.**  Whatever the channels answer and in whatever order the consumers
take their steps:

* at most one consumer is between the start of a transformation and the end of the settlement, and
  it is the one that has the lock;
* at most one publication is under way, over all channels, error records included;
* the trace is a row of blocks, one for each forward in the order in which they took the lock.  The
  block of a forward that is over is a whole course of it, whatever it ended in, and the block of
  the one under way the beginning of a course. -/
theorem one_forward_at_a_time (perform : σ → Call → Response × σ) (r : Router)
    (consumers : List (RoutingRule × List StreamItem)) (s : σ) {c : Crowd σ}
    (h : Reaches perform r (start consumers s) c) :
    (c.consumers.countP fun t => t.stage.isForwarding) ≤ 1 ∧
    (∀ i, c.holder = some i ↔ ∃ t, c.consumers[i]? = some t ∧ t.stage.isForwarding = true) ∧
    c.inFlight ≤ 1 ∧
    (c.turns.map Turn.number).Nodup ∧
    ∃ blocks : List (Turn × List (Call × Response)),
      blocks.map Prod.fst = c.turns ∧ c.trace = row blocks ∧
      ∀ b ∈ blocks, ∃ rest result, Course r b.1.rule b.1.delivery (b.2 ++ rest) result ∧
        (rest = [] ∨
          ∃ t ∈ c.consumers, ∃ phase stream, t.stage = .forwarding b.1 phase stream) := by
  have hl : Locked c := h.locked
  have hs : Serial perform r s c := h.serial
  refine ⟨hl.countP_isForwarding_le, hl, hl.inFlight_le, ?_, exists_blocks hl hs⟩
  rw [hs.numbers]
  exact List.nodup_range

/-- Two consumers, one on each side, each of one message. -/
def twoConsumers : List (RoutingRule × List StreamItem) :=
  [(fileRule, [.ok emptyFile]),
    (⟨"inbox", .legaToCega, "localega.v1", "files.inbox"⟩,
      [.ok ⟨"sda", "inbox", 1, false, {}, [0x7b, 0x7d]⟩])]

/-- One message was requeued, and the other is being published. -/
theorem publishing_after_requeue :
    ∃ c : Crowd Nat,
      Reaches failFirst bareRouter (start twoConsumers 0) c ∧
      c.inFlight = 1 ∧ c.turns.length = 2 ∧ c.trace.length = 2 ∧
      (c.consumers.countP fun t => t.stage.isForwarding) ≤ 1 ∧
      ∃ blocks : List (Turn × List (Call × Response)),
        blocks.map Prod.fst = c.turns ∧ c.trace = row blocks := by
  have hfollow : ((start twoConsumers 0).follow failFirst bareRouter
      [0, 1, 0, 0, 0, 0, 0, 0, 0, 1, 1, 1]).any (fun c =>
        c.inFlight = 1 ∧ c.turns.length = 2 ∧ c.trace.length = 2) = true := by decide
  obtain ⟨c, hc, hcounts⟩ := Option.any_eq_true _ _ |>.mp hfollow
  obtain ⟨hin, hturns, htrace⟩ := of_decide_eq_true hcounts
  have hr := reaches_of_follow .refl hc
  obtain ⟨hone, -, -, -, blocks, hb, hrow, -⟩ := one_forward_at_a_time _ _ _ _ hr
  exact ⟨c, hr, hin, hturns, htrace, hone, blocks, hb, hrow⟩

end Crowd

end BrokerBridge
