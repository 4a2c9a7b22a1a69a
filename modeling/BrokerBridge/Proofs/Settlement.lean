import BrokerBridge.Routing.Forward

/-!
# How one forward settles its delivery

A forward is a tree of calls that branches on every response.  This module says which paths that
tree has.

* `Plan.run_answered`: the responses in an outcome are those the channels gave, call after call, and
  its state is the one they left.
* **`Course`** lists the paths by name: two for a delivery that was published, two for one that
  could not be published, three for one that could not be transformed.
* `Router.forward_course`: over any channels, whatever they answer, a forward takes one of them.
* `Router.forward_protocol` reads off what this means for the delivery: one settling call, on its
  own side and under its own tag, and a result that tells which calls went through.
-/
namespace BrokerBridge

variable {σ α : Type} {perform : σ → Call → Response × σ}

/-! ## 1. Running a plan -/

/-- Made one after the other on channels in state `s`, the calls get these responses and leave the
channels in the last state. -/
inductive Answered (perform : σ → Call → Response × σ) : σ → List (Call × Response) → σ → Prop where
  | nil (s : σ) : Answered perform s [] s
  | cons {s s' s'' : σ} {request : Call} {response : Response} {rest : List (Call × Response)}
      (head : perform s request = (response, s')) (tail : Answered perform s' rest s'') :
      Answered perform s ((request, response) :: rest) s''

theorem Answered.append {s s' s'' : σ} {calls calls' : List (Call × Response)}
    (h : Answered perform s calls s') (h' : Answered perform s' calls' s'') :
    Answered perform s (calls ++ calls') s'' := by
  induction h with
  | nil => exact h'
  | cons head _ ih => exact .cons head (ih h')

namespace Plan

@[simp] theorem run_done (s : σ) (result : α) :
    (done result).run perform s = ⟨result, [], [], s⟩ := rfl

@[simp] theorem run_note (s : σ) (event : ForwardEvent) (next : Plan α) :
    (note event next).run perform s =
      { next.run perform s with events := event :: (next.run perform s).events } := rfl

theorem run_call {s s' : σ} {request : Call} {response : Response}
    (h : perform s request = (response, s')) (next : Response → Plan α) :
    (call request next).run perform s =
      { (next response).run perform s' with
        calls := (request, response) :: ((next response).run perform s').calls } := by
  rw [run, h]

@[simp] theorem run_noting (s : σ) (events : List ForwardEvent) (p : Plan α) :
    (noting events p).run perform s =
      { p.run perform s with events := events ++ (p.run perform s).events } := by
  induction events with
  | nil => rfl
  | cons event rest ih =>
    have hn : noting (event :: rest) p = note event (noting rest p) := rfl
    rw [hn, run_note, ih]
    rfl

/-- **The responses are the channels' own.** -/
theorem run_answered (p : Plan α) (s : σ) :
    Answered perform s (p.run perform s).calls (p.run perform s).state := by
  induction p generalizing s with
  | done result => exact .nil s
  | note event next ih =>
    rw [run_note]
    exact ih s
  | call request next ih =>
    obtain ⟨response, s', h⟩ : ∃ response s', perform s request = (response, s') := ⟨_, _, rfl⟩
    rw [run_call h]
    exact .cons h (ih response s')

end Plan

/-! ## 2. The calls of a forward -/

/-- The ack of a delivery: on the channel it was consumed on, for its tag and no other. -/
def RoutingRule.ackCall (rule : RoutingRule) (d : Delivery) : Call :=
  ⟨rule.direction.source, .ack d.tag false⟩

/-- The nack of a delivery: on the channel it was consumed on, for its tag and no other. -/
def RoutingRule.nackCall (rule : RoutingRule) (d : Delivery) (requeue : Bool) : Call :=
  ⟨rule.direction.source, .nack d.tag false requeue⟩

/-- The publication of a transformed message on the other side. -/
def Router.forwardCall (r : Router) (rule : RoutingRule) (t : Transformed) : Call :=
  ⟨rule.direction.destination,
    .publish ⟨rule.exchange, r.routingKey rule t, false, false, t.publishing⟩⟩

/-- The publication of an error record, on the side of CEGA whatever the direction. -/
def Router.reportCall (r : Router) (d : Delivery) (e : TransformError) : Call :=
  ⟨.cegaPublish,
    .publish ⟨r.cegaExchange, errorRoutingKey, false, false,
      (ErrorRecord.ofFailure d e).publishing d⟩⟩

/-- **The courses that a forward can take**: its calls with their responses, and the result. -/
inductive Course (r : Router) (rule : RoutingRule) (d : Delivery) :
    List (Call × Response) → ForwardResult → Prop where
  | acked {t : Transformed} (ht : transform r.resolver rule.direction d = .ok t) :
      Course r rule d [(r.forwardCall rule t, .ok ()), (rule.ackCall d, .ok ())] (.ok .acked)
  | ackFailed {t : Transformed} {e : ChannelError}
      (ht : transform r.resolver rule.direction d = .ok t) :
      Course r rule d [(r.forwardCall rule t, .ok ()), (rule.ackCall d, .error e)]
        (.error (.disposition .ack d.tag e))
  | requeued {t : Transformed} {e : ChannelError}
      (ht : transform r.resolver rule.direction d = .ok t) :
      Course r rule d [(r.forwardCall rule t, .error e), (rule.nackCall d true, .ok ())]
        (.ok .requeued)
  | requeueFailed {t : Transformed} {e e' : ChannelError}
      (ht : transform r.resolver rule.direction d = .ok t) :
      Course r rule d [(r.forwardCall rule t, .error e), (rule.nackCall d true, .error e')]
        (.error (.disposition .nack d.tag e'))
  | nackFailed {f : TransformError} {e : ChannelError}
      (hf : transform r.resolver rule.direction d = .error f) :
      Course r rule d [(rule.nackCall d false, .error e)] (.error (.disposition .nack d.tag e))
  | rejected {f : TransformError} (hf : transform r.resolver rule.direction d = .error f) :
      Course r rule d [(rule.nackCall d false, .ok ()), (r.reportCall d f, .ok ())]
        (.ok .rejected)
  | reportFailed {f : TransformError} {e : ChannelError}
      (hf : transform r.resolver rule.direction d = .error f) :
      Course r rule d [(rule.nackCall d false, .ok ()), (r.reportCall d f, .error e)]
        (.error (.errorReport e))

/-! ## 3. A forward takes one of the courses -/

namespace Router

variable {r : Router} {rule : RoutingRule} {d : Delivery}

section Steps

variable {next : Plan ForwardResult} {s s' : σ} {e : ChannelError}

theorem run_ack (h : perform s (rule.ackCall d) = (.ok (), s')) :
    (ack rule d next).run perform s =
      { next.run perform s' with
        calls := (rule.ackCall d, .ok ()) :: (next.run perform s').calls } :=
  Plan.run_call h _

theorem run_ack_error (h : perform s (rule.ackCall d) = (.error e, s')) :
    (ack rule d next).run perform s =
      ⟨.error (.disposition .ack d.tag e), [(rule.ackCall d, .error e)], [], s'⟩ :=
  Plan.run_call h _

theorem run_nack {requeue : Bool} (h : perform s (rule.nackCall d requeue) = (.ok (), s')) :
    (nack rule d requeue next).run perform s =
      { next.run perform s' with
        calls := (rule.nackCall d requeue, .ok ()) :: (next.run perform s').calls } :=
  Plan.run_call h _

theorem run_nack_error {requeue : Bool}
    (h : perform s (rule.nackCall d requeue) = (.error e, s')) :
    (nack rule d requeue next).run perform s =
      ⟨.error (.disposition .nack d.tag e), [(rule.nackCall d requeue, .error e)], [], s'⟩ :=
  Plan.run_call h _

theorem run_reportError {f : TransformError} (h : perform s (r.reportCall d f) = (.ok (), s')) :
    (r.reportError d f).run perform s =
      ⟨.ok .rejected, [(r.reportCall d f, .ok ())], [], s'⟩ :=
  Plan.run_call h _

theorem run_reportError_error {f : TransformError}
    (h : perform s (r.reportCall d f) = (.error e, s')) :
    (r.reportError d f).run perform s =
      ⟨.error (.errorReport e), [(r.reportCall d f, .error e)], [], s'⟩ :=
  Plan.run_call h _

/-- What follows on a message that was published. -/
theorem run_deliver {t : Transformed} (h : perform s (r.forwardCall rule t) = (.ok (), s')) :
    (r.deliver rule d t).run perform s =
      { (ack rule d (.noting [.forwarded rule d (r.routingKey rule t), .forwardedBody d]
          (.done (.ok .acked)))).run perform s' with
        calls := (r.forwardCall rule t, .ok ()) ::
          ((ack rule d (.noting [.forwarded rule d (r.routingKey rule t), .forwardedBody d]
            (.done (.ok .acked)))).run perform s').calls } :=
  Plan.run_call h _

/-- What follows on a message that was not published. -/
theorem run_deliver_error {t : Transformed}
    (h : perform s (r.forwardCall rule t) = (.error e, s')) :
    (r.deliver rule d t).run perform s =
      { (Plan.note (.requeueing rule d (r.routingKey rule t) e)
          (nack rule d true (.done (.ok .requeued)))).run perform s' with
        calls := (r.forwardCall rule t, .error e) ::
          ((nack rule d true (.done (.ok .requeued))).run perform s').calls } :=
  Plan.run_call h _

end Steps

/-- A message that was transformed: published and acked, or not published and nacked. -/
theorem deliver_course {t : Transformed} (ht : transform r.resolver rule.direction d = .ok t)
    (s : σ) :
    Course r rule d ((r.deliver rule d t).run perform s).calls
      ((r.deliver rule d t).run perform s).result := by
  obtain ⟨_ | _, s₁, h₁⟩ : ∃ p s₁, perform s (r.forwardCall rule t) = (p, s₁) := ⟨_, _, rfl⟩
  · rw [run_deliver_error h₁, Plan.run_note]
    obtain ⟨_ | _, s₂, h₂⟩ : ∃ a s₂, perform s₁ (rule.nackCall d true) = (a, s₂) := ⟨_, _, rfl⟩
    · rw [run_nack_error h₂]
      exact .requeueFailed ht
    · rw [run_nack h₂]
      exact .requeued ht
  · rw [run_deliver h₁]
    obtain ⟨_ | _, s₂, h₂⟩ : ∃ a s₂, perform s₁ (rule.ackCall d) = (a, s₂) := ⟨_, _, rfl⟩
    · rw [run_ack_error h₂]
      exact .ackFailed ht
    · rw [run_ack h₂]
      exact .acked ht

/-- A delivery that was not transformed: nacked, and reported when the nack succeeds. -/
theorem refuse_course {f : TransformError}
    (hf : transform r.resolver rule.direction d = .error f) (s : σ) :
    Course r rule d ((nack rule d false (r.reportError d f)).run perform s).calls
      ((nack rule d false (r.reportError d f)).run perform s).result := by
  obtain ⟨_ | _, s₁, h₁⟩ : ∃ a s₁, perform s (rule.nackCall d false) = (a, s₁) := ⟨_, _, rfl⟩
  · rw [run_nack_error h₁]
    exact .nackFailed hf
  · rw [run_nack h₁]
    obtain ⟨_ | _, s₂, h₂⟩ : ∃ a s₂, perform s₁ (r.reportCall d f) = (a, s₂) := ⟨_, _, rfl⟩
    · rw [run_reportError_error h₂]
      exact .reportFailed hf
    · rw [run_reportError h₂]
      exact .rejected hf

/-- **Whatever the channels answer, a forward takes one of the courses.** -/
theorem forward_course (perform : σ → Call → Response × σ) (s : σ) (r : Router)
    (rule : RoutingRule) (d : Delivery) :
    Course r rule d ((r.forward rule d).run perform s).calls
      ((r.forward rule d).run perform s).result := by
  rw [forward]
  cases ht : transform r.resolver rule.direction d with
  | error f => exact refuse_course ht s
  | ok t =>
    rw [Plan.run_noting]
    exact deliver_course ht s

end Router

/-! ## 4. What a course means for the delivery -/

/-- Whether an operation settles a delivery. -/
def Operation.settles : Operation → Bool
  | .publish _ => false
  | _ => true

theorem Direction.source_ne_source {p q : Direction} (h : p ≠ q) : p.source ≠ q.source := by
  cases p <;> cases q <;> first | exact absurd rfl h | nofun

theorem Direction.destination_ne_source (p q : Direction) : p.destination ≠ q.source := by
  cases p <;> cases q <;> nofun

namespace Course

variable {r : Router} {rule : RoutingRule} {d : Delivery} {calls : List (Call × Response)}
  {result : ForwardResult}

/-- The settling calls of a course: one, and what it is. -/
theorem settling (h : Course r rule d calls result) :
    ∃ op response,
      calls.filter (fun c => c.1.operation.settles) = [(⟨rule.direction.source, op⟩, response)] ∧
      (op = .ack d.tag false ∨ ∃ requeue, op = .nack d.tag false requeue) := by
  cases h with
  | acked _ | ackFailed _ => exact ⟨_, _, rfl, Or.inl rfl⟩
  | requeued _ | requeueFailed _ | nackFailed _ | rejected _ | reportFailed _ =>
    exact ⟨_, _, rfl, Or.inr ⟨_, rfl⟩⟩

/-- A course puts the delivery back exactly when its message was not published. -/
theorem requeues_iff (h : Course r rule d calls result) :
    (∃ response, (rule.nackCall d true, response) ∈ calls) ↔
      ∃ t e, transform r.resolver rule.direction d = .ok t ∧
        (r.forwardCall rule t, .error e) ∈ calls := by
  cases h with
  | acked ht | ackFailed ht | requeued ht | requeueFailed ht =>
    simp [ht, RoutingRule.ackCall, RoutingRule.nackCall, Router.forwardCall]
  | nackFailed hf | rejected hf | reportFailed hf =>
    simp [hf, RoutingRule.nackCall, Router.reportCall]

/-- The calls of a course are of four kinds. -/
theorem mem_calls (h : Course r rule d calls result) {c : Call × Response} (hc : c ∈ calls) :
    c.1 = rule.ackCall d ∨ (∃ requeue, c.1 = rule.nackCall d requeue) ∨
      (∃ t, c.1 = r.forwardCall rule t) ∨ ∃ f, c.1 = r.reportCall d f := by
  cases h with
  | acked _ | ackFailed _ =>
    simp only [List.mem_cons, List.not_mem_nil, or_false] at hc
    rcases hc with rfl | rfl
    · exact Or.inr (Or.inr (Or.inl ⟨_, rfl⟩))
    · exact Or.inl rfl
  | requeued _ | requeueFailed _ =>
    simp only [List.mem_cons, List.not_mem_nil, or_false] at hc
    rcases hc with rfl | rfl
    · exact Or.inr (Or.inr (Or.inl ⟨_, rfl⟩))
    · exact Or.inr (Or.inl ⟨_, rfl⟩)
  | nackFailed _ =>
    rw [List.mem_singleton.mp hc]
    exact Or.inr (Or.inl ⟨_, rfl⟩)
  | rejected _ | reportFailed _ =>
    simp only [List.mem_cons, List.not_mem_nil, or_false] at hc
    rcases hc with rfl | rfl
    · exact Or.inr (Or.inl ⟨_, rfl⟩)
    · exact Or.inr (Or.inr (Or.inr ⟨_, rfl⟩))

theorem operation_ne_reject (h : Course r rule d calls result) {c : Call × Response}
    (hc : c ∈ calls) (tag : Tag) (requeue : Bool) : c.1.operation ≠ .reject tag requeue := by
  rcases h.mem_calls hc with e | ⟨_, e⟩ | ⟨_, e⟩ | ⟨_, e⟩ <;> rw [e] <;> nofun

/-- The channel on which the other side is consumed is left alone. -/
theorem endpoint_ne_source (h : Course r rule d calls result) {c : Call × Response} (hc : c ∈ calls)
    {direction : Direction} (hd : direction ≠ rule.direction) :
    c.1.endpoint ≠ direction.source := by
  rcases h.mem_calls hc with e | ⟨_, e⟩ | ⟨_, e⟩ | ⟨_, e⟩ <;> rw [e]
  · exact Direction.source_ne_source hd.symm
  · exact Direction.source_ne_source hd.symm
  · exact Direction.destination_ne_source _ _
  · exact Direction.destination_ne_source .legaToCega direction

theorem publication_flags (h : Course r rule d calls result) {c : Call × Response} (hc : c ∈ calls)
    {p : Publication} (hp : c.1.operation = .publish p) :
    p.mandatory = false ∧ p.immediate = false := by
  rcases h.mem_calls hc with e | ⟨_, e⟩ | ⟨_, e⟩ | ⟨_, e⟩ <;> rw [e] at hp <;> cases hp
  · exact ⟨rfl, rfl⟩
  · exact ⟨rfl, rfl⟩

theorem acked_iff (h : Course r rule d calls result) :
    result = .ok .acked ↔
      ∃ t, transform r.resolver rule.direction d = .ok t ∧
        calls = [(r.forwardCall rule t, .ok ()), (rule.ackCall d, .ok ())] := by
  cases h with
  | acked ht => exact ⟨fun _ => ⟨_, ht, rfl⟩, fun _ => rfl⟩
  | ackFailed ht | requeued ht | requeueFailed ht | nackFailed ht | rejected ht | reportFailed ht =>
    simp [ht]

theorem requeued_iff (h : Course r rule d calls result) :
    result = .ok .requeued ↔
      ∃ t e, transform r.resolver rule.direction d = .ok t ∧
        calls = [(r.forwardCall rule t, .error e), (rule.nackCall d true, .ok ())] := by
  cases h with
  | requeued ht => exact ⟨fun _ => ⟨_, _, ht, rfl⟩, fun _ => rfl⟩
  | acked ht | ackFailed ht | requeueFailed ht | nackFailed ht | rejected ht | reportFailed ht =>
    simp [ht]

theorem rejected_iff (h : Course r rule d calls result) :
    result = .ok .rejected ↔
      ∃ f, transform r.resolver rule.direction d = .error f ∧
        calls = [(rule.nackCall d false, .ok ()), (r.reportCall d f, .ok ())] := by
  cases h with
  | rejected hf => exact ⟨fun _ => ⟨_, hf, rfl⟩, fun _ => rfl⟩
  | acked ht | ackFailed ht | requeued ht | requeueFailed ht | nackFailed ht | reportFailed ht =>
    simp [ht]

end Course

/-! ## 5. The protocol -/

/-- **The settlement protocol.**  Over any channels, whatever each call comes to, and whatever the
resolver says or fails to say, a forward takes one of the seven courses, with the responses that the
channels gave.  So:

* one call settles the delivery, an ack or a nack on the channel of its own side, for its own tag
  and no other delivery; it puts the delivery back exactly when the delivery was transformed and
  then not published;
* nothing is rejected, the other side's deliveries are not touched, and no publication is mandatory
  or immediate;
* each disposition stands for two calls that succeeded, or for a failed publication and a nack that
  succeeded. -/
theorem Router.forward_protocol (perform : σ → Call → Response × σ) (s : σ) (r : Router)
    (rule : RoutingRule) (d : Delivery) :
    let o := (r.forward rule d).run perform s
    Course r rule d o.calls o.result ∧ Answered perform s o.calls o.state ∧
    (∃ op response,
      o.calls.filter (fun c => c.1.operation.settles) = [(⟨rule.direction.source, op⟩, response)] ∧
      (op = .ack d.tag false ∨ ∃ requeue, op = .nack d.tag false requeue)) ∧
    ((∃ response, (rule.nackCall d true, response) ∈ o.calls) ↔
      ∃ t e, transform r.resolver rule.direction d = .ok t ∧
        (r.forwardCall rule t, .error e) ∈ o.calls) ∧
    (∀ c ∈ o.calls, ∀ tag requeue, c.1.operation ≠ .reject tag requeue) ∧
    (∀ c ∈ o.calls, ∀ direction, direction ≠ rule.direction →
      c.1.endpoint ≠ direction.source) ∧
    (∀ c ∈ o.calls, ∀ p, c.1.operation = .publish p → p.mandatory = false ∧ p.immediate = false) ∧
    (o.result = .ok .acked ↔
      ∃ t, transform r.resolver rule.direction d = .ok t ∧
        o.calls = [(r.forwardCall rule t, .ok ()), (rule.ackCall d, .ok ())]) ∧
    (o.result = .ok .requeued ↔
      ∃ t e, transform r.resolver rule.direction d = .ok t ∧
        o.calls = [(r.forwardCall rule t, .error e), (rule.nackCall d true, .ok ())]) ∧
    (o.result = .ok .rejected ↔
      ∃ f, transform r.resolver rule.direction d = .error f ∧
        o.calls = [(rule.nackCall d false, .ok ()), (r.reportCall d f, .ok ())]) := by
  intro o
  have h : Course r rule d o.calls o.result := forward_course perform s r rule d
  refine ⟨h, Plan.run_answered _ s, h.settling, h.requeues_iff, ?_, ?_, ?_, h.acked_iff,
    h.requeued_iff, h.rejected_iff⟩
  · exact fun c hc tag requeue => h.operation_ne_reject hc tag requeue
  · exact fun c hc direction hd => h.endpoint_ne_source hc hd
  · exact fun c hc p hp => h.publication_flags hc hp

/-- Channels that count their calls and fail the first of them. -/
def failFirst (count : Nat) (_ : Call) : Response × Nat :=
  (if count = 0 then .error (.unavailable "down") else .ok (), count + 1)

/-- The rule for the files of CEGA. -/
def fileRule : RoutingRule := ⟨"v1.files", .cegaToLega, "sda", ""⟩

/-- A message about nobody's file. -/
def emptyFile : Delivery := ⟨"localega.v1", "files", 1, false, {}, [0x7b, 0x7d]⟩

/-- A router without ids. -/
def bareRouter : Router := ⟨.ofMapping {}, "files", "localega.v1"⟩

/-- A message that could not be published was put back. -/
theorem Router.requeued_emptyFile :
    let o := (bareRouter.forward fileRule emptyFile).run failFirst 0
    o.result = .ok .requeued ∧
      ∃ t e, transform bareRouter.resolver fileRule.direction emptyFile = .ok t ∧
        o.calls = [(bareRouter.forwardCall fileRule t, .error e),
          (fileRule.nackCall emptyFile true, .ok ())] := by
  intro o
  have hresult : o.result = .ok .requeued := rfl
  obtain ⟨-, -, -, -, -, -, -, -, hrequeued, -⟩ :=
    forward_protocol failFirst 0 bareRouter fileRule emptyFile
  exact ⟨hresult, hrequeued.mp hresult⟩

end BrokerBridge
