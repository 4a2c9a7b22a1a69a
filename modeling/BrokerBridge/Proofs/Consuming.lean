import BrokerBridge.Proofs.Settlement
import BrokerBridge.Proofs.Transformation
import BrokerBridge.Routing.Consumer

/-!
# Where a consumer stops

A consumer forwards the items of a stream up to the first thing it cannot recover from.  Its run is
compared here with a left fold of forwards, which never stops by itself.

A forward may ask the store, and a store may answer differently the next time.  So `Router.consumeM`
leaves open what a look-up does; with look-ups that only answer it is `Router.consume`
(`Router.consumeM_id`).

* `Router.forwardAllM`: the fold, delivery by delivery, whatever each of them comes to.
* **`StopsWith`**: the points at which a consumer stops, by the results of its forwards and by what
  is left of the stream.
* **`Router.consume_stops`**: every stream has one such point, and consuming it is the fold up to
  there: what is left of the stream has no part in the calls, the events, the state of the channels
  and that of the store.
-/
namespace BrokerBridge

variable {σ τ : Type} {m : Type → Type} [Monad m]

/-! ## 1. Consuming over any way to look up -/

namespace Router

/-- A forward from the transformation of its delivery on. -/
def forwardAfter (r : Router) (rule : RoutingRule) (d : Delivery) :
    Except TransformError Transformed → Plan ForwardResult
  | .error e => .note (.rejecting rule d e) <| nack rule d false <| r.reportError d e
  | .ok t => .noting (t.replaced.map ForwardEvent.replaced).toList <| r.deliver rule d t

theorem forwardAfter_transform (r : Router) (rule : RoutingRule) (d : Delivery) :
    r.forwardAfter rule d (transform r.resolver rule.direction d) = r.forward rule d := by
  unfold forwardAfter forward
  cases transform r.resolver rule.direction d <;> rfl

/-- Forwards a delivery against channels in state `s`. -/
def forwardM (r : Router) (rule : RoutingRule) (lookup : Direction → String → m Answer)
    (perform : σ → Call → Response × σ) (s : σ) (d : Delivery) : m (Outcome σ ForwardResult) := do
  return (r.forwardAfter rule d (← transformM lookup rule.direction d)).run perform s

/-- Forwards the items of a stream, as `Router.drain` does. -/
def drainM (r : Router) (rule : RoutingRule) (lookup : Direction → String → m Answer)
    (perform : σ → Call → Response × σ) (s : σ) : List StreamItem → m (Outcome σ ForwardError)
  | [] => pure ⟨.consumerClosed rule.queue, [], [], s⟩
  | .error e :: _ => pure ⟨.consume rule.queue e, [], [], s⟩
  | .ok d :: rest => do
    let o ← r.forwardM rule lookup perform s d
    match o.result with
    | .error e => pure { o with result := e }
    | .ok _ => return o.after (← drainM r rule lookup perform o.state rest)

/-- Consumes a stream, as `Router.consume` does. -/
def consumeM (r : Router) (rule : RoutingRule) (lookup : Direction → String → m Answer)
    (perform : σ → Call → Response × σ) (s : σ) (stream : List StreamItem) :
    m (Outcome σ ForwardError) := do
  let o ← r.drainM rule lookup perform s stream
  return { o with events := .consuming rule :: o.events }

section

variable (r : Router) (rule : RoutingRule) (perform : σ → Call → Response × σ)

theorem forwardM_id (s : σ) (d : Delivery) :
    r.forwardM (m := Id) rule r.resolver.lookup perform s d = (r.forward rule d).run perform s := by
  rw [← forwardAfter_transform, ← transformM_id]
  rfl

theorem drainM_id : ∀ (stream : List StreamItem) (s : σ),
    r.drainM (m := Id) rule r.resolver.lookup perform s stream = r.drain rule perform s stream
  | [], _ => rfl
  | .error _ :: _, _ => rfl
  | .ok d :: rest, s => by
    have hrest := drainM_id rest ((r.forward rule d).run perform s).state
    simp only [drainM, drain, forwardM_id, bind, pure]
    cases ((r.forward rule d).run perform s).result with
    | error e => rfl
    | ok v => rw [hrest]

/-- **With look-ups that only answer, this is what a consumer does.** -/
theorem consumeM_id (s : σ) (stream : List StreamItem) :
    r.consumeM (m := Id) rule r.resolver.lookup perform s stream =
      r.consume rule perform s stream := by
  simp only [consumeM, consume, drainM_id]
  rfl

end

/-! ## 2. Forwards in a row -/

/-- One more forward after those of an outcome. -/
def forwardNextM (r : Router) (rule : RoutingRule) (lookup : Direction → String → m Answer)
    (perform : σ → Call → Response × σ) (o : Outcome σ (List ForwardResult)) (d : Delivery) :
    m (Outcome σ (List ForwardResult)) := do
  let next ← r.forwardM rule lookup perform o.state d
  return ⟨o.result ++ [next.result], o.calls ++ next.calls, o.events ++ next.events, next.state⟩

/-- Forwards some deliveries one after the other, whatever each of them comes to. -/
def forwardAllM (r : Router) (rule : RoutingRule) (lookup : Direction → String → m Answer)
    (perform : σ → Call → Response × σ) (s : σ) (ds : List Delivery) :
    m (Outcome σ (List ForwardResult)) :=
  ds.foldlM (r.forwardNextM rule lookup perform) ⟨[], [], [], s⟩

section

variable [LawfulMonad m] (r : Router) (rule : RoutingRule)
  (lookup : Direction → String → m Answer) (perform : σ → Call → Response × σ)

theorem foldlM_forwardNextM (ds : List Delivery) (o : Outcome σ (List ForwardResult)) :
    ds.foldlM (r.forwardNextM rule lookup perform) o = do
      let rest ← r.forwardAllM rule lookup perform o.state ds
      return { o.after rest with result := o.result ++ rest.result } := by
  induction ds generalizing o with
  | nil => simp [forwardAllM, Outcome.after]
  | cons d ds ih =>
    rw [forwardAllM, List.foldlM_cons, List.foldlM_cons]
    simp only [ih, forwardNextM, bind_assoc, pure_bind]
    simp [Outcome.after]

/-- **The first delivery of a row**, and then the others where it left the channels. -/
theorem forwardAllM_cons (s : σ) (d : Delivery) (ds : List Delivery) :
    r.forwardAllM rule lookup perform s (d :: ds) = do
      let o ← r.forwardM rule lookup perform s d
      let rest ← r.forwardAllM rule lookup perform o.state ds
      return { o.after rest with result := o.result :: rest.result } := by
  rw [forwardAllM, List.foldlM_cons]
  simp only [foldlM_forwardNextM, forwardNextM, bind_assoc, pure_bind]
  simp [Outcome.after]

end

end Router

/-! ## 3. Stopping points -/

/-- **Where a consumer stops**, by the results of its forwards and by what is left of the stream,
and with what failure. -/
inductive StopsWith (rule : RoutingRule) :
    List ForwardResult → List StreamItem → ForwardError → Prop where
  /-- The stream has ended. -/
  | closed : StopsWith rule [] [] (.consumerClosed rule.queue)
  /-- The stream has failed. -/
  | failed (e : ChannelError) (rest : List StreamItem) :
      StopsWith rule [] (.error e :: rest) (.consume rule.queue e)
  /-- A forward has failed. -/
  | fatal (e : ForwardError) (rest : List StreamItem) : StopsWith rule [.error e] rest e
  /-- A delivery that was settled stops nothing, however it was settled. -/
  | settled (disposition : Disposition) {results : List ForwardResult} {rest : List StreamItem}
      {e : ForwardError} (h : StopsWith rule results rest e) :
      StopsWith rule (.ok disposition :: results) rest e

/-- No forward follows on one that failed. -/
theorem StopsWith.of_error {rule : RoutingRule} {f : ForwardError} {results : List ForwardResult}
    {rest : List StreamItem} {e : ForwardError} (h : StopsWith rule (.error f :: results) rest e) :
    results = [] ∧ e = f := by
  cases h
  exact ⟨rfl, rfl⟩

section

variable {r : Router} {rule : RoutingRule} {lookup : Direction → String → StateM τ Answer}
  {perform : σ → Call → Response × σ}

namespace Router

theorem run_forwardAllM_nil (s : σ) (t : τ) :
    (r.forwardAllM rule lookup perform s []).run t = (⟨[], [], [], s⟩, t) := rfl

theorem run_forwardAllM_cons (s : σ) (t : τ) (d : Delivery) (ds : List Delivery) :
    (r.forwardAllM rule lookup perform s (d :: ds)).run t =
      let head := (r.forwardM rule lookup perform s d).run t
      let rest := (r.forwardAllM rule lookup perform head.1.state ds).run head.2
      ({ head.1.after rest.1 with result := head.1.result :: rest.1.result }, rest.2) := by
  rw [forwardAllM_cons]
  rfl

theorem run_drainM_cons (s : σ) (t : τ) (d : Delivery) (stream : List StreamItem) :
    (r.drainM rule lookup perform s (.ok d :: stream)).run t =
      let head := (r.forwardM rule lookup perform s d).run t
      match head.1.result with
      | .error e => ({ head.1 with result := e }, head.2)
      | .ok _ =>
        let rest := (r.drainM rule lookup perform head.1.state stream).run head.2
        (head.1.after rest.1, rest.2) := by
  rw [drainM, StateT.run_bind]
  dsimp only [bind]
  cases ((r.forwardM rule lookup perform s d).run t).1.result <;> rfl

/-- There are results as soon as there is a delivery. -/
theorem eq_nil_of_run_forwardAllM {ds : List Delivery} {s : σ} {t : τ}
    (h : ((r.forwardAllM rule lookup perform s ds).run t).1.result = []) : ds = [] := by
  cases ds with
  | nil => rfl
  | cons d ds =>
    rw [run_forwardAllM_cons] at h
    cases h

/-- Where a row with a first delivery stops: behind it, when it fails, and else where the rest of the
row does. -/
theorem stopsWith_cons_iff {s : σ} {t : τ} {d : Delivery} {ds : List Delivery}
    {rest : List StreamItem} {e : ForwardError} :
    StopsWith rule ((r.forwardAllM rule lookup perform s (d :: ds)).run t).1.result rest e ↔
      let head := (r.forwardM rule lookup perform s d).run t
      (head.1.result = .error e ∧ ds = []) ∨
        (∃ disposition, head.1.result = .ok disposition) ∧
          StopsWith rule ((r.forwardAllM rule lookup perform head.1.state ds).run head.2).1.result
            rest e := by
  rw [run_forwardAllM_cons]
  dsimp only
  cases ((r.forwardM rule lookup perform s d).run t).1.result with
  | error f =>
    constructor
    · intro h
      obtain ⟨hresults, rfl⟩ := h.of_error
      exact .inl ⟨rfl, eq_nil_of_run_forwardAllM hresults⟩
    · rintro (⟨hf, rfl⟩ | ⟨⟨_, hf⟩, _⟩)
      · cases hf
        exact .fatal e rest
      · cases hf
  | ok disposition =>
    constructor
    · intro h
      cases h with
      | settled _ h => exact .inr ⟨⟨disposition, rfl⟩, h⟩
    · rintro (⟨hf, _⟩ | ⟨_, h⟩)
      · cases hf
      · exact .settled disposition h

variable (r rule lookup perform) in
/-- Every stream stops a consumer somewhere. -/
theorem exists_stop : ∀ (stream : List StreamItem) (s : σ) (t : τ),
    ∃ ds rest e, stream = ds.map Except.ok ++ rest ∧
      StopsWith rule ((r.forwardAllM rule lookup perform s ds).run t).1.result rest e
  | [], _, _ => ⟨[], [], _, rfl, .closed⟩
  | .error e :: rest, _, _ => ⟨[], .error e :: rest, _, rfl, .failed e rest⟩
  | .ok d :: stream, s, t => by
    cases hd : ((r.forwardM rule lookup perform s d).run t).1.result with
    | error e => exact ⟨[d], stream, e, rfl, stopsWith_cons_iff.mpr (.inl ⟨hd, rfl⟩)⟩
    | ok disposition =>
      obtain ⟨ds, rest, e, rfl, hstop⟩ := exists_stop stream
        ((r.forwardM rule lookup perform s d).run t).1.state
        ((r.forwardM rule lookup perform s d).run t).2
      exact ⟨d :: ds, rest, e, rfl, stopsWith_cons_iff.mpr (.inr ⟨⟨_, hd⟩, hstop⟩)⟩

/-- **A consumer does what the forwards up to its stopping point do, and no more.** -/
theorem run_drainM_of_stop {rest : List StreamItem} {e : ForwardError} :
    ∀ (ds : List Delivery) (s : σ) (t : τ),
      StopsWith rule ((r.forwardAllM rule lookup perform s ds).run t).1.result rest e →
      (r.drainM rule lookup perform s (ds.map Except.ok ++ rest)).run t =
        let row := (r.forwardAllM rule lookup perform s ds).run t
        ({ row.1 with result := e }, row.2)
  | [], s, t, hstop => by
    change StopsWith rule [] rest e at hstop
    cases hstop <;> rfl
  | d :: ds, s, t, hstop => by
    rw [List.map_cons, List.cons_append, run_drainM_cons, run_forwardAllM_cons]
    obtain ⟨hd, rfl⟩ | ⟨⟨disposition, hd⟩, hstop⟩ := stopsWith_cons_iff.mp hstop
    · simp only [hd, run_forwardAllM_nil, Outcome.after, List.append_nil]
    · simp only [hd, run_drainM_of_stop ds _ _ hstop]
      rfl

/-- A consumer has one stopping point. -/
theorem eq_of_stop {rest rest' : List StreamItem} {e e' : ForwardError} :
    ∀ (ds ds' : List Delivery) (s : σ) (t : τ),
      ds.map Except.ok ++ rest = ds'.map Except.ok ++ rest' →
      StopsWith rule ((r.forwardAllM rule lookup perform s ds).run t).1.result rest e →
      StopsWith rule ((r.forwardAllM rule lookup perform s ds').run t).1.result rest' e' →
      ds = ds'
  | [], [], _, _, _, _, _ => rfl
  | [], d :: ds', s, t, hsame, hstop, _ => by
    change StopsWith rule [] rest e at hstop
    cases hstop <;> cases hsame
  | d :: ds, [], s, t, hsame, _, hstop => by
    change StopsWith rule [] rest' e' at hstop
    cases hstop <;> cases hsame
  | d :: ds, d' :: ds', s, t, hsame, hstop, hstop' => by
    obtain ⟨hhead, htail⟩ := List.cons.inj hsame
    obtain rfl := Except.ok.inj hhead
    obtain ⟨hd, rfl⟩ | ⟨⟨_, hd⟩, hstop⟩ := stopsWith_cons_iff.mp hstop <;>
      obtain ⟨hd', rfl⟩ | ⟨⟨_, hd'⟩, hstop'⟩ := stopsWith_cons_iff.mp hstop'
    · rfl
    · cases hd.symm.trans hd'
    · cases hd.symm.trans hd'
    · rw [eq_of_stop ds ds' _ _ htail hstop hstop']

end Router

end

/-! ## 4. Consuming a stream -/

/-- **A consumer is a left fold of forwards up to its stopping point.**  In a stream of deliveries
and failures there is one point at which the consumer stops: the end, the first failure of the
stream, or the first forward that fails, whichever comes first; no delivery that was settled stops
it.  It forwards the deliveries up to there, once each and in order, and ends with the failure of
that point.  What is left of the stream makes no call, notes no event and asks the store nothing:
calls, events, channels and store are as those forwards leave them.  That holds over any channels
and any store; with look-ups that only answer it is `Router.consume`. -/
theorem Router.consume_stops (r : Router) (rule : RoutingRule)
    (perform : σ → Call → Response × σ) (s : σ) (stream : List StreamItem) :
    r.consumeM (m := Id) rule r.resolver.lookup perform s stream =
      r.consume rule perform s stream ∧
    ∀ (lookup : Direction → String → StateM τ Answer) (t : τ), ∃ ds rest e,
      stream = ds.map Except.ok ++ rest ∧
      let row := (r.forwardAllM rule lookup perform s ds).run t
      StopsWith rule row.1.result rest e ∧
      (r.consumeM rule lookup perform s stream).run t =
        (⟨e, row.1.calls, .consuming rule :: row.1.events, row.1.state⟩, row.2) ∧
      ∀ ds' rest' e', stream = ds'.map Except.ok ++ rest' →
        StopsWith rule ((r.forwardAllM rule lookup perform s ds').run t).1.result rest' e' →
          ds' = ds := by
  refine ⟨consumeM_id r rule perform s stream, fun lookup t => ?_⟩
  obtain ⟨ds, rest, e, rfl, hstop⟩ := exists_stop r rule lookup perform stream s t
  refine ⟨ds, rest, e, rfl, hstop, ?_, fun ds' rest' e' hsame hstop' => ?_⟩
  · rw [consumeM, StateT.run_bind, run_drainM_of_stop ds s t hstop]
    rfl
  · exact eq_of_stop ds' ds s t hsame.symm hstop' hstop

/-- A message that was put back and one that was rejected stop nothing; the failure of the stream
does, and the user of the message behind it is not looked up. -/
theorem Router.stopped_by_stream :
    let lookup := bareRouter.resolver.noted
    let forwarded := [emptyFile, .ofBody []]
    let rest : List StreamItem :=
      [.error (.unavailable "gone"), .ok (.ofBody (Utf8.ofString "\x7b\"user\":\"alice\"\x7d"))]
    let row := (bareRouter.forwardAllM fileRule lookup failFirst 0 forwarded).run []
    let run :=
      (bareRouter.consumeM fileRule lookup failFirst 0 (forwarded.map Except.ok ++ rest)).run []
    row.1.result = [.ok .requeued, .ok .rejected] ∧
      StopsWith fileRule row.1.result rest (.consume "v1.files" (.unavailable "gone")) ∧
      run.1.calls = row.1.calls ∧ run.1.calls.length = 4 ∧ run.2 = [] := by
  intro lookup forwarded rest row run
  have hstop : StopsWith fileRule row.1.result rest (.consume "v1.files" (.unavailable "gone")) :=
    .settled .requeued (.settled .rejected (.failed _ _))
  obtain ⟨-, hstops⟩ := consume_stops bareRouter fileRule failFirst 0
    (forwarded.map Except.ok ++ rest)
  obtain ⟨ds, _, _, -, -, hrun, hunique⟩ := hstops lookup []
  obtain rfl : forwarded = ds := hunique forwarded rest _ rfl hstop
  have hcalls : run.1.calls = row.1.calls := congrArg (fun r => r.1.calls) hrun
  refine ⟨rfl, hstop, hcalls, ?_, congrArg Prod.snd hrun⟩
  rw [hcalls]
  rfl

end BrokerBridge
