import BrokerBridge.Proofs.Consuming
import BrokerBridge.Proofs.Ledger

/-!
# What the log tells of a forward

A forward notes events, some before a call that may fail and some after one.  This module says which
entries that makes, for every outcome of every call.

* `Replacing`: what is told of the look-up, one entry for a hit and none otherwise.
* `Told`: what is told after that, by the calls that were made and the result.  A delivery that was
  not transformed is told before it is nacked, one that was not published before it is put back, and
  one that was published after its ack.  So there is a course without a word: the failed ack.
* **`forwards_logged`**: these are all the entries of a forward, and over a session there are as
  many forwarded messages in the log as forwards that were acked.
-/
namespace BrokerBridge

variable {σ α : Type} {perform : σ → Call → Response × σ}

/-! ## 1. Entries -/

/-- An entry has a level and a message, and these values in its fields. -/
structure Entry.Shows (e : Entry) (level : Level) (message : String)
    (fields : List (String × FieldValue)) : Prop where
  level_eq : e.level = level
  message_eq : e.message = message
  field_eq : ∀ f ∈ fields, e.field? f.1 = some f.2

/-- An entry tells that an id was replaced, with both ids in the fields of their namespaces. -/
def Entry.ShowsReplaced (e : Entry) (id other : String) : Direction → Prop
  | .cegaToLega =>
    e.Shows .info "Replacing EGA ID with Elixir ID"
      [("ega_id", .text id), ("elixir_id", .text other)]
  | .legaToCega =>
    e.Shows .info "Replacing Elixir ID with EGA ID"
      [("elixir_id", .text id), ("ega_id", .text other)]

/-- The log of an outcome. -/
def Outcome.log (o : Outcome σ α) : List Entry := o.events.map ForwardEvent.entry

/-- Whether an entry has a message. -/
def Entry.hasMessage (message : String) (e : Entry) : Bool := e.message = message

@[simp] theorem Entry.hasMessage_iff {message : String} {e : Entry} :
    e.hasMessage message = true ↔ e.message = message := decide_eq_true_iff

/-! ## 2. The look-up -/

/-- **What is told of the look-ups of a forward**: one entry for the only one when it hits, and
nothing when none of them does. -/
inductive Replacing (resolver : Resolver) (direction : Direction) (lookups : Lookups) :
    List Entry → Prop where
  | nothing
      (h : ∀ q ∈ lookups, ∀ other, resolver.lookup q.1 q.2 ≠ .ok (some other)) :
      Replacing resolver direction lookups []
  | hit {id other : String} {entry : Entry} (hlookups : lookups = [(direction, id)])
      (hhit : resolver.lookup direction id = .ok (some other))
      (hentry : entry.ShowsReplaced id other direction) :
      Replacing resolver direction lookups [entry]

/-- The events of the id that was replaced in a transformation. -/
def replacedEvents : Except TransformError Transformed → List ForwardEvent
  | .error _ => []
  | .ok t => (t.replaced.map ForwardEvent.replaced).toList

theorem Replacement.showsReplaced_entry (direction : Direction) (id other : String) :
    (Replacement.entry ⟨direction, id, other⟩).ShowsReplaced id other direction := by
  cases direction <;> refine ⟨rfl, rfl, ?_⟩ <;>
    exact List.forall_mem_cons.mpr ⟨rfl, List.forall_mem_singleton.mpr rfl⟩

/-- **The look-ups of a transformation**, and what is told of them. -/
theorem exists_replacing (resolver : Resolver) (direction : Direction) (d : Delivery) :
    ∃ lookups,
      (transformM resolver.noted direction d).run [] = (transform resolver direction d, lookups) ∧
      Replacing resolver direction lookups
        ((replacedEvents (transform resolver direction d)).map ForwardEvent.entry) := by
  cases hread : Json.Members.decode d.body with
  | error e =>
    refine ⟨[], run_noted_of_decode_error resolver hread, ?_⟩
    rw [transform_of_decode_error hread]
    exact .nothing nofun
  | ok members =>
    cases huser : Assoc.get? "user" members with
    | none =>
      refine ⟨[], run_noted_of_no_user resolver hread huser, ?_⟩
      rw [transform_of_no_user hread huser]
      exact .nothing nofun
    | some user =>
      refine ⟨_, run_noted_of_user resolver hread huser, ?_⟩
      rw [transform_of_user hread huser]
      cases hanswer : resolver.lookup direction user.idText with
      | error failure =>
        refine .nothing (List.forall_mem_singleton.mpr fun other h => ?_)
        cases hanswer.symm.trans h
      | ok answer =>
        cases answer with
        | none =>
          refine .nothing (List.forall_mem_singleton.mpr fun other h => ?_)
          cases hanswer.symm.trans h
        | some other =>
          exact .hit rfl hanswer (Replacement.showsReplaced_entry direction user.idText other)

namespace Replacing

variable {resolver : Resolver} {direction : Direction} {lookups : Lookups} {entries : List Entry}

theorem ne_nil_iff (h : Replacing resolver direction lookups entries) :
    entries ≠ [] ↔ ∃ q ∈ lookups, ∃ other, resolver.lookup q.1 q.2 = .ok (some other) := by
  cases h with
  | nothing hmiss =>
    refine ⟨fun h => absurd rfl h, ?_⟩
    rintro ⟨q, hq, other, hhit⟩
    exact absurd hhit (hmiss q hq other)
  | hit hlookups hhit _ =>
    subst hlookups
    exact ⟨fun _ => ⟨_, List.mem_singleton_self _, _, hhit⟩, fun _ => List.cons_ne_nil _ _⟩

/-- Another message is none of these. -/
theorem message_ne (h : Replacing resolver direction lookups entries) {message : String}
    (helixir : message ≠ "Replacing EGA ID with Elixir ID")
    (hega : message ≠ "Replacing Elixir ID with EGA ID") :
    ∀ entry ∈ entries, entry.message ≠ message := by
  cases h with
  | nothing _ => exact nofun
  | hit _ _ hentry =>
    refine List.forall_mem_singleton.mpr ?_
    cases direction with
    | cegaToLega => exact hentry.message_eq ▸ helixir.symm
    | legaToCega => exact hentry.message_eq ▸ hega.symm

end Replacing

/-! ## 3. What follows -/

/-- **What a forward tells after its look-up**, by its calls and its result. -/
inductive Told (r : Router) (rule : RoutingRule) (d : Delivery) :
    List (Call × Response) → ForwardResult → List Entry → Prop where
  | rejecting {calls : List (Call × Response)} {result : ForwardResult} {f : TransformError}
      {entry : Entry} (hf : transform r.resolver rule.direction d = .error f)
      (hentry : entry.Shows .warn "Rejecting delivery" [("error", .text f.message)]) :
      Told r rule d calls result [entry]
  | requeueing {t : Transformed} {p : Publication} {e : ChannelError} {response : Response}
      {result : ForwardResult} {entry : Entry}
      (ht : transform r.resolver rule.direction d = .ok t)
      (hp : (r.forwardCall rule t).operation = .publish p)
      (hentry : entry.Shows .warn "Publish failed, requeueing delivery"
        [("to_exchange", .text p.exchange), ("to_routing_key", .text p.routingKey),
          ("error", .text e.message)]) :
      Told r rule d [(r.forwardCall rule t, .error e), (rule.nackCall d true, response)] result
        [entry]
  | forwarded {t : Transformed} {p : Publication} {entry body : Entry}
      (ht : transform r.resolver rule.direction d = .ok t)
      (hp : (r.forwardCall rule t).operation = .publish p)
      (hentry : entry.Shows .info "Forwarded message"
        [("from_exchange", .text d.exchange), ("from_routing_key", .text d.routingKey),
          ("to_exchange", .text p.exchange), ("to_routing_key", .text p.routingKey)])
      (hbody : body.Shows .debug "Forwarded body" [("body", .text d.bodyText)]) :
      Told r rule d [(r.forwardCall rule t, .ok ()), (rule.ackCall d, .ok ())] (.ok .acked)
        [entry, body]
  | silent {t : Transformed} {e : ChannelError}
      (ht : transform r.resolver rule.direction d = .ok t) :
      Told r rule d [(r.forwardCall rule t, .ok ()), (rule.ackCall d, .error e)]
        (.error (.disposition .ack d.tag e)) []

section

variable {r : Router} {rule : RoutingRule} {d : Delivery}

/-- Nothing is told after a delivery is rejected, whatever becomes of the nack and of the report. -/
theorem Router.events_refuse (f : TransformError) (s : σ) :
    ((nack rule d false (r.reportError d f)).run perform s).events = [] := by
  obtain ⟨_ | _, s₁, h₁⟩ : ∃ a s₁, perform s (rule.nackCall d false) = (a, s₁) := ⟨_, _, rfl⟩
  · rw [run_nack_error h₁]
  · rw [run_nack h₁]
    obtain ⟨_ | _, s₂, h₂⟩ : ∃ a s₂, perform s₁ (r.reportCall d f) = (a, s₂) := ⟨_, _, rfl⟩
    · rw [run_reportError_error h₂]
    · rw [run_reportError h₂]

theorem shows_requeueing (rule : RoutingRule) (d : Delivery) (routingKey : String)
    (e : ChannelError) :
    (ForwardEvent.requeueing rule d routingKey e).entry.Shows .warn
      "Publish failed, requeueing delivery"
      [("to_exchange", .text rule.exchange), ("to_routing_key", .text routingKey),
        ("error", .text e.message)] := by
  refine ⟨rfl, rfl, ?_⟩
  simp only [List.forall_mem_cons]
  exact ⟨rfl, rfl, rfl, nofun⟩

theorem shows_forwarded (rule : RoutingRule) (d : Delivery) (routingKey : String) :
    (ForwardEvent.forwarded rule d routingKey).entry.Shows .info "Forwarded message"
      [("from_exchange", .text d.exchange), ("from_routing_key", .text d.routingKey),
        ("to_exchange", .text rule.exchange), ("to_routing_key", .text routingKey)] := by
  refine ⟨rfl, rfl, ?_⟩
  simp only [List.forall_mem_cons]
  exact ⟨rfl, rfl, rfl, rfl, nofun⟩

/-- **A message that was transformed** is told when its publication fails and when its ack
succeeds. -/
theorem Router.deliver_told {t : Transformed} (ht : transform r.resolver rule.direction d = .ok t)
    (s : σ) :
    Told r rule d ((r.deliver rule d t).run perform s).calls
      ((r.deliver rule d t).run perform s).result ((r.deliver rule d t).run perform s).log := by
  obtain ⟨_ | _, s₁, h₁⟩ : ∃ p s₁, perform s (r.forwardCall rule t) = (p, s₁) := ⟨_, _, rfl⟩
  · rw [run_deliver_error h₁, Plan.run_note]
    obtain ⟨_ | _, s₂, h₂⟩ : ∃ a s₂, perform s₁ (rule.nackCall d true) = (a, s₂) := ⟨_, _, rfl⟩
    · rw [run_nack_error h₂]
      exact .requeueing ht rfl (shows_requeueing ..)
    · rw [run_nack h₂]
      exact .requeueing ht rfl (shows_requeueing ..)
  · rw [run_deliver h₁]
    obtain ⟨_ | _, s₂, h₂⟩ : ∃ a s₂, perform s₁ (rule.ackCall d) = (a, s₂) := ⟨_, _, rfl⟩
    · rw [run_ack_error h₂]
      exact .silent ht
    · rw [run_ack h₂]
      exact .forwarded ht rfl (shows_forwarded ..)
        ⟨rfl, rfl, List.forall_mem_singleton.mpr rfl⟩

/-- **A forward tells what it replaced, and then one of the four.** -/
theorem Router.forward_told (perform : σ → Call → Response × σ) (s : σ) (r : Router)
    (rule : RoutingRule) (d : Delivery) :
    ∃ told, ((r.forward rule d).run perform s).log =
        (replacedEvents (transform r.resolver rule.direction d)).map ForwardEvent.entry ++ told ∧
      Told r rule d ((r.forward rule d).run perform s).calls
        ((r.forward rule d).run perform s).result told := by
  rw [forward]
  cases ht : transform r.resolver rule.direction d with
  | error f =>
    refine ⟨_, rfl, ?_⟩
    rw [Plan.run_note, events_refuse]
    exact .rejecting ht ⟨rfl, rfl, List.forall_mem_singleton.mpr rfl⟩
  | ok t =>
    rw [Plan.run_noting]
    exact ⟨_, List.map_append, deliver_told ht s⟩

namespace Told

variable {calls : List (Call × Response)} {result : ForwardResult} {told : List Entry}

theorem rejecting_iff (h : Told r rule d calls result told) :
    (∃ entry ∈ told, entry.message = "Rejecting delivery") ↔
      ∃ f, transform r.resolver rule.direction d = .error f := by
  cases h with
  | rejecting hf hentry => simp [hf, hentry.message_eq]
  | requeueing ht _ hentry => simp [ht, hentry.message_eq]
  | forwarded ht _ hentry hbody => simp [ht, hentry.message_eq, hbody.message_eq]
  | silent ht => simp [ht]

theorem requeueing_iff (h : Told r rule d calls result told) :
    (∃ entry ∈ told, entry.message = "Publish failed, requeueing delivery") ↔
      ∃ t e, transform r.resolver rule.direction d = .ok t ∧
        (r.forwardCall rule t, .error e) ∈ calls := by
  cases h with
  | rejecting hf hentry => simp [hf, hentry.message_eq]
  | requeueing ht _ hentry => simp [ht, hentry.message_eq]
  | forwarded ht _ hentry hbody => simp [ht, hentry.message_eq, hbody.message_eq]
  | silent ht => simp [ht, Router.forwardCall, RoutingRule.ackCall]

theorem countP_forwarded (h : Told r rule d calls result told)
    (hcourse : Course r rule d calls result) :
    told.countP (Entry.hasMessage "Forwarded message") = if result = .ok .acked then 1 else 0 := by
  -- two of the four leave the result open, and the course says that it is not this one
  have hacked := hcourse.acked_iff
  cases h with
  | rejecting hf hentry =>
    have hresult : result ≠ .ok .acked := by simp [hacked, hf]
    simp [hentry.message_eq, hresult]
  | requeueing ht _ hentry =>
    have hresult : result ≠ .ok .acked := by simp [hacked]
    simp [hentry.message_eq, hresult]
  | forwarded _ _ hentry hbody => simp [hentry.message_eq, hbody.message_eq]
  | silent _ => simp

end Told

end

/-! ## 4. Forwards and sessions -/

theorem exists_mem_append_iff {before after : List α} {p : α → Prop} (h : ∀ a ∈ before, ¬p a) :
    (∃ a ∈ before ++ after, p a) ↔ ∃ a ∈ after, p a := by
  simp only [List.mem_append, or_and_right, exists_or]
  exact or_iff_right fun ⟨a, ha, hp⟩ => h a ha hp

/-- **A forward tells once that it forwarded a message**, if its delivery was acked. -/
theorem Router.countP_log (perform : σ → Call → Response × σ) (s : σ) (r : Router)
    (rule : RoutingRule) (d : Delivery) :
    ((r.forward rule d).run perform s).log.countP (Entry.hasMessage "Forwarded message") =
      if ((r.forward rule d).run perform s).result = .ok .acked then 1 else 0 := by
  obtain ⟨told, hlog, htold⟩ := forward_told perform s r rule d
  obtain ⟨lookups, -, hreplacing⟩ := exists_replacing r.resolver rule.direction d
  -- the entry for a replaced id does not count
  have hnone : ∀ entry ∈ _, ¬Entry.hasMessage "Forwarded message" entry := fun entry hmem h =>
    hreplacing.message_ne (by decide) (by decide) entry hmem (Entry.hasMessage_iff.mp h)
  rw [hlog, List.countP_append, List.countP_eq_zero.mpr hnone, Nat.zero_add]
  exact htold.countP_forwarded (forward_course perform s r rule d)

theorem Router.tells_forwarded_iff (perform : σ → Call → Response × σ) (s : σ) (r : Router)
    (rule : RoutingRule) (d : Delivery) :
    (∃ entry ∈ ((r.forward rule d).run perform s).log, entry.message = "Forwarded message") ↔
      ((r.forward rule d).run perform s).result = .ok .acked := by
  simp only [← Entry.hasMessage_iff, ← List.countP_pos_iff, countP_log]
  split <;> simp [*]

/-- **The look-ups of a forward** are those of its transformation. -/
theorem Router.run_forwardM_noted {r : Router} {rule : RoutingRule} {d : Delivery}
    {lookups : Lookups}
    (h : (transformM r.resolver.noted rule.direction d).run [] =
      (transform r.resolver rule.direction d, lookups)) (s : σ) :
    (r.forwardM rule r.resolver.noted perform s d).run [] =
      ((r.forward rule d).run perform s, lookups) := by
  rw [← forwardAfter_transform, forwardM, StateT.run_bind, h]
  rfl

/-- Forwards whose logs tell of themselves tell together how many of them were acked. -/
theorem countP_flatMap_log {fs : List Forwarded}
    (h : ∀ f ∈ fs, f.outcome.log.countP (Entry.hasMessage "Forwarded message") =
      if f.outcome.result = .ok .acked then 1 else 0) :
    (fs.flatMap fun f => f.outcome.log).countP (Entry.hasMessage "Forwarded message") =
      fs.countP fun f => f.outcome.result = .ok .acked := by
  induction fs with
  | nil => rfl
  | cons f rest ih =>
    obtain ⟨hf, hrest⟩ := List.forall_mem_cons.mp h
    rw [List.flatMap_cons, List.countP_append, hf, ih hrest, List.countP_cons, Nat.add_comm]
    simp only [decide_eq_true_eq]

/-- **The log tells what happened.**

Over any channels, whatever each call comes to, and whatever the resolver says or fails to say, the
log of a forward has two parts and nothing else:

* an entry for the id that was replaced, with both ids in the fields of their namespaces, just when
  a look-up was made and hit;
* then one of four: the rejection of a delivery that was not transformed, with the text of its
  error, whatever becomes of the nack and of the error record; the failed publication of one that
  was, with its exchange and routing key and the error of the channel; the forwarded message with
  where it came from and where it was published, and its body; or nothing, when only the ack failed.

Each of these messages is in the log just when that happened.  So over any session there are as many
forwarded messages in the log as forwards that were acked, and a delivery whose ack failed is not
among them. -/
theorem forwards_logged (perform : σ → Call → Response × σ) (s : σ) (r : Router)
    (rule : RoutingRule) (d : Delivery) (session : Session) (events : List SessionEvent) :
    (let o := (r.forward rule d).run perform s
      ∃ lookups replacing told,
        (r.forwardM rule r.resolver.noted perform s d).run [] = (o, lookups) ∧
        o.log = replacing ++ told ∧
        Replacing r.resolver rule.direction lookups replacing ∧
        Told r rule d o.calls o.result told ∧
        (replacing ≠ [] ↔
          ∃ q ∈ lookups, ∃ other, r.resolver.lookup q.1 q.2 = .ok (some other)) ∧
        ((∃ entry ∈ o.log, entry.message = "Rejecting delivery") ↔
          ∃ f, transform r.resolver rule.direction d = .error f) ∧
        ((∃ entry ∈ o.log, entry.message = "Publish failed, requeueing delivery") ↔
          ∃ t e, transform r.resolver rule.direction d = .ok t ∧
            (r.forwardCall rule t, .error e) ∈ o.calls) ∧
        ((∃ entry ∈ o.log, entry.message = "Forwarded message") ↔ o.result = .ok .acked)) ∧
      let forwards := session.forwards events
      (forwards.flatMap fun f => f.outcome.log).countP (Entry.hasMessage "Forwarded message") =
          (forwards.countP fun f => f.outcome.result = .ok .acked) ∧
        ∀ f ∈ forwards, ∀ e, (f.rule.ackCall f.delivery, .error e) ∈ f.outcome.calls →
          ∀ entry ∈ f.outcome.log, entry.message ≠ "Forwarded message" := by
  constructor
  · intro o
    obtain ⟨told, hlog, htold⟩ := Router.forward_told perform s r rule d
    obtain ⟨lookups, hlookups, hreplacing⟩ := exists_replacing r.resolver rule.direction d
    refine ⟨lookups, _, told, Router.run_forwardM_noted hlookups s, hlog, hreplacing, htold,
      hreplacing.ne_nil_iff, ?_, ?_, ?_⟩
    · rw [hlog, exists_mem_append_iff (hreplacing.message_ne (by decide) (by decide))]
      exact htold.rejecting_iff
    · rw [hlog, exists_mem_append_iff (hreplacing.message_ne (by decide) (by decide))]
      exact htold.requeueing_iff
    · exact Router.tells_forwarded_iff perform s r rule d
  · intro forwards
    refine ⟨countP_flatMap_log fun f hf => ?_, fun f hf e hcall entry hentry hmessage => ?_⟩
    · obtain ⟨channels, hrun⟩ := Session.exists_run_of_mem_forwards hf
      rw [hrun]
      exact Router.countP_log _ _ _ _ _
    · obtain ⟨channels, hrun⟩ := Session.exists_run_of_mem_forwards hf
      rw [hrun] at hentry hcall
      have hacked := (Router.tells_forwarded_iff _ _ _ _ _).mp ⟨entry, hentry, hmessage⟩
      obtain ⟨t, -, hcalls⟩ := (Router.forward_course _ _ _ _ _).acked_iff.mp hacked
      simp [hcalls] at hcall

/-- A message that is published twice, since its first ack fails. -/
def publishedTwice : List SessionEvent :=
  [.inject .cegaConsume .ack (some (.unavailable "down")), .forward fileRule emptyFile,
    .inject .cegaConsume .ack none, .forward fileRule emptyFile]

/-- It is told to be forwarded once, and not by the forward whose ack failed. -/
theorem forwards_logged_publishedTwice :
    let forwards := Session.fresh.forwards publishedTwice
    let failed : Forwarded := forwards[0]
    failed.outcome.result = .error (.disposition .ack 1 (.unavailable "down")) ∧
      (∀ entry ∈ failed.outcome.log, entry.message ≠ "Forwarded message") ∧
      (forwards.flatMap fun f => f.outcome.log).countP (Entry.hasMessage "Forwarded message") =
        1 := by
  intro forwards failed
  obtain ⟨-, hcount, hsilent⟩ :=
    forwards_logged failFirst 0 bareRouter fileRule emptyFile Session.fresh publishedTwice
  have hmem : failed ∈ forwards := List.getElem_mem _
  exact ⟨rfl, hsilent failed hmem (.unavailable "down") (.tail _ (.head _)), hcount⟩

end BrokerBridge
