import BrokerBridge.Channel.Definitions
import BrokerBridge.Proofs.Assoc
import BrokerBridge.Proofs.Ledger

/-!
# A channel in memory is a set of queues behind one exchange

A channel is made of an exchange and some bindings, and then used: messages are published and taken,
queues are measured, deliveries are settled, the channel becomes unavailable and available again.  A
`ChannelStep` is one use and `MemoryChannel.history` the steps with what they came to.

* `MemoryChannel.messages_step`: what a step adds to a queue, behind what was in it, is what it
  takes from the queue, before what is left in it.
* `MemoryChannel.messages_after`: so it is for any number of steps.
* **`MemoryChannel.fifo`**: of a channel that was just made, a queue holds at any time the messages
  that were published to it, in order, without those that were taken, which were the first.  That
  queue, the bindings and the last availability decide what any further step comes to.

Its last part says what channel definitions make, and leaves what definitions a text holds to the
reader of records (`Definitions.decode_isExport`).
-/
namespace BrokerBridge

/-! ## 1. Using a channel -/

/-- One use of a channel in memory. -/
inductive ChannelStep where
  | perform (op : Operation)
  | take (queue : String)
  | measure (queue : String)
  | takeSettled
  | setUnavailable (reason : Option String)

/-- What a step comes to. -/
inductive StepResult where
  | response (r : Response)
  | message (p : Option Publishing)
  | length (n : Nat)
  | settled (acked nacked : Bool)
  | done

/-- The steps that a channel was put through, with what they came to. -/
abbrev History := List (ChannelStep × StepResult)

namespace MemoryChannel

/-- Does a step. -/
def step (c : MemoryChannel) : ChannelStep → StepResult × MemoryChannel
  | .perform op => (.response (c.perform op).1, (c.perform op).2)
  | .take queue => (.message (c.take queue).1, (c.take queue).2)
  | .measure queue => (.length (c.messages queue).length, c)
  | .takeSettled => (.settled c.takeSettled.1.1 c.takeSettled.1.2, c.takeSettled.2)
  | .setUnavailable reason => (.done, c.setUnavailable reason)

/-- The channel after some steps. -/
def after (c : MemoryChannel) (steps : List ChannelStep) : MemoryChannel :=
  steps.foldl (fun c s => (c.step s).2) c

/-- Some steps with what each comes to. -/
def history (c : MemoryChannel) : List ChannelStep → History
  | [] => []
  | s :: rest => (s, (c.step s).1) :: (c.step s).2.history rest

/-- The channel of an exchange with some bindings, made in order. -/
def made (exchange : String) (bindings : List (String × String)) : MemoryChannel :=
  bindings.foldl (fun c b => c.bind b.1 b.2) (.ofExchange exchange)

end MemoryChannel

/-! ## 2. What a history says -/

/-- The queue that a routing key leads to: that of its last binding, or that of its own name. -/
def routeOf (bindings : List (String × String)) (key : String) : String :=
  (Assoc.get? key bindings.reverse).getD key

namespace History

/-- The message that a step published to a queue. -/
def publishedBy (route : String → String) (queue : String) :
    ChannelStep × StepResult → Option Publishing
  | (.perform (.publish p), .response (.ok ())) =>
    if route p.routingKey = queue then some p.publishing else none
  | _ => none

/-- The message that a step took from a queue. -/
def takenBy (queue : String) : ChannelStep × StepResult → Option Publishing
  | (.take q, .message (some p)) => if q = queue then some p else none
  | _ => none

/-- The messages that were published to a queue, in order. -/
def published (route : String → String) (queue : String) (h : History) : List Publishing :=
  h.filterMap (publishedBy route queue)

/-- The messages that were taken from a queue, in order. -/
def taken (queue : String) (h : History) : List Publishing := h.filterMap (takenBy queue)

theorem published_cons (route : String → String) (queue : String) (e : ChannelStep × StepResult)
    (h : History) :
    published route queue (e :: h) =
      (publishedBy route queue e).toList ++ published route queue h := by
  rw [published, List.filterMap_cons]
  cases publishedBy route queue e <;> rfl

theorem taken_cons (queue : String) (e : ChannelStep × StepResult) (h : History) :
    taken queue (e :: h) = (takenBy queue e).toList ++ taken queue h := by
  rw [taken, List.filterMap_cons]
  cases takenBy queue e <;> rfl

end History

/-- Why a channel is unavailable after a step, given why it was before. -/
def reasonAfter (reason : Option String) : ChannelStep → Option String
  | .setUnavailable reason' => reason'
  | _ => reason

/-- Why a channel that was just made is unavailable after some steps. -/
def unavailability (steps : List ChannelStep) : Option String := steps.foldl reasonAfter none

/-! ## 3. One step -/

namespace MemoryChannel

theorem take_fst (c : MemoryChannel) (queue : String) :
    (c.take queue).1 = (c.messages queue).head? := by
  unfold take
  cases c.messages queue <;> rfl

theorem messages_take (c : MemoryChannel) (queue other : String) :
    (c.take queue).2.messages other =
      if queue = other then (c.messages other).tail else c.messages other := by
  by_cases h : queue = other
  · subst h
    rw [if_pos rfl, take]
    cases hm : c.messages queue with
    | nil => exact hm
    | cons p rest => simp [messages]
  · rw [if_neg h, take]
    cases c.messages queue with
    | nil => rfl
    | cons p rest => simp [messages, Assoc.get?_put, h]

/-- What comes of a publication, by the availability and the exchange of a channel. -/
theorem publish_eq (c : MemoryChannel) (p : Publication) :
    c.publish p =
      match c.unavailable with
      | some reason => (.error (.unavailable reason), c)
      | none =>
        if p.exchange = c.exchange then (.ok (), (c.publish p).2)
        else (.error (.wrongExchange c.exchange p.exchange), c) := by
  unfold publish
  cases c.unavailable with
  | some reason => rfl
  | none =>
    dsimp only
    split <;> rfl

/-- A step leaves the exchange and the bindings as they are, and the availability, unless it is
about that. -/
theorem step_frame (c : MemoryChannel) (s : ChannelStep) :
    (c.step s).2.exchange = c.exchange ∧ (c.step s).2.bindings = c.bindings ∧
      (c.step s).2.unavailable = reasonAfter c.unavailable s := by
  cases s with
  | measure _ | takeSettled | setUnavailable _ => exact ⟨rfl, rfl, rfl⟩
  | take queue =>
    simp only [step, take]
    split <;> exact ⟨rfl, rfl, rfl⟩
  | perform op =>
    cases op with
    | ack _ _ | nack _ _ _ | reject _ _ => exact ⟨rfl, rfl, rfl⟩
    | publish p =>
      simp only [step, perform, publish]
      split
      · exact ⟨rfl, rfl, rfl⟩
      · split <;> exact ⟨rfl, rfl, rfl⟩

theorem route_step (c : MemoryChannel) (s : ChannelStep) : (c.step s).2.route = c.route := by
  funext key
  rw [route, (c.step_frame s).2.1, route]

/-- **What a step adds to a queue and takes from it.** -/
theorem messages_step (c : MemoryChannel) (s : ChannelStep) (queue : String) :
    c.messages queue ++ (History.publishedBy c.route queue (s, (c.step s).1)).toList =
      (History.takenBy queue (s, (c.step s).1)).toList ++ (c.step s).2.messages queue := by
  cases s with
  | measure _ | takeSettled | setUnavailable _ => exact List.append_nil _
  | take q =>
    simp only [step, take_fst, messages_take]
    by_cases hq : q = queue
    · subst hq
      rw [if_pos rfl]
      cases c.messages q <;> simp [History.publishedBy, History.takenBy]
    · rw [if_neg hq]
      cases c.messages q <;> simp [History.publishedBy, History.takenBy, hq]
  | perform op =>
    simp only [step, messages_perform]
    cases op with
    | ack _ _ | nack _ _ _ | reject _ _ => rfl
    | publish p =>
      cases (c.perform (.publish p)).1 with
      | error e => rfl
      | ok u =>
        simp only [History.publishedBy, History.takenBy, Option.toList_none, List.nil_append]
        split <;> rfl

/-! ## 4. All steps -/

/-- Steps leave the exchange and the bindings as they are, and the last reason decides whether the
channel is available. -/
theorem after_frame (c : MemoryChannel) (steps : List ChannelStep) :
    (c.after steps).exchange = c.exchange ∧ (c.after steps).bindings = c.bindings ∧
      (c.after steps).unavailable = steps.foldl reasonAfter c.unavailable := by
  induction steps generalizing c with
  | nil => exact ⟨rfl, rfl, rfl⟩
  | cons s rest ih =>
    obtain ⟨hexchange, hbindings, hreason⟩ := c.step_frame s
    obtain ⟨hexchange', hbindings', hreason'⟩ := ih (c.step s).2
    rw [hreason] at hreason'
    exact ⟨hexchange'.trans hexchange, hbindings'.trans hbindings, hreason'⟩

/-- **What steps add to a queue and take from it.** -/
theorem messages_after (queue : String) : ∀ (steps : List ChannelStep) (c : MemoryChannel),
    c.messages queue ++ (c.history steps).published c.route queue =
      (c.history steps).taken queue ++ (c.after steps).messages queue
  | [], c => List.append_nil _
  | s :: rest, c => by
    have ih := messages_after queue rest (c.step s).2
    rw [route_step] at ih
    calc c.messages queue ++ (c.history (s :: rest)).published c.route queue
        = (c.messages queue ++ (History.publishedBy c.route queue (s, (c.step s).1)).toList) ++
            ((c.step s).2.history rest).published c.route queue := by
          rw [history, History.published_cons, List.append_assoc]
      _ = (History.takenBy queue (s, (c.step s).1)).toList ++
            ((c.step s).2.messages queue ++
              ((c.step s).2.history rest).published c.route queue) := by
          rw [messages_step, List.append_assoc]
      _ = (c.history (s :: rest)).taken queue ++ (c.after (s :: rest)).messages queue := by
          rw [ih, history, History.taken_cons, List.append_assoc]
          rfl

/-! ## 5. A channel that was just made -/

/-- A channel that was just made has its exchange, its bindings, no messages, and is available. -/
theorem made_eq (exchange : String) (bindings : List (String × String)) :
    made exchange bindings = { exchange, bindings := Assoc.ofEntries bindings } := by
  have general (bindings : List (String × String)) (c : MemoryChannel) :
      bindings.foldl (fun c b => c.bind b.1 b.2) c =
        { c with bindings := c.bindings.putAll bindings } := by
    induction bindings generalizing c with
    | nil => rfl
    | cons b rest ih => exact ih (c.bind b.1 b.2)
  exact general bindings (.ofExchange exchange)

theorem exchange_made (exchange : String) (bindings : List (String × String)) :
    (made exchange bindings).exchange = exchange := by rw [made_eq]

theorem unavailable_made (exchange : String) (bindings : List (String × String)) :
    (made exchange bindings).unavailable = none := by rw [made_eq]

theorem messages_made (exchange : String) (bindings : List (String × String)) (queue : String) :
    (made exchange bindings).messages queue = [] := by
  rw [made_eq]
  rfl

theorem route_made (exchange : String) (bindings : List (String × String)) :
    (made exchange bindings).route = routeOf bindings := by
  funext key
  rw [made_eq, route, routeOf, Assoc.get?_ofEntries]

/-- A broker's definitions make the channel of the exchange that is listed last, or of one without a
name, with all bindings in order. -/
theorem ofDefinitions?_eq_ok_iff {text : String} {c : MemoryChannel} :
    ofDefinitions? text = .ok c ↔
      ∃ d : Definitions, Definitions.shape.decode (Utf8.ofString text) = .ok d ∧
        c = made (d.exchanges.getLast?.getD "")
          (d.bindings.map fun b => (b.routingKey, b.destination)) := by
  have hchannel (d : Definitions) : d.channel = made (d.exchanges.getLast?.getD "")
      (d.bindings.map fun b => (b.routingKey, b.destination)) := by
    rw [Definitions.channel, made, List.foldl_map]
  rw [ofDefinitions?]
  cases h : Definitions.shape.decode (Utf8.ofString text) with
  | error e => exact ⟨nofun, fun ⟨_, hd, _⟩ => nomatch hd⟩
  | ok d =>
    constructor
    · intro hc
      exact ⟨d, rfl, by rw [← hchannel, ← Except.ok.inj hc]⟩
    · rintro ⟨d', hd, rfl⟩
      rw [← hchannel, ← Except.ok.inj hd]
      rfl

/-- **A channel in memory is a set of queues behind one exchange.**  However it is used since it was
made of an exchange and some bindings:

* every queue holds the messages that were published under the routing keys that lead to it, in
  order, without those that were taken from it, which were the first of them;
* taking from a queue gives the oldest message that it holds, if there is one, and takes it from that
  queue alone; measuring a queue gives their number;
* a routing key leads to the queue of its last binding, or to the one of its own name;
* a publication succeeds exactly when the channel is available and the exchange is its own; an
  unavailable channel says so whatever the exchange is, and a failure changes nothing.

A broker's definitions make such a channel. -/
theorem fifo (exchange : String) (bindings : List (String × String)) (steps : List ChannelStep) :
    let made := made exchange bindings
    let c := made.after steps
    let published := (made.history steps).published (routeOf bindings)
    let taken := (made.history steps).taken
    (∀ queue,
      taken queue = (published queue).take (taken queue).length ∧
      c.messages queue = (published queue).drop (taken queue).length) ∧
    (∀ queue,
      (c.step (.take queue)).1 = .message (c.messages queue).head? ∧
      ∀ other, (c.step (.take queue)).2.messages other =
        if queue = other then (c.messages other).tail else c.messages other) ∧
    (∀ queue, c.step (.measure queue) = (.length (c.messages queue).length, c)) ∧
    (∀ key, c.route key = routeOf bindings key) ∧
    (∀ p, c.publish p =
      match unavailability steps with
      | some reason => (.error (.unavailable reason), c)
      | none =>
        if p.exchange = exchange then (.ok (), (c.publish p).2)
        else (.error (.wrongExchange exchange p.exchange), c)) ∧
    ∀ text c, ofDefinitions? text = .ok c ↔
      ∃ d : Definitions, Definitions.shape.decode (Utf8.ofString text) = .ok d ∧
        c = MemoryChannel.made (d.exchanges.getLast?.getD "")
          (d.bindings.map fun b => (b.routingKey, b.destination)) := by
  intro made c published taken
  obtain ⟨hexchange, hbindings, hreason⟩ := made.after_frame steps
  refine ⟨fun queue => ?_, fun queue => ⟨?_, messages_take c queue⟩, fun queue => rfl,
    fun key => ?_, fun p => ?_, fun text c => ofDefinitions?_eq_ok_iff⟩
  · have hsplit : published queue = taken queue ++ c.messages queue := by
      have h := messages_after queue steps made
      rwa [messages_made, List.nil_append, route_made] at h
    rw [hsplit]
    exact ⟨List.take_left.symm, List.drop_left.symm⟩
  · rw [step, take_fst]
  · rw [← route_made exchange bindings, route, hbindings, route]
  · have h := c.publish_eq p
    rwa [hreason, hexchange, unavailable_made, exchange_made] at h

/-- Two keys that lead to one queue, a key that is bound again, and a queue of a key's own name. -/
example :
    let c := made "sda" [("a", "q"), ("b", "other"), ("b", "q")]
    let p (key : String) (byte : UInt8) : ChannelStep :=
      .perform (.publish ⟨"sda", key, false, false, ⟨{}, [byte]⟩⟩)
    (c.after [p "a" 1, .setUnavailable "down", p "a" 2, .setUnavailable none, p "b" 3, p "q" 4,
      .take "q"]).messages "q" = [⟨{}, [3]⟩, ⟨{}, [4]⟩] := rfl

end MemoryChannel

end BrokerBridge
