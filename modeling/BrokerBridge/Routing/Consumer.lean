import BrokerBridge.Routing.Forward

/-!
# Consuming a queue

A consumer forwards the items of a stream one after the other.  It ends at the first failure, be
it of the stream or of a forward, or with the stream; what comes after is never touched.
-/
namespace BrokerBridge

/-- An item of a stream: a delivery, or the failure of the channel. -/
abbrev StreamItem := Except ChannelError Delivery

/-- Puts what was done before in front of an outcome. -/
def Outcome.after (before : Outcome σ β) (o : Outcome σ α) : Outcome σ α :=
  { o with calls := before.calls ++ o.calls, events := before.events ++ o.events }

/-- Forwards the items of a stream against channels in state `s`. -/
def Router.drain (r : Router) (rule : RoutingRule) (perform : σ → Call → Response × σ) (s : σ) :
    List StreamItem → Outcome σ ForwardError
  | [] => ⟨.consumerClosed rule.queue, [], [], s⟩
  | .error e :: _ => ⟨.consume rule.queue e, [], [], s⟩
  | .ok d :: rest =>
    let o := (r.forward rule d).run perform s
    match o.result with
    | .error e => { o with result := e }
    | .ok _ => o.after (r.drain rule perform o.state rest)

/-- Consumes a stream under a rule. -/
def Router.consume (r : Router) (rule : RoutingRule) (perform : σ → Call → Response × σ) (s : σ)
    (stream : List StreamItem) : Outcome σ ForwardError :=
  let o := r.drain rule perform s stream
  { o with events := .consuming rule :: o.events }

end BrokerBridge
