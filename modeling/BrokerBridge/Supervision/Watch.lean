import BrokerBridge.Supervision.Failure

/-!
# Watching the bridge

A running bridge ends with the first thing that happens: the end of a connection, the end of a
consumer, or a request to shut down.  Only the last can end it well.

A `Watch` gives the moment of each of these things, or none when it never comes.  Where two come at
one moment, the one that is looked at first counts, so `Watch.endBy` takes the order of looking.
-/
namespace BrokerBridge

/-- How a consumer ends. -/
inductive ConsumerEnd where
  | returned (error : ForwardError)
  | failed (ended : TaskEnd)
  deriving DecidableEq, Repr

/-- What can happen to a running bridge. -/
inductive Occurrence where
  | connection (error : SupervisorError)
  | consumer (index : Nat) (ended : ConsumerEnd)
  | shutdown (result : Except IoFailure Unit)

/-- Something that happens at a moment. -/
structure Timed (α : Type) where
  at_ : Nat
  event : α

/-- What will happen, and when. -/
structure Watch where
  lega : Option (Timed SupervisorError) := none
  cega : Option (Timed SupervisorError) := none
  consumers : List (Option (Timed ConsumerEnd)) := []
  shutdown : Option (Timed (Except IoFailure Unit)) := none

/-- How a bridge ended: when, with what, and how many consumers were left. -/
structure WatchEnd where
  at_ : Nat
  result : Except AppError Unit
  consumersLeft : Nat

/-- What an occurrence makes of the bridge. -/
def Occurrence.result : Occurrence → Except AppError Unit
  | .connection e => .error (.supervisor e)
  | .consumer _ (.returned e) => .error (.forward e)
  | .consumer _ (.failed ended) => .error (.task ended)
  | .shutdown (.ok ()) => .ok ()
  | .shutdown (.error e) => .error (.signal e)

/-- Whether an occurrence takes a consumer with it. -/
def Occurrence.isConsumer : Occurrence → Bool
  | .consumer .. => true
  | _ => false

namespace Watch

/-- A timed event as an occurrence. -/
def timed (wrap : α → Occurrence) (e : Option (Timed α)) : List (Timed Occurrence) :=
  (e.map fun e => ⟨e.at_, wrap e.event⟩).toList

/-- All that will happen: to the connections, to the consumers, and the shutdown. -/
def occurrences (w : Watch) : List (Timed Occurrence) :=
  timed .connection w.lega ++ timed .connection w.cega ++
    (w.consumers.zipIdx.flatMap fun (e, i) => timed (.consumer i) e) ++
    timed .shutdown w.shutdown

/-- The first of some occurrences; of those at one moment, the one that stands first. -/
def first? : List (Timed Occurrence) → Option (Timed Occurrence)
  | [] => none
  | o :: rest =>
    match first? rest with
    | none => some o
    | some p => if p.at_ < o.at_ then some p else some o

/-- How the bridge ends when occurrences are looked at in the given order. -/
def endBy (w : Watch) (order : List (Timed Occurrence)) : Option WatchEnd :=
  (first? order).map fun o =>
    ⟨o.at_, o.event.result, w.consumers.length - if o.event.isConsumer then 1 else 0⟩

/-- How the bridge ends, if it does. -/
def end? (w : Watch) : Option WatchEnd := w.endBy w.occurrences

end Watch

end BrokerBridge
