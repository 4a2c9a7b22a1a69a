import BrokerBridge.Supervision.Failure

/-!
# Close signals

A connection tells of its errors through senders.  The errors wait in line until the bridge asks
for them; once all senders are gone and no error waits, the connection is closed.
-/
namespace BrokerBridge

/-- The signal of a connection: its host, the errors that wait, and how many senders there are. -/
structure CloseSignal where
  host : String
  waiting : List LinkFailure := []
  senders : Nat := 1
  deriving Repr

namespace CloseSignal

/-- Sends an error, which takes a sender. -/
def send (s : CloseSignal) (e : LinkFailure) : Bool × CloseSignal :=
  if s.senders = 0 then (false, s) else (true, { s with waiting := s.waiting ++ [e] })

/-- Makes one more sender of the first one. -/
def clone (s : CloseSignal) : CloseSignal :=
  if s.senders = 0 then s else { s with senders := s.senders + 1 }

/-- Removes a sender. -/
def drop (s : CloseSignal) : CloseSignal := { s with senders := s.senders - 1 }

/-- Asks for the end of the connection; nothing when it has not come. -/
def closed (s : CloseSignal) : Option SupervisorError × CloseSignal :=
  match s.waiting with
  | e :: rest => (some (.connectionLost s.host e), { s with waiting := rest })
  | [] => if s.senders = 0 then (some (.connectionClosed s.host), s) else (none, s)

end CloseSignal

end BrokerBridge
