/-!
# Failures of the world outside

The bridge talks to a file system, a mapping table and brokers.  Each of them fails in ways of its
own; this module gives the causes and their words.

Every failure has a `message`, and a list `chain` with its own message and those of the failures
behind it, nearest first.  A failure that another one reports adds its whole chain to the
reporter's.

The bridge looks into none of these failures, so the kinds that have a name here are those whose
words are known; any other one is its words and what stands behind it.
-/
namespace BrokerBridge

/-! ## 1. Input and output -/

/-- A class of failed input or output. -/
inductive IoKind where
  | notFound
  | refused
  | reset
  | denied
  | wouldBlock
  | other
  /-- Any other class, by its words. -/
  | further (words : String)
  deriving DecidableEq, Repr

/-- The words for a class of failure that gives no text of its own. -/
def IoKind.describe : IoKind → String
  | .notFound => "entity not found"
  | .refused => "connection refused"
  | .reset => "connection reset"
  | .denied => "permission denied"
  | .wouldBlock => "operation would block"
  | .other => "other error"
  | .further words => words

/-- A failed input or output: a class alone, a text, or a failure of another kind and what stands
behind that. -/
inductive IoFailure where
  | ofKind (kind : IoKind)
  | withText (text : String)
  | wrapping (text : String) (behind : List String)
  deriving DecidableEq, Repr

/-- A failed input or output in words. -/
def IoFailure.message : IoFailure → String
  | .ofKind kind => kind.describe
  | .withText text => text
  | .wrapping text _ => text

/-- A failed input or output and what stands behind it. -/
def IoFailure.chain : IoFailure → List String
  | .wrapping text behind => text :: behind
  | e => [e.message]

/-! ## 2. The mapping table -/

/-- A failed query of the mapping table. -/
inductive StoreFailure where
  | poolTimedOut
  | poolClosed
  | rowNotFound
  | workerCrashed
  | protocol (text : String)
  | columnNotFound (name : String)
  | io (failure : IoFailure)
  /-- Any other failure, such as an answer of the database. -/
  | other (words : String) (behind : List String)
  deriving DecidableEq, Repr

/-- A failed query in words. -/
def StoreFailure.message : StoreFailure → String
  | .poolTimedOut => "pool timed out while waiting for an open connection"
  | .poolClosed => "attempted to acquire a connection on a closed pool"
  | .rowNotFound => "no rows returned by a query that expected to return at least one row"
  | .workerCrashed => "attempted to communicate with a crashed background worker"
  | .protocol text => "encountered unexpected or invalid data: " ++ text
  | .columnNotFound name => "no column found for name: " ++ name
  | .io failure => "error communicating with database: " ++ failure.message
  | .other words _ => words

/-- A failed query and what stands behind it. -/
def StoreFailure.chain : StoreFailure → List String
  | .io failure => (StoreFailure.io failure).message :: failure.chain
  | .other words behind => words :: behind
  | e => [e.message]

/-! ## 3. Broker connections -/

/-- A failed operation on a broker connection. -/
inductive LinkFailure where
  | io (failure : IoFailure)
  | invalidChannel (id : Nat)
  | channelsLimitReached
  | missingHeartbeat
  /-- Any other failure, such as a refusal by the broker. -/
  | other (words : String) (behind : List String)
  deriving DecidableEq, Repr

/-- A failed operation in words. -/
def LinkFailure.message : LinkFailure → String
  | .io failure => "IO error: " ++ failure.message
  | .invalidChannel id => "invalid channel: " ++ toString id
  | .channelsLimitReached => "the maximum number of channels for this connection has been reached"
  | .missingHeartbeat => "no heartbeat received from server for too long"
  | .other words _ => words

/-- A failed operation and what stands behind it. -/
def LinkFailure.chain : LinkFailure → List String
  | .io failure => (LinkFailure.io failure).message :: failure.chain
  | .other words behind => words :: behind
  | e => [e.message]

end BrokerBridge
