import BrokerBridge.Channel.Basic
import BrokerBridge.Routing.Forward
import BrokerBridge.Uri.Amqp

/-!
# Failures of the bridge

A `SupervisorError` is the failure of a connection to a broker.  An `AppError` is why the whole
bridge ends: the failure of one of its parts, each of which reports the failures behind it.  The
failures of a connection and of forwarding speak for themselves and are not wrapped in words.

There is no failure to build the configuration of TLS among them, since it cannot be met: see
`tlsMode`.
-/
namespace BrokerBridge

/-- Why there is no connection to a broker. -/
inductive SupervisorError where
  | invalidUrl (fault : Uri.UrlFault)
  | invalidAmqpUri (text : String)
  | missingCaCert
  | readCaCert (path : String) (failure : IoFailure)
  | invalidCaCert (path : String)
  | connect (host : String) (attempts : Nat) (failure : LinkFailure)
  | channel (host : String) (failure : LinkFailure)
  | connectionClosed (host : String)
  | connectionLost (host : String) (failure : LinkFailure)
  deriving DecidableEq, Repr

namespace SupervisorError

/-- The failure in words. -/
def message : SupervisorError → String
  | .invalidUrl fault => "invalid broker connection string: " ++ fault.message
  | .invalidAmqpUri text => "invalid AMQP connection string: " ++ text
  | .missingCaCert => "TLS is enabled but no CA certificate path is configured"
  | .readCaCert path failure =>
    "failed to read CA certificate '" ++ path ++ "': " ++ failure.message
  | .invalidCaCert path => "no PEM certificate found in '" ++ path ++ "'"
  | .connect host attempts failure =>
    "failed to connect to " ++ host ++ " after " ++ toString attempts ++ " attempts: " ++
      failure.message
  | .channel host failure => "failed to open channel on " ++ host ++ ": " ++ failure.message
  | .connectionClosed host => "connection to " ++ host ++ " closed"
  | .connectionLost host failure => "connection to " ++ host ++ " lost: " ++ failure.message

/-- What stands behind the failure. -/
def sources : SupervisorError → List String
  | .invalidUrl fault => [fault.message]
  | .readCaCert _ failure => failure.chain
  | .connect _ _ failure | .channel _ failure | .connectionLost _ failure => failure.chain
  | _ => []

end SupervisorError

/-- A failure of the configuration that the bridge reports. -/
inductive ConfigFailure where
  | missing (key : String)
  | text (words : String)
  deriving DecidableEq, Repr

/-- A failure of the configuration in words. -/
def ConfigFailure.message : ConfigFailure → String
  | .missing key => "missing configuration field \"" ++ key ++ "\""
  | .text words => words

/-- How a consumer ended other than by returning. -/
inductive TaskEnd where
  | panicked
  | cancelled
  deriving DecidableEq, Repr

/-- Why the bridge ends. -/
inductive AppError where
  | config (failure : ConfigFailure)
  | database (failure : StoreFailure)
  | supervisor (error : SupervisorError)
  | forward (error : ForwardError)
  | channel (error : ChannelError)
  | subscribe (queue : String) (failure : LinkFailure)
  | task (ended : TaskEnd)
  | signal (failure : IoFailure)
  deriving DecidableEq, Repr

namespace AppError

/-- Why the bridge ends, in words; nothing for a consumer that did not return. -/
def message? : AppError → Option String
  | .config failure => some ("configuration error: " ++ failure.message)
  | .database failure => some ("database error: " ++ failure.message)
  | .supervisor e => some e.message
  | .forward e => some e.message
  | .channel e => some ("failed to prepare channel: " ++ e.message)
  | .subscribe queue failure =>
    some ("failed to start consumer on queue '" ++ queue ++ "': " ++ failure.message)
  | .task _ => none
  | .signal failure => some ("failed to listen for shutdown signal: " ++ failure.message)

/-- What stands behind the failure. -/
def sources : AppError → List String
  | .config failure => [failure.message]
  | .database failure => failure.chain
  | .supervisor e => e.sources
  | .forward e => e.sources
  | .channel e => e.chain
  | .subscribe _ failure => failure.chain
  | .task _ => []
  | .signal failure => failure.chain

end AppError

end BrokerBridge
