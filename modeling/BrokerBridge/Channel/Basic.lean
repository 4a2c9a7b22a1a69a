import BrokerBridge.Failure
import BrokerBridge.Message

/-!
# Channels

What the bridge asks of a channel is an `Operation`: settle a delivery, or publish a message.  An
operation succeeds or fails with a `ChannelError`.  The bridge holds four channels, one to consume
and one to publish on each side; an `Endpoint` names one of them, and a `Call` is an operation on
it.
-/
namespace BrokerBridge

/-! ## 1. Failures -/

/-- Why an operation on a channel failed. -/
inductive ChannelError where
  | link (failure : LinkFailure)
  | unconfirmed (exchange routingKey : String)
  | wrongExchange (expected actual : String)
  | unavailable (reason : String)
  deriving DecidableEq, Repr

namespace ChannelError

/-- A failed operation in words. -/
def message : ChannelError → String
  | .link failure => "AMQP operation failed: " ++ failure.message
  | .unconfirmed exchange routingKey =>
    "broker did not confirm publication to [" ++ exchange ++ ", " ++ routingKey ++ "]"
  | .wrongExchange expected actual =>
    "message not posted to correct exchange: expected '" ++ expected ++ "' but got '" ++
      actual ++ "'"
  | .unavailable reason => "channel unavailable: " ++ reason

/-- What stands behind a failed operation. -/
def sources : ChannelError → List String
  | .link failure => failure.chain
  | _ => []

/-- A failed operation and what stands behind it. -/
def chain (e : ChannelError) : List String := e.message :: e.sources

end ChannelError

/-! ## 2. Operations -/

/-- A message on its way to an exchange. -/
structure Publication where
  exchange : String
  routingKey : String
  mandatory : Bool
  immediate : Bool
  publishing : Publishing
  deriving Repr

/-- What a channel can be asked to do. -/
inductive Operation where
  | ack (tag : Tag) (multiple : Bool)
  | nack (tag : Tag) (multiple requeue : Bool)
  | reject (tag : Tag) (requeue : Bool)
  | publish (publication : Publication)
  deriving Repr

/-- The kinds of operations. -/
inductive OperationKind where
  | ack
  | nack
  | reject
  | publish
  deriving DecidableEq, Repr

/-- The kind of an operation. -/
def Operation.kind : Operation → OperationKind
  | .ack .. => .ack
  | .nack .. => .nack
  | .reject .. => .reject
  | .publish .. => .publish

/-- How an operation ended. -/
abbrev Response := Except ChannelError Unit

/-! ## 3. The channels of the bridge -/

/-- A channel of the bridge. -/
inductive Endpoint where
  | cegaConsume
  | cegaPublish
  | legaConsume
  | legaPublish
  deriving DecidableEq, Repr

/-- An operation on a channel of the bridge. -/
structure Call where
  endpoint : Endpoint
  operation : Operation
  deriving Repr

/-- Something for each channel of the bridge. -/
structure Endpoints (α : Type) where
  cegaConsume : α
  cegaPublish : α
  legaConsume : α
  legaPublish : α

namespace Endpoints

variable {α : Type}

/-- What belongs to a channel. -/
def get (endpoints : Endpoints α) : Endpoint → α
  | .cegaConsume => endpoints.cegaConsume
  | .cegaPublish => endpoints.cegaPublish
  | .legaConsume => endpoints.legaConsume
  | .legaPublish => endpoints.legaPublish

/-- Puts `a` in place of what belongs to a channel. -/
def set (endpoints : Endpoints α) (endpoint : Endpoint) (a : α) : Endpoints α :=
  match endpoint with
  | .cegaConsume => { endpoints with cegaConsume := a }
  | .cegaPublish => { endpoints with cegaPublish := a }
  | .legaConsume => { endpoints with legaConsume := a }
  | .legaPublish => { endpoints with legaPublish := a }

theorem get_set (endpoints : Endpoints α) (p q : Endpoint) (a : α) :
    (endpoints.set p a).get q = if p = q then a else endpoints.get q := by
  cases p <;> cases q <;> rfl

end Endpoints

end BrokerBridge
