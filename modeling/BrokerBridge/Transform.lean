import BrokerBridge.Identity
import BrokerBridge.Json.Value
import BrokerBridge.Message

/-!
# Transforming a delivery

A body is a JSON object.  Its member `type`, when that is a string, is a hint at the routing key.
Its member `user` is an id of the source side; `transform` puts the id of the destination side in
its place and writes the object anew.  A body without that member is left as it is, byte for byte,
and nothing is looked up.
-/
namespace BrokerBridge

open Json (Value Members ReadError)

/-- Why a delivery was not transformed. -/
inductive TransformError where
  | malformed (error : ReadError)
  | identity (error : ResolveError)
  | encode (error : ReadError)
  deriving DecidableEq, Repr

/-- A failed transformation in words. -/
def TransformError.message : TransformError → String
  | .malformed e => "malformed message payload: " ++ e.message
  | .identity e => e.message
  | .encode e => "failed to re-encode message payload: " ++ e.message

/-- What stands behind a failed transformation. -/
def TransformError.sources : TransformError → List String
  | .malformed e | .encode e => [e.message]
  | .identity e => e.sources

/-- A transformed delivery. -/
structure Transformed where
  publishing : Publishing
  messageType : Option String
  replaced : Option Replacement
  deriving Repr

/-- The text of a value, if it is one. -/
def Json.Value.text? : Value → Option String
  | .text s => some s
  | _ => none

/-- The text by which a value is looked up: a string as it is, any other value as written. -/
def Json.Value.idText : Value → String
  | .text s => s
  | v => v.toText

/-- The type hint of a message. -/
def Json.Members.typeHint (members : Members) : Option String :=
  (Assoc.get? "type" members).bind Value.text?

/-- The publishing for the other side of the bridge. -/
def transform (resolver : Resolver) (direction : Direction) (d : Delivery) :
    Except TransformError Transformed :=
  match Members.decode d.body with
  | .error e => .error (.malformed e)
  | .ok members =>
    let hint := Members.typeHint members
    match Assoc.get? "user" members with
    | none => .ok ⟨.forward d d.body, hint, none⟩
    | some user =>
      match resolver.resolve direction user.idText with
      | .error e => .error (.identity e)
      | .ok resolved =>
        let body := Members.encode (Assoc.put "user" (.text resolved) members)
        .ok ⟨.forward d body, hint, some ⟨direction, user.idText, resolved⟩⟩

end BrokerBridge
