import BrokerBridge.Channel.Memory
import BrokerBridge.Json.Record

/-!
# Broker definitions

A broker exports its exchanges and bindings as a JSON record.  `MemoryChannel.ofDefinitions?`
reads such a record and makes a channel of it: the last exchange is the channel's, and all
bindings are made in order.  Whatever else the export holds is passed over.
-/
namespace BrokerBridge

open Json (Slot Shape ReadError requireField)

/-- A binding of an export. -/
structure BindingDefinition where
  routingKey : String
  destination : String
  deriving DecidableEq, Repr

/-- The part of an export that makes a channel. -/
structure Definitions where
  exchanges : List String := []
  bindings : List BindingDefinition := []
  deriving DecidableEq, Repr

namespace Definitions

/-- How an exchange is read: its name. -/
def exchangeShape : Shape (Option String) String where
  name := "ExchangeDefinition"
  slots := [.of "name" (Json.readTextAs "a string") fun _ name => some name]
  start := none
  finish := requireField "name"

/-- How a binding is read. -/
def bindingShape : Shape (Option String × Option String) BindingDefinition where
  name := "BindingDefinition"
  slots := [
    .of "routing_key" (Json.readTextAs "a string") fun d key => (some key, d.2),
    .of "destination" (Json.readTextAs "a string") fun d queue => (d.1, some queue)]
  start := (none, none)
  finish d := do
    .ok ⟨← requireField "routing_key" d.1, ← requireField "destination" d.2⟩

/-- How an export is read; a list that is missing is empty. -/
def shape : Shape Definitions Definitions where
  name := "Definitions"
  slots := [
    .of "exchanges" (Json.readList exchangeShape.read) fun d names => { d with exchanges := names },
    .of "bindings" (Json.readList bindingShape.read) fun d list => { d with bindings := list }]
  start := {}
  finish := .ok
  defaults := true

/-- The channel of an export. -/
def channel (d : Definitions) : MemoryChannel :=
  d.bindings.foldl (fun c b => c.bind b.routingKey b.destination)
    (.ofExchange (d.exchanges.getLast?.getD ""))

end Definitions

/-- The channel of an export's text. -/
def MemoryChannel.ofDefinitions? (text : String) : Except ReadError MemoryChannel :=
  (Definitions.shape.decode (Utf8.ofString text)).map Definitions.channel

end BrokerBridge
