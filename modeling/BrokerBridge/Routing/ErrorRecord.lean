import BrokerBridge.Transform

/-!
# Error records

A delivery that cannot be transformed leaves an error record: the reason and the text of its body.
The record is published as a JSON object with the properties that identify the delivery and no
others.
-/
namespace BrokerBridge

/-- What is published for a delivery that could not be transformed. -/
structure ErrorRecord where
  reason : String
  bodyText : String
  deriving DecidableEq, Repr

namespace ErrorRecord

/-- The record of a delivery and of what is wrong with it. -/
def ofFailure (d : Delivery) (e : TransformError) : ErrorRecord := ⟨e.message, d.bodyText⟩

/-- The members of the record. -/
def members (r : ErrorRecord) : Json.Members :=
  [("reason", .text r.reason), ("original_message", .text r.bodyText)]

/-- The record as a publishing. -/
def publishing (r : ErrorRecord) (d : Delivery) : Publishing :=
  ⟨d.properties.identifying, r.members.encode⟩

end ErrorRecord

end BrokerBridge
