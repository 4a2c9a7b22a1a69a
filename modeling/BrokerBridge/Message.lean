import BrokerBridge.Text.Utf8

/-!
# Messages

A `Delivery` is a message taken from a queue, a `Publishing` one that is about to be published.
Both carry the same set of properties.  A publishing made of a delivery (`Publishing.forward`)
has all of its properties and a body of its own.
-/
namespace BrokerBridge

/-- The value of a header.  Headers are passed on and never looked into. -/
inductive HeaderValue where
  | text (s : String)
  | integer (i : Int)
  | flag (b : Bool)
  | void
  | array (items : List HeaderValue)
  | table (fields : List (String × HeaderValue))
  /-- A value of any other type: the letter of the type and the bytes of the value. -/
  | other (letter : Char) (content : Bytes)
  deriving Repr, Inhabited

/-- The properties of a message, each of them optional. -/
structure Properties where
  contentType : Option String := none
  contentEncoding : Option String := none
  headers : Option (List (String × HeaderValue)) := none
  deliveryMode : Option UInt8 := none
  priority : Option UInt8 := none
  correlationId : Option String := none
  replyTo : Option String := none
  expiration : Option String := none
  messageId : Option String := none
  timestamp : Option UInt64 := none
  type : Option String := none
  userId : Option String := none
  appId : Option String := none
  clusterId : Option String := none
  deriving Repr, Inhabited

/-- The properties that tell which message this is and how to read its body. -/
def Properties.identifying (p : Properties) : Properties :=
  { contentType := p.contentType
    contentEncoding := p.contentEncoding
    correlationId := p.correlationId }

/-- The number by which a channel knows a delivery. -/
abbrev Tag := UInt64

/-- A message taken from a queue, to be settled by its tag. -/
structure Delivery where
  exchange : String
  routingKey : String
  tag : Tag
  redelivered : Bool
  properties : Properties
  body : Bytes
  deriving Repr, Inhabited

/-- A message about to be published. -/
structure Publishing where
  properties : Properties
  body : Bytes
  deriving Repr, Inhabited

/-- The body as text; what is not UTF-8 in it is replaced. -/
def Delivery.bodyText (d : Delivery) : String := Utf8.lossy d.body

/-- The correlation id as the log shows it: empty when there is none. -/
def Delivery.correlation (d : Delivery) : String := d.properties.correlationId.getD ""

/-- A publishing with every property of a delivery and the given body. -/
def Publishing.forward (d : Delivery) (body : Bytes) : Publishing := ⟨d.properties, body⟩

end BrokerBridge
