import BrokerBridge.Assoc
import BrokerBridge.Text.Blank
import BrokerBridge.Text.Lowercase

/-!
# Log entries

What the bridge tells its operator: an entry has a level, a message and named fields.  Each part
of the bridge has its own type of events and says of each event which entry it is.

`Level.ofName` reads the name of a level as an operator writes it; an unknown name means `info`.
-/
namespace BrokerBridge

/-- How much an entry matters, the most first. -/
inductive Level where
  | error
  | warn
  | info
  | debug
  | trace
  deriving DecidableEq, Repr

/-- The name of a level in the log. -/
def Level.name : Level → String
  | .error => "ERROR"
  | .warn => "WARN"
  | .info => "INFO"
  | .debug => "DEBUG"
  | .trace => "TRACE"

/-- The level of a name; case and white space around it do not matter. -/
def Level.ofName (name : String) : Level :=
  let name := Text.lower (Text.trim name)
  if name = "error" then .error
  else if name = "warn" ∨ name = "warning" then .warn
  else if name = "debug" then .debug
  else if name = "trace" then .trace
  else .info

/-- The value of a field. -/
inductive FieldValue where
  | text (s : String)
  | number (n : Nat)
  | flag (b : Bool)
  deriving DecidableEq, Repr

/-- An entry of the log. -/
structure Entry where
  level : Level
  message : String
  fields : List (String × FieldValue)
  deriving DecidableEq, Repr

/-- The value of an entry's field by its name. -/
def Entry.field? (e : Entry) (name : String) : Option FieldValue := Assoc.get? name e.fields

end BrokerBridge
