import BrokerBridge.Config.KeyPath
import BrokerBridge.Text.Lowercase

/-!
# Settings from environment variables

Two families of variables set something.  A structured variable is named after its key,
`INTERCEPTOR__SECTION__KEY` in any case; its value may be guessed to be a flag or a number
(`Scalar.guess`), and even an empty one counts.  A legacy variable has a name of its own; its
value is text as it is, and an empty one does not count.
-/
namespace BrokerBridge.Config

/-- What variables are set, with their values. -/
abbrev Environment := Assoc String

/-! ## 1. Structured variables -/

/-- What a structured variable's name starts with, in lower case. -/
def structuredStart : List Char := "interceptor__".toList

/-- The name in capitals of the structured variable of a setting. -/
def structuredName (area key : String) : String :=
  String.ofList ((structuredStart ++ area.toList ++ ['_', '_'] ++ key.toList).map Char.toUpper)

/-- Puts a point for every two underscores, from the left. -/
def pointed : List Char → List Char
  | '_' :: '_' :: rest => '.' :: pointed rest
  | c :: rest => c :: pointed rest
  | [] => []

/-- The key that a structured variable sets, if its name is one of a structured variable. -/
def structuredKey? (name : String) : Option String :=
  let lowered := (Text.lower name).toList
  if structuredStart.isPrefixOf lowered then
    some (String.ofList (pointed (lowered.drop structuredStart.length)))
  else none

/-- The integer of 64 bits that a text writes. -/
def integer64? (cs : List Char) : Option Int :=
  (integer? cs).filter isInteger64

/-- What the value of a structured variable is taken for: a flag in any case, else an integer of
64 bits, else a decimal, else a text. -/
def Scalar.guess (value : String) : Scalar :=
  let lowered := Text.lower value
  if lowered = "true" then .boolean true
  else if lowered = "false" then .boolean false
  else match integer64? value.toList with
    | some i => .integer i
    | none =>
      match Binary64.ofText? value with
      | some x => .decimal x
      | none => .text value

/-- What a value of the environment came from, in words. -/
def environmentOrigin : String := "the environment"

/-- The source that the structured variables make up. -/
def structuredSource (environment : Environment) : Assoc Node :=
  Assoc.ofEntries (environment.filterMap fun (name, value) =>
    (structuredKey? name).map fun key =>
      (key, .scalar (.guess value) (some environmentOrigin)))

/-! ## 2. Legacy variables -/

/-- The legacy variables and the keys of the settings they stand for. -/
def legacyVariables : List (String × String) := [
  ("POSTGRES_CONNECTION", "database.url"),
  ("ENABLE_TLS", "tls.enabled"),
  ("CA_CERT_PATH", "tls.ca_cert_path"),
  ("VERIFY_CERT", "tls.verify_cert"),
  ("LEGA_MQ_CONNECTION", "lega.connection"),
  ("LEGA_MQ_EXCHANGE", "lega.exchange"),
  ("LEGA_MQ_QUEUE", "lega.queue"),
  ("CEGA_MQ_CONNECTION", "cega.connection"),
  ("CEGA_MQ_EXCHANGE", "cega.exchange"),
  ("CEGA_MQ_QUEUE", "cega.queue")]

/-- The node of the value of a legacy variable, if it counts. -/
def legacyNode? (environment : Environment) (name : String) : Option Node :=
  ((environment.get? name).filter (· ≠ "")).map fun value => .scalar (.text value) none

/-- The source that the legacy variables make up. -/
def legacySource (environment : Environment) : Assoc Node :=
  legacyVariables.filterMap fun (name, key) =>
    (legacyNode? environment name).map fun node => (key, node)

end BrokerBridge.Config
