import BrokerBridge.Uri.Url

/-!
# Connection strings of brokers

A broker is reached by a URL of the scheme `amqp` or `amqps`.  Its user, password, host and virtual
host are percent-encoded text, and its query may set limits of the connection, each a number of its
own width, and the way to log in.  `checkAmqp` finds the first of these parts that is not what it
has to be.  The settings of the query have an order of their own, whatever order they are written
in, and of two with one name the first counts.
-/
namespace BrokerBridge.Uri

/-- Why a URL leads to no broker. -/
inductive AmqpFault where
  | noParts (text : String)
  | scheme (name : String)
  | encoding (defect : Utf8.Defect)
  | emptyNumber
  | notANumber
  | numberTooLarge
  | mechanism (name : String)
  deriving DecidableEq, Repr

/-- A fault in words. -/
def AmqpFault.message : AmqpFault → String
  | .noParts text => "Invalid URL: '" ++ text ++ "'"
  | .scheme name => "Invalid AMQP scheme: " ++ name
  | .encoding defect => defectMessage defect
  | .emptyNumber => "cannot parse integer from empty string"
  | .notANumber => "invalid digit found in string"
  | .numberTooLarge => "number too large to fit in target type"
  | .mechanism name => "Invalid SASL mechanism: " ++ name

/-- Checks that a part of a URL is percent-encoded text. -/
def checkText (cs : List Char) : Except AmqpFault Unit :=
  match decodeText cs with
  | .ok _ => .ok ()
  | .error d => .error (.encoding d)

/-- Checks that digits write a number below `2 ^ bits`; `value` is that of the digits before.  The
first character that is wrong decides what is wrong. -/
def checkDigits (bits value : Nat) : List Char → Except AmqpFault Unit
  | [] => .ok ()
  | c :: rest =>
    match digit? c with
    | none => .error .notANumber
    | some d =>
      let value := value * 10 + d
      if value < wordCount bits then checkDigits bits value rest else .error .numberTooLarge

/-- Checks that a text is a natural number below `2 ^ bits`; a plus sign may stand in front. -/
def checkNumber (bits : Nat) (text : String) : Except AmqpFault Unit :=
  match text.toList with
  | [] => .error .emptyNumber
  | ['+'] => .error .notANumber
  | '+' :: rest => checkDigits bits 0 rest
  | cs => checkDigits bits 0 cs

/-- The ways to log in. -/
def mechanisms : List String := ["amqplain", "external", "plain", "rabbit-cr-demo"]

/-- Checks that a text names a way to log in, in any case. -/
def checkMechanism (text : String) : Except AmqpFault Unit :=
  let name := Text.lower text
  if name ∈ mechanisms then .ok () else .error (.mechanism name)

/-- The names and values of a query. -/
def queryPairs (query : List Char) : List (String × String) :=
  ((splitAt (· == '&') query).filter fun part => !part.isEmpty).map fun part =>
    (decodeForm (part.takeWhile (· ≠ '=')), decodeForm ((part.dropWhile (· ≠ '=')).drop 1))

/-- The settings that a query may have, in the order in which they are checked. -/
def settings : List (String × (String → Except AmqpFault Unit)) :=
  [("frame_max", checkNumber 32), ("channel_max", checkNumber 16), ("heartbeat", checkNumber 16),
    ("connection_timeout", checkNumber 64), ("auth_mechanism", checkMechanism)]

/-- Checks the first value of each setting that a query has. -/
def checkSettings (pairs : List (String × String)) : Except AmqpFault Unit :=
  settings.forM fun (name, check) =>
    match pairs.lookup name with
    | none => .ok ()
    | some value => check value

/-- Checks that the URL of a text leads to a broker. -/
def checkAmqp (text : String) (u : Url) : Except AmqpFault Unit := do
  if u.isWhole then .error (.noParts text)
  else if u.scheme ≠ "amqp" ∧ u.scheme ≠ "amqps" then .error (.scheme u.scheme)
  else
    checkText u.username
    checkText (u.password.getD [])
    checkText u.hostText.toList
    checkText (u.path.drop 1)
    checkSettings (queryPairs (u.query.getD []))

end BrokerBridge.Uri
