import BrokerBridge.Text.Quoted

/-!
# Settings

`Settings` are all that the bridge has to be told: the mapping database, TLS, the two brokers, the
patience of its dialing and the level of its log.  `PartialSettings` are what one source says of
them; `PartialSettings.over` fills the gaps from complete settings.

`Settings.defect?` tells whether the bridge can start with some settings.  Two texts describe
settings for the log, `Settings.summary` and `Settings.details`; neither shows the database's URL
or a broker's connection, which hold passwords.
-/
namespace BrokerBridge

/-! ## 1. Complete settings -/

/-- The database of the mapping. -/
structure DatabaseSettings where
  url : String := ""
  maxConnections : UInt32 := 5
  deriving DecidableEq, Repr

/-- How connections to the brokers are secured. -/
structure TlsSettings where
  enabled : Bool := false
  caCertPath : Option String := none
  verifyCert : Bool := true
  deriving DecidableEq, Repr

/-- A broker.  Messages for LEGA are published with the routing key `queue` of LEGA; messages from
CEGA are consumed from the queue `queue` of CEGA. -/
structure BrokerSettings where
  connection : String := ""
  exchange : String
  queue : String
  deriving DecidableEq, Repr

/-- How often a broker is dialed at the start, and how long the pause after a failure is. -/
structure SupervisorSettings where
  dialAttempts : UInt32 := 10
  dialIntervalSecs : UInt64 := 10
  deriving DecidableEq, Repr

/-- The level of the log. -/
structure LoggingSettings where
  level : String := "info"
  deriving DecidableEq, Repr

/-- All settings, with the defaults of those that have one. -/
structure Settings where
  database : DatabaseSettings := {}
  tls : TlsSettings := {}
  lega : BrokerSettings := { exchange := "sda", queue := "files" }
  cega : BrokerSettings := { exchange := "localega.v1", queue := "v1.files" }
  supervisor : SupervisorSettings := {}
  logging : LoggingSettings := {}
  deriving DecidableEq, Repr

/-! ## 2. Partial settings -/

/-- What a source says of the database. -/
structure PartialDatabase where
  url : Option String := none
  maxConnections : Option UInt32 := none
  deriving DecidableEq, Repr

/-- What a source says of TLS. -/
structure PartialTls where
  enabled : Option Bool := none
  caCertPath : Option String := none
  verifyCert : Option Bool := none
  deriving DecidableEq, Repr

/-- What a source says of a broker. -/
structure PartialBroker where
  connection : Option String := none
  exchange : Option String := none
  queue : Option String := none
  deriving DecidableEq, Repr

/-- What a source says of dialing. -/
structure PartialSupervisor where
  dialAttempts : Option UInt32 := none
  dialIntervalSecs : Option UInt64 := none
  deriving DecidableEq, Repr

/-- What a source says of the log. -/
structure PartialLogging where
  level : Option String := none
  deriving DecidableEq, Repr

/-- What a source says of the settings; a section that is missing says nothing. -/
structure PartialSettings where
  database : PartialDatabase := {}
  tls : PartialTls := {}
  lega : PartialBroker := {}
  cega : PartialBroker := {}
  supervisor : PartialSupervisor := {}
  logging : PartialLogging := {}
  deriving DecidableEq, Repr

/-- What a source says of the database, and the rest of `d`. -/
def PartialDatabase.over (p : PartialDatabase) (d : DatabaseSettings) : DatabaseSettings :=
  ⟨p.url.getD d.url, p.maxConnections.getD d.maxConnections⟩

/-- What a source says of TLS, and the rest of `d`. -/
def PartialTls.over (p : PartialTls) (d : TlsSettings) : TlsSettings :=
  ⟨p.enabled.getD d.enabled, p.caCertPath <|> d.caCertPath, p.verifyCert.getD d.verifyCert⟩

/-- What a source says of a broker, and the rest of `d`. -/
def PartialBroker.over (p : PartialBroker) (d : BrokerSettings) : BrokerSettings :=
  ⟨p.connection.getD d.connection, p.exchange.getD d.exchange, p.queue.getD d.queue⟩

/-- What a source says of dialing, and the rest of `d`. -/
def PartialSupervisor.over (p : PartialSupervisor) (d : SupervisorSettings) : SupervisorSettings :=
  ⟨p.dialAttempts.getD d.dialAttempts, p.dialIntervalSecs.getD d.dialIntervalSecs⟩

/-- What a source says of the log, and the rest of `d`. -/
def PartialLogging.over (p : PartialLogging) (d : LoggingSettings) : LoggingSettings :=
  ⟨p.level.getD d.level⟩

/-- What a source says, and the rest of `d`. -/
def PartialSettings.over (p : PartialSettings) (d : Settings) : Settings where
  database := p.database.over d.database
  tls := p.tls.over d.tls
  lega := p.lega.over d.lega
  cega := p.cega.over d.cega
  supervisor := p.supervisor.over d.supervisor
  logging := p.logging.over d.logging

/-! ## 3. Validity -/

/-- Why the bridge cannot start with some settings. -/
inductive SettingsDefect where
  | missing (key : String)
  | noAttempts
  deriving DecidableEq, Repr

/-- A defect in words. -/
def SettingsDefect.message : SettingsDefect → String
  | .missing key => "missing configuration field \"" ++ key ++ "\""
  | .noAttempts => "supervisor.dial_attempts must be at least 1"

namespace Settings

/-- The settings that must not be blank, with their keys. -/
def requiredTexts (s : Settings) : List (String × String) := [
  ("database.url", s.database.url),
  ("lega.connection", s.lega.connection),
  ("lega.exchange", s.lega.exchange),
  ("lega.queue", s.lega.queue),
  ("cega.connection", s.cega.connection),
  ("cega.exchange", s.cega.exchange),
  ("cega.queue", s.cega.queue)]

/-- The first thing that is wrong with some settings. -/
def defect? (s : Settings) : Option SettingsDefect :=
  match s.requiredTexts.find? fun entry => Text.isBlankText entry.2 with
  | some (key, _) => some (.missing key)
  | none =>
    if s.tls.enabled ∧ s.tls.verifyCert ∧ s.tls.caCertPath = none then
      some (.missing "tls.ca_cert_path")
    else if s.supervisor.dialAttempts = 0 then some .noAttempts
    else none

/-! ## 4. Descriptions -/

/-- What stands for a secret. -/
def mask : String := "***"

/-- The name of a truth value. -/
def flagText (b : Bool) : String := if b then "true" else "false"

/-- A broker on one line. -/
def brokerSummary (b : BrokerSettings) : String :=
  "[" ++ mask ++ ", exchange=" ++ Text.quoted b.exchange ++ ", queue=" ++ Text.quoted b.queue ++ "]"

/-- The settings on one line, for the log. -/
def summary (s : Settings) : String :=
  "database=" ++ mask ++ " tls.enabled=" ++ flagText s.tls.enabled ++
    " tls.verify_cert=" ++ flagText s.tls.verifyCert ++
    " lega=" ++ brokerSummary s.lega ++ " cega=" ++ brokerSummary s.cega ++
    " dial=" ++ toString s.supervisor.dialAttempts.toNat ++ "x" ++
    toString s.supervisor.dialIntervalSecs.toNat ++ "s"

/-- A record by its name and fields. -/
def record (name : String) (fields : List (String × String)) : String :=
  name ++ " \x7b " ++ ", ".intercalate (fields.map fun (key, value) => key ++ ": " ++ value) ++
    " \x7d"

/-- A text that may be missing. -/
def optionText : Option String → String
  | none => "None"
  | some s => "Some(" ++ Text.quoted s ++ ")"

/-- A broker with all of its fields. -/
def brokerDetails (b : BrokerSettings) : String :=
  record "BrokerSettings" [
    ("connection", Text.quoted mask),
    ("exchange", Text.quoted b.exchange),
    ("queue", Text.quoted b.queue)]

/-- The settings with all of their fields. -/
def details (s : Settings) : String :=
  record "Settings" [
    ("database", record "DatabaseSettings" [
      ("url", Text.quoted mask),
      ("max_connections", toString s.database.maxConnections.toNat)]),
    ("tls", record "TlsSettings" [
      ("enabled", flagText s.tls.enabled),
      ("ca_cert_path", optionText s.tls.caCertPath),
      ("verify_cert", flagText s.tls.verifyCert)]),
    ("lega", brokerDetails s.lega),
    ("cega", brokerDetails s.cega),
    ("supervisor", record "SupervisorSettings" [
      ("dial_attempts", toString s.supervisor.dialAttempts.toNat),
      ("dial_interval_secs", toString s.supervisor.dialIntervalSecs.toNat)]),
    ("logging", record "LoggingSettings" [("level", Text.quoted s.logging.level)])]

end Settings

end BrokerBridge
