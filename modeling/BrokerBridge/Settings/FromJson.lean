import BrokerBridge.Json.Record
import BrokerBridge.Settings.Basic

/-!
# Settings in JSON

Both complete and partial settings can be given as a JSON record.  Complete settings must have
every field but the path of the CA certificate; of partial ones any field and any section may be
missing or `null`.
-/
namespace BrokerBridge

open Json (Slot Shape ReadError Reader readTextAs readFlag readNullable readWord32 readWord64
  requireField)

/-- Reads a setting that is a text. -/
def readSettingText : Reader String := readTextAs "a string"

/-- Reads a setting that is a path. -/
def readSettingPath : Reader String := readTextAs "path string"

/-! ## 1. Partial settings -/

/-- A slot of a value that may be `null`, which is the same as missing. -/
def nullableSlot (name : String) (value : Reader α) (store : σ → Option α → σ) : Slot σ :=
  .of name (readNullable value) store

/-- A slot of a section that may be `null`, which says nothing. -/
def sectionSlot (name : String) (shape : Shape α α) (store : σ → α → σ) : Slot σ :=
  .of name (readNullable shape.read) fun draft a => store draft (a.getD shape.start)

/-- How partial settings of the database are read. -/
def PartialDatabase.shape : Shape PartialDatabase PartialDatabase where
  name := "PartialDatabaseSettings"
  slots := [
    nullableSlot "url" readSettingText fun d v => { d with url := v },
    nullableSlot "max_connections" readWord32 fun d v => { d with maxConnections := v }]
  start := {}
  finish := .ok

/-- How partial settings of TLS are read. -/
def PartialTls.shape : Shape PartialTls PartialTls where
  name := "PartialTlsSettings"
  slots := [
    nullableSlot "enabled" readFlag fun d v => { d with enabled := v },
    nullableSlot "ca_cert_path" readSettingPath fun d v => { d with caCertPath := v },
    nullableSlot "verify_cert" readFlag fun d v => { d with verifyCert := v }]
  start := {}
  finish := .ok

/-- How partial settings of a broker are read. -/
def PartialBroker.shape : Shape PartialBroker PartialBroker where
  name := "PartialBrokerSettings"
  slots := [
    nullableSlot "connection" readSettingText fun d v => { d with connection := v },
    nullableSlot "exchange" readSettingText fun d v => { d with exchange := v },
    nullableSlot "queue" readSettingText fun d v => { d with queue := v }]
  start := {}
  finish := .ok

/-- How partial settings of dialing are read. -/
def PartialSupervisor.shape : Shape PartialSupervisor PartialSupervisor where
  name := "PartialSupervisorSettings"
  slots := [
    nullableSlot "dial_attempts" readWord32 fun d v => { d with dialAttempts := v },
    nullableSlot "dial_interval_secs" readWord64 fun d v => { d with dialIntervalSecs := v }]
  start := {}
  finish := .ok

/-- How partial settings of the log are read. -/
def PartialLogging.shape : Shape PartialLogging PartialLogging where
  name := "PartialLoggingSettings"
  slots := [nullableSlot "level" readSettingText fun d v => { d with level := v }]
  start := {}
  finish := .ok

/-- How partial settings are read. -/
def PartialSettings.shape : Shape PartialSettings PartialSettings where
  name := "PartialSettings"
  slots := [
    sectionSlot "database" PartialDatabase.shape fun d v => { d with database := v },
    sectionSlot "tls" PartialTls.shape fun d v => { d with tls := v },
    sectionSlot "lega" PartialBroker.shape fun d v => { d with lega := v },
    sectionSlot "cega" PartialBroker.shape fun d v => { d with cega := v },
    sectionSlot "supervisor" PartialSupervisor.shape fun d v => { d with supervisor := v },
    sectionSlot "logging" PartialLogging.shape fun d v => { d with logging := v }]
  start := {}
  finish := .ok

/-- The partial settings of a JSON text. -/
def PartialSettings.ofJson (text : String) : Except ReadError PartialSettings :=
  PartialSettings.shape.decode (Utf8.ofString text)

/-! ## 2. Complete settings -/

/-- How settings of the database are read. -/
def DatabaseSettings.shape : Shape PartialDatabase DatabaseSettings where
  name := "DatabaseSettings"
  slots := [
    .of "url" readSettingText fun d v => { d with url := some v },
    .of "max_connections" readWord32 fun d v => { d with maxConnections := some v }]
  start := {}
  finish d := do
    .ok ⟨← requireField "url" d.url, ← requireField "max_connections" d.maxConnections⟩

/-- How settings of TLS are read. -/
def TlsSettings.shape : Shape PartialTls TlsSettings where
  name := "TlsSettings"
  slots := [
    .of "enabled" readFlag fun d v => { d with enabled := some v },
    nullableSlot "ca_cert_path" readSettingPath fun d v => { d with caCertPath := v },
    .of "verify_cert" readFlag fun d v => { d with verifyCert := some v }]
  start := {}
  finish d := do
    .ok ⟨← requireField "enabled" d.enabled, d.caCertPath,
      ← requireField "verify_cert" d.verifyCert⟩

/-- How settings of a broker are read. -/
def BrokerSettings.shape : Shape PartialBroker BrokerSettings where
  name := "BrokerSettings"
  slots := [
    .of "connection" readSettingText fun d v => { d with connection := some v },
    .of "exchange" readSettingText fun d v => { d with exchange := some v },
    .of "queue" readSettingText fun d v => { d with queue := some v }]
  start := {}
  finish d := do
    .ok ⟨← requireField "connection" d.connection, ← requireField "exchange" d.exchange,
      ← requireField "queue" d.queue⟩

/-- How settings of dialing are read. -/
def SupervisorSettings.shape : Shape PartialSupervisor SupervisorSettings where
  name := "SupervisorSettings"
  slots := [
    .of "dial_attempts" readWord32 fun d v => { d with dialAttempts := some v },
    .of "dial_interval_secs" readWord64 fun d v => { d with dialIntervalSecs := some v }]
  start := {}
  finish d := do
    .ok ⟨← requireField "dial_attempts" d.dialAttempts,
      ← requireField "dial_interval_secs" d.dialIntervalSecs⟩

/-- How settings of the log are read. -/
def LoggingSettings.shape : Shape PartialLogging LoggingSettings where
  name := "LoggingSettings"
  slots := [.of "level" readSettingText fun d v => { d with level := some v }]
  start := {}
  finish d := do .ok ⟨← requireField "level" d.level⟩

/-- The sections of settings that have been read. -/
structure SettingsDraft where
  database : Option DatabaseSettings := none
  tls : Option TlsSettings := none
  lega : Option BrokerSettings := none
  cega : Option BrokerSettings := none
  supervisor : Option SupervisorSettings := none
  logging : Option LoggingSettings := none

/-- How settings are read. -/
def Settings.shape : Shape SettingsDraft Settings where
  name := "Settings"
  slots := [
    .of "database" DatabaseSettings.shape.read fun d v => { d with database := some v },
    .of "tls" TlsSettings.shape.read fun d v => { d with tls := some v },
    .of "lega" BrokerSettings.shape.read fun d v => { d with lega := some v },
    .of "cega" BrokerSettings.shape.read fun d v => { d with cega := some v },
    .of "supervisor" SupervisorSettings.shape.read fun d v => { d with supervisor := some v },
    .of "logging" LoggingSettings.shape.read fun d v => { d with logging := some v }]
  start := {}
  finish d := do
    .ok {
      database := ← requireField "database" d.database
      tls := ← requireField "tls" d.tls
      lega := ← requireField "lega" d.lega
      cega := ← requireField "cega" d.cega
      supervisor := ← requireField "supervisor" d.supervisor
      logging := ← requireField "logging" d.logging }

/-- The settings of a JSON text. -/
def Settings.ofJson (text : String) : Except ReadError Settings :=
  Settings.shape.decode (Utf8.ofString text)

end BrokerBridge
