import BrokerBridge.Supervision.Retry
import BrokerBridge.Supervision.Tls

/-!
# Dialing a broker

A connection string is checked before the first attempt: what is wrong with it, or with the
settings of TLS, would be wrong every time.  Only the failures of a connection are worth another
attempt, and these are made as the policy says.
-/
namespace BrokerBridge

/-- What has to be known to connect. -/
structure DialTarget where
  host : String
  scheme : String
  mode : TlsMode
  deriving DecidableEq, Repr

/-- The target of a connection string, or what is wrong with it for good. -/
def DialTarget.of (files : FileTree) (url : String) (tls : TlsSettings) :
    Except SupervisorError DialTarget :=
  match Uri.Url.parse url with
  | .error fault => .error (.invalidUrl fault)
  | .ok u =>
    match Uri.checkAmqp url u with
    | .error fault => .error (.invalidAmqpUri fault.message)
    | .ok () => (tlsMode files tls).map fun mode => ⟨u.hostText, u.scheme, mode⟩

/-- What came of dialing: the host that answered or the failure, the attempts, the log and the time
that passed. -/
structure DialRun where
  result : Except SupervisorError String
  attempts : List Attempt
  log : List Entry
  elapsed : Nat

/-- The entry for a connection that TLS settings do not secure. -/
def insecureEntry (t : DialTarget) : Entry :=
  ⟨.warn, "TLS is enabled but the connection string is not amqps",
    [("host", .text t.host), ("scheme", .text t.scheme)]⟩

/-- The entry before the first attempt. -/
def dialingEntry (t : DialTarget) (p : RetryPolicy) : Entry :=
  ⟨.info, "Dialing broker",
    [("host", .text t.host), ("attempts", .number p.attempts.toNat),
      ("interval_secs", .number (p.interval / 1000)), ("tls", .text t.mode.name)]⟩

/-- The entry after the last attempt, when it succeeded. -/
def connectedEntry (t : DialTarget) : Entry :=
  ⟨.info, "Connected to broker", [("host", .text t.host)]⟩

/-- The entries for a target before the first attempt. -/
def targetEntries (t : DialTarget) (tls : TlsSettings) (p : RetryPolicy) : List Entry :=
  tlsEntries tls ++ (if tls.enabled ∧ t.scheme ≠ "amqps" then [insecureEntry t] else []) ++
    [dialingEntry t p]

/-- Dials the broker of a connection string; `connect` makes an attempt by its number. -/
def dial (files : FileTree) (url : String) (tls : TlsSettings) (p : RetryPolicy)
    (connect : DialTarget → Nat → Except LinkFailure Unit) : DialRun :=
  match DialTarget.of files url tls with
  | .error e => ⟨.error e, [], [], 0⟩
  | .ok t =>
    let run := retry p "connect" LinkFailure.message (connect t)
    let log := targetEntries t tls p ++ run.warnings.map RetryWarning.entry
    match run.result with
    | .ok () => ⟨.ok t.host, run.attempts, log ++ [connectedEntry t], run.elapsed⟩
    | .error e =>
      ⟨.error (.connect t.host p.attempts.toNat e), run.attempts, log, run.elapsed⟩

end BrokerBridge
