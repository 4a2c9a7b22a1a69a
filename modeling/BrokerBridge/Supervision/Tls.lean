import BrokerBridge.Files
import BrokerBridge.Supervision.Failure

/-!
# Securing connections

A connection is plain, verified against a bundle of CA certificates, or encrypted to whoever
answers.  The bundle is a file that must be readable text and hold the mark of a certificate.

For a connection to whoever answers a configuration has to be built, which is no step here: it
fails where the provider of the ciphers has none for the versions of TLS, and the one that the
bridge brings along has them.
-/
namespace BrokerBridge

/-- How a connection is secured. -/
inductive TlsMode where
  | plain
  | verified (bundle : String)
  | unverified
  deriving DecidableEq, Repr

/-- The name of a mode. -/
def TlsMode.name : TlsMode → String
  | .plain => "Plain"
  | .verified _ => "Verified"
  | .unverified => "Unverified"

/-- The mark at the beginning of a certificate. -/
def certificateMark : String := "-----BEGIN CERTIFICATE-----"

/-- Whether a list occurs in another one as a run. -/
def occursIn (needle : List Char) : List Char → Bool
  | [] => needle.isEmpty
  | c :: cs => needle.isPrefixOf (c :: cs) || occursIn needle cs

/-- The bundle of CA certificates at a path. -/
def loadCaBundle (files : FileTree) (path : String) : Except SupervisorError String :=
  match files.readText path with
  | .error fault => .error (.readCaCert path (.withText fault.message))
  | .ok pem =>
    if occursIn certificateMark.toList pem.toList then .ok pem else .error (.invalidCaCert path)

/-- How connections are secured under some settings. -/
def tlsMode (files : FileTree) (s : TlsSettings) : Except SupervisorError TlsMode :=
  if ¬ s.enabled then .ok .plain
  else if ¬ s.verifyCert then .ok .unverified
  else match s.caCertPath with
    | none => .error .missingCaCert
    | some path => (loadCaBundle files path).map .verified

/-- The entry that tells of connections to whoever answers. -/
def unverifiedEntry : Entry := ⟨.warn, "Broker certificates will not be verified", []⟩

/-- The entries for securing connections under some settings. -/
def tlsEntries (s : TlsSettings) : List Entry :=
  if s.enabled ∧ ¬ s.verifyCert then [unverifiedEntry] else []

end BrokerBridge
