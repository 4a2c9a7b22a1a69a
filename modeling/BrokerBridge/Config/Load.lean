import BrokerBridge.Config.Environment
import BrokerBridge.Config.Setting
import BrokerBridge.Config.Source

/-!
# Loading the settings

The settings come in layers, each over the one before: the defaults, a configuration file, the
structured variables and the legacy variables.  The file may be missing only when no path was
given for it.  Settings that the bridge cannot start with are an error.

A load is a function of its `Surroundings`, which hold, beside the files and the variables, the
formats that are known and the orders in which maps are walked.
-/
namespace BrokerBridge.Config

/-- What the settings are loaded from. -/
structure Surroundings where
  /-- The content of the file that a path leads to. -/
  content? : String → Option Bytes := fun _ => none
  /-- Where relative paths start. -/
  directory : String := "."
  environment : Environment := []
  /-- The formats of configuration files, in the order in which they are tried. -/
  formats : List Format := Format.known
  /-- The orders in which maps are walked. -/
  walk : Walk := .inOrder

/-- Why there are no settings. -/
inductive ConfigError where
  | source (fault : SourceFault)
  | tree (fault : TreeFault)
  | defect (d : SettingsDefect)
  deriving DecidableEq, Repr

/-- Why there are no settings, in words. -/
def ConfigError.message? : ConfigError → Option String
  | .source fault => fault.message?
  | .tree fault => some fault.message
  | .defect d => some d.message

/-- The names in capitals of the structured variables of all settings, and those of the legacy
variables. -/
def knownVariables : List String :=
  (Setting.all.map fun σ => structuredName σ.area σ.name) ++ legacyVariables.map Prod.fst

/-- The configuration file where no path is given, without its extension. -/
def defaultPath : String := "config/default"

/-- The top table of the configuration file. -/
def fileSource (s : Surroundings) (path : Option String) : Except SourceFault (Assoc Node) :=
  match path with
  | some path => do (← locate s.formats s.content? s.directory path).read
  | none =>
    match locate s.formats s.content? s.directory defaultPath with
    | .ok file => file.read
    | .error _ => .ok []

/-- The tree of all layers over the top table of the configuration file. -/
def layers (w : Walk) (file : Assoc Node) (environment : Environment) : Tree :=
  [w.entries .file file, w.entries .structured (structuredSource environment),
    w.entries .legacy (legacySource environment)].foldl (fun tree source => tree.addSource source) []

/-- Loads the settings. -/
def load (s : Surroundings) (path : Option String) : Except ConfigError Settings := do
  let file ← (fileSource s path).mapError .source
  let given ← (readSettings s.walk (layers s.walk file s.environment)).mapError .tree
  let settings := given.over {}
  match settings.defect? with
  | some d => .error (.defect d)
  | none => .ok settings

end BrokerBridge.Config
