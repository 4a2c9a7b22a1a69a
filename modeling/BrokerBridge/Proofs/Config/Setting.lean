import BrokerBridge.Config.Environment
import BrokerBridge.Config.KeyPath
import BrokerBridge.Config.Setting

/-!
# The names and the values of settings

A setting has a key, a structured variable and a legacy variable for some; the records `Settings` and
`PartialSettings` hold a value for each.  No two settings share a key or a structured variable
(`key_injective`, `structuredVariable_injective`).

* **`get_over`**: the value of a setting comes from the partial settings, or else from what they are
  laid over, whatever the other settings are.
-/
namespace BrokerBridge.Config.Setting

/-! ## 1. Names -/

/-- The key of a field of a section. -/
def keyIn (area name : String) : String := area ++ "." ++ name

/-- The key of a setting. -/
def key (σ : Setting) : String := keyIn σ.area σ.name

/-- The structured variable of a setting, in capitals. -/
def structuredVariable (σ : Setting) : String := structuredName σ.area σ.name

/-- The legacy variable of a setting. -/
def legacyVariable? : Setting → Option String
  | databaseUrl => some "POSTGRES_CONNECTION"
  | tlsEnabled => some "ENABLE_TLS"
  | caCertPath => some "CA_CERT_PATH"
  | verifyCert => some "VERIFY_CERT"
  | legaConnection => some "LEGA_MQ_CONNECTION"
  | legaExchange => some "LEGA_MQ_EXCHANGE"
  | legaQueue => some "LEGA_MQ_QUEUE"
  | cegaConnection => some "CEGA_MQ_CONNECTION"
  | cegaExchange => some "CEGA_MQ_EXCHANGE"
  | cegaQueue => some "CEGA_MQ_QUEUE"
  | maxConnections | dialAttempts | dialIntervalSecs | logLevel => none

/-- The setting of a key. -/
def ofKey? (key : String) : Option Setting := all.find? fun σ => σ.key = key

theorem ofKey?_key (σ : Setting) : ofKey? σ.key = some σ := by
  cases σ <;> decide

theorem key_injective {σ τ : Setting} (h : σ.key = τ.key) : σ = τ :=
  Option.some.inj <| calc
    some σ = ofKey? σ.key := (ofKey?_key σ).symm
    _ = ofKey? τ.key := congrArg ofKey? h
    _ = some τ := ofKey?_key τ

/-- The key of a setting is the path of its place. -/
theorem path_key (σ : Setting) : KeyPath.ofKey σ.key = ⟨σ.area, [.key σ.name]⟩ := by
  cases σ <;> decide

/-- The key of a section is the path of its table. -/
theorem path_area (σ : Setting) : KeyPath.ofKey σ.area = ⟨σ.area, []⟩ := by
  cases σ <;> decide

theorem structuredKey?_structuredVariable (σ : Setting) :
    structuredKey? σ.structuredVariable = some σ.key := by
  cases σ <;> decide +kernel

theorem structuredVariable_injective {σ τ : Setting}
    (h : σ.structuredVariable = τ.structuredVariable) : σ = τ :=
  key_injective <| Option.some.inj <| calc
    some σ.key = structuredKey? σ.structuredVariable := (structuredKey?_structuredVariable σ).symm
    _ = structuredKey? τ.structuredVariable := congrArg structuredKey? h
    _ = some τ.key := structuredKey?_structuredVariable τ

/-- A section is that of each of its settings. -/
theorem find?_sections (σ : Setting) :
    sections.find? (fun shape => shape.key = σ.area) = some σ.shape := by
  cases σ <;> decide

theorem shape_eq_of_area {σ τ : Setting} (h : σ.area = τ.area) : σ.shape = τ.shape :=
  Option.some.inj <| calc
    some σ.shape = sections.find? (fun shape => shape.key = σ.area) := (find?_sections σ).symm
    _ = some τ.shape := by rw [h, find?_sections]

theorem eq_of_place {σ τ : Setting} (harea : σ.area = τ.area) (hname : σ.name = τ.name) : σ = τ :=
  key_injective (by rw [key, key, harea, hname])

/-- A setting is found by its place. -/
theorem at?_place (σ : Setting) : at? σ.area σ.name = some σ := by
  cases σ <;> decide

theorem structuredKey?_legacyVariable {σ : Setting} {v : String} (h : σ.legacyVariable? = some v) :
    structuredKey? v = none := by
  cases σ <;> cases h <;> decide

/-- No legacy variable is a structured one. -/
theorem legacyVariable?_ne (σ τ : Setting) : σ.legacyVariable? ≠ some τ.structuredVariable := by
  intro h
  have hkey := structuredKey?_legacyVariable h
  rw [structuredKey?_structuredVariable] at hkey
  cases hkey

/-- The legacy variable of a setting stands for its key. -/
theorem legacyVariable?_eq (σ : Setting) :
    σ.legacyVariable? = (legacyVariables.find? fun e => e.2 = σ.key).map Prod.fst := by
  cases σ <;> decide

/-- The setting of a legacy variable. -/
def ofLegacyVariable? (v : String) : Option Setting := all.find? fun σ => σ.legacyVariable? = some v

theorem ofLegacyVariable?_legacyVariable {σ : Setting} {v : String}
    (h : σ.legacyVariable? = some v) : ofLegacyVariable? v = some σ := by
  cases σ <;> cases h <;> decide

theorem legacyVariable?_injective {σ τ : Setting} {v : String} (hσ : σ.legacyVariable? = some v)
    (hτ : τ.legacyVariable? = some v) : σ = τ :=
  Option.some.inj <| calc
    some σ = ofLegacyVariable? v := (ofLegacyVariable?_legacyVariable hσ).symm
    _ = some τ := ofLegacyVariable?_legacyVariable hτ

/-! ## 2. Values -/

/-- The value of a setting; only the path of the certificate may have none. -/
def get (s : Settings) : (σ : Setting) → Option σ.Value
  | databaseUrl => some s.database.url
  | maxConnections => some s.database.maxConnections
  | tlsEnabled => some s.tls.enabled
  | caCertPath => s.tls.caCertPath
  | verifyCert => some s.tls.verifyCert
  | legaConnection => some s.lega.connection
  | legaExchange => some s.lega.exchange
  | legaQueue => some s.lega.queue
  | cegaConnection => some s.cega.connection
  | cegaExchange => some s.cega.exchange
  | cegaQueue => some s.cega.queue
  | dialAttempts => some s.supervisor.dialAttempts
  | dialIntervalSecs => some s.supervisor.dialIntervalSecs
  | logLevel => some s.logging.level

/-- **A setting has the value that is given for it, or else the one it had**, whatever is given for
the others. -/
theorem get_over (given : Values) (d : Settings) (σ : Setting) :
    get (given.toPartial.over d) σ = (given σ).or (get d σ) := by
  cases σ
  case caCertPath => exact Option.orElse_eq_or
  all_goals exact Option.or_some.symm

end BrokerBridge.Config.Setting
