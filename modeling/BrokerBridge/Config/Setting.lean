import BrokerBridge.Config.Sections
import BrokerBridge.Config.Walk

/-!
# The settings of a tree

There are fourteen settings, each with a section, a name in it and a type of value.  They are read
as the tree is walked, section by section, and in the table of a section entry by entry; a section
that is a list is read in the order of its fields.  The first fault that is met is told, so where
there are several it is the walk that decides which one (`readSettings`).

Keys that are no setting are passed over, on the top and in a section.
-/
namespace BrokerBridge.Config

/-- One of the settings. -/
inductive Setting where
  | databaseUrl
  | maxConnections
  | tlsEnabled
  | caCertPath
  | verifyCert
  | legaConnection
  | legaExchange
  | legaQueue
  | cegaConnection
  | cegaExchange
  | cegaQueue
  | dialAttempts
  | dialIntervalSecs
  | logLevel
  deriving DecidableEq, Repr

namespace Setting

/-! ## 1. Names -/

/-- The section of a setting. -/
def shape : Setting → SectionShape
  | databaseUrl | maxConnections => databaseShape
  | tlsEnabled | caCertPath | verifyCert => tlsShape
  | legaConnection | legaExchange | legaQueue => brokerShape "lega"
  | cegaConnection | cegaExchange | cegaQueue => brokerShape "cega"
  | dialAttempts | dialIntervalSecs => supervisorShape
  | logLevel => loggingShape

/-- The key of the section of a setting. -/
def area (σ : Setting) : String := σ.shape.key

/-- The name of a setting in its section. -/
def name : Setting → String
  | databaseUrl => "url"
  | maxConnections => "max_connections"
  | tlsEnabled => "enabled"
  | caCertPath => "ca_cert_path"
  | verifyCert => "verify_cert"
  | legaConnection | cegaConnection => "connection"
  | legaExchange | cegaExchange => "exchange"
  | legaQueue | cegaQueue => "queue"
  | dialAttempts => "dial_attempts"
  | dialIntervalSecs => "dial_interval_secs"
  | logLevel => "level"

/-- All settings; those of one section stand in the order of its fields. -/
def all : List Setting := [
  databaseUrl, maxConnections, tlsEnabled, caCertPath, verifyCert, legaConnection, legaExchange,
  legaQueue, cegaConnection, cegaExchange, cegaQueue, dialAttempts, dialIntervalSecs, logLevel]

/-- The settings of a section, in the order of its fields. -/
def ofArea (area : String) : List Setting := all.filter fun σ => σ.area = area

/-- The setting of a name in a section. -/
def at? (area name : String) : Option Setting := (ofArea area).find? fun σ => σ.name = name

/-! ## 2. Values -/

/-- What a setting is. -/
abbrev Value : Setting → Type
  | databaseUrl | caCertPath | logLevel => String
  | legaConnection | legaExchange | legaQueue => String
  | cegaConnection | cegaExchange | cegaQueue => String
  | tlsEnabled | verifyCert => Bool
  | maxConnections | dialAttempts => UInt32
  | dialIntervalSecs => UInt64

/-- The conversion of nodes to values of a setting. -/
def convert : (σ : Setting) → Conversion σ.Value
  | databaseUrl | caCertPath | logLevel => asText
  | legaConnection | legaExchange | legaQueue => asText
  | cegaConnection | cegaExchange | cegaQueue => asText
  | tlsEnabled | verifyCert => asFlag
  | maxConnections | dialAttempts => asWord32
  | dialIntervalSecs => asWord64

end Setting

/-- Values for some of the settings. -/
abbrev Values : Type := (σ : Setting) → Option σ.Value

namespace Values

/-- No value for any setting. -/
def none : Values := fun _ => .none

/-- The values with another one for a setting. -/
def set (given : Values) (σ : Setting) (v : Option σ.Value) : Values := fun τ =>
  if h : σ = τ then h ▸ v else given τ

/-- The partial settings of some values. -/
def toPartial (given : Values) : PartialSettings where
  database := ⟨given .databaseUrl, given .maxConnections⟩
  tls := ⟨given .tlsEnabled, given .caCertPath, given .verifyCert⟩
  lega := ⟨given .legaConnection, given .legaExchange, given .legaQueue⟩
  cega := ⟨given .cegaConnection, given .cegaExchange, given .cegaQueue⟩
  supervisor := ⟨given .dialAttempts, given .dialIntervalSecs⟩
  logging := ⟨given .logLevel⟩

end Values

/-! ## 3. Reading -/

/-- The value of a setting in a tree. -/
def Setting.read (tree : Tree) (σ : Setting) : Except TreeFault (Option σ.Value) := do
  σ.shape.field (← σ.shape.body tree) σ.name σ.convert

/-- The settings of a section in the order in which they are met.  A section that is no table is
read field by field, or is a fault whatever is read of it. -/
def metIn (w : Walk) (tree : Tree) (area : String) : List Setting :=
  match tree.get? area with
  | none => []
  | some (.table entries _) =>
    (w.order (.fields area) (Assoc.keys entries)).filterMap (Setting.at? area)
  | some _ => Setting.ofArea area

/-- The settings in the order in which they are met in a tree. -/
def met (w : Walk) (tree : Tree) : List Setting :=
  (w.order .tree (Assoc.keys tree)).flatMap (metIn w tree)

/-- Adds the value of a setting in a tree to some values. -/
def Values.add (tree : Tree) (given : Values) (σ : Setting) : Except TreeFault Values := do
  .ok (given.set σ (← σ.read tree))

/-- Reads the settings of a tree as they are met, up to the first fault. -/
def readSettings (w : Walk) (tree : Tree) : Except TreeFault PartialSettings := do
  .ok (← (met w tree).foldlM (Values.add tree) .none).toPartial

end BrokerBridge.Config
