import BrokerBridge.Config.Conversion
import BrokerBridge.Settings.Basic

/-!
# Sections of a tree

The settings stand in six sections.  A section is a table, in which every field may be missing, or
a list of all its fields in order, in which none may; what is left over in either is not looked
at.  A section or a field that is null is the same as a missing one.
-/
namespace BrokerBridge.Config

/-! ## 1. Sections -/

/-- A section: its key, the name of its record and the names of the fields, in order. -/
structure SectionShape where
  key : String
  record : String
  fields : List String
  deriving DecidableEq, Repr

/-- Why a node is no section. -/
inductive SectionFault where
  | notASection (met : Scalar)
  | tooShort (length : Nat)
  deriving DecidableEq, Repr

/-- A decimal with a point always, as it is named where a section was expected. -/
def pointedText (x : Binary64) : String :=
  let text := x.plainText
  match x with
  | .finite .. => if text.contains '.' then text else text ++ ".0"
  | _ => text

/-- What was met where a section was expected, in words. -/
def sectionMet : Scalar → String
  | .null => "unit value"
  | .boolean b => "boolean `" ++ (if b then "true" else "false") ++ "`"
  | .integer i => "integer `" ++ toString i ++ "`"
  | .decimal x => "floating point `" ++ pointedText x ++ "`"
  | .text s => "string " ++ Text.quoted s

/-- A fault of a section in words. -/
def SectionFault.message (shape : SectionShape) : SectionFault → String
  | .notASection met =>
    "invalid type: " ++ sectionMet met ++ ", expected struct " ++ shape.record ++ " for key `" ++
      shape.key ++ "`"
  | .tooShort length =>
    "invalid length " ++ toString length ++ ", expected struct " ++ shape.record ++ " with " ++
      toString shape.fields.length ++
      (if shape.fields.length = 1 then " element" else " elements") ++ " for key `" ++
      shape.key ++ "`"

/-- Why a tree holds no partial settings. -/
inductive TreeFault where
  | mismatch (key : String) (m : Mismatch)
  | badSection (shape : SectionShape) (fault : SectionFault)
  deriving DecidableEq, Repr

/-- Why a tree holds no partial settings, in words. -/
def TreeFault.message : TreeFault → String
  | .mismatch key m => m.message key
  | .badSection shape fault => fault.message shape

/-- What a source says in a section. -/
inductive SectionBody where
  | absent
  | fields (entries : Assoc Node)
  | items (nodes : List Node)

/-- The body of a section of a tree. -/
def SectionShape.body (shape : SectionShape) (tree : Tree) : Except TreeFault SectionBody :=
  match tree.get? shape.key with
  | none => .ok .absent
  | some (.table entries _) => .ok (.fields entries)
  | some (.list nodes _) => .ok (.items nodes)
  | some (.scalar .null _) => .ok .absent
  | some (.scalar value _) => .error (.badSection shape (.notASection value))

/-- A node that may be null, converted. -/
def optional (convert : Conversion α) : Conversion (Option α)
  | .scalar .null _ => .ok none
  | node => (convert node).map some

/-- The value of a field of a section. -/
def SectionShape.field (shape : SectionShape) (body : SectionBody) (name : String)
    (convert : Conversion α) : Except TreeFault (Option α) :=
  match body with
  | .absent => .ok none
  | .fields entries =>
    match entries.get? name with
    | none => .ok none
    | some node =>
      (optional convert node).mapError (.mismatch (shape.key ++ "." ++ name))
  | .items nodes =>
    let i := shape.fields.idxOf name
    match nodes[i]? with
    | none => .error (.badSection shape (.tooShort i))
    | some node =>
      (optional convert node).mapError
        (.mismatch (shape.key ++ "[" ++ toString i ++ "]"))

/-! ## 2. The six sections -/

/-- The section of the database. -/
def databaseShape : SectionShape :=
  ⟨"database", "PartialDatabaseSettings", ["url", "max_connections"]⟩

/-- The section of TLS. -/
def tlsShape : SectionShape :=
  ⟨"tls", "PartialTlsSettings", ["enabled", "ca_cert_path", "verify_cert"]⟩

/-- The section of a broker. -/
def brokerShape (key : String) : SectionShape :=
  ⟨key, "PartialBrokerSettings", ["connection", "exchange", "queue"]⟩

/-- The section of dialing. -/
def supervisorShape : SectionShape :=
  ⟨"supervisor", "PartialSupervisorSettings", ["dial_attempts", "dial_interval_secs"]⟩

/-- The section of the log. -/
def loggingShape : SectionShape := ⟨"logging", "PartialLoggingSettings", ["level"]⟩

/-- All sections. -/
def sections : List SectionShape :=
  [databaseShape, tlsShape, brokerShape "lega", brokerShape "cega", supervisorShape, loggingShape]

end BrokerBridge.Config
