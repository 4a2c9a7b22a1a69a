import BrokerBridge.Config.Tree
import BrokerBridge.Number.Decimal
import BrokerBridge.Text.Lowercase
import BrokerBridge.Text.Quoted

/-!
# Nodes as settings

A setting is a text, a flag or a word, and a scalar of any kind is converted to the one that is
wanted where it can be: a number or a flag is written out as text, a text is read, a decimal is
rounded to the nearest integer.  A scalar that cannot be converted, a list and a table are a
`Mismatch`, which tells what was met, what was expected and where it came from.
-/
namespace BrokerBridge.Config

/-! ## 1. Mismatches -/

/-- What stands where something else was expected. -/
inductive Met where
  | nothing
  | text (s : String)
  | integer (i : Int)
  | natural (n : Nat)
  | list
  | table
  deriving DecidableEq, Repr

/-- What was met, in words. -/
def Met.description : Met → String
  | .nothing => "unit value"
  | .text s => "string " ++ Text.quoted s
  | .integer i => "64-bit integer `" ++ toString i ++ "`"
  | .natural n => "64-bit unsigned integer `" ++ toString n ++ "`"
  | .list => "sequence"
  | .table => "map"

/-- A node that cannot be converted. -/
structure Mismatch where
  met : Met
  expected : String
  origin : Option String := none
  deriving DecidableEq, Repr

/-- A mismatch in words, where the setting has a key. -/
def Mismatch.message (m : Mismatch) (key : String) : String :=
  "invalid type: " ++ m.met.description ++ ", expected " ++ m.expected ++ " for key `" ++ key ++
    "`" ++ (match m.origin with
      | some origin => " in " ++ origin
      | none => "")

/-- A conversion of nodes. -/
abbrev Conversion (α : Type) := Node → Except Mismatch α

/-- Converts scalars, given their origin; lists and tables are mismatches. -/
def ofScalar (expected : String) (convert : Option String → Scalar → Except Mismatch α) :
    Conversion α
  | .scalar value origin => convert origin value
  | .list _ origin => .error ⟨.list, expected, origin⟩
  | .table _ origin => .error ⟨.table, expected, origin⟩

/-! ## 2. Conversions -/

/-- A node as text. -/
def asText : Conversion String :=
  ofScalar "a string" fun origin value =>
    match value with
    | .null => .error ⟨.nothing, "a string", origin⟩
    | .boolean b => .ok (if b then "true" else "false")
    | .integer i => .ok (toString i)
    | .decimal x => .ok x.plainText
    | .text s => .ok s

/-- The flag that a text in lower case names. -/
def flag? (s : String) : Option Bool :=
  if s ∈ ["1", "true", "on", "yes"] then some true
  else if s ∈ ["0", "false", "off", "no"] then some false
  else none

/-- A node as a flag: whatever number is not zero is true. -/
def asFlag : Conversion Bool :=
  ofScalar "a boolean" fun origin value =>
    match value with
    | .null => .error ⟨.nothing, "a boolean", origin⟩
    | .boolean b => .ok b
    | .integer i => .ok (i != 0)
    | .decimal x => .ok (!x.isZero)
    | .text s =>
      match flag? (Text.lower s) with
      | some b => .ok b
      | none => .error ⟨.text (Text.lower s), "a boolean", origin⟩

/-- The word that a text writes: a number, or the name of a flag. -/
def word? (s : String) : Option Nat :=
  if Text.lower s ∈ ["true", "on", "yes"] then some 1
  else if Text.lower s ∈ ["false", "off", "no"] then some 0
  else unsigned? 64 s.toList

/-- A node as a number below `2 ^ 64`; a decimal is rounded and held within the range. -/
def asNatural : Conversion Nat :=
  ofScalar "an integer" fun origin value =>
    match value with
    | .null => .error ⟨.nothing, "an integer", origin⟩
    | .boolean b => .ok b.toNat
    | .integer i =>
      if 0 ≤ i then .ok i.toNat
      else .error ⟨.integer i, "an unsigned 64 bit or less integer", origin⟩
    | .decimal x => .ok (x.roundWithin (wordCount 64 - 1))
    | .text s =>
      match word? s with
      | some n => .ok n
      | none => .error ⟨.text s, "an integer", origin⟩

/-- A node as a word of 64 bits. -/
def asWord64 : Conversion UInt64 := fun node => (asNatural node).map UInt64.ofNat

/-- A node as a word of 32 bits. -/
def asWord32 : Conversion UInt32 := fun node => do
  let n ← asNatural node
  if n < wordCount 32 then .ok (UInt32.ofNat n)
  else .error ⟨.natural n, "an unsigned 32 bit integer", none⟩

end BrokerBridge.Config
