import BrokerBridge.Config.Tree
import BrokerBridge.Ini
import BrokerBridge.Json.Value
import BrokerBridge.Toml.Document

/-!
# Formats of configuration files

A format is the extensions of its files and a reader of their text.  Whatever the format, the top of
a file must be a table, and the nodes of the tree remember the file.

The program reads TOML, JSON, INI, YAML, RON and JSON5.  The readers of the first three stand here
(`Format.known`); those of the others do not, and a load takes its formats from its surroundings, so
that what is proved of it holds with any readers for them.

The reader of JSON keeps numbers as their digits and asks for them as integers and then as doubles.
It takes a third case to be impossible, and a program that meets one, a number beyond the doubles,
stops without an error.  Here such a file cannot be read.
-/
namespace BrokerBridge.Config

/-- A format of configuration files. -/
structure Format where
  /-- The extensions of its files, without the point. -/
  extensions : List String
  /-- Reads a text into its top table; `origin` is what the nodes remember. -/
  read : (origin text : String) → Option (Assoc Node)

/-! ## 1. Nodes of documents -/

mutual

/-- The node of an item of a TOML document. -/
def nodeOfItem (origin : String) : Toml.Item → Node
  | .text s => .scalar (.text s) (some origin)
  | .integer i => .scalar (.integer i) (some origin)
  | .decimal x => .scalar (.decimal x) (some origin)
  | .boolean b => .scalar (.boolean b) (some origin)
  | .array items => .list (nodesOfItems origin items) (some origin)
  | .table _ entries => .table (nodesOfEntries origin entries) (some origin)
  | .tables elements => .list (nodesOfElements origin elements) (some origin)

/-- The nodes of items. -/
def nodesOfItems (origin : String) : List Toml.Item → List Node
  | [] => []
  | item :: rest => nodeOfItem origin item :: nodesOfItems origin rest

/-- The nodes of the entries of a table. -/
def nodesOfEntries (origin : String) : List (String × Toml.Item) → List (String × Node)
  | [] => []
  | (key, item) :: rest => (key, nodeOfItem origin item) :: nodesOfEntries origin rest

/-- The nodes of the tables under a repeated header. -/
def nodesOfElements (origin : String) : List (List (String × Toml.Item)) → List Node
  | [] => []
  | entries :: rest =>
    .table (nodesOfEntries origin entries) (some origin) :: nodesOfElements origin rest

end

/-- The scalar of a JSON number: an integer of 64 bits, signed or not, or a decimal.  A number beyond
the doubles has none. -/
def scalarOfNumber? (n : Json.Number) : Option Scalar :=
  match n.integer?.filter fun i => isInteger64 i || isWord64 i with
  | some i => some (.integer i)
  | none => if n.toBinary64.isInfinite then none else some (.decimal n.toBinary64)

mutual

/-- The node of a JSON value. -/
def nodeOfValue? (origin : String) : Json.Value → Option Node
  | .null => some (.scalar .null (some origin))
  | .boolean b => some (.scalar (.boolean b) (some origin))
  | .number n => do some (.scalar (← scalarOfNumber? n) (some origin))
  | .text s => some (.scalar (.text s) (some origin))
  | .array items => do some (.list (← nodesOfValues? origin items) (some origin))
  | .object members => do some (.table (← nodesOfMembers? origin members) (some origin))

/-- The nodes of JSON values. -/
def nodesOfValues? (origin : String) : List Json.Value → Option (List Node)
  | [] => some []
  | v :: rest => do some ((← nodeOfValue? origin v) :: (← nodesOfValues? origin rest))

/-- The nodes of the members of a JSON object. -/
def nodesOfMembers? (origin : String) : List (String × Json.Value) → Option (List (String × Node))
  | [] => some []
  | (key, v) :: rest => do
    some ((key, ← nodeOfValue? origin v) :: (← nodesOfMembers? origin rest))

end

/-- The nodes of properties. -/
def nodesOfProperties (origin : String) (properties : Assoc String) : Assoc Node :=
  properties.map fun (key, value) => (key, .scalar (.text value) (some origin))

/-- Adds a section of an INI document to the top table: a later section replaces an earlier one of
its name. -/
def addSection (origin : String) (top : Assoc Node) (s : Ini.Section) : Assoc Node :=
  match s.name with
  | none => (nodesOfProperties origin s.properties).foldl (fun top e => top.put e.1 e.2) top
  | some name => top.put name (.table (nodesOfProperties origin s.properties) (some origin))

/-! ## 2. Readers -/

namespace Format

/-- TOML. -/
def toml : Format where
  extensions := ["toml"]
  read origin text := (Toml.read text.toList).map (nodesOfEntries origin)

/-- JSON; the top must be an object. -/
def json : Format where
  extensions := ["json"]
  read origin text :=
    match Json.Value.decode (Utf8.ofString text) with
    | .ok (.object members) => nodesOfMembers? origin members
    | _ => none

/-- INI. -/
def ini : Format where
  extensions := ["ini"]
  read origin text :=
    (Ini.read text.toList).map fun sections => sections.foldl (addSection origin) []

/-- The formats with a reader here. -/
def known : List Format := [toml, json, ini]

end Format

end BrokerBridge.Config
