import BrokerBridge.Assoc
import BrokerBridge.Number.Binary64

/-!
# Tables of TOML documents

A document is a sequence of blocks: what stands before the first header, and what stands below
each header.  `Block.addTo` adds a block to the tables so far.  Nothing may be defined twice: a
key has one value, a table has one header, and what is written inside braces or brackets is closed
to what follows.  A table that a longer header implies may grow by dotted keys and may get a header
of its own later; one that a dotted key makes grows too, but gets no header.
-/
namespace BrokerBridge.Toml

/-- How a table came to be. -/
inductive Manner where
  /-- Written in braces. -/
  | closed
  /-- By a header of its own. -/
  | headed
  /-- On the way to the table of a header. -/
  | implied
  /-- On the way to the value of a dotted key. -/
  | dotted
  deriving DecidableEq, Repr

/-- A value, a table, or the tables under a repeated header. -/
inductive Item where
  | text (s : String)
  | integer (i : Int)
  | decimal (x : Binary64)
  | boolean (b : Bool)
  | array (items : List Item)
  | table (manner : Manner) (entries : List (String × Item))
  | tables (elements : List (List (String × Item)))
  deriving Repr

/-- The entries of a table. -/
abbrev Entries := Assoc Item

/-- Gives a key its value, below the tables of a dotted path.  A table on the way must not have a
header of its own, and neither must the one that holds the key, unless the path starts from it. -/
def define (key : String) (value : Item) : List String → Entries → Option Entries
  | [], entries => if (entries.get? key).isSome then none else some (entries.put key value)
  | name :: path, entries =>
    match entries.get? name with
    | none => (define key value path []).map fun inner => entries.put name (.table .dotted inner)
    | some (.table .dotted inner) =>
      (define key value path inner).map fun inner => entries.put name (.table .dotted inner)
    | some (.table .implied inner) =>
      (define key value path inner).map fun inner => entries.put name (.table .implied inner)
    | some (.tables elements) =>
      if path = [] then none
      else
        (define key value path (elements.getLastD [])).map fun last =>
          entries.put name (.tables (elements.dropLast ++ [last]))
    | _ => none

/-- Changes the item of a key, below the tables on the path of a header. -/
def place (change : Option Item → Option Item) (key : String) :
    List String → Entries → Option Entries
  | [], entries => (change (entries.get? key)).map fun item => entries.put key item
  | name :: path, entries =>
    match entries.get? name with
    | none => (place change key path []).map fun inner => entries.put name (.table .implied inner)
    | some (.table .closed _) => none
    | some (.table manner inner) =>
      (place change key path inner).map fun inner => entries.put name (.table manner inner)
    | some (.tables elements) =>
      (place change key path (elements.getLastD [])).map fun last =>
        entries.put name (.tables (elements.dropLast ++ [last]))
    | _ => none

/-- A definition: the tables on the way, the key and its value. -/
structure Definition where
  path : List String
  key : String
  value : Item

/-- Makes some definitions in a table. -/
def defineAll (definitions : List Definition) (entries : Entries) : Option Entries :=
  definitions.foldlM (fun entries d => define d.key d.value d.path entries) entries

/-- What stands above a block. -/
inductive Header where
  /-- The start of the document. -/
  | start
  /-- The header of a table. -/
  | table (path : List String) (key : String)
  /-- The header of one more table of a list. -/
  | element (path : List String) (key : String)
  deriving DecidableEq, Repr

/-- A header and the definitions below it. -/
structure Block where
  header : Header
  definitions : List Definition

/-- Adds a block to the tables so far. -/
def Block.addTo (entries : Entries) (b : Block) : Option Entries :=
  match b.header with
  | .start => defineAll b.definitions entries
  | .table path key =>
    place (fun
      | none => (defineAll b.definitions []).map (.table .headed)
      | some (.table .implied inner) => (defineAll b.definitions inner).map (.table .headed)
      | some _ => none) key path entries
  | .element path key =>
    place (fun
      | none => (defineAll b.definitions []).map fun element => .tables [element]
      | some (.tables elements) =>
        (defineAll b.definitions []).map fun element => .tables (elements ++ [element])
      | some _ => none) key path entries

/-- The tables of all blocks. -/
def ofBlocks (blocks : List Block) : Option Entries := blocks.foldlM Block.addTo []

end BrokerBridge.Toml
