import BrokerBridge.Assoc
import BrokerBridge.Number.Binary64

/-!
# Configuration trees

A configuration tree is a table of nodes: scalars, lists and tables, each with the source that it
came from, so that a fault can name it.  A `KeyPath` leads to a node: a key, and steps by key or
by index.

Layers are laid over one another by `Tree.set`.  A table is merged into what is there, entry by
entry (`Node.overlay`); anything else takes the place of what was there.  On the way to its place
`Node.alter` makes room: what is missing is made, and what is of another kind makes way.

Tables stand for hash maps.  The order of their entries here says nothing of the order in which the
program walks them, which a `Walk` says; no key stands twice in a table, so that the order in which
the entries of one table are merged into another does not matter either.
-/
namespace BrokerBridge.Config

/-! ## 1. Nodes -/

/-- A value without parts. -/
inductive Scalar where
  | null
  | boolean (b : Bool)
  | integer (i : Int)
  | decimal (x : Binary64)
  | text (s : String)
  deriving DecidableEq, Repr

/-- A node of a configuration tree and the source it came from. -/
inductive Node where
  | scalar (value : Scalar) (origin : Option String)
  | list (items : List Node) (origin : Option String)
  | table (entries : List (String × Node)) (origin : Option String)
  deriving Repr

/-- A configuration tree: the entries of its top table. -/
abbrev Tree := Assoc Node

namespace Node

/-- The node where nothing has been set. -/
def empty : Node := .scalar .null none

/-- The entries and the origin of a table; a node of another kind makes way for an empty one. -/
def asTable : Node → Assoc Node × Option String
  | .table entries origin => (entries, origin)
  | _ => ([], none)

/-- The items and the origin of a list; a node of another kind makes way for an empty one. -/
def asList : Node → List Node × Option String
  | .list items origin => (items, origin)
  | _ => ([], none)

mutual

/-- Lays a node over another one. -/
def overlay (here : Node) : Node → Node
  | .table entries _ => .table (overlayEntries here.asTable.1 entries) here.asTable.2
  | .list items origin => .list items origin
  | .scalar value origin => .scalar value origin

/-- Lays the entries of a table over the entries of another one. -/
def overlayEntries (here : Assoc Node) : List (String × Node) → Assoc Node
  | [] => here
  | (key, node) :: rest =>
    overlayEntries (here.put key (overlay ((here.get? key).getD empty) node)) rest

end

end Node

/-! ## 2. Paths -/

/-- A step from a node to one of its parts. -/
inductive Step where
  | key (name : String)
  | index (i : Int)
  deriving DecidableEq, Repr

/-- The way from the top of a tree to a node. -/
structure KeyPath where
  root : String
  steps : List Step := []
  deriving DecidableEq, Repr

/-- Where an index lies in a list of `n` items: how many items have to be put in front of the
list, and the place in the longer list.  Negative indices count from the end. -/
def place (i : Int) (n : Nat) : Nat × Nat :=
  if 0 ≤ i then (0, i.toNat)
  else if 0 ≤ n + i then (0, (n + i).toNat)
  else ((-(n + i)).toNat, 0)

/-- Changes the item at a place of a list, which is filled up to it. -/
def alterAt (f : Node → Node) : Nat → List Node → List Node
  | 0, [] => [f .empty]
  | 0, node :: rest => f node :: rest
  | n + 1, [] => .empty :: alterAt f n []
  | n + 1, node :: rest => node :: alterAt f n rest

/-- Changes the node at the end of some steps. -/
def Node.alter (f : Node → Node) : List Step → Node → Node
  | [], node => f node
  | .key name :: steps, node =>
    let (entries, origin) := node.asTable
    .table (entries.put name (alter f steps ((entries.get? name).getD .empty))) origin
  | .index i :: steps, node =>
    let (items, origin) := node.asList
    let (front, at_) := place i items.length
    .list (alterAt (alter f steps) at_ (List.replicate front .empty ++ items)) origin

namespace Tree

/-- Lays a node over the one at a path. -/
def set (path : KeyPath) (node : Node) (tree : Tree) : Tree :=
  tree.put path.root
    (((tree.get? path.root).getD .empty).alter (fun here => here.overlay node) path.steps)

/-- A setting changes the top entry that its path starts at, and no other. -/
theorem get?_set (path : KeyPath) (node : Node) (tree : Tree) (key : String) :
    (tree.set path node).get? key =
      if path.root = key then
        some (((tree.get? path.root).getD .empty).alter (fun here => here.overlay node) path.steps)
      else tree.get? key := by
  simp [set, Assoc.get?_put]

/-- The node at a key of a section. -/
def setting? (area key : String) (tree : Tree) : Option Node :=
  match tree.get? area with
  | some (.table entries _) => Assoc.get? key entries
  | _ => none

/-- Every section is a table as far as its entries go: one of another kind has none. -/
theorem setting?_eq (area key : String) (tree : Tree) :
    tree.setting? area key = ((tree.get? area).getD .empty).asTable.1.get? key := by
  unfold setting?
  rcases tree.get? area with _ | (_ | _ | _) <;> rfl

/-- Setting a scalar at a key of a section changes that entry and no other. -/
theorem setting?_set_scalar (area key a k : String) (value : Scalar) (origin : Option String)
    (tree : Tree) :
    (tree.set ⟨area, [.key key]⟩ (.scalar value origin)).setting? a k =
      if area = a ∧ key = k then some (.scalar value origin) else tree.setting? a k := by
  by_cases ha : area = a
  · subst ha
    rw [setting?_eq area k tree]
    simp [setting?, get?_set, Node.alter, Node.overlay, Assoc.get?_put]
  · simp [setting?, get?_set, ha]

end Tree

end BrokerBridge.Config
