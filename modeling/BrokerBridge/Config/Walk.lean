import BrokerBridge.Assoc

/-!
# Walks through maps

Settings are loaded by way of hash maps, and a hash map may be walked in any order, another one in
every run.  A `Walk` is a choice of these orders.  It matters where two entries of a map compete:
where a file says the same setting twice, or where two settings cannot be read and only the first
fault is told.

What is proved of loading is proved for every walk.
-/
namespace BrokerBridge.Config

/-- The maps that are walked when settings are loaded. -/
inductive Walked where
  /-- The top table of the configuration file. -/
  | file
  /-- The structured variables, by the keys that they set. -/
  | structured
  /-- The legacy variables, by the keys that they set. -/
  | legacy
  /-- The tree of all layers. -/
  | tree
  /-- The table of a section of the tree. -/
  | fields (area : String)
  deriving DecidableEq, Repr

/-- An order of the keys of each map. -/
structure Walk where
  order : Walked → List String → List String
  perm : ∀ place keys, (order place keys).Perm keys

namespace Walk

/-- The walk that takes the keys as they stand. -/
def inOrder : Walk := ⟨fun _ keys => keys, fun _ keys => .refl keys⟩

/-- The entries of a map as they are met. -/
def entries {α : Type} (w : Walk) (place : Walked) (m : Assoc α) : List (String × α) :=
  (w.order place (Assoc.keys m)).filterMap fun key => (Assoc.get? key m).map fun a => (key, a)

end Walk

end BrokerBridge.Config
