import BrokerBridge.Assoc
import BrokerBridge.Failure
import BrokerBridge.Log

/-!
# Identities

A user has an EGA id on one side of the bridge and an Elixir id on the other.  A `Mapping` holds
the latest pair of every id, in each of its two columns apart.  A `Resolver` looks ids up; its
lookups may fail, which is a different thing from finding nothing.
-/
namespace BrokerBridge

/-! ## 1. Directions -/

/-- Which way a message crosses the bridge. -/
inductive Direction where
  | cegaToLega
  | legaToCega
  deriving DecidableEq, Repr

/-- A direction in words. -/
def Direction.describe : Direction → String
  | .cegaToLega => "CEGA to LEGA"
  | .legaToCega => "LEGA to CEGA"

/-! ## 2. The mapping -/

/-- The mapping of ids: the latest Elixir id of each EGA id, and the other way round. -/
structure Mapping where
  byEga : Assoc String := []
  byElixir : Assoc String := []
  deriving Repr

namespace Mapping

/-- Adds a pair of ids. -/
def insert (m : Mapping) (ega elixir : String) : Mapping :=
  ⟨m.byEga.put ega elixir, m.byElixir.put elixir ega⟩

/-- The mapping of some pairs, added in order. -/
def ofPairs (pairs : List (String × String)) : Mapping :=
  pairs.foldl (fun m p => m.insert p.1 p.2) {}

/-- The id of the destination side for an id of the source side. -/
def find? (m : Mapping) : Direction → String → Option String
  | .cegaToLega, id => m.byEga.get? id
  | .legaToCega, id => m.byElixir.get? id

theorem find?_insert (m : Mapping) (ega elixir id : String) (direction : Direction) :
    (m.insert ega elixir).find? direction id =
      match direction with
      | .cegaToLega => if ega = id then some elixir else m.find? .cegaToLega id
      | .legaToCega => if elixir = id then some ega else m.find? .legaToCega id := by
  cases direction <;> simp [find?, insert, Assoc.get?_put]

end Mapping

/-! ## 3. Resolving -/

/-- Why an id was not resolved. -/
inductive ResolveError where
  | notFound (id : String)
  | store (failure : StoreFailure)
  deriving DecidableEq, Repr

/-- A failed lookup in words. -/
def ResolveError.message : ResolveError → String
  | .notFound id => "no identity mapping found for '" ++ id ++ "'"
  | .store failure => "mapping store query failed: " ++ failure.message

/-- What stands behind a failed lookup. -/
def ResolveError.sources : ResolveError → List String
  | .notFound _ => []
  | .store failure => failure.chain

/-- Looks ids up for the destination of a direction. -/
structure Resolver where
  lookup : Direction → String → Except StoreFailure (Option String)

namespace Resolver

/-- Looks ids up in a mapping; every lookup fails with `failure`, if one is given. -/
def ofMapping (m : Mapping) (failure : Option StoreFailure := none) : Resolver where
  lookup direction id :=
    match failure with
    | some e => .error e
    | none => .ok (m.find? direction id)

/-- The id of the destination side for an id of the source side. -/
def resolve (t : Resolver) (direction : Direction) (id : String) :
    Except ResolveError String :=
  match t.lookup direction id with
  | .error e => .error (.store e)
  | .ok none => .error (.notFound id)
  | .ok (some resolved) => .ok resolved

end Resolver

/-- An id that was replaced on the way across. -/
structure Replacement where
  direction : Direction
  sourceId : String
  destinationId : String
  deriving DecidableEq, Repr

/-- The entry for a replaced id; each field is named for the namespace of its id. -/
def Replacement.entry (r : Replacement) : Entry :=
  match r.direction with
  | .cegaToLega =>
    ⟨.info, "Replacing EGA ID with Elixir ID",
      [("ega_id", .text r.sourceId), ("elixir_id", .text r.destinationId)]⟩
  | .legaToCega =>
    ⟨.info, "Replacing Elixir ID with EGA ID",
      [("elixir_id", .text r.sourceId), ("ega_id", .text r.destinationId)]⟩

end BrokerBridge
