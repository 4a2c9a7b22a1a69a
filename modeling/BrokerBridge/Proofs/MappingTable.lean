import BrokerBridge.Identity
import Mathlib.Data.List.Induction

/-!
# The mapping is a table

A mapping keeps two columns apart from one another, and an insert may overwrite a pair in one of
them only.  Here the mapping is compared with a table, the list of all rows that were inserted: a
lookup finds the latest row that has the id in the column of its direction (`LatestRow`).

* `Mapping.find?_ofPairs_iff`: the invariant.  What is found after some inserts is in the latest
  row.
* **`Mapping.is_table`**: every lookup among inserts and lookups is answered from the rows before it
  (`Tells`), no insert makes an id unknown, and a table in which no id has two partners may be read
  both ways and filled in any order.
-/
namespace BrokerBridge

/-! ## 1. Rows -/

/-- A row of the table: an EGA id and an Elixir id. -/
abbrev Row := String × String

namespace Direction

/-- The id of a row on the side that a message comes from. -/
def sourceId : Direction → Row → String
  | .cegaToLega, row => row.1
  | .legaToCega, row => row.2

/-- The id of a row on the side that a message goes to. -/
def destinationId : Direction → Row → String
  | .cegaToLega, row => row.2
  | .legaToCega, row => row.1

end Direction

/-- The latest of some rows with an id in the column of a direction. -/
def LatestRow (rows : List Row) (d : Direction) (id : String) (row : Row) : Prop :=
  ∃ before after, rows = before ++ row :: after ∧ d.sourceId row = id ∧
    ∀ later ∈ after, d.sourceId later ≠ id

section

variable {rows : List Row} {d : Direction} {id : String} {row : Row}

/-- The latest row is the first from behind. -/
theorem latestRow_iff_find? :
    LatestRow rows d id row ↔ rows.reverse.find? (fun r => d.sourceId r = id) = some row := by
  simp only [List.find?_eq_some_iff_append, decide_eq_true_eq, Bool.not_eq_true',
    decide_eq_false_iff_not]
  constructor
  · rintro ⟨before, after, rfl, hid, hafter⟩
    refine ⟨hid, after.reverse, before.reverse, by simp, fun later hlater => ?_⟩
    exact hafter later (List.mem_reverse.mp hlater)
  · rintro ⟨hid, after, before, hrows, hafter⟩
    refine ⟨before.reverse, after.reverse, ?_, hid, fun later hlater => ?_⟩
    · rw [← List.reverse_reverse rows, hrows]
      simp
    · exact hafter later (List.mem_reverse.mp hlater)

theorem LatestRow.mem (h : LatestRow rows d id row) : row ∈ rows := by
  obtain ⟨before, after, rfl, -⟩ := h
  exact List.mem_append_right _ List.mem_cons_self

theorem LatestRow.sourceId_eq (h : LatestRow rows d id row) : d.sourceId row = id := by
  obtain ⟨before, after, -, hid, -⟩ := h
  exact hid

/-- There is a latest row with an id where there is any. -/
theorem exists_latestRow_iff :
    (∃ row, LatestRow rows d id row) ↔ ∃ row ∈ rows, d.sourceId row = id := by
  simp only [latestRow_iff_find?, ← Option.isSome_iff_exists, List.find?_isSome, List.mem_reverse,
    decide_eq_true_eq]

end

/-! ## 2. The mapping of some rows -/

namespace Mapping

variable {rows : List Row} {d : Direction} {id : String}

theorem find?_insert_row (m : Mapping) (row : Row) (d : Direction) (id : String) :
    (m.insert row.1 row.2).find? d id =
      if d.sourceId row = id then some (d.destinationId row) else m.find? d id := by
  rw [find?_insert]
  cases d <;> rfl

theorem ofPairs_concat (rows : List Row) (row : Row) :
    ofPairs (rows ++ [row]) = (ofPairs rows).insert row.1 row.2 := by
  rw [ofPairs, List.foldl_append]
  rfl

theorem find?_ofPairs (rows : List Row) (d : Direction) (id : String) :
    (ofPairs rows).find? d id =
      (rows.reverse.find? fun row => d.sourceId row = id).map d.destinationId := by
  induction rows using List.reverseRecOn with
  | nil => cases d <;> rfl
  | append_singleton rows row ih =>
    rw [ofPairs_concat, find?_insert_row, List.reverse_append, List.reverse_singleton,
      List.singleton_append, List.find?_cons, ih]
    by_cases h : d.sourceId row = id
    · rw [if_pos h, decide_eq_true h]
      rfl
    · rw [if_neg h, decide_eq_false h]

/-- **What is found is in the latest row.** -/
theorem find?_ofPairs_iff {other : String} :
    (ofPairs rows).find? d id = some other ↔
      ∃ row, LatestRow rows d id row ∧ d.destinationId row = other := by
  simp only [find?_ofPairs, Option.map_eq_some_iff, latestRow_iff_find?]

theorem find?_ofPairs_eq_none_iff :
    (ofPairs rows).find? d id = none ↔ ∀ row ∈ rows, d.sourceId row ≠ id := by
  simp only [find?_ofPairs, Option.map_eq_none_iff, List.find?_eq_none, List.mem_reverse,
    decide_eq_true_eq, ne_eq]

end Mapping

section

variable {m : Mapping} {d : Direction} {id : String}

theorem Resolver.resolve_ofMapping (m : Mapping) (d : Direction) (id : String) :
    (Resolver.ofMapping m).resolve d id =
      match m.find? d id with
      | some other => .ok other
      | none => .error (.notFound id) := by
  have hlookup : (Resolver.ofMapping m).lookup d id = .ok (m.find? d id) := rfl
  rw [Resolver.resolve, hlookup]
  cases m.find? d id <;> rfl

theorem Resolver.resolve_eq_ok_iff {other : String} :
    (Resolver.ofMapping m).resolve d id = .ok other ↔ m.find? d id = some other := by
  rw [Resolver.resolve_ofMapping]
  cases m.find? d id <;> simp

theorem Resolver.resolve_eq_error_iff {e : ResolveError} :
    (Resolver.ofMapping m).resolve d id = .error e ↔ m.find? d id = none ∧ e = .notFound id := by
  rw [Resolver.resolve_ofMapping]
  cases m.find? d id <;> simp [eq_comm]

end

/-! ## 3. Inserts and lookups -/

/-- What is asked of a mapping: an id of one column by an id of the other, or an id of the
destination side of a direction. -/
inductive Lookup where
  | elixirFor (ega : String)
  | egaFor (elixir : String)
  | translate (d : Direction) (id : String)

namespace Lookup

/-- The direction in which a lookup goes. -/
def direction : Lookup → Direction
  | elixirFor _ => .cegaToLega
  | egaFor _ => .legaToCega
  | translate d _ => d

/-- The id that is looked up. -/
def id : Lookup → String
  | elixirFor ega => ega
  | egaFor elixir => elixir
  | translate _ id => id

/-- What is answered. -/
def answer (t : Resolver) : Lookup → Except ResolveError String
  | elixirFor ega => t.resolve .cegaToLega ega
  | egaFor elixir => t.resolve .legaToCega elixir
  | translate d id => t.resolve d id

theorem answer_eq (t : Resolver) (q : Lookup) : q.answer t = t.resolve q.direction q.id := by
  cases q <;> rfl

end Lookup

/-- What is done with a mapping. -/
inductive MappingStep where
  | insert (ega elixir : String)
  | look (q : Lookup)

namespace MappingStep

/-- The row that a step inserts. -/
def row? : MappingStep → Option Row
  | insert ega elixir => some (ega, elixir)
  | look _ => none

/-- The rows that steps insert, in order. -/
def rows (steps : List MappingStep) : List Row := steps.filterMap row?

end MappingStep

namespace Mapping

/-- The mapping after some steps. -/
def after (m : Mapping) : List MappingStep → Mapping
  | [] => m
  | .insert ega elixir :: steps => (m.insert ega elixir).after steps
  | .look _ :: steps => m.after steps

/-- The answers to the lookups among some steps. -/
def answers (m : Mapping) : List MappingStep → List (Except ResolveError String)
  | [] => []
  | .insert ega elixir :: steps => (m.insert ega elixir).answers steps
  | .look q :: steps => q.answer (.ofMapping m) :: m.answers steps

/-- Steps leave the mapping of the rows that they insert. -/
theorem after_ofPairs (rows : List Row) (steps : List MappingStep) :
    (ofPairs rows).after steps = ofPairs (rows ++ MappingStep.rows steps) := by
  induction steps generalizing rows with
  | nil => exact (congrArg ofPairs (List.append_nil rows)).symm
  | cons step steps ih =>
    cases step with
    | insert ega elixir =>
      have hnext : (ofPairs rows).insert ega elixir = ofPairs (rows ++ [(ega, elixir)]) :=
        (ofPairs_concat rows (ega, elixir)).symm
      rw [after, hnext, ih, List.append_assoc]
      rfl
    | look q => exact ih rows

/-- What is found is found for ever, if not always the same. -/
theorem exists_find?_after {m : Mapping} {d : Direction} {id other : String}
    (h : m.find? d id = some other) (steps : List MappingStep) :
    ∃ other', (m.after steps).find? d id = some other' := by
  induction steps generalizing m other with
  | nil => exact ⟨other, h⟩
  | cons step steps ih =>
    cases step with
    | insert ega elixir =>
      have hnext := m.find?_insert_row (ega, elixir) d id
      split at hnext
      · exact ih hnext
      · exact ih (hnext.trans h)
    | look q => exact ih h

theorem answers_append (m : Mapping) (before later : List MappingStep) :
    m.answers (before ++ later) = m.answers before ++ (m.after before).answers later := by
  induction before generalizing m with
  | nil => rfl
  | cons step before ih =>
    cases step with
    | insert ega elixir => exact ih (m.insert ega elixir)
    | look q => exact congrArg (_ :: ·) (ih m)

end Mapping

/-! ## 4. The table -/

/-- **What a table tells**: the partner in the latest row with the id, or that there is no row. -/
structure Tells (rows : List Row) (q : Lookup) (answer : Except ResolveError String) : Prop where
  found_iff : ∀ other, answer = .ok other ↔
    ∃ row, LatestRow rows q.direction q.id row ∧ q.direction.destinationId row = other
  error_iff : ∀ e, answer = .error e ↔
    (∀ row ∈ rows, q.direction.sourceId row ≠ q.id) ∧ e = .notFound q.id

theorem tells_ofPairs (rows : List Row) (q : Lookup) :
    Tells rows q (q.answer (.ofMapping (.ofPairs rows))) where
  found_iff other := by
    rw [q.answer_eq, Resolver.resolve_eq_ok_iff, Mapping.find?_ofPairs_iff]
  error_iff e := by
    rw [q.answer_eq, Resolver.resolve_eq_error_iff, Mapping.find?_ofPairs_eq_none_iff]

/-- Rows in which no id of either column has two partners. -/
def OneToOne (rows : List Row) : Prop :=
  ∀ d : Direction, ∀ row ∈ rows, ∀ row' ∈ rows, d.sourceId row = d.sourceId row' → row = row'

theorem OneToOne.latestRow_iff {rows : List Row} {d : Direction} {id : String} {row : Row}
    (h : OneToOne rows) : LatestRow rows d id row ↔ row ∈ rows ∧ d.sourceId row = id := by
  constructor
  · exact fun hlatest => ⟨hlatest.mem, hlatest.sourceId_eq⟩
  · rintro ⟨hmem, hid⟩
    obtain ⟨row', hlatest⟩ := exists_latestRow_iff.mpr ⟨row, hmem, hid⟩
    rw [h d row hmem row' hlatest.mem (hid.trans hlatest.sourceId_eq.symm)]
    exact hlatest

/-- What is found by some rows are their pairs. -/
theorem OneToOne.find?_iff {rows : List Row} {d : Direction} {id other : String}
    (h : OneToOne rows) :
    (Mapping.ofPairs rows).find? d id = some other ↔
      ∃ row ∈ rows, d.sourceId row = id ∧ d.destinationId row = other := by
  simp only [Mapping.find?_ofPairs_iff, h.latestRow_iff, and_assoc]

/-- A row leads from either of its ids to the other one. -/
theorem OneToOne.resolve_iff {rows : List Row} (h : OneToOne rows) (d : Direction) (row : Row) :
    (Resolver.ofMapping (.ofPairs rows)).resolve d (d.sourceId row) = .ok (d.destinationId row) ↔
      row ∈ rows := by
  rw [Resolver.resolve_eq_ok_iff, h.find?_iff]
  constructor
  · rintro ⟨row', hmem, hsource, hdestination⟩
    have hrow : row' = row := by
      cases d
      · exact Prod.ext hsource hdestination
      · exact Prod.ext hdestination hsource
    exact hrow ▸ hmem
  · exact fun hmem => ⟨row, hmem, rfl, rfl⟩

/-- The order of the rows does not matter, nor how often they are there. -/
theorem OneToOne.find?_congr {rows rows' : List Row} (h : OneToOne rows)
    (hsame : ∀ row, row ∈ rows' ↔ row ∈ rows) (d : Direction) (id : String) :
    (Mapping.ofPairs rows').find? d id = (Mapping.ofPairs rows).find? d id := by
  have h' : OneToOne rows' := by
    intro d row hrow row' hrow'
    exact h d row ((hsame row).mp hrow) row' ((hsame row').mp hrow')
  refine Option.ext fun other => ?_
  rw [h'.find?_iff, h.find?_iff]
  simp only [hsame]

/-- **The mapping is a table of rows.**

* Every lookup among inserts and lookups is answered from the rows that were inserted before it:
  with the partner of the id in the latest row that has it in the column of the lookup, or with the
  id where there is no such row.
* A lookup in a direction is the lookup in the column of that direction.
* What is found stays to be found, whatever is inserted.
* Where no id has two partners, what is found are the pairs, from both sides; their order, and how
  often they are inserted, change nothing. -/
theorem Mapping.is_table :
    (∀ before q later, ∃ answer,
      answers {} (before ++ .look q :: later) =
          answers {} before ++ answer :: (after {} before).answers later ∧
        Tells (MappingStep.rows before) q answer) ∧
      (∀ t id, (Lookup.translate .cegaToLega id).answer t = (Lookup.elixirFor id).answer t ∧
        (Lookup.translate .legaToCega id).answer t = (Lookup.egaFor id).answer t) ∧
      (∀ (m : Mapping) d id other, (Resolver.ofMapping m).resolve d id = .ok other →
        ∀ steps, ∃ other', (Resolver.ofMapping (m.after steps)).resolve d id = .ok other') ∧
      ∀ pairs, OneToOne pairs →
        let t := Resolver.ofMapping (ofPairs pairs)
        (∀ ega elixir, t.resolve .cegaToLega ega = .ok elixir ↔ (ega, elixir) ∈ pairs) ∧
        (∀ ega elixir, t.resolve .legaToCega elixir = .ok ega ↔ (ega, elixir) ∈ pairs) ∧
        ∀ pairs', (∀ pair, pair ∈ pairs' ↔ pair ∈ pairs) →
          ∀ d id, (Resolver.ofMapping (ofPairs pairs')).resolve d id = t.resolve d id := by
  refine ⟨fun before q later => ?_, fun t id => ⟨rfl, rfl⟩, fun m d id other h steps => ?_,
    fun pairs hpairs => ⟨fun ega elixir => hpairs.resolve_iff .cegaToLega (ega, elixir),
      fun ega elixir => hpairs.resolve_iff .legaToCega (ega, elixir),
      fun pairs' hsame d id => ?_⟩⟩
  · have hafter : after {} before = ofPairs (MappingStep.rows before) := after_ofPairs [] before
    refine ⟨q.answer (.ofMapping (after {} before)), answers_append {} before _, ?_⟩
    rw [hafter]
    exact tells_ofPairs _ q
  · obtain ⟨other', h'⟩ := exists_find?_after (Resolver.resolve_eq_ok_iff.mp h) steps
    exact ⟨other', Resolver.resolve_eq_ok_iff.mpr h'⟩
  · rw [Resolver.resolve_ofMapping, Resolver.resolve_ofMapping, hpairs.find?_congr hsame]

/-- Two EGA ids get one Elixir id, which the later of them keeps, and a pair comes twice. -/
theorem Mapping.is_table_shared :
    let steps : List MappingStep := [.insert "ann@ega" "a@elixir", .insert "bob@ega" "a@elixir"]
    let pairs := [("bob@ega", "b@elixir"), ("ann@ega", "a@elixir"), ("bob@ega", "b@elixir")]
    (∃ answer, answers {} (steps ++ [.look (.translate .legaToCega "a@elixir")]) = [answer] ∧
      Tells (MappingStep.rows steps) (.translate .legaToCega "a@elixir") answer) ∧
      answers {} (steps ++ [.look (.elixirFor "ann@ega"), .look (.egaFor "a@elixir"),
        .look (.egaFor "ann@ega")]) =
        [.ok "a@elixir", .ok "bob@ega", .error (.notFound "ann@ega")] ∧
      (∃ other, (Resolver.ofMapping (after {} (.insert "ann@ega" "x@elixir" :: steps))).resolve
        .legaToCega "x@elixir" = .ok other) ∧
      OneToOne pairs ∧
      (Resolver.ofMapping (ofPairs pairs)).resolve .cegaToLega "bob@ega" = .ok "b@elixir" ∧
      (Resolver.ofMapping (ofPairs pairs)).resolve .legaToCega "b@elixir" = .ok "bob@ega" := by
  intro steps pairs
  have hpairs : OneToOne pairs := by
    intro d
    cases d <;> simp [pairs, Direction.sourceId]
  obtain ⟨htable, -, hfound, hboth⟩ := is_table
  refine ⟨?_, rfl, ?_, hpairs, ?_, ?_⟩
  · exact htable steps _ []
  · exact hfound (ofPairs [("ann@ega", "x@elixir")]) .legaToCega "x@elixir" "ann@ega" rfl steps
  · exact ((hboth pairs hpairs).1 "bob@ega" "b@elixir").mpr List.mem_cons_self
  · exact ((hboth pairs hpairs).2.1 "bob@ega" "b@elixir").mpr List.mem_cons_self

end BrokerBridge
