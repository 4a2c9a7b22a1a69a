import BrokerBridge.Proofs.Json.Unambiguous
import BrokerBridge.Proofs.Json.Writing

/-!
# Places in a value

A place inside a value is named by the steps that lead to it: to an item of an array by its index,
to a member of an object by its name and by where the name stands among the distinct names of the
object.  A member that a later one of its name overwrites is at no place, so a place is the same in
a text and in what is written for it.

* `Tree.Denotes.child_eq`: what one step leads to, in a text and in what is written for it.
* **`Tree.Denotes.numeral_at`**: a number is written in its place with its sign, its digits and the
  zeros around them.  Of its exponent the digits are kept: the letter becomes a small one, and a
  sign that was left out is written (`Numeral.settled`).
* `Numeral.chars_settled_iff`: which numbers are written with the characters that they were read
  with.
-/
namespace BrokerBridge.Json

/-! ## 1. Places -/

/-- The values among further items. -/
def Items.values : Items → List Tree
  | .nil => []
  | .cons _ value _ rest => value :: rest.values

/-- The items of an array, in order; other values have none. -/
def Tree.items : Tree → List Tree
  | .array _ first _ more => first :: more.values
  | _ => []

/-- The members whose names say something. -/
def named (members : List (Option String × Tree)) : List (String × Tree) :=
  members.filterMap fun m => m.1.map fun name => (name, m.2)

/-- The members of an object as a map: of those with one name the last, in the place of the
first. -/
def Tree.map (t : Tree) : Assoc Tree := Assoc.ofEntries (named t.members)

/-- A step into a value. -/
inductive Step where
  /-- To an item of an array. -/
  | item (index : Nat)
  /-- To the member that stands in a place among the distinct names of an object. -/
  | member (index : Nat) (name : String)
  deriving DecidableEq, Repr

/-- The value that a step leads to. -/
def Tree.child? (t : Tree) : Step → Option Tree
  | .item i => t.items[i]?
  | .member i name => (t.map[i]?).bind fun e => if e.1 = name then some e.2 else none

/-- The value at the end of some steps. -/
def Tree.at? : Tree → List Step → Option Tree
  | t, [] => some t
  | t, step :: path => (t.child? step).bind fun child => child.at? path

theorem Tree.at?_cons {t child : Tree} {step : Step} (h : t.child? step = some child)
    (path : List Step) : t.at? (step :: path) = child.at? path := by
  rw [at?, h, Option.bind_some]

theorem Tree.exists_of_at?_cons {t u : Tree} {step : Step} {path : List Step}
    (h : t.at? (step :: path) = some u) :
    ∃ child, t.child? step = some child ∧ child.at? path = some u :=
  Option.bind_eq_some_iff.mp h

theorem Tree.child?_member {t : Tree} {i : Nat} {name : String} {child : Tree} :
    t.child? (.member i name) = some child ↔ t.map[i]? = some (name, child) := by
  rw [child?, Option.bind_eq_some_iff]
  constructor
  · rintro ⟨⟨name', u⟩, hget, hu⟩
    obtain ⟨rfl, ⟨⟩⟩ := Option.ite_none_right_eq_some.mp hu
    exact hget
  · intro h
    exact ⟨_, h, if_pos rfl⟩

/-- A step to a member leads to a value that the object has under the name. -/
theorem Tree.mem_members_of_child? {t child : Tree} {i : Nat} {name : String}
    (h : t.child? (.member i name) = some child) : (some name, child) ∈ t.members := by
  have hmem : (name, child) ∈ named t.members :=
    Assoc.subset_ofEntries _ (List.mem_of_getElem? (Tree.child?_member.mp h))
  obtain ⟨⟨name', u⟩, hm, hentry⟩ := List.mem_filterMap.mp hmem
  obtain ⟨_, rfl, ⟨⟩⟩ := Option.map_eq_some_iff.mp hentry
  exact hm

/-- No step leads into a string. -/
theorem Tree.child?_quoted (pieces : List Piece) (step : Step) :
    (Tree.quoted pieces).child? step = none := by
  cases step <;> rfl

/-! ## 2. Steps into what is written -/

/-- Of two lists that are related item by item, an index reads related items. -/
theorem exists_getElem?_of_forall₂ {α β : Type} {R : α → β → Prop} {as : List α} {bs : List β}
    (h : List.Forall₂ R as bs) {i : Nat} {a : α} (ha : as[i]? = some a) :
    ∃ b, bs[i]? = some b ∧ R a b := by
  obtain ⟨hi, rfl⟩ := List.getElem?_eq_some_iff.mp ha
  have hi' : i < bs.length := h.length_eq ▸ hi
  exact ⟨bs[i], List.getElem?_eq_getElem hi', h.get hi hi'⟩

theorem Items.Denote.forall₂ {more : Items} {vs : List Value} (h : Items.Denote more vs) :
    List.Forall₂ Tree.Denotes more.values vs := by
  induction vs generalizing more with
  | nil =>
    cases h
    exact .nil
  | cons v vs ih =>
    cases h with
    | cons head tail => exact .cons head (ih tail)

theorem Entries.Denote.forall₂ {more : Entries} {entries : List (String × Value)}
    (h : Entries.Denote more entries) :
    List.Forall₂ (Assoc.Related Tree.Denotes) (named more.members) entries := by
  induction entries generalizing more with
  | nil =>
    cases h
    exact .nil
  | cons e entries ih =>
    cases h with
    | cons hname head tail =>
      rw [Entries.members, hname]
      exact .cons ⟨rfl, head⟩ (ih tail)

/-- The map of a message and its members stand side by side. -/
theorem Tree.Holds.forall₂ {t : Tree} {members : Members} (h : t.Holds members) :
    List.Forall₂ (Assoc.Related Tree.Denotes) t.map members := by
  cases h with
  | empty inside => exact .nil
  | entries hentries => exact Assoc.forall₂_ofEntries hentries.forall₂

theorem values_itemTrees (vs : List Value) : (itemTrees vs).values = vs.map Value.tree := by
  induction vs with
  | nil => rfl
  | cons v vs ih => rw [itemTrees, Items.values, ih, List.map_cons]

theorem items_arrayTree (vs : List Value) : (Value.array vs).tree.items = vs.map Value.tree := by
  cases vs with
  | nil => rfl
  | cons v vs => exact values_itemTrees (v :: vs)

theorem named_memberTrees (members : Members) :
    named (memberTrees members).members = Assoc.mapValues Value.tree members := by
  induction members with
  | nil => rfl
  | cons e members ih =>
    rw [memberTrees, Entries.members, Key.text?_ofName]
    exact congrArg ((e.1, e.2.tree) :: ·) ih

/-- The map of a written object has its members, in their places. -/
theorem map_objectTree {members : Members} (h : (Assoc.keys members).Nodup) :
    (Value.object members).tree.map = Assoc.mapValues Value.tree members := by
  have hnamed : named (Value.object members).tree.members =
      Assoc.mapValues Value.tree members := by
    cases members with
    | nil => rfl
    | cons e members => exact named_memberTrees (e :: members)
  rw [Tree.map, hnamed, Assoc.ofEntries_eq_self (by rwa [Assoc.keys_mapValues])]

/-- A step to a member of a written object. -/
theorem child?_objectTree {members : Members} (hnodup : (Assoc.keys members).Nodup) {i : Nat}
    {name : String} {v : Value} (h : members[i]? = some (name, v)) :
    (Value.object members).tree.child? (.member i name) = some v.tree := by
  rw [Tree.child?_member, map_objectTree hnodup, Assoc.mapValues, List.getElem?_map, h]
  rfl

/-- A step to an item of a written array. -/
theorem child?_arrayTree {vs : List Value} {i : Nat} {v : Value} (h : vs[i]? = some v) :
    (Value.array vs).tree.child? (.item i) = some v.tree := by
  rw [Tree.child?, items_arrayTree, List.getElem?_map, h]
  rfl

/-- A step that leads to a member of a message leads to what is written of it. -/
theorem Tree.Holds.child_eq {t child : Tree} {members : Members} (h : t.Holds members) {i : Nat}
    {name : String} (hchild : t.child? (.member i name) = some child) :
    ∃ v, members[i]? = some (name, v) ∧ child.Denotes v := by
  obtain ⟨⟨_, v⟩, hget, rfl, hv⟩ :=
    exists_getElem?_of_forall₂ h.forall₂ (Tree.child?_member.mp hchild)
  exact ⟨v, hget, hv⟩

/-- In an object that has a string only, a step leads to the string. -/
theorem Tree.eq_of_child?_string {key : Key} {before after : List Blank} {pieces : List Piece}
    {step : Step} {child : Tree}
    (h : (Tree.object key before (.quoted pieces) after .nil).child? step = some child) :
    child = .quoted pieces := by
  cases step with
  | item i => cases h
  | member i name =>
    have hmem := Tree.mem_members_of_child? h
    obtain ⟨-, rfl⟩ := Prod.mk.inj (List.mem_singleton.mp hmem)
    rfl

/-- **A step into a value leads to what is written of the value there.**  Into a wrapper a step
leads to its string only. -/
theorem Tree.Denotes.child_eq {t child : Tree} {v : Value} (h : t.Denotes v) {step : Step}
    (hchild : t.child? step = some child) :
    (∃ u, child.Denotes u ∧ v.tree.child? step = some u.tree) ∨
      ∃ pieces, child = .quoted pieces := by
  cases h with
  | null | boolean | numeral | quoted | emptyArray | emptyObject => cases step <;> cases hchild
  | array items =>
    cases step with
    | item i =>
      obtain ⟨u, hget, hu⟩ := exists_getElem?_of_forall₂ items.forall₂ hchild
      exact Or.inl ⟨u, hu, child?_arrayTree hget⟩
    | member i name => cases hchild
  | object _ _ members =>
    cases step with
    | item i => cases hchild
    | member i name =>
      obtain ⟨u, hget, hu⟩ := (Tree.Holds.entries members).child_eq hchild
      exact Or.inl ⟨u, hu, child?_objectTree (Assoc.nodup_keys_ofEntries _) hget⟩
  | wrappedNumber | wrappedText => exact Or.inr ⟨_, Tree.eq_of_child?_string hchild⟩

/-! ## 3. Numbers in their places -/

/-- The exponent with a small letter and with a sign. -/
def Power.settled (p : Power) : Power :=
  { p with capital := false, sign := some (p.sign.getD false) }

/-- The number as it is written when it has been read: with another spelling of its exponent at
most. -/
def Numeral.settled (n : Numeral) : Numeral := { n with power := n.power.map Power.settled }

theorem Numeral.ofNumber_number_eq (n : Numeral) : ofNumber n.number = n.settled :=
  n.ofNumber_number

theorem Power.settled_eq_iff (p : Power) : p.settled = p ↔ p.capital = false ∧ p.sign ≠ none := by
  obtain ⟨capital, sign, first, more⟩ := p
  constructor
  · intro h
    obtain ⟨rfl, hsign, -⟩ := Power.mk.inj h
    exact ⟨rfl, hsign ▸ Option.some_ne_none _⟩
  · rintro ⟨rfl, hsign⟩
    obtain ⟨negative, rfl⟩ := Option.ne_none_iff_exists'.mp hsign
    rfl

/-- **Which numbers keep their characters**: those without an exponent, and those whose exponent
has a small letter and a sign. -/
theorem Numeral.chars_settled_iff (n : Numeral) :
    n.settled.chars = n.chars ↔ ∀ p ∈ n.power, p.capital = false ∧ p.sign ≠ none := by
  have hchars : n.settled.chars = n.chars ↔ n.power.map Power.settled = n.power := by
    refine ⟨fun h => ?_, fun h => ?_⟩
    · exact congrArg Numeral.power (chars_injective h)
    · rw [settled, h]
  rw [hchars]
  cases n.power with
  | none => exact iff_of_true rfl nofun
  | some p =>
    rw [Option.map_some, Option.some_inj, Power.settled_eq_iff]
    exact ⟨fun h _ hp => Option.some.inj hp ▸ h, fun h => h p rfl⟩

/-- **A number is written in its place.** -/
theorem Tree.Denotes.numeral_at {t : Tree} {v : Value} (h : t.Denotes v) {path : List Step}
    {n : Numeral} (hat : t.at? path = some (.numeral n)) :
    v.tree.at? path = some (.numeral n.settled) := by
  induction path generalizing t v with
  | nil =>
    obtain rfl := Option.some.inj hat
    cases h
    rw [Tree.at?, Value.tree, n.ofNumber_number_eq]
  | cons step path ih =>
    obtain ⟨child, hchild, hrest⟩ := Tree.exists_of_at?_cons hat
    obtain ⟨u, hu, hstep⟩ | ⟨pieces, rfl⟩ := h.child_eq hchild
    · rw [Tree.at?_cons hstep, ih hu hrest]
    · -- a string is no number, and no step leads into it
      cases path with
      | nil => cases hrest
      | cons step' path =>
        obtain ⟨_, hnone, -⟩ := Tree.exists_of_at?_cons hrest
        rw [Tree.child?_quoted] at hnone
        cases hnone

/-- A number in a message stands in the same place when the value of one name is replaced, if the
place is not inside that value. -/
theorem Tree.Holds.numeral_at {t : Tree} {members : Members} (h : t.Holds members) {key : String}
    (v : Value) (hkey : key ∈ Assoc.keys members) {path : List Step} {n : Numeral}
    (hat : t.at? path = some (.numeral n)) (hoff : ∀ i rest, path ≠ .member i key :: rest) :
    (Members.document (Assoc.put key v members)).tree.at? path = some (.numeral n.settled) := by
  have hnodup := h.regular.keys_nodup
  cases path with
  | nil => cases h <;> cases hat
  | cons step path =>
    obtain ⟨child, hchild, hrest⟩ := Tree.exists_of_at?_cons hat
    cases step with
    | item i => cases h <;> cases hchild
    | member i name =>
      have hname : name ≠ key := fun heq => hoff i path (heq ▸ rfl)
      obtain ⟨u, hget, hu⟩ := h.child_eq hchild
      have hput : (Assoc.put key v members)[i]? = some (name, u) := by
        rw [Assoc.put_of_mem hnodup hkey, Assoc.replace, List.getElem?_map, hget]
        exact congrArg some (if_neg hname)
      rw [Members.document, Tree.at?_cons (child?_objectTree (Assoc.nodup_keys_put hnodup) hput),
        hu.numeral_at hrest]

end BrokerBridge.Json
