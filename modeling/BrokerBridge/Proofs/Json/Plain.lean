import BrokerBridge.Proofs.Json.Writing

/-!
# Where the two readings agree

This library reads an object with a wrapper's key in front as what is in its string, and the plain
reading takes it for an object like any other.  Apart from that the two say the same.

* **`Tree.Denotes.plain?_eq`** and **`Tree.Holds.plain?_eq`**: where no wrapper is, the plain
  reading of a value is `Value.plain` of what it denotes.
* **`Members.Regular.plainReading`**: the plain reading of written members.
* `Tree.Denotes.depth_le`: where no text is wrapped, what is written of a value opens no more
  containers at a time than the value.
-/
namespace BrokerBridge.Json

/-! ## 1. What a value says -/

mutual

/-- What a value says. -/
def Value.plain : Value → Plain
  | .null => .null
  | .boolean b => .boolean b
  | .number n => .number n.value
  | .text s => .text s
  | .array items => .array (itemPlains items)
  | .object members => .object (memberPlains members)

/-- What items say. -/
def itemPlains : List Value → List Plain
  | [] => []
  | v :: rest => v.plain :: itemPlains rest

/-- What members say. -/
def memberPlains : List (String × Value) → List (String × Plain)
  | [] => []
  | (key, v) :: rest => (key, v.plain) :: memberPlains rest

end

theorem itemPlains_eq (vs : List Value) : itemPlains vs = vs.map Value.plain := by
  induction vs with
  | nil => rfl
  | cons v vs ih => rw [itemPlains, ih, List.map_cons]

theorem memberPlains_eq (members : Members) :
    memberPlains members = Assoc.mapValues Value.plain members := by
  induction members with
  | nil => rfl
  | cons e members ih =>
    rw [memberPlains, ih]
    rfl

/-! ## 2. The plain reading -/

section

variable {key : Key} {before after : List Blank} {first : Tree}

/-- An array says what its items say. -/
theorem Tree.plain?_array {more : Items} :
    (Tree.array before first after more).plain? =
      (Items.cons before first after more).plain?.map Plain.array := by
  rw [Tree.plain?, Items.plain?]
  cases first.plain? <;> cases more.plain? <;> rfl

/-- An object says what its members say, of members with one name the last. -/
theorem Tree.plain?_object {more : Entries} :
    (Tree.object key before first after more).plain? =
      (Entries.cons key before first after more).plain?.map fun entries =>
        .object (Assoc.ofEntries entries) := by
  rw [Tree.plain?, Entries.plain?]
  cases key.text? <;> cases first.plain? <;> cases more.plain? <;> rfl

end

mutual

/-- **Where no wrapper is, the plain reading is what the denoted value says.** -/
theorem Tree.Denotes.plain?_eq : ∀ {t : Tree} {v : Value}, t.Denotes v →
    (∀ n ∈ t.nodes, n.wrapper? = none) → t.plain? = some v.plain
  | _, _, .null, _ => rfl
  | _, _, .boolean b, _ => rfl
  | _, _, .numeral n, _ => rfl
  | _, _, .quoted hs, _ => by
    rw [Tree.plain?, hs]
    rfl
  | _, _, .emptyArray _, _ => rfl
  | _, _, .array items, hfree => by
    have hparts := (List.forall_mem_cons.mp hfree).2
    rw [Tree.plain?_array, Items.Denote.plain?_eq items hparts, Value.plain, itemPlains_eq]
    rfl
  | _, _, .emptyObject _, _ => rfl
  | _, _, .object _ _ members, hfree => by
    have hparts := (List.forall_mem_cons.mp hfree).2
    rw [Tree.plain?_object, Entries.Denote.plain?_eq members hparts, Value.plain, memberPlains_eq,
      Assoc.mapValues_ofEntries]
    rfl
  | _, _, .wrappedNumber hname _, hfree => by
    obtain ⟨hself, -⟩ := List.forall_mem_cons.mp hfree
    rw [Tree.wrapper?_object hname] at hself
    cases hself
  | _, _, .wrappedText hname _ _ _, hfree => by
    obtain ⟨hself, -⟩ := List.forall_mem_cons.mp hfree
    rw [Tree.wrapper?_object hname] at hself
    cases hself

theorem Items.Denote.plain?_eq : ∀ {more : Items} {vs : List Value}, Items.Denote more vs →
    (∀ n ∈ more.parts, n.wrapper? = none) → more.plain? = some (vs.map Value.plain)
  | _, _, .nil, _ => rfl
  | _, _, .cons head tail, hfree => by
    obtain ⟨hvalue, hrest⟩ := List.forall_mem_append.mp hfree
    rw [Items.plain?, Tree.Denotes.plain?_eq head hvalue, Items.Denote.plain?_eq tail hrest]
    rfl

theorem Entries.Denote.plain?_eq : ∀ {more : Entries} {entries : List (String × Value)},
    Entries.Denote more entries → (∀ n ∈ more.parts, n.wrapper? = none) →
    more.plain? = some (Assoc.mapValues Value.plain entries)
  | _, _, .nil, _ => rfl
  | _, _, .cons hname head tail, hfree => by
    obtain ⟨hvalue, hrest⟩ := List.forall_mem_append.mp hfree
    rw [Entries.plain?, hname, Tree.Denotes.plain?_eq head hvalue,
      Entries.Denote.plain?_eq tail hrest]
    rfl

end

/-- The plain reading of a message in which no wrapper is below the top level. -/
theorem Tree.Holds.plain?_eq {t : Tree} {members : Members} (h : t.Holds members)
    (hfree : ∀ n ∈ t.parts, n.wrapper? = none) :
    t.plain? = some (.object (Assoc.mapValues Value.plain members)) := by
  cases h with
  | empty inside => rfl
  | entries hentries =>
    rw [Tree.plain?_object, hentries.plain?_eq hfree, Assoc.mapValues_ofEntries]
    rfl

/-- **The plain reading of written members** is what each of them says. -/
theorem Members.Regular.plainReading {members : Members} (h : members.Regular) :
    PlainReading members.encode (Assoc.mapValues Value.plain members) := by
  refine ⟨members.document, h.bytes_document, h.holds_document.plain?_eq fun n hn => ?_⟩
  obtain ⟨u, hu, rfl⟩ := h.exists_of_mem_parts hn
  exact hu.wrapper?_tree

/-! ## 3. Depth -/

/-- A map of entries opens no more containers than the entries. -/
theorem depth_ofEntries_le {entries : List (String × Value)} {d : Nat}
    (h : ∀ e ∈ entries, (Value.tree e.2).depth ≤ d) :
    (Value.object (Assoc.ofEntries entries)).tree.depth ≤ d + 1 :=
  depth_objectTree_le_iff.mpr fun e he => h e (Assoc.subset_ofEntries entries he)

mutual

/-- Where no text is wrapped, writing a value does not make it deeper. -/
theorem Tree.Denotes.depth_le : ∀ {t : Tree} {v : Value}, t.Denotes v →
    (∀ n ∈ t.nodes, n.wrapper? ≠ some .text) → v.tree.depth ≤ t.depth
  | _, _, .null, _ => Nat.le_refl 0
  | _, _, .boolean b, _ => Nat.le_refl 0
  | _, _, .numeral n, _ => Nat.le_refl 0
  | _, _, .quoted _, _ => Nat.le_refl 0
  | _, _, .emptyArray _, _ => Nat.le_refl 1
  | _, _, .array items, hfree =>
    depth_arrayTree_le_iff.mpr (Items.Denote.depth_le items (List.forall_mem_cons.mp hfree).2)
  | _, _, .emptyObject _, _ => Nat.le_refl 1
  | _, _, .object _ _ members, hfree =>
    depth_ofEntries_le (Entries.Denote.depth_le members (List.forall_mem_cons.mp hfree).2)
  | _, _, .wrappedNumber _ _, _ => Nat.zero_le _
  | _, _, .wrappedText hname _ _ _, hfree => by
    obtain ⟨hself, -⟩ := List.forall_mem_cons.mp hfree
    exact absurd (Tree.wrapper?_object hname) hself

theorem Items.Denote.depth_le : ∀ {more : Items} {vs : List Value}, Items.Denote more vs →
    (∀ n ∈ more.parts, n.wrapper? ≠ some .text) → ∀ v ∈ vs, v.tree.depth ≤ more.depth
  | _, _, .nil, _ => nofun
  | _, _, .cons head tail, hfree => by
    obtain ⟨hvalue, hrest⟩ := List.forall_mem_append.mp hfree
    refine List.forall_mem_cons.mpr ⟨?_, fun v hv => ?_⟩
    · exact Nat.le_trans (Tree.Denotes.depth_le head hvalue) (Nat.le_max_left _ _)
    · exact Nat.le_trans (Items.Denote.depth_le tail hrest v hv) (Nat.le_max_right _ _)

theorem Entries.Denote.depth_le : ∀ {more : Entries} {entries : List (String × Value)},
    Entries.Denote more entries → (∀ n ∈ more.parts, n.wrapper? ≠ some .text) →
    ∀ e ∈ entries, (Value.tree e.2).depth ≤ more.depth
  | _, _, .nil, _ => nofun
  | _, _, .cons hname head tail, hfree => by
    obtain ⟨hvalue, hrest⟩ := List.forall_mem_append.mp hfree
    refine List.forall_mem_cons.mpr ⟨?_, fun e he => ?_⟩
    · exact Nat.le_trans (Tree.Denotes.depth_le head hvalue) (Nat.le_max_left _ _)
    · exact Nat.le_trans (Entries.Denote.depth_le tail hrest e he) (Nat.le_max_right _ _)

end

/-- The document of what a message holds, where no text is wrapped below the top level. -/
theorem Tree.Holds.depth_le {t : Tree} {members : Members} (h : t.Holds members)
    (hfree : ∀ n ∈ t.parts, n.wrapper? ≠ some .text) : members.document.tree.depth ≤ t.depth := by
  cases h with
  | empty inside => exact Nat.le_refl 1
  | entries hentries => exact depth_ofEntries_le (hentries.depth_le hfree)

/-- A string in the place of a member, or behind all of them, makes members no deeper. -/
theorem depth_document_put_le {members : Members} {d : Nat} (key s : String)
    (h : members.document.tree.depth ≤ d + 1) :
    (Members.document (Assoc.put key (.text s) members)).tree.depth ≤ d + 1 := by
  refine depth_objectTree_le_iff.mpr fun e he => ?_
  obtain rfl | hmem := Assoc.eq_or_mem_of_mem_put he
  · exact Nat.zero_le d
  · exact depth_objectTree_le_iff.mp h e hmem

end BrokerBridge.Json
