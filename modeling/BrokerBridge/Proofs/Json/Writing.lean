import BrokerBridge.Proofs.Assoc
import BrokerBridge.Proofs.Json.Reading

/-!
# Writing a JSON value

The writer, against the grammar.  A value is written as a tree (`Value.tree`) without white space,
and what a reading gives is `Value.Regular`: its numbers are numerals, and no object in it has a key
twice or a wrapper's key in front.  Regular values are the ones on which writing and reading agree.

* **`Value.Regular.chars_tree`** and **`Value.Regular.denotes_tree`**: a regular value is written as
  its tree, and its tree stands for it.
* **`Tree.Denotes.regular`**: what a tree stands for is regular.
* `Value.Regular.exists_of_mem_nodes`: each place in the tree of a regular value is the tree of a
  regular value, so what holds of all such trees holds at every depth.
* `Members.Regular.bytes_document` and the lemmas after it: the bytes of an object are those of a
  document without white space and without a name twice, which holds its members.
-/
namespace BrokerBridge.Json

/-! ## 1. Numbers -/

/-- The whole part that some digits write. -/
def Whole.ofList : List Digit → Whole
  | [] => .zero
  | d :: ds => if h : d = 0 then .zero else .digits d h ds

theorem Whole.ofList_toList (w : Whole) : Whole.ofList w.toList = w := by
  cases w with
  | zero => rfl
  | digits first hne more => exact dif_neg hne

/-- The exponent as it is written: with a small letter and with a sign. -/
def Power.ofExponent (e : Exponent) : Power :=
  ⟨false, some e.negative, e.digits.headD 0, e.digits.tail⟩

/-- The numeral that a number is written as. -/
def Numeral.ofNumber (n : Number) : Numeral where
  minus := n.negative
  whole := .ofList n.whole
  fraction := n.fraction.head?.map fun first => (first, n.fraction.tail)
  power := n.exponent.map Power.ofExponent

theorem Numeral.fraction_eq (f : Option (Digit × List Digit)) :
    (fractionDigits f).head?.map (fun first => (first, (fractionDigits f).tail)) = f := by
  cases f <;> rfl

theorem Numeral.ofNumber_number (m : Numeral) :
    ofNumber m.number =
      { m with power := m.power.map fun p => Power.ofExponent p.exponent } := by
  obtain ⟨minus, whole, fraction, power⟩ := m
  simp only [ofNumber, number, Whole.ofList_toList, fraction_eq, Option.map_map]
  rfl

/-- A number that a numeral writes is written as a numeral of that number. -/
theorem Numeral.number_ofNumber (m : Numeral) : (ofNumber m.number).number = m.number := by
  rw [ofNumber_number]
  obtain ⟨minus, whole, fraction, _ | ⟨capital, _ | _ | _, first, more⟩⟩ := m <;> rfl

/-- The numeral has the characters that are written for the number. -/
theorem Numeral.chars_ofNumber (m : Numeral) : (ofNumber m.number).chars = m.number.chars := by
  rw [ofNumber_number]
  obtain ⟨minus, whole, fraction, _ | ⟨capital, _ | _ | _, first, more⟩⟩ := m <;> rfl

/-! ## 2. Regular values -/

/-- A value as a reading gives it. -/
inductive Value.Regular : Value → Prop where
  | null : Regular .null
  | boolean (b : Bool) : Regular (.boolean b)
  | number (m : Numeral) : Regular (.number m.number)
  | text (s : String) : Regular (.text s)
  | array {items : List Value} (hitems : ∀ v ∈ items, Regular v) : Regular (.array items)
  | object {members : Members} (hkeys : (Assoc.keys members).Nodup)
      (hplain : ∀ key ∈ (Assoc.keys members).head?, Wrapper.ofKey? key = none)
      (hvalues : ∀ e ∈ members, Regular e.2) : Regular (.object members)

/-- The members of a message as a reading gives them.  In front of them may stand any key. -/
structure Members.Regular (members : Members) : Prop where
  keys_nodup : (Assoc.keys members).Nodup
  values : ∀ e ∈ members, Value.Regular e.2

/-- A map of entries with regular values is regular. -/
theorem Members.regular_ofEntries {entries : List (String × Value)}
    (h : ∀ e ∈ entries, Value.Regular e.2) : Members.Regular (Assoc.ofEntries entries) where
  keys_nodup := Assoc.nodup_keys_ofEntries entries
  values e he := h e (Assoc.subset_ofEntries entries he)

/-- A write of a regular value keeps members regular. -/
theorem Members.Regular.put {members : Members} (h : members.Regular) {v : Value}
    (hv : v.Regular) (key : String) : Members.Regular (Assoc.put key v members) where
  keys_nodup := Assoc.nodup_keys_put h.keys_nodup
  values e he := by
    obtain rfl | hmem := Assoc.eq_or_mem_of_mem_put he
    · exact hv
    · exact h.values e hmem

mutual

/-- What a tree stands for is regular. -/
theorem Tree.Denotes.regular : ∀ {t : Tree} {v : Value}, t.Denotes v → v.Regular
  | _, _, .null => .null
  | _, _, .boolean b => .boolean b
  | _, _, .numeral n => .number n
  | _, _, .quoted _ => .text _
  | _, _, .emptyArray _ => .array nofun
  | _, _, .array items => .array (Items.Denote.regular items)
  | _, _, .emptyObject _ => .object List.nodup_nil nofun nofun
  | _, _, .object hname hplain members => by
    have hregular := Members.regular_ofEntries (Entries.Denote.regular members)
    refine .object hregular.keys_nodup ?_ hregular.values
    -- the first key of the map is the name in front of the object, which is no wrapper's
    obtain _ | ⟨hname', _, _⟩ := members
    obtain rfl := Option.some.inj (hname.symm.trans hname')
    intro key hkey
    rw [Assoc.head?_keys_ofEntries] at hkey
    obtain rfl := Option.some.inj hkey
    exact hplain
  | _, _, .wrappedNumber (n := n) _ _ => .number n
  | _, _, .wrappedText _ _ _ inner => Tree.Denotes.regular inner

theorem Items.Denote.regular : ∀ {more : Items} {vs : List Value}, Items.Denote more vs →
    ∀ v ∈ vs, v.Regular
  | _, _, .nil => nofun
  | _, _, .cons head tail =>
    List.forall_mem_cons.mpr ⟨Tree.Denotes.regular head, Items.Denote.regular tail⟩

theorem Entries.Denote.regular : ∀ {more : Entries} {entries : List (String × Value)},
    Entries.Denote more entries → ∀ e ∈ entries, Value.Regular e.2
  | _, _, .nil => nofun
  | _, _, .cons _ head tail =>
    List.forall_mem_cons.mpr ⟨Tree.Denotes.regular head, Entries.Denote.regular tail⟩

end

/-! ## 3. The tree of a value -/

/-- The name of a member as it is written. -/
def Key.ofName (name : String) : Key := ⟨[], quotedPieces name, []⟩

theorem Key.text?_ofName (name : String) : (Key.ofName name).text? = some name :=
  text?_quotedPieces name

mutual

/-- The tree that a value is written as. -/
def Value.tree : Value → Tree
  | .null => .null
  | .boolean b => .boolean b
  | .number n => .numeral (.ofNumber n)
  | .text s => .quoted (quotedPieces s)
  | .array [] => .emptyArray []
  | .array (v :: rest) => .array [] v.tree [] (itemTrees rest)
  | .object [] => .emptyObject []
  | .object ((key, v) :: rest) => .object (.ofName key) [] v.tree [] (memberTrees rest)

/-- The trees of further items. -/
def itemTrees : List Value → Items
  | [] => .nil
  | v :: rest => .cons [] v.tree [] (itemTrees rest)

/-- The trees of further members. -/
def memberTrees : List (String × Value) → Entries
  | [] => .nil
  | (key, v) :: rest => .cons (.ofName key) [] v.tree [] (memberTrees rest)

end

/-! ### Its characters -/

theorem chars_itemTrees {vs : List Value} (h : ∀ v ∈ vs, v.tree.chars = v.chars) :
    (itemTrees vs).chars = (if vs.isEmpty then [] else [',']) ++ itemChars vs := by
  induction vs with
  | nil => rfl
  | cons v vs ih =>
    obtain ⟨hv, hvs⟩ := List.forall_mem_cons.mp h
    simp only [itemTrees, Items.chars, hv, ih hvs, itemChars, blankChars, List.map_nil,
      List.append_nil, List.isEmpty_cons, Bool.false_eq_true, if_false, List.append_assoc,
      List.cons_append, List.nil_append]

theorem chars_keyOfName (name : String) : (Key.ofName name).chars = textChars name := by
  simp only [Key.chars, Key.ofName, blankChars, List.map_nil, List.nil_append, List.append_nil,
    quotedChars_quotedPieces]

theorem chars_memberTrees {members : Members} (h : ∀ e ∈ members, e.2.tree.chars = e.2.chars) :
    (memberTrees members).chars =
      (if members.isEmpty then [] else [',']) ++ memberChars members := by
  induction members with
  | nil => rfl
  | cons e members ih =>
    obtain ⟨hv, hmembers⟩ := List.forall_mem_cons.mp h
    simp only [memberTrees, Entries.chars, hv, ih hmembers, memberChars, chars_keyOfName,
      blankChars, List.map_nil, List.append_nil, List.isEmpty_cons, Bool.false_eq_true, if_false,
      List.append_assoc, List.cons_append, List.nil_append]

theorem chars_arrayTree {vs : List Value} (h : ∀ v ∈ vs, v.tree.chars = v.chars) :
    (Value.array vs).tree.chars = (Value.array vs).chars := by
  cases vs with
  | nil => rfl
  | cons v vs =>
    obtain ⟨hv, hvs⟩ := List.forall_mem_cons.mp h
    simp only [Value.tree, Tree.chars, hv, chars_itemTrees hvs, Value.chars, itemChars, blankChars,
      List.map_nil, List.append_nil, List.append_assoc, List.cons_append, List.nil_append]

theorem chars_objectTree {members : Members} (h : ∀ e ∈ members, e.2.tree.chars = e.2.chars) :
    (Value.object members).tree.chars = (Value.object members).chars := by
  cases members with
  | nil => rfl
  | cons e members =>
    obtain ⟨hv, hmembers⟩ := List.forall_mem_cons.mp h
    simp only [Value.tree, Tree.chars, hv, chars_memberTrees hmembers, Value.chars, memberChars,
      chars_keyOfName, blankChars, List.map_nil, List.append_nil, List.append_assoc,
      List.cons_append, List.nil_append]

/-- **A regular value is written as its tree.** -/
theorem Value.Regular.chars_tree {v : Value} (h : v.Regular) : v.tree.chars = v.chars := by
  induction h with
  | null => rfl
  | boolean b => cases b <;> rfl
  | number m => exact m.chars_ofNumber
  | text s => exact quotedChars_quotedPieces s
  | array _ ih => exact chars_arrayTree ih
  | object _ _ _ ih => exact chars_objectTree ih

/-! ### Its reading -/

theorem denote_itemTrees {vs : List Value} (h : ∀ v ∈ vs, v.tree.Denotes v) :
    Items.Denote (itemTrees vs) vs := by
  induction vs with
  | nil => exact .nil
  | cons v vs ih =>
    obtain ⟨hv, hvs⟩ := List.forall_mem_cons.mp h
    exact .cons hv (ih hvs)

theorem denote_memberTrees {members : Members} (h : ∀ e ∈ members, e.2.tree.Denotes e.2) :
    Entries.Denote (memberTrees members) members := by
  induction members with
  | nil => exact .nil
  | cons e members ih =>
    obtain ⟨hv, hmembers⟩ := List.forall_mem_cons.mp h
    exact .cons (Key.text?_ofName e.1) hv (ih hmembers)

/-- The tree of an object is a wrapper exactly when its first key is the key of one. -/
theorem wrapper?_objectTree (members : Members) :
    (Value.object members).tree.wrapper? = (Assoc.keys members).head?.bind Wrapper.ofKey? := by
  cases members with
  | nil => rfl
  | cons e members => exact Tree.wrapper?_object (Key.text?_ofName e.1)

/-- The tree of members with distinct keys holds them, where their trees stand for them. -/
theorem holds_objectTree {members : Members} (hkeys : (Assoc.keys members).Nodup)
    (h : ∀ e ∈ members, e.2.tree.Denotes e.2) : (Value.object members).tree.Holds members := by
  cases members with
  | nil => exact .empty []
  | cons e members =>
    obtain ⟨hv, hmembers⟩ := List.forall_mem_cons.mp h
    have hentries : Entries.Denote (.cons (.ofName e.1) [] e.2.tree [] (memberTrees members))
        (e :: members) :=
      .cons (Key.text?_ofName e.1) hv (denote_memberTrees hmembers)
    have hholds := Tree.Holds.entries hentries
    rwa [Assoc.ofEntries_eq_self hkeys] at hholds

/-- **The tree of a regular value stands for it.** -/
theorem Value.Regular.denotes_tree {v : Value} (h : v.Regular) : v.tree.Denotes v := by
  induction h with
  | null => exact .null
  | boolean b => exact .boolean b
  | number m =>
    have hdenotes := Tree.Denotes.numeral (Numeral.ofNumber m.number)
    rwa [m.number_ofNumber] at hdenotes
  | text s => exact .quoted (text?_quotedPieces s)
  | @array items _ ih =>
    cases items with
    | nil => exact .emptyArray []
    | cons v items =>
      obtain ⟨hv, hitems⟩ := List.forall_mem_cons.mp ih
      exact .array (.cons hv (denote_itemTrees hitems))
  | @object members hkeys hplain _ ih =>
    refine (holds_objectTree hkeys ih).denotes ?_
    rw [wrapper?_objectTree, Option.bind_eq_none_iff]
    exact hplain

/-! ### The places in it -/

theorem exists_of_mem_itemTrees {vs : List Value} {n : Tree} (hn : n ∈ (itemTrees vs).parts) :
    ∃ v ∈ vs, n ∈ v.tree.nodes := by
  induction vs with
  | nil => cases hn
  | cons v vs ih =>
    obtain hn | hn := List.mem_append.mp hn
    · exact ⟨v, List.mem_cons_self, hn⟩
    · obtain ⟨u, hu, hn⟩ := ih hn
      exact ⟨u, List.mem_cons_of_mem _ hu, hn⟩

theorem exists_of_mem_memberTrees {members : Members} {n : Tree}
    (hn : n ∈ (memberTrees members).parts) : ∃ e ∈ members, n ∈ e.2.tree.nodes := by
  induction members with
  | nil => cases hn
  | cons e members ih =>
    obtain hn | hn := List.mem_append.mp hn
    · exact ⟨e, List.mem_cons_self, hn⟩
    · obtain ⟨d, hd, hn⟩ := ih hn
      exact ⟨d, List.mem_cons_of_mem _ hd, hn⟩

theorem exists_of_mem_objectTree {members : Members} {n : Tree}
    (hn : n ∈ (Value.object members).tree.parts) : ∃ e ∈ members, n ∈ e.2.tree.nodes := by
  cases members with
  | nil => cases hn
  | cons e members =>
    have hparts : n ∈ (memberTrees (e :: members)).parts := hn
    exact exists_of_mem_memberTrees hparts

theorem exists_of_mem_arrayTree {vs : List Value} {n : Tree}
    (hn : n ∈ (Value.array vs).tree.parts) : ∃ v ∈ vs, n ∈ v.tree.nodes := by
  cases vs with
  | nil => cases hn
  | cons v vs =>
    have hparts : n ∈ (itemTrees (v :: vs)).parts := hn
    exact exists_of_mem_itemTrees hparts

/-- **Each place in the tree of a regular value is the tree of a regular value.** -/
theorem Value.Regular.exists_of_mem_nodes {v : Value} (h : v.Regular) {n : Tree}
    (hn : n ∈ v.tree.nodes) : ∃ u : Value, u.Regular ∧ u.tree = n := by
  induction h with
  | null => exact ⟨_, .null, (List.mem_singleton.mp hn).symm⟩
  | boolean b => exact ⟨_, .boolean b, (List.mem_singleton.mp hn).symm⟩
  | number m => exact ⟨_, .number m, (List.mem_singleton.mp hn).symm⟩
  | text s => exact ⟨_, .text s, (List.mem_singleton.mp hn).symm⟩
  | array hitems ih =>
    obtain rfl | hn := List.mem_cons.mp hn
    · exact ⟨_, .array hitems, rfl⟩
    · obtain ⟨v, hv, hn⟩ := exists_of_mem_arrayTree hn
      exact ih v hv hn
  | object hkeys hplain hvalues ih =>
    obtain rfl | hn := List.mem_cons.mp hn
    · exact ⟨_, .object hkeys hplain hvalues, rfl⟩
    · obtain ⟨e, he, hn⟩ := exists_of_mem_objectTree hn
      exact ih e he hn

theorem Members.Regular.exists_of_mem_parts {members : Members} (h : members.Regular) {n : Tree}
    (hn : n ∈ (Value.object members).tree.parts) : ∃ u : Value, u.Regular ∧ u.tree = n := by
  obtain ⟨e, he, hn⟩ := exists_of_mem_objectTree hn
  exact (h.values e he).exists_of_mem_nodes hn

/-- No object that is written for a regular value is a wrapper. -/
theorem Value.Regular.wrapper?_tree {v : Value} (h : v.Regular) : v.tree.wrapper? = none := by
  cases h with
  | null | boolean | number | text => rfl
  | @array items _ => cases items <;> rfl
  | object _ hplain _ => rwa [wrapper?_objectTree, Option.bind_eq_none_iff]

theorem blanks_itemTrees (vs : List Value) : ∀ ws ∈ (itemTrees vs).blanks, ws = [] := by
  induction vs with
  | nil => exact nofun
  | cons v vs ih =>
    exact List.forall_mem_cons.mpr ⟨rfl, List.forall_mem_cons.mpr ⟨rfl, ih⟩⟩

theorem blanks_memberTrees (members : Members) :
    ∀ ws ∈ (memberTrees members).blanks, ws = [] := by
  induction members with
  | nil => exact nofun
  | cons e members ih =>
    simp only [memberTrees, Entries.blanks, Key.ofName, List.forall_mem_cons, true_and]
    exact ih

/-- No white space is written. -/
theorem Value.blanks_tree (v : Value) : ∀ ws ∈ v.tree.blanks, ws = [] := by
  cases v with
  | null | boolean | number | text => exact nofun
  | array items =>
    cases items with
    | nil => exact List.forall_mem_singleton.mpr rfl
    | cons v items => exact blanks_itemTrees (v :: items)
  | object members =>
    cases members with
    | nil => exact List.forall_mem_singleton.mpr rfl
    | cons e members => exact blanks_memberTrees (e :: members)

theorem names_memberTrees (members : Members) :
    (memberTrees members).members.map Prod.fst = (Assoc.keys members).map some := by
  induction members with
  | nil => rfl
  | cons e members ih =>
    rw [memberTrees, Entries.members, List.map_cons, Key.text?_ofName, ih]
    rfl

theorem names_objectTree (members : Members) :
    (Value.object members).tree.members.map Prod.fst = (Assoc.keys members).map some := by
  cases members with
  | nil => rfl
  | cons e members => exact names_memberTrees (e :: members)

/-- Members with distinct keys are written with distinct names. -/
theorem nodup_names_objectTree {members : Members} (h : (Assoc.keys members).Nodup) :
    ((Value.object members).tree.members.map Prod.fst).Nodup := by
  rw [names_objectTree]
  exact List.Pairwise.map some (fun _ _ hne heq => hne (Option.some.inj heq)) h

theorem Value.Regular.nodup_names {v : Value} (h : v.Regular) :
    (v.tree.members.map Prod.fst).Nodup := by
  cases h with
  | null | boolean | number | text => exact List.nodup_nil
  | @array items _ => cases items <;> exact List.nodup_nil
  | object hkeys _ _ => exact nodup_names_objectTree hkeys

theorem Value.Regular.compact_tree {v : Value} (h : v.Regular) : v.tree.Compact := by
  intro n hn
  obtain ⟨u, -, rfl⟩ := h.exists_of_mem_nodes hn
  exact u.blanks_tree

/-! ### Its depth -/

theorem depth_itemTrees_le_iff {vs : List Value} {d : Nat} :
    (itemTrees vs).depth ≤ d ↔ ∀ v ∈ vs, v.tree.depth ≤ d := by
  induction vs with
  | nil => exact ⟨fun _ => nofun, fun _ => Nat.zero_le d⟩
  | cons v vs ih => rw [itemTrees, Items.depth, Nat.max_le, ih, List.forall_mem_cons]

theorem depth_memberTrees_le_iff {members : Members} {d : Nat} :
    (memberTrees members).depth ≤ d ↔ ∀ e ∈ members, e.2.tree.depth ≤ d := by
  induction members with
  | nil => exact ⟨fun _ => nofun, fun _ => Nat.zero_le d⟩
  | cons e members ih => rw [memberTrees, Entries.depth, Nat.max_le, ih, List.forall_mem_cons]

/-- An array is one level deeper than its items. -/
theorem depth_arrayTree_le_iff {vs : List Value} {d : Nat} :
    (Value.array vs).tree.depth ≤ d + 1 ↔ ∀ v ∈ vs, v.tree.depth ≤ d := by
  cases vs with
  | nil => exact ⟨fun _ => nofun, fun _ => Nat.le_add_left 1 d⟩
  | cons v vs =>
    rw [Value.tree, Tree.depth, Nat.add_le_add_iff_right, ← depth_itemTrees_le_iff]
    rfl

/-- An object is one level deeper than its members. -/
theorem depth_objectTree_le_iff {members : Members} {d : Nat} :
    (Value.object members).tree.depth ≤ d + 1 ↔ ∀ e ∈ members, e.2.tree.depth ≤ d := by
  cases members with
  | nil => exact ⟨fun _ => nofun, fun _ => Nat.le_add_left 1 d⟩
  | cons e members =>
    rw [Value.tree, Tree.depth, Nat.add_le_add_iff_right, ← depth_memberTrees_le_iff]
    rfl

/-! ## 4. The text of an object -/

/-- The document that members are written as. -/
def Members.document (members : Members) : Document := ⟨[], (Value.object members).tree, []⟩

theorem Members.Regular.chars_tree {members : Members} (h : members.Regular) :
    (Value.object members).tree.chars = (Value.object members).chars :=
  chars_objectTree fun e he => (h.values e he).chars_tree

/-- **The bytes of members are those of their document.** -/
theorem Members.Regular.bytes_document {members : Members} (h : members.Regular) :
    members.document.bytes = members.encode := by
  rw [Document.bytes, Document.chars, document, blankChars, List.map_nil, List.nil_append,
    List.append_nil, h.chars_tree]
  rfl

/-- The document of members holds them. -/
theorem Members.Regular.holds_document {members : Members} (h : members.Regular) :
    members.document.tree.Holds members :=
  holds_objectTree h.keys_nodup fun e he => (h.values e he).denotes_tree

/-- Members are written without white space. -/
theorem Members.Regular.compact_document {members : Members} (h : members.Regular) :
    members.document.tree.Compact := by
  refine List.forall_mem_cons.mpr ⟨(Value.object members).blanks_tree, fun n hn => ?_⟩
  obtain ⟨u, -, rfl⟩ := h.exists_of_mem_parts hn
  exact u.blanks_tree

/-- No object in written members has two members with one name. -/
theorem Members.Regular.namesDistinct_document {members : Members} (h : members.Regular) :
    members.document.tree.NamesDistinct := by
  refine List.forall_mem_cons.mpr ⟨nodup_names_objectTree h.keys_nodup, fun n hn => ?_⟩
  obtain ⟨u, hu, rfl⟩ := h.exists_of_mem_parts hn
  exact hu.nodup_names

/-- What a message holds is regular. -/
theorem Tree.Holds.regular {t : Tree} {members : Members} (h : t.Holds members) :
    members.Regular := by
  cases h with
  | empty _ => exact ⟨List.nodup_nil, nofun⟩
  | entries hentries => exact Members.regular_ofEntries hentries.regular

end BrokerBridge.Json
