import BrokerBridge.Json.Record
import BrokerBridge.Proofs.Json.Places
import BrokerBridge.Proofs.Json.Skipping

/-!
# Reading a JSON record

The readers of records, against the grammar.  `Takes value t a` says that a reader takes a tree to
be `a`, whatever stands around it; strings, lists and records each get it from their parts.

An object names its fields in any order and may have others.  What its draft is when some fields
have come does not depend on the order, so a proof about a `Shape` gives the drafts by the names
that have come (`Shape.Follows`), and **`Shape.takes_read`** does the rest.

Only objects without a name twice are taken here.  A field that comes twice is a fault of the
reader, but other names may well come twice in a text.
-/
namespace BrokerBridge.Json

/-! ## 1. Single values and lists -/

/-- A reader takes a value as written to be `a`, wherever it stands. -/
def Takes {α : Type} (value : Reader α) (t : Tree) (a : α) : Prop :=
  ∀ (ws : List Blank) {rest : Bytes}, Delimited rest →
    value (blankBytes ws ++ (t.bytes ++ rest)) = .ok (a, rest)

theorem Takes.front {α : Type} {value : Reader α} {t : Tree} {a : α} (h : Takes value t a)
    {rest : Bytes} (hrest : Delimited rest) : value (t.bytes ++ rest) = .ok (a, rest) := h [] hrest

/-- A reader that takes the value of a text takes the text. -/
theorem Takes.readWholeText {α : Type} {value : Reader α} {doc : Document} {a : α}
    (h : Takes value doc.tree a) : Json.readWholeText value doc.bytes = .ok a := by
  rw [Document.bytes_eq]
  exact readWholeText_eq_ok_iff.mpr ⟨doc.after, h doc.before (delimited_blanks doc.after)⟩

theorem takes_readTextAs {pieces : List Piece} {s : String} (h : text? pieces = some s)
    (expected : String) : Takes (readTextAs expected) (.quoted pieces) s := fun ws rest _ => by
  have hblank : isBlank 0x22 = false := rfl
  have hquote : mark 0x22 = .quote := rfl
  simp only [readTextAs, readExpectedText, skipBlanks_append, Tree.bytes_quoted, quotedBytes,
    List.cons_append, List.append_assoc, List.nil_append, skipBlanks_cons hblank, if_pos hquote,
    readText_pieces h]

/-- A slot stores what its reader takes. -/
theorem Takes.slot {α σ : Type} {value : Reader α} {t : Tree} {a : α} (h : Takes value t a)
    (name : String) (store : σ → α → σ) (draft : σ) :
    Takes ((Slot.of name value store).read draft) t (store draft a) := fun ws rest hrest => by
  simp only [Slot.of, h ws hrest]
  rfl

/-- Whether a value is an array. -/
def Tree.IsArray : Tree → Prop
  | .emptyArray _ | .array .. => True
  | _ => False

section

variable {α : Type} {item : Reader α} {rest : Bytes}

/-- Further items are read as what they are taken to be: every item takes a byte of the text, and
one of the fuel. -/
theorem items_of_forall₂ : ∀ {more : Items} {as : List α} (ws : List Blank) {fuel : Nat},
    List.Forall₂ (Takes item) more.values as →
      (blankBytes ws ++ (more.bytes ++ 0x5D :: rest)).length < fuel →
      brackets.items item fuel false (blankBytes ws ++ (more.bytes ++ 0x5D :: rest)) =
        .ok (as, rest)
  | _, _, _, 0, _, hfuel => absurd hfuel (Nat.not_lt_zero _)
  | .nil, _, ws, fuel + 1, .nil, _ => by
    have hturn : brackets.turn false (blankBytes ws ++ (Items.nil.bytes ++ 0x5D :: rest)) =
        .ok (.close rest) := Enclosure.turn_close rfl rfl ws rest
    rw [Enclosure.items, hturn]
  | .cons before t after more, _, ws, fuel + 1, .cons ht has, hfuel => by
    obtain ⟨b, tail, hhead, hblank, hclose, -⟩ := t.exists_head
    have hturn := Enclosure.turn_comma (e := brackets) (by decide) hclose hblank ws before
      (tail ++ (blankBytes after ++ (more.bytes ++ 0x5D :: rest)))
    have hitem := ht.front (delimited_blanks_append after (delimited_items more rest))
    have hmore := @items_of_forall₂ more _ after fuel has (by
      simp only [Items.bytes_cons, List.length_append, List.length_cons] at hfuel ⊢
      omega)
    rw [hhead, List.cons_append] at hitem
    simp only [Items.bytes_cons, hhead, List.cons_append, List.append_assoc, Enclosure.items,
      hturn, hitem]
    exact congrArg (Except.map _) hmore

/-- An array is taken as a list when its items are taken as the items of that. -/
theorem takes_readList {t : Tree} {as : List α} (ht : t.IsArray)
    (h : List.Forall₂ (Takes item) t.items as) : Takes (readList item) t as :=
  fun ws rest hrest => by
    have hblank : isBlank 0x5B = false := rfl
    have hbracket : mark 0x5B = .openBracket := rfl
    cases t with
    | null | boolean | numeral | quoted | emptyObject | object => cases ht
    | emptyArray inside =>
      obtain _ | _ := h
      have hread : brackets.readItems item (blankBytes inside ++ 0x5D :: rest) = .ok ([], rest) :=
        Enclosure.readItems_close (Enclosure.turn_close rfl rfl inside rest)
      simp only [readList, withFirst, skipBlanks_append, Tree.bytes_emptyArray, List.cons_append,
        List.append_assoc, List.nil_append, skipBlanks_cons hblank, if_pos hbracket, hread]
    | array before first after more =>
      obtain _ | ⟨hfirst, has⟩ := h
      obtain ⟨b, tail, hhead, hblank', hclose, -⟩ := first.exists_head
      have hturn := Enclosure.turn_first (e := brackets) hclose hblank' before
        (tail ++ (blankBytes after ++ (more.bytes ++ 0x5D :: rest)))
      have hitem := hfirst.front (delimited_blanks_append after (delimited_items more rest))
      rw [hhead, List.cons_append] at hitem
      simp only [readList, withFirst, skipBlanks_append, Tree.bytes_array, List.cons_append,
        List.append_assoc, List.nil_append, skipBlanks_cons hblank, if_pos hbracket, hhead,
        Enclosure.readItems, Enclosure.items, hturn, hitem]
      exact congrArg (Except.map _) (items_of_forall₂ after has (by
        simp only [List.length_append, List.length_cons]
        omega))

end

/-! ## 2. Fields -/

/-- An object whose names are texts, none of them twice. -/
structure Tree.IsRecord (t : Tree) : Prop where
  isObject : t.IsObject
  paired : ∀ m ∈ t.members, m.1.isSome
  distinct : (t.members.map Prod.fst).Nodup

namespace Shape

variable {σ α : Type} {shape : Shape σ α} {draft : List String → σ} {seen : List String}
  {name : String} {rest : Bytes}

/-- The names that have come, with one more if it is the name of a field. -/
def seeing (shape : Shape σ α) (seen : List String) (name : String) : List String :=
  match shape.slots.find? fun slot => slot.name = name with
  | none => seen
  | some _ => name :: seen

/-- Whatever fields have come, the value of one more gives the draft with that field. -/
def Follows (shape : Shape σ α) (draft : List String → σ)
    (members : List (Option String × Tree)) : Prop :=
  ∀ slot ∈ shape.slots, ∀ t, (some slot.name, t) ∈ members → ∀ seen, slot.name ∉ seen →
    Takes (slot.read (draft seen)) t (draft (slot.name :: seen))

theorem mem_of_mem_seeing {other : String} (h : other ∈ shape.seeing seen name) :
    other = name ∨ other ∈ seen := by
  unfold seeing at h
  split at h
  · exact Or.inr h
  · exact List.mem_cons.mp h

/-- Of the fields those have come that are among the names. -/
theorem mem_foldl_seeing {slot : Slot σ} (hslot : slot ∈ shape.slots) (names : List String) :
    slot.name ∈ names.foldl shape.seeing seen ↔ slot.name ∈ names ∨ slot.name ∈ seen := by
  induction names generalizing seen with
  | nil => simp
  | cons name names ih =>
    have hseeing : slot.name ∈ shape.seeing seen name ↔ slot.name = name ∨ slot.name ∈ seen := by
      refine ⟨mem_of_mem_seeing, ?_⟩
      unfold seeing
      split
      · rename_i hnone
        rintro (rfl | hmem)
        · exact absurd (List.find?_eq_none.mp hnone slot hslot) (by simp)
        · exact hmem
      · exact List.mem_cons.mpr
    rw [List.foldl_cons, ih, hseeing, List.mem_cons, or_left_comm, or_assoc]

/-- Members that are read one after another: their names are texts, and new ones. -/
structure Pending (shape : Shape σ α) (draft : List String → σ) (seen : List String)
    (members : List (Option String × Tree)) : Prop where
  paired : ∀ m ∈ members, m.1.isSome
  distinct : (members.map Prod.fst).Nodup
  new : ∀ name ∈ seen, some name ∉ members.map Prod.fst
  follows : shape.Follows draft members

/-- The first of such members has a new name, and leaves the others such members. -/
theorem Pending.of_cons {m : Option String × Tree} {members : List (Option String × Tree)}
    (h : shape.Pending draft seen (m :: members)) :
    ∃ name, m.1 = some name ∧ name ∉ seen ∧ shape.Follows draft [(some name, m.2)] ∧
      shape.Pending draft (shape.seeing seen name) members := by
  obtain ⟨hname, hpaired⟩ := List.forall_mem_cons.mp h.paired
  obtain ⟨name, hname⟩ := Option.isSome_iff_exists.mp hname
  obtain ⟨hfirst, hdistinct⟩ := List.nodup_cons.mp h.distinct
  rw [hname] at hfirst
  have hm : m = (some name, m.2) := by rw [← hname]
  refine ⟨name, hname, fun hseen => ?_, fun slot hslot t ht => ?_, hpaired, hdistinct,
    fun other hother hmem => ?_, fun slot hslot t ht => ?_⟩
  · exact h.new name hseen (by rw [← hname]; exact List.mem_cons_self)
  · rw [← hm] at ht
    exact h.follows slot hslot t (List.mem_cons.mpr (Or.inl (List.mem_singleton.mp ht)))
  · obtain rfl | hseen := mem_of_mem_seeing hother
    · exact hfirst hmem
    · exact h.new other hseen (List.mem_cons_of_mem _ hmem)
  · exact h.follows slot hslot t (List.mem_cons_of_mem _ ht)

/-- **A member is read as one field more, or passed over.** -/
theorem readField_member {pieces : List Piece} {t : Tree} (hname : text? pieces = some name)
    (hnew : name ∉ seen) (h : shape.Follows draft [(some name, t)]) (hrest : Delimited rest)
    (ws before : List Blank) :
    shape.readField seen (draft seen) (quotedBytes pieces ++ (blankBytes ws ++ 0x3A ::
        (blankBytes before ++ (t.bytes ++ rest)))) =
      .ok ((shape.seeing seen name, draft (shape.seeing seen name)), rest) := by
  have hquote : mark 0x22 = .quote := rfl
  simp only [readField, seeing, quotedBytes, List.cons_append, List.append_assoc, List.nil_append,
    if_pos hquote, readText_pieces hname, bind, Except.bind]
  cases hslot : shape.slots.find? fun slot => slot.name = name with
  | none => simp only [readColon_append, skipValue_tree t before hrest]
  | some slot =>
    obtain rfl : slot.name = name := by simpa using List.find?_some hslot
    have htakes := h slot (List.mem_of_find?_eq_some hslot) t List.mem_cons_self seen hnew
    simp only [if_neg hnew, readColon_append, htakes before hrest]

/-- One turn of the loop, where a member is next. -/
theorem readFields_item {first : Bool} {bytes mid : Bytes} {key : Key} {t : Tree}
    {before : List Blank} (hname : key.text? = some name) (hnew : name ∉ seen)
    (h : shape.Follows draft [(some name, t)]) (hmid : Delimited mid)
    (hturn : braces.turn first bytes = .ok (.item (quotedBytes key.pieces ++ (blankBytes key.after ++
      0x3A :: (blankBytes before ++ (t.bytes ++ mid)))))) (fuel : Nat) :
    shape.readFields (fuel + 1) first seen (draft seen) bytes =
      shape.readFields fuel false (shape.seeing seen name) (draft (shape.seeing seen name)) mid := by
  simp only [readFields, hturn, readField_member hname hnew h hmid]

/-- Further members are read as the fields they are. -/
theorem readFields_entries : ∀ {more : Entries} {seen : List String} (ws : List Blank) {fuel : Nat},
    shape.Pending draft seen more.members →
      (blankBytes ws ++ (more.bytes ++ 0x7D :: rest)).length < fuel →
      shape.readFields fuel false seen (draft seen)
          (blankBytes ws ++ (more.bytes ++ 0x7D :: rest)) =
        .ok (draft ((more.members.filterMap Prod.fst).foldl shape.seeing seen), rest)
  | _, _, _, 0, _, hfuel => absurd hfuel (Nat.not_lt_zero _)
  | .nil, seen, ws, fuel + 1, _, _ => by
    have hturn : braces.turn false (blankBytes ws ++ (Entries.nil.bytes ++ 0x7D :: rest)) =
        .ok (.close rest) := Enclosure.turn_close rfl rfl ws rest
    rw [readFields, hturn]
    rfl
  | .cons key before t after more, seen, ws, fuel + 1, hpending, hfuel => by
    obtain ⟨name, hname, hnew, hfollows, hpending⟩ := hpending.of_cons
    have hturn := Enclosure.turn_comma (e := braces) (c := 0x22) (by decide) (by decide) rfl ws
      key.before (pieceBytes key.pieces ++ [0x22] ++ (blankBytes key.after ++ 0x3A ::
        (blankBytes before ++ (t.bytes ++ (blankBytes after ++ (more.bytes ++ 0x7D :: rest))))))
    have hitem := readFields_item (t := t) hname hnew hfollows
      (delimited_blanks_append after (delimited_entries more rest)) hturn fuel
    have hmore := @readFields_entries more (shape.seeing seen name) after fuel hpending (by
      simp only [Entries.bytes_cons, List.length_append, List.length_cons] at hfuel ⊢
      omega)
    have hname' : key.text? = some name := hname
    simp only [Entries.bytes_cons, Key.bytes, quotedBytes, List.cons_append, List.append_assoc,
      List.nil_append, Entries.members, hname', List.filterMap_cons, List.foldl_cons] at hitem ⊢
    exact hitem.trans hmore

/-- The inside of an object is read as the fields it has. -/
theorem exists_readFields {t : Tree} (hobject : t.IsObject)
    (hpending : shape.Pending draft [] t.members) (rest : Bytes) :
    ∃ inside, t.bytes = 0x7B :: inside ∧ ∀ fuel, (inside ++ rest).length < fuel →
      shape.readFields fuel true [] (draft []) (inside ++ rest) =
        .ok (draft ((t.members.filterMap Prod.fst).foldl shape.seeing []), rest) := by
  cases t with
  | null | boolean | numeral | quoted | emptyArray | array => cases hobject
  | emptyObject inside =>
    refine ⟨_, Tree.bytes_emptyObject, fun fuel hfuel => ?_⟩
    obtain ⟨fuel, rfl⟩ := Nat.exists_eq_add_one_of_ne_zero (Nat.ne_zero_of_lt hfuel)
    have hturn : braces.turn true (blankBytes inside ++ ([0x7D] ++ rest)) =
        .ok (.close rest) := Enclosure.turn_close rfl rfl inside rest
    rw [List.append_assoc, readFields, hturn]
    rfl
  | object key before first after more =>
    refine ⟨_, Tree.bytes_object, fun fuel hfuel => ?_⟩
    obtain ⟨fuel, rfl⟩ := Nat.exists_eq_add_one_of_ne_zero (Nat.ne_zero_of_lt hfuel)
    obtain ⟨name, hname, hnew, hfollows, hpending⟩ := hpending.of_cons
    have hturn := Enclosure.turn_first (e := braces) (c := 0x22) (by decide) rfl key.before
      (pieceBytes key.pieces ++ [0x22] ++ (blankBytes key.after ++ 0x3A :: (blankBytes before ++
        (first.bytes ++ (blankBytes after ++ (more.bytes ++ 0x7D :: rest))))))
    have hitem := readFields_item (t := first) hname hnew hfollows
      (delimited_blanks_append after (delimited_entries more rest)) hturn fuel
    have hmore := @readFields_entries _ _ shape draft rest more _ after fuel hpending (by
      simp only [Key.bytes, List.length_append, List.length_cons] at hfuel ⊢
      omega)
    have hname' : key.text? = some name := hname
    simp only [Key.bytes, quotedBytes, List.cons_append, List.append_assoc, List.nil_append,
      Tree.members, hname', List.filterMap_cons, List.foldl_cons] at hitem ⊢
    exact hitem.trans hmore

/-- **An object is taken as a record** when the draft with its fields is finished as that. -/
theorem takes_read (draft : List String → σ) {t : Tree} {a : α} (ht : t.IsRecord)
    (hstart : draft [] = shape.start) (hfollows : shape.Follows draft t.members)
    (hfinish : ∀ seen, (∀ slot ∈ shape.slots,
      slot.name ∈ seen ↔ some slot.name ∈ t.members.map Prod.fst) →
        shape.finish (draft seen) = .ok a) : Takes shape.read t a := fun ws rest hrest => by
  obtain ⟨inside, hinside, hread⟩ :=
    exists_readFields ht.isObject ⟨ht.paired, ht.distinct, nofun, hfollows⟩ rest
  have hdone := hfinish ((t.members.filterMap Prod.fst).foldl shape.seeing []) fun slot hslot => by
    rw [mem_foldl_seeing hslot]
    simp
  have hblank : isBlank 0x7B = false := rfl
  have hbrace : mark 0x7B = .openBrace := rfl
  simp only [read, withFirst, skipBlanks_append, hinside, List.cons_append, skipBlanks_cons hblank,
    if_pos hbrace, ← hstart, hread _ (Nat.lt_succ_self _), bind, Except.bind, hdone]

end Shape

end BrokerBridge.Json
