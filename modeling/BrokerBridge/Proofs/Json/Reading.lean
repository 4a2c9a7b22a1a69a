import BrokerBridge.Proofs.Json.Numerals
import BrokerBridge.Proofs.Json.Strings

/-!
# Reading a JSON text

The reader of values, against the grammar.

* `Enclosure.Further` is the loop over the items of a container without its fuel
  (`further_of_items`, `items_of_further`).
* `Reads` says of a reader of values that it reads the trees up to a depth and nothing else; each
  container one level deeper keeps it (`reads_readWithin`).  Texts inside strings are shorter than
  the text around them, which is what the induction over their levels uses
  (`decodes_decodeWithin`).
* **`Members.decode_eq_ok_iff`**: a text is read as the members of a message exactly when it is a
  document with few enough containers that holds those members.
-/
namespace BrokerBridge.Json

/-! ## 1. Items one after another -/

/-- A reader takes at least a byte. -/
def Shrinks {α : Type} (item : Reader α) : Prop :=
  ∀ {bytes : Bytes} {a : α} {rest : Bytes}, item bytes = .ok (a, rest) → rest.length < bytes.length

namespace Enclosure

variable {α : Type} {e : Enclosure} {item : Reader α} {bytes start mid rest : Bytes} {a : α}
  {as : List α}

/-- Further items, read one after another up to the closing mark. -/
inductive Further (e : Enclosure) (item : Reader α) : Bytes → List α → Bytes → Prop where
  | close {bytes rest : Bytes} (hturn : e.turn false bytes = .ok (.close rest)) :
      Further e item bytes [] rest
  | item {bytes start mid rest : Bytes} {a : α} {as : List α}
      (hturn : e.turn false bytes = .ok (.item start)) (hitem : item start = .ok (a, mid))
      (tail : Further e item mid as rest) : Further e item bytes (a :: as) rest

/-- What the loop reads are further items. -/
theorem further_of_items {fuel : Nat} (h : e.items item fuel false bytes = .ok (as, rest)) :
    e.Further item bytes as rest := by
  induction fuel generalizing bytes as with
  | zero => cases h
  | succ fuel ih =>
    rw [items] at h
    split at h
    · cases h
    · rename_i hturn
      cases h
      exact .close hturn
    · rename_i start hturn
      split at h
      · cases h
      · rename_i a mid hitem
        obtain ⟨⟨more, after⟩, hmore, h⟩ := map_eq_ok.mp h
        cases h
        exact .item hturn hitem (ih hmore)

/-- The loop reads further items, since its fuel is as long as the text and every item takes a byte.
-/
theorem items_of_further (hs : Shrinks item) (h : e.Further item bytes as rest) {fuel : Nat}
    (hfuel : bytes.length < fuel) : e.items item fuel false bytes = .ok (as, rest) := by
  induction h generalizing fuel with
  | close hturn =>
    obtain ⟨fuel, rfl⟩ := Nat.exists_eq_add_one_of_ne_zero (Nat.ne_zero_of_lt hfuel)
    rw [items, hturn]
  | @item bytes start mid rest a as hturn hitem _ ih =>
    obtain ⟨fuel, rfl⟩ := Nat.exists_eq_add_one_of_ne_zero (Nat.ne_zero_of_lt hfuel)
    -- what is left after an item is shorter, as the fuel is
    have hstart : start.length ≤ bytes.length := by
      obtain ⟨ws, ws', rfl⟩ := of_turn_comma hturn
      simp only [List.length_append, List.length_cons]
      omega
    have hmid : mid.length < fuel :=
      Nat.lt_of_lt_of_le (hs hitem) (Nat.le_trans hstart (Nat.le_of_lt_succ hfuel))
    simp only [items, hturn, hitem, ih hmid]
    rfl

/-- A container is closed at once, or has a first item. -/
theorem readItems_cases (h : e.readItems item bytes = .ok (as, rest)) :
    (as = [] ∧ e.turn true bytes = .ok (.close rest)) ∨
    ∃ start a mid more, as = a :: more ∧ e.turn true bytes = .ok (.item start) ∧
      item start = .ok (a, mid) ∧ e.Further item mid more rest := by
  rw [readItems, items] at h
  split at h
  · cases h
  · rename_i hturn
    cases h
    exact Or.inl ⟨rfl, hturn⟩
  · rename_i start hturn
    split at h
    · cases h
    · rename_i a mid hitem
      obtain ⟨⟨more, after⟩, hmore, h⟩ := map_eq_ok.mp h
      cases h
      exact Or.inr ⟨start, a, mid, more, rfl, hturn, hitem, further_of_items hmore⟩

theorem readItems_close (h : e.turn true bytes = .ok (.close rest)) :
    e.readItems item bytes = .ok ([], rest) := by
  rw [readItems, items, h]

/-- A container with a first item is read as that item and the further ones. -/
theorem readItems_item (hs : Shrinks item) (hturn : e.turn true bytes = .ok (.item start))
    (hitem : item start = .ok (a, mid)) (h : e.Further item mid as rest) :
    e.readItems item bytes = .ok (a :: as, rest) := by
  have hstart : start.length ≤ bytes.length := by
    obtain ⟨ws, rfl⟩ := of_turn_first hturn
    simp only [List.length_append]
    omega
  have hmid : mid.length < bytes.length := Nat.lt_of_lt_of_le (hs hitem) hstart
  simp only [readItems, items, hturn, hitem, items_of_further hs h hmid]
  rfl

end Enclosure

/-! ## 2. The bytes of a value -/

/-- The bytes of a string with its quotes. -/
def quotedBytes (pieces : List Piece) : Bytes := 0x22 :: (pieceBytes pieces ++ [0x22])

theorem encode_quotedChars (pieces : List Piece) :
    Utf8.encode (quotedChars pieces) = quotedBytes pieces := by
  rw [quotedChars, List.cons_append, Utf8.encode_cons, Utf8.encode_append]
  rfl

/-- The bytes of a value. -/
def Tree.bytes (t : Tree) : Bytes := Utf8.encode t.chars

/-- The bytes of further items. -/
def Items.bytes (more : Items) : Bytes := Utf8.encode more.chars

/-- The bytes of further members. -/
def Entries.bytes (more : Entries) : Bytes := Utf8.encode more.chars

/-- The bytes of the name of a member. -/
def Key.bytes (key : Key) : Bytes :=
  blankBytes key.before ++ (quotedBytes key.pieces ++ blankBytes key.after)

theorem encode_keyChars (key : Key) : Utf8.encode key.chars = key.bytes := by
  rw [Key.chars, Utf8.encode_append, Utf8.encode_append, encode_quotedChars, encode_blankChars,
    encode_blankChars, List.append_assoc]
  rfl

section

variable {key : Key} {before after inside : List Blank} {first : Tree} {items : Items}
  {entries : Entries}

theorem Tree.bytes_quoted (pieces : List Piece) :
    (Tree.quoted pieces).bytes = quotedBytes pieces := encode_quotedChars pieces

theorem Entries.bytes_nil : Entries.nil.bytes = [] := rfl

theorem Tree.bytes_emptyArray :
    (Tree.emptyArray inside).bytes = 0x5B :: (blankBytes inside ++ [0x5D]) := by
  rw [bytes, chars, List.cons_append, Utf8.encode_cons, Utf8.encode_append, encode_blankChars]
  rfl

theorem Tree.bytes_emptyObject :
    (Tree.emptyObject inside).bytes = 0x7B :: (blankBytes inside ++ [0x7D]) := by
  rw [bytes, chars, List.cons_append, Utf8.encode_cons, Utf8.encode_append, encode_blankChars]
  rfl

theorem Tree.bytes_array :
    (Tree.array before first after items).bytes =
      0x5B :: (blankBytes before ++ (first.bytes ++ (blankBytes after ++
        (items.bytes ++ [0x5D])))) := by
  simp only [bytes, Items.bytes, chars, List.cons_append, Utf8.encode_cons, Utf8.encode_append,
    encode_blankChars, List.append_assoc]
  rfl

theorem Tree.bytes_object :
    (Tree.object key before first after entries).bytes =
      0x7B :: (key.bytes ++ 0x3A :: (blankBytes before ++ (first.bytes ++ (blankBytes after ++
        (entries.bytes ++ [0x7D]))))) := by
  simp only [bytes, Entries.bytes, chars, List.cons_append, Utf8.encode_cons, Utf8.encode_append,
    encode_blankChars, encode_keyChars, List.append_assoc]
  rfl

theorem Items.bytes_cons :
    (Items.cons before first after items).bytes =
      0x2C :: (blankBytes before ++ (first.bytes ++ (blankBytes after ++ items.bytes))) := by
  simp only [bytes, Tree.bytes, chars, List.cons_append, Utf8.encode_cons, Utf8.encode_append,
    encode_blankChars, List.append_assoc]
  rfl

theorem Entries.bytes_cons :
    (Entries.cons key before first after entries).bytes =
      0x2C :: (key.bytes ++ 0x3A :: (blankBytes before ++ (first.bytes ++ (blankBytes after ++
        entries.bytes)))) := by
  simp only [bytes, Tree.bytes, chars, List.cons_append, Utf8.encode_cons, Utf8.encode_append,
    encode_blankChars, encode_keyChars, List.append_assoc]
  rfl

end

theorem Document.bytes_eq (doc : Document) :
    doc.bytes = blankBytes doc.before ++ (doc.tree.bytes ++ blankBytes doc.after) := by
  rw [bytes, chars, Utf8.encode_append, Utf8.encode_append, encode_blankChars, encode_blankChars,
    List.append_assoc]
  rfl

/-- A value starts with a byte that is no white space and closes nothing. -/
theorem Tree.exists_head (t : Tree) :
    ∃ b rest, t.bytes = b :: rest ∧ isBlank b = false ∧ mark b ≠ .closeBracket ∧
      mark b ≠ .closeBrace := by
  have hdigit : ∀ d, isBlank (digitByte d) = false := by decide
  cases t with
  | null => exact ⟨_, _, rfl, rfl, nofun, nofun⟩
  | boolean b => cases b <;> exact ⟨_, _, rfl, rfl, nofun, nofun⟩
  | numeral n =>
    obtain ⟨b, rest, hb, hmark⟩ := Number.exists_head_bytes n
    refine ⟨b, rest, hb, ?_, ?_, ?_⟩
    · obtain hmark | hmark := hmark
      · rw [eq_of_mark hmark rfl]; rfl
      · obtain ⟨d, rfl⟩ := mark_eq_digit_iff.mp hmark
        exact hdigit d
    · obtain hmark | hmark := hmark <;> rw [hmark] <;> nofun
    · obtain hmark | hmark := hmark <;> rw [hmark] <;> nofun
  | quoted pieces => exact ⟨_, _, bytes_quoted pieces, rfl, nofun, nofun⟩
  | emptyArray inside => exact ⟨_, _, bytes_emptyArray, rfl, nofun, nofun⟩
  | array before first after more => exact ⟨_, _, bytes_array, rfl, nofun, nofun⟩
  | emptyObject inside => exact ⟨_, _, bytes_emptyObject, rfl, nofun, nofun⟩
  | object key before first after more => exact ⟨_, _, bytes_object, rfl, nofun, nofun⟩

/-- A value starts with no white space. -/
theorem Tree.isBlank_head (t : Tree) {b : UInt8} {rest : Bytes} (h : t.bytes = b :: rest) :
    isBlank b = false := by
  obtain ⟨b', rest', h', hblank, -⟩ := t.exists_head
  rwa [(List.cons.inj (h.symm.trans h')).1]

/-! ## 3. Readers of values -/

/-- A reader of texts in strings: it reads nothing but texts, and all that are shorter than
`size`. -/
structure Decodes (size : Nat) (embedded : Bytes → Except ReadError Value) : Prop where
  sound : ∀ {text : Bytes} {v : Value}, embedded text = .ok v →
    ∃ doc : Document, doc.bytes = text ∧ doc.tree.depth ≤ depthLimit ∧ doc.tree.Denotes v
  complete : ∀ {doc : Document} {v : Value}, doc.bytes.length < size →
    doc.tree.depth ≤ depthLimit → doc.tree.Denotes v → embedded doc.bytes = .ok v

/-- A reader of values: it reads nothing but values up to `depth`, and all of them that are no
longer than `size`. -/
structure Reads (size depth : Nat) (value : Reader Value) : Prop where
  sound : ∀ {bytes : Bytes} {v : Value} {rest : Bytes}, value bytes = .ok (v, rest) →
    ∃ ws t, bytes = blankBytes ws ++ (Tree.bytes t ++ rest) ∧ t.depth ≤ depth ∧ t.Denotes v
  complete : ∀ {t : Tree} {v : Value} {rest : Bytes} (ws : List Blank), t.bytes.length ≤ size →
    t.depth ≤ depth → t.Denotes v → Delimited rest →
    value (blankBytes ws ++ (t.bytes ++ rest)) = .ok (v, rest)

theorem Reads.shrinks {size depth : Nat} {value : Reader Value} (h : Reads size depth value) :
    Shrinks value := by
  intro bytes v rest hv
  obtain ⟨ws, t, rfl, -, -⟩ := h.sound hv
  obtain ⟨b, tail, ht, -⟩ := t.exists_head
  simp only [ht, List.length_append, List.length_cons]
  omega

section

variable {size depth : Nat} {value : Reader Value} {bytes rest : Bytes}

/-- A key is read exactly when it is a string and a colon behind it. -/
theorem readKey_eq_ok_iff {name : String} :
    readKey bytes = .ok (name, rest) ↔
      ∃ pieces ws, text? pieces = some name ∧
        bytes = quotedBytes pieces ++ (blankBytes ws ++ 0x3A :: rest) := by
  constructor
  · intro h
    cases bytes with
    | nil => cases h
    | cons b bytes =>
      rw [readKey] at h
      split at h
      · rename_i hb
        obtain ⟨⟨key, after⟩, hkey, h⟩ := bind_eq_ok.mp h
        obtain ⟨end_, hcolon, h⟩ := bind_eq_ok.mp h
        cases h
        obtain ⟨pieces, hpieces, rfl⟩ := readText_eq_ok_iff.mp hkey
        obtain ⟨ws, rfl⟩ := of_readColon hcolon
        refine ⟨pieces, ws, hpieces, ?_⟩
        rw [eq_of_mark hb rfl, quotedBytes, List.cons_append, List.append_assoc]
        rfl
      · cases h
  · rintro ⟨pieces, ws, hpieces, rfl⟩
    have hquote : mark 0x22 = .quote := rfl
    simp only [quotedBytes, List.cons_append, List.append_assoc, List.nil_append, readKey,
      if_pos hquote, readText_pieces hpieces, bind, Except.bind, readColon_append]

/-- What is read as a member is a name and a value. -/
theorem exists_member (h : Reads size depth value) {name : String} {v : Value}
    (hm : readMember value bytes = .ok ((name, v), rest)) :
    ∃ pieces ws before t, text? pieces = some name ∧
      bytes = quotedBytes pieces ++ (blankBytes ws ++ 0x3A :: (blankBytes before ++
        (Tree.bytes t ++ rest))) ∧ t.depth ≤ depth ∧ t.Denotes v := by
  unfold readMember at hm
  split at hm
  · cases hm
  · rename_i key after hkey
    obtain ⟨⟨v', end_⟩, hv, hm⟩ := map_eq_ok.mp hm
    cases hm
    obtain ⟨pieces, ws, hpieces, rfl⟩ := readKey_eq_ok_iff.mp hkey
    obtain ⟨before, t, rfl, hdepth, ht⟩ := h.sound hv
    exact ⟨pieces, ws, before, t, hpieces, rfl, hdepth, ht⟩

/-- A name and a value are read as a member. -/
theorem readMember_complete (h : Reads size depth value) {pieces : List Piece} {name : String}
    (hname : text? pieces = some name) {t : Tree} {v : Value} (hsize : t.bytes.length ≤ size)
    (hdepth : t.depth ≤ depth) (ht : t.Denotes v) (hrest : Delimited rest)
    (ws before : List Blank) :
    readMember value (quotedBytes pieces ++ (blankBytes ws ++ 0x3A :: (blankBytes before ++
      (t.bytes ++ rest)))) = .ok ((name, v), rest) := by
  simp only [readMember, readKey_eq_ok_iff.mpr ⟨pieces, ws, hname, rfl⟩,
    h.complete before hsize hdepth ht hrest]
  rfl

theorem Reads.shrinks_readMember (h : Reads size depth value) : Shrinks (readMember value) := by
  intro bytes a rest hm
  obtain ⟨pieces, ws, before, t, -, rfl, -, -⟩ := exists_member h hm
  simp only [quotedBytes, List.length_append, List.length_cons]
  omega

/-! ## 4. Containers -/

theorem delimited_items (more : Items) (rest : Bytes) :
    Delimited (more.bytes ++ 0x5D :: rest) := by
  cases more with
  | nil => exact delimited_cons (Or.inr (Or.inl rfl)) rest
  | cons before value after more =>
    rw [Items.bytes_cons]
    exact delimited_cons (Or.inl rfl) _

theorem delimited_entries (more : Entries) (rest : Bytes) :
    Delimited (more.bytes ++ 0x7D :: rest) := by
  cases more with
  | nil => exact delimited_cons (Or.inr (Or.inr rfl)) rest
  | cons key before value after more =>
    rw [Entries.bytes_cons]
    exact delimited_cons (Or.inl rfl) _

/-- Further items that are read are items of the grammar. -/
theorem exists_items (h : Reads size depth value) {vs : List Value}
    (hf : brackets.Further value bytes vs rest) :
    ∃ ws more, bytes = blankBytes ws ++ (Items.bytes more ++ 0x5D :: rest) ∧
      more.depth ≤ depth ∧ Items.Denote more vs := by
  induction hf with
  | close hturn =>
    obtain ⟨ws, c, rfl, hc⟩ := Enclosure.of_turn_close hturn
    rw [eq_of_mark hc rfl]
    exact ⟨ws, .nil, rfl, Nat.zero_le _, .nil⟩
  | item hturn hitem _ ih =>
    obtain ⟨ws, before, rfl⟩ := Enclosure.of_turn_comma hturn
    obtain ⟨before', t, rfl, hdepth, ht⟩ := h.sound hitem
    obtain ⟨after, more, rfl, hmore, hvs⟩ := ih
    refine ⟨ws, .cons (before ++ before') t after more, ?_, Nat.max_le.mpr ⟨hdepth, hmore⟩,
      .cons ht hvs⟩
    simp only [Items.bytes_cons, blankBytes_append, List.cons_append, List.append_assoc]

/-- Further items of the grammar are read. -/
theorem further_items (h : Reads size depth value) (ws : List Blank) (rest : Bytes) :
    ∀ {more : Items} {vs : List Value}, more.bytes.length ≤ size → more.depth ≤ depth →
      Items.Denote more vs →
      brackets.Further value (blankBytes ws ++ (more.bytes ++ 0x5D :: rest)) vs rest
  | .nil, _, _, _, .nil => .close (Enclosure.turn_close rfl rfl ws rest)
  | .cons before t after more, _, hsize, hdepth, hitems => by
    obtain _ | ⟨ht, hvs⟩ := hitems
    obtain ⟨c, tail, hhead, hblank, hclose, -⟩ := t.exists_head
    obtain ⟨hdepth, hmore⟩ := Nat.max_le.mp hdepth
    simp only [Items.bytes_cons, List.length_cons, List.length_append] at hsize
    have hitem := h.complete [] (by omega) hdepth ht
      (delimited_blanks_append after (delimited_items more rest))
    refine .item ?_ hitem (further_items h after rest (by omega) hmore hvs)
    simp only [Items.bytes_cons, hhead, List.cons_append, List.append_assoc]
    exact Enclosure.turn_comma (by decide) hclose hblank ws before _

/-- Further members that are read are members of the grammar. -/
theorem exists_entries (h : Reads size depth value) {entries : List (String × Value)}
    (hf : braces.Further (readMember value) bytes entries rest) :
    ∃ ws more, bytes = blankBytes ws ++ (Entries.bytes more ++ 0x7D :: rest) ∧
      more.depth ≤ depth ∧ Entries.Denote more entries := by
  induction hf with
  | close hturn =>
    obtain ⟨ws, c, rfl, hc⟩ := Enclosure.of_turn_close hturn
    rw [eq_of_mark hc rfl]
    exact ⟨ws, .nil, rfl, Nat.zero_le _, .nil⟩
  | item hturn hitem _ ih =>
    obtain ⟨ws, inFront, rfl⟩ := Enclosure.of_turn_comma hturn
    obtain ⟨pieces, behind, before, t, hname, rfl, hdepth, ht⟩ := exists_member h hitem
    obtain ⟨after, more, rfl, hmore, hentries⟩ := ih
    refine ⟨ws, .cons ⟨inFront, pieces, behind⟩ before t after more, ?_,
      Nat.max_le.mpr ⟨hdepth, hmore⟩, .cons hname ht hentries⟩
    simp only [Entries.bytes_cons, Key.bytes, List.cons_append, List.append_assoc]

/-- Further members of the grammar are read. -/
theorem further_entries (h : Reads size depth value) (ws : List Blank) (rest : Bytes) :
    ∀ {more : Entries} {entries : List (String × Value)}, more.bytes.length ≤ size →
      more.depth ≤ depth → Entries.Denote more entries →
      braces.Further (readMember value) (blankBytes ws ++ (more.bytes ++ 0x7D :: rest)) entries rest
  | .nil, _, _, _, .nil => .close (Enclosure.turn_close rfl rfl ws rest)
  | .cons key before t after more, _, hsize, hdepth, hmembers => by
    obtain _ | ⟨hname, ht, hentries⟩ := hmembers
    obtain ⟨hdepth, hmore⟩ := Nat.max_le.mp hdepth
    simp only [Entries.bytes_cons, List.length_cons, List.length_append] at hsize
    have hitem := readMember_complete h hname (by omega) hdepth ht
      (delimited_blanks_append after (delimited_entries more rest)) key.after before
    refine .item ?_ hitem (further_entries h after rest (by omega) hmore hentries)
    simp only [Entries.bytes_cons, Key.bytes, quotedBytes, List.cons_append, List.append_assoc]
    exact Enclosure.turn_comma (by decide) (by decide) rfl ws key.before _

/-- What is read as items is the inside of an array that stands for them. -/
theorem exists_array (h : Reads size depth value) {vs : List Value}
    (hr : brackets.readItems value bytes = .ok (vs, rest)) :
    ∃ t : Tree, 0x5B :: bytes = t.bytes ++ rest ∧ t.depth ≤ depth + 1 ∧ t.Denotes (.array vs) := by
  obtain ⟨rfl, hturn⟩ | ⟨start, v, mid, more, rfl, hturn, hitem, hf⟩ :=
    Enclosure.readItems_cases hr
  · obtain ⟨inside, c, rfl, hc⟩ := Enclosure.of_turn_close hturn
    refine ⟨.emptyArray inside, ?_, Nat.le_add_left 1 depth, .emptyArray inside⟩
    rw [Tree.bytes_emptyArray, eq_of_mark hc rfl, List.cons_append,
      List.append_assoc]
    rfl
  · obtain ⟨before, rfl⟩ := Enclosure.of_turn_first hturn
    obtain ⟨before', t, rfl, hdepth, ht⟩ := h.sound hitem
    obtain ⟨after, items, rfl, hmore, hvs⟩ := exists_items h hf
    refine ⟨.array (before ++ before') t after items, ?_,
      Nat.succ_le_succ (Nat.max_le.mpr ⟨hdepth, hmore⟩), .array (.cons ht hvs)⟩
    simp only [Tree.bytes_array, blankBytes_append, List.cons_append, List.append_assoc,
      List.nil_append]

/-- What is read as members is the inside of an object that holds them. -/
theorem exists_object (h : Reads size depth value) {members : Members}
    (hr : readMembers value bytes = .ok (members, rest)) :
    ∃ t : Tree, 0x7B :: bytes = t.bytes ++ rest ∧ t.depth ≤ depth + 1 ∧ t.Holds members := by
  obtain ⟨⟨entries, rest'⟩, hr, heq⟩ := map_eq_ok.mp hr
  cases heq
  obtain ⟨rfl, hturn⟩ | ⟨start, ⟨name, v⟩, mid, more, rfl, hturn, hitem, hf⟩ :=
    Enclosure.readItems_cases hr
  · obtain ⟨inside, c, rfl, hc⟩ := Enclosure.of_turn_close hturn
    refine ⟨.emptyObject inside, ?_, Nat.le_add_left 1 depth, .empty inside⟩
    rw [Tree.bytes_emptyObject, eq_of_mark hc rfl, List.cons_append,
      List.append_assoc]
    rfl
  · obtain ⟨inFront, rfl⟩ := Enclosure.of_turn_first hturn
    obtain ⟨pieces, behind, before, t, hname, rfl, hdepth, ht⟩ := exists_member h hitem
    obtain ⟨after, entries, rfl, hmore, hentries⟩ := exists_entries h hf
    refine ⟨.object ⟨inFront, pieces, behind⟩ before t after entries, ?_,
      Nat.succ_le_succ (Nat.max_le.mpr ⟨hdepth, hmore⟩), .entries (.cons hname ht hentries)⟩
    simp only [Tree.bytes_object, Key.bytes, List.cons_append, List.append_assoc,
      List.nil_append]

/-- The inside of an array is read as its items. -/
theorem readItems_array (h : Reads size depth value) {before after : List Blank} {t : Tree}
    {more : Items} {vs : List Value} (hsize : (Tree.array before t after more).bytes.length ≤ size)
    (hdepth : (Tree.array before t after more).depth ≤ depth + 1)
    (hvs : Items.Denote (.cons before t after more) vs) :
    brackets.readItems value (blankBytes before ++ (t.bytes ++ (blankBytes after ++
      (more.bytes ++ 0x5D :: rest)))) = .ok (vs, rest) := by
  obtain _ | ⟨ht, hvs⟩ := hvs
  obtain ⟨c, tail, hhead, hblank, hclose, -⟩ := t.exists_head
  obtain ⟨hdepth, hmore⟩ := Nat.max_le.mp (Nat.le_of_succ_le_succ hdepth)
  simp only [Tree.bytes_array, List.length_cons, List.length_append] at hsize
  have hitem := h.complete [] (by omega) hdepth ht
    (delimited_blanks_append after (delimited_items more rest))
  have hmoreItems := further_items h after rest (by omega) hmore hvs
  refine Enclosure.readItems_item h.shrinks ?_ hitem hmoreItems
  simp only [hhead, List.cons_append]
  exact Enclosure.turn_first hclose hblank before _

/-- The inside of an object is read as its members. -/
theorem readMembers_object (h : Reads size depth value) {t : Tree} {members : Members}
    (hsize : t.bytes.length ≤ size) (hdepth : t.depth ≤ depth + 1) (ht : t.Holds members) :
    ∃ inside, t.bytes = 0x7B :: inside ∧
      ∀ rest, readMembers value (inside ++ rest) = .ok (members, rest) := by
  cases ht with
  | empty inside =>
    refine ⟨_, Tree.bytes_emptyObject, fun rest => ?_⟩
    have hread : braces.readItems (readMember value) (blankBytes inside ++ 0x7D :: rest) =
        .ok ([], rest) :=
      Enclosure.readItems_close (Enclosure.turn_close rfl rfl inside rest)
    rw [List.append_assoc, readMembers]
    exact congrArg (Except.map _) hread
  | @entries key before after first more entries hentries =>
    refine ⟨_, Tree.bytes_object, fun rest => ?_⟩
    obtain _ | ⟨hname, ht, hentries⟩ := hentries
    obtain ⟨hdepth, hmore⟩ := Nat.max_le.mp (Nat.le_of_succ_le_succ hdepth)
    simp only [Tree.bytes_object, List.length_cons, List.length_append] at hsize
    have hitem := readMember_complete h hname (by omega) hdepth ht
      (delimited_blanks_append after (delimited_entries more rest)) key.after before
    have hmoreEntries := further_entries h after rest (by omega) hmore hentries
    have hturn := Enclosure.turn_first (e := braces) (c := 0x22) nofun rfl key.before
      (pieceBytes key.pieces ++ (0x22 :: (blankBytes key.after ++ 0x3A :: (blankBytes before ++
        (first.bytes ++ (blankBytes after ++ (more.bytes ++ 0x7D :: rest)))))))
    simp only [quotedBytes, List.cons_append, List.append_assoc, List.nil_append] at hitem
    have hread := Enclosure.readItems_item h.shrinks_readMember hturn hitem hmoreEntries
    simp only [readMembers, Key.bytes, quotedBytes, List.cons_append, List.append_assoc,
      List.nil_append, hread]
    rfl

end

/-! ## 5. Objects -/

theorem Wrapper.ofKey?_eq_number_iff {key : String} :
    Wrapper.ofKey? key = some .number ↔ key = numberKey := by
  unfold Wrapper.ofKey?
  split <;> simp_all

theorem Wrapper.ofKey?_eq_text_iff {key : String} :
    Wrapper.ofKey? key = some .text ↔ key = textKey := by
  have hne : textKey ≠ numberKey := by decide
  unfold Wrapper.ofKey?
  split <;> simp_all [eq_comm]

theorem ofString_ofList (cs : List Char) : Utf8.ofString (String.ofList cs) = Utf8.encode cs := by
  rw [Utf8.ofString, String.toList_ofList]

section

variable {size depth : Nat} {embedded : Bytes → Except ReadError Value} {value : Reader Value}
  {bytes rest : Bytes} {pieces : List Piece} {v : Value} {members : Members} {t : Tree}

/-- The reader finds the wrapper whose key is in front. -/
theorem wrapper?_quoted {name : String} (h : text? pieces = some name) (ws : List Blank)
    (rest : Bytes) :
    wrapper? (blankBytes ws ++ (quotedBytes pieces ++ rest)) =
      (Wrapper.ofKey? name).map fun w => (w, rest) := by
  have hquote : mark 0x22 = .quote := rfl
  have hblank : isBlank 0x22 = false := rfl
  simp only [wrapper?, skipBlanks_append, quotedBytes, List.cons_append, List.append_assoc,
    List.nil_append, skipBlanks_cons hblank, if_pos hquote, readText_pieces h]

/-- Where the reader finds a wrapper, its key is in front. -/
theorem of_wrapper? {w : Wrapper} (h : wrapper? bytes = some (w, rest)) :
    ∃ ws pieces name, text? pieces = some name ∧ Wrapper.ofKey? name = some w ∧
      bytes = blankBytes ws ++ (quotedBytes pieces ++ rest) := by
  unfold wrapper? at h
  split at h
  · cases h
  · rename_i b after hskip
    split at h
    · rename_i hb
      split at h
      · rename_i name end_ htext
        obtain ⟨w', hw, heq⟩ := Option.map_eq_some_iff.mp h
        cases heq
        obtain ⟨pieces, hname, rfl⟩ := readText_eq_ok_iff.mp htext
        obtain ⟨ws, rfl⟩ := exists_blanks_of_skipBlanks hskip
        refine ⟨ws, pieces, name, hname, hw, ?_⟩
        rw [eq_of_mark hb rfl, quotedBytes, List.cons_append, List.append_assoc]
        rfl
      · cases h
    · cases h

theorem readLoneEnd_append (ws : List Blank) (rest : Bytes) :
    readLoneEnd (blankBytes ws ++ 0x7D :: rest) = .ok rest := by
  rw [readLoneEnd, skipBlanks_append, skipBlanks_cons rfl]
  exact if_pos rfl

theorem of_readLoneEnd (h : readLoneEnd bytes = .ok rest) :
    ∃ ws, bytes = blankBytes ws ++ 0x7D :: rest := by
  unfold readLoneEnd at h
  split at h
  · cases h
  · rename_i b after hs
    split at h
    · rename_i hb
      cases h
      rw [eq_of_mark hb rfl] at hs
      exact exists_blanks_of_skipBlanks hs
    · split at h <;> cases h

theorem of_readExpectedText {expected s : String}
    (h : readExpectedText expected bytes = .ok (s, rest)) :
    ∃ ws pieces, text? pieces = some s ∧ bytes = blankBytes ws ++ (quotedBytes pieces ++ rest) := by
  unfold readExpectedText at h
  split at h
  · cases h
  · rename_i b after hs
    split at h
    · rename_i hb
      obtain ⟨pieces, hpieces, rfl⟩ := readText_eq_ok_iff.mp h
      obtain ⟨ws, rfl⟩ := exists_blanks_of_skipBlanks hs
      refine ⟨ws, pieces, hpieces, ?_⟩
      rw [eq_of_mark hb rfl, quotedBytes, List.cons_append, List.append_assoc]
      rfl
    · cases h

/-- What is in the string of a wrapper is read as what it unwraps to. -/
theorem readWrapped_quoted {w : Wrapper} {s : String} (hs : text? pieces = some s)
    (hv : w.unwrap embedded s = .ok v) (before after : List Blank) (rest : Bytes) :
    readWrapped embedded w
      (blankBytes before ++ (quotedBytes pieces ++ (blankBytes after ++ 0x7D :: rest))) =
      .ok (v, rest) := by
  have hquote : mark 0x22 = .quote := rfl
  have hblank : isBlank 0x22 = false := rfl
  simp only [readWrapped, readExpectedText, skipBlanks_append, quotedBytes, List.cons_append,
    List.append_assoc, List.nil_append, skipBlanks_cons hblank, if_pos hquote, readText_pieces hs,
    bind, Except.bind, hv, readLoneEnd_append]

/-- What a wrapper is read as is what its object denotes. -/
theorem exists_wrapped (h : Decodes size embedded) {w : Wrapper} (key : Key) {name : String}
    (hname : key.text? = some name) (hw : Wrapper.ofKey? name = some w)
    (hr : readWrapped embedded w bytes = .ok (v, rest)) :
    ∃ before pieces after,
      bytes = blankBytes before ++ (quotedBytes pieces ++ (blankBytes after ++ 0x7D :: rest)) ∧
      (Tree.object key before (.quoted pieces) after .nil).Denotes v := by
  obtain ⟨⟨s, mid⟩, htext, hr⟩ := bind_eq_ok.mp hr
  obtain ⟨before, pieces, hs, rfl⟩ := of_readExpectedText htext
  obtain ⟨cs, hcs, rfl⟩ := Option.map_eq_some_iff.mp hs
  cases hv : w.unwrap embedded (String.ofList cs) with
  | error e => simp only [hv] at hr; cases hr
  | ok v' =>
    simp only [hv] at hr
    obtain ⟨end_, hend, heq⟩ := bind_eq_ok.mp hr
    cases heq
    obtain ⟨after, rfl⟩ := of_readLoneEnd hend
    refine ⟨before, pieces, after, rfl, ?_⟩
    cases w with
    | number =>
      obtain ⟨n, hn, rfl⟩ := map_eq_ok.mp hv
      obtain ⟨m, rfl, hbytes⟩ := Number.ofText_eq_ok_iff.mp hn
      rw [ofString_ofList] at hbytes
      rw [Wrapper.ofKey?_eq_number_iff.mp hw] at hname
      exact .wrappedNumber hname (by rw [hcs, Utf8.encode_injective hbytes])
    | text =>
      obtain ⟨doc, hbytes, hdepth, hdenotes⟩ := h.sound hv
      rw [ofString_ofList] at hbytes
      rw [Wrapper.ofKey?_eq_text_iff.mp hw] at hname
      exact .wrappedText hname (by rw [hcs, Utf8.encode_injective hbytes]) hdepth hdenotes

theorem Tree.wrapper?_object {key : Key} {before after : List Blank} {first : Tree}
    {more : Entries} {name : String} (hname : key.text? = some name) :
    (Tree.object key before first after more).wrapper? = Wrapper.ofKey? name := by
  simp only [Tree.wrapper?, Tree.members, List.head?_cons, Option.bind_some, hname]

/-- An object that is no wrapper denotes the members it holds. -/
theorem Tree.Holds.denotes (h : t.Holds members) (hw : t.wrapper? = none) :
    t.Denotes (.object members) := by
  cases h with
  | empty inside => exact .emptyObject inside
  | entries hentries =>
    obtain _ | ⟨hname, hfirst, hmore⟩ := hentries
    rw [Tree.wrapper?_object hname] at hw
    exact .object hname hw (.cons hname hfirst hmore)

theorem Tree.Holds.exists_inside (h : t.Holds members) : ∃ inside, t.bytes = 0x7B :: inside := by
  cases h with
  | empty inside => exact ⟨_, Tree.bytes_emptyObject⟩
  | entries hentries => exact ⟨_, Tree.bytes_object⟩

/-- The wrapper that the reader finds is the wrapper that the object is. -/
theorem Tree.Holds.wrapper?_eq (h : t.Holds members) {inside : Bytes}
    (ht : t.bytes = 0x7B :: inside) (rest : Bytes) :
    (Json.wrapper? (inside ++ rest)).map Prod.fst = t.wrapper? := by
  cases h with
  | empty ws =>
    obtain rfl := (List.cons.inj (Tree.bytes_emptyObject.symm.trans ht)).2
    have hbrace : mark 0x7D ≠ .quote := nofun
    have hblank : isBlank 0x7D = false := rfl
    simp only [Json.wrapper?, List.append_assoc, skipBlanks_append, List.cons_append,
      skipBlanks_cons hblank, if_neg hbrace]
    rfl
  | entries hentries =>
    obtain _ | ⟨hname, hfirst, hmore⟩ := hentries
    obtain rfl := (List.cons.inj (Tree.bytes_object.symm.trans ht)).2
    simp only [Key.bytes, List.append_assoc, wrapper?_quoted hname, Tree.wrapper?_object hname]
    cases Wrapper.ofKey? _ <;> rfl

/-- **What is read as an object below the top level is the inside of an object.** -/
theorem exists_of_readObject (he : Decodes size embedded) (h : Reads size depth value)
    (hr : readObject embedded value bytes = .ok (v, rest)) :
    ∃ t : Tree, 0x7B :: bytes = t.bytes ++ rest ∧ t.depth ≤ depth + 1 ∧ t.Denotes v := by
  unfold readObject at hr
  split at hr
  · rename_i w after hw
    obtain ⟨inFront, pieces, name, hname, hkey, rfl⟩ := of_wrapper? hw
    obtain ⟨mid, hcolon, hwrapped⟩ := bind_eq_ok.mp hr
    obtain ⟨behind, rfl⟩ := of_readColon hcolon
    obtain ⟨before, inner, after, rfl, hdenotes⟩ :=
      exists_wrapped he ⟨inFront, pieces, behind⟩ hname hkey hwrapped
    refine ⟨.object ⟨inFront, pieces, behind⟩ before (.quoted inner) after .nil, ?_,
      Nat.le_add_left 1 depth, hdenotes⟩
    simp only [Tree.bytes_object, Key.bytes, Tree.bytes_quoted, Entries.bytes_nil,
      List.cons_append, List.append_assoc, List.nil_append]
  · rename_i hw
    obtain ⟨⟨members, end_⟩, hr, heq⟩ := map_eq_ok.mp hr
    cases heq
    obtain ⟨t, hbytes, hdepth, ht⟩ := exists_object h hr
    refine ⟨t, hbytes, hdepth, ht.denotes ?_⟩
    obtain ⟨inside, hinside⟩ := ht.exists_inside
    rw [hinside, List.cons_append] at hbytes
    rw [← ht.wrapper?_eq hinside rest, ← (List.cons.inj hbytes).2, hw]
    rfl

/-- A wrapper is read as what is in its string. -/
theorem readObject_wrapped {key : Key} {name s : String} {w : Wrapper}
    (hname : key.text? = some name) (hw : Wrapper.ofKey? name = some w)
    (hs : text? pieces = some s) (hv : w.unwrap embedded s = .ok v) (before after : List Blank) :
    ∃ inside, (Tree.object key before (.quoted pieces) after .nil).bytes = 0x7B :: inside ∧
      ∀ rest, readObject embedded value (inside ++ rest) = .ok (v, rest) := by
  refine ⟨_, Tree.bytes_object, fun rest => ?_⟩
  simp only [Tree.bytes_quoted, Entries.bytes_nil, Key.bytes, List.cons_append,
    List.append_assoc, List.nil_append, readObject, wrapper?_quoted hname, hw, Option.map_some,
    readColon_append, bind, Except.bind, readWrapped_quoted hs hv]

theorem text?_eq_some {cs : List Char} (h : unescape? pieces = some cs) :
    text? pieces = some (String.ofList cs) := by
  rw [text?, h, Option.map_some]

/-- The text in a string is shorter than an object around the string. -/
theorem length_encode_lt {key : Key} {before after : List Blank} {more : Entries}
    {cs : List Char} (hs : unescape? pieces = some cs) :
    (Utf8.encode cs).length <
      (Tree.object key before (.quoted pieces) after more).bytes.length := by
  have hle := (spells_of_unescape? hs).length_le
  simp only [Tree.bytes_object, Tree.bytes_quoted, quotedBytes, List.length_cons,
    List.length_append]
  omega

/-- **The inside of an object below the top level is read as what the object denotes.** -/
theorem readObject_of_denotes (he : Decodes size embedded) (h : Reads size depth value)
    (hobject : t.IsObject) (hsize : t.bytes.length ≤ size) (hdepth : t.depth ≤ depth + 1)
    (ht : t.Denotes v) :
    ∃ inside, t.bytes = 0x7B :: inside ∧
      ∀ rest, readObject embedded value (inside ++ rest) = .ok (v, rest) := by
  have plain {t : Tree} {members : Members} (hsize : t.bytes.length ≤ size)
      (hdepth : t.depth ≤ depth + 1) (ht : t.Holds members) (hw : t.wrapper? = none) :
      ∃ inside, t.bytes = 0x7B :: inside ∧
        ∀ rest, readObject embedded value (inside ++ rest) = .ok (.object members, rest) := by
    obtain ⟨inside, hinside, hread⟩ := readMembers_object h hsize hdepth ht
    refine ⟨inside, hinside, fun rest => ?_⟩
    have hnone : wrapper? (inside ++ rest) = none := by
      rw [← Option.map_eq_none_iff, ht.wrapper?_eq hinside rest, hw]
    simp only [readObject, hnone, hread]
    rfl
  cases ht with
  | null | boolean | numeral | quoted | emptyArray | array => cases hobject
  | emptyObject inside => exact plain hsize hdepth (.empty inside) rfl
  | object hname hplain members =>
    exact plain hsize hdepth (.entries members) ((Tree.wrapper?_object hname).trans hplain)
  | @wrappedNumber key before after pieces n hname hs =>
    have hv : Wrapper.number.unwrap embedded (String.ofList n.chars) = .ok (.number n.number) := by
      have hn : Number.ofText (Utf8.encode n.chars) = .ok n.number :=
        Number.ofText_eq_ok_iff.mpr ⟨n, rfl, rfl⟩
      rw [Wrapper.unwrap, ofString_ofList, hn]
      rfl
    exact readObject_wrapped hname (Wrapper.ofKey?_eq_number_iff.mpr rfl) (text?_eq_some hs) hv
      before after
  | @wrappedText key before after pieces doc v hname hs hdocDepth inner =>
    have hlt : doc.bytes.length < size := Nat.lt_of_lt_of_le (length_encode_lt hs) hsize
    have hv : Wrapper.text.unwrap embedded (String.ofList doc.chars) = .ok v := by
      rw [Wrapper.unwrap, ofString_ofList]
      exact he.complete hlt hdocDepth inner
    exact readObject_wrapped hname (Wrapper.ofKey?_eq_text_iff.mpr rfl) (text?_eq_some hs) hv
      before after

end

/-! ## 6. Values -/

/-- A word as it is written. -/
def Word.tree : Word → Tree
  | .null => .null
  | .boolean b => .boolean b

theorem Word.denotes (word : Word) : word.tree.Denotes word.value := by
  cases word with
  | null => exact .null
  | boolean b => exact .boolean b

theorem Word.depth_tree (word : Word) : word.tree.depth = 0 := by cases word <;> rfl

/-- The first byte of a word and the others are the word. -/
theorem Word.bytes_of_ofFirst? {b : UInt8} {word : Word} {tail : Bytes}
    (h : Word.ofFirst? b = some (word, tail)) : word.tree.bytes = b :: tail := by
  unfold Word.ofFirst? at h
  split at h
  · cases h; simp only [*]; rfl
  · split at h
    · cases h; simp only [*]; rfl
    · split at h
      · cases h; simp only [*]; rfl
      · cases h

section

variable {size depth : Nat} {embedded : Bytes → Except ReadError Value} {bytes more rest : Bytes}
  {v : Value}

/-- What is read as a string is one. -/
theorem exists_quoted
    (h : (readText more).map (fun (s, after) => (Value.text s, after)) = .ok (v, rest)) :
    ∃ t : Tree, 0x22 :: more = t.bytes ++ rest ∧ t.depth ≤ depth ∧ t.Denotes v := by
  obtain ⟨⟨s, after⟩, htext, h⟩ := map_eq_ok.mp h
  cases h
  obtain ⟨pieces, hpieces, rfl⟩ := readText_eq_ok_iff.mp htext
  refine ⟨.quoted pieces, ?_, Nat.zero_le _, .quoted hpieces⟩
  rw [Tree.bytes_quoted, quotedBytes, List.cons_append, List.append_assoc]
  rfl

/-- What is read as a number is one. -/
theorem exists_numeral
    (h : (Number.read bytes).map (fun (n, after) => (Value.number n, after)) = .ok (v, rest)) :
    ∃ t : Tree, bytes = t.bytes ++ rest ∧ t.depth ≤ depth ∧ t.Denotes v := by
  obtain ⟨⟨n, after⟩, hread, h⟩ := map_eq_ok.mp h
  cases h
  obtain ⟨m, rfl, hbytes⟩ := Number.of_read hread
  exact ⟨.numeral m, hbytes, Nat.zero_le _, .numeral m⟩

/-- What is read as a word is one. -/
theorem exists_word {b : UInt8} {word : Word} {tail : Bytes}
    (hword : Word.ofFirst? b = some (word, tail))
    (h : (readWord tail more).map (fun after => (word.value, after)) = .ok (v, rest)) :
    ∃ t : Tree, b :: more = t.bytes ++ rest ∧ t.depth ≤ depth ∧ t.Denotes v := by
  obtain ⟨after, hread, h⟩ := map_eq_ok.mp h
  cases h
  refine ⟨word.tree, ?_, word.depth_tree ▸ Nat.zero_le _, word.denotes⟩
  rw [word.bytes_of_ofFirst? hword, eq_append_of_readWord hread, List.cons_append]

/-- **What is read as a value is one**, with white space in front. -/
theorem readWithin_sound (he : Decodes size embedded)
    (ih : ∀ d, depth = d + 1 → Reads size d (Value.readWithin embedded d))
    (h : Value.readWithin embedded depth bytes = .ok (v, rest)) :
    ∃ ws t, bytes = blankBytes ws ++ (Tree.bytes t ++ rest) ∧ t.depth ≤ depth ∧ t.Denotes v := by
  unfold Value.readWithin at h
  split at h
  · cases h
  rename_i b more hskip
  suffices ht : ∃ t : Tree, b :: more = t.bytes ++ rest ∧ t.depth ≤ depth ∧ t.Denotes v by
    obtain ⟨ws, rfl⟩ := exists_blanks_of_skipBlanks hskip
    obtain ⟨t, hbytes, ht⟩ := ht
    exact ⟨ws, t, by rw [hbytes], ht⟩
  -- the cases are those of the first byte: a string, a number with a sign and without one, an
  -- array, an object, a word
  split at h
  · rename_i hb
    rw [eq_of_mark hb rfl]
    exact exists_quoted h
  · exact exists_numeral h
  · exact exists_numeral h
  · rename_i hb
    split at h
    · cases h
    · rename_i d
      obtain ⟨⟨items, after⟩, hread, h⟩ := map_eq_ok.mp h
      cases h
      rw [eq_of_mark hb rfl]
      exact exists_array (ih d rfl) hread
  · rename_i hb
    split at h
    · cases h
    · rename_i d
      rw [eq_of_mark hb rfl]
      exact exists_of_readObject he (ih d rfl) h
  · split at h
    · cases h
    · rename_i word tail hword
      exact exists_word hword h

/-- White space in front of a value is skipped. -/
theorem readWithin_blanks_append {b : UInt8} (hb : isBlank b = false) (ws : List Blank)
    (more : Bytes) :
    Value.readWithin embedded depth (blankBytes ws ++ b :: more) =
      Value.readWithin embedded depth (b :: more) := by
  unfold Value.readWithin
  rw [skipBlanks_append, skipBlanks_cons hb]

theorem readWithin_word (word : Word) (rest : Bytes) :
    Value.readWithin embedded depth (word.tree.bytes ++ rest) = .ok (word.value, rest) := by
  unfold Value.readWithin
  cases word with
  | null => exact congrArg (Except.map _) (readWord_append nullTail rest)
  | boolean b =>
    cases b with
    | true => exact congrArg (Except.map _) (readWord_append trueTail rest)
    | false => exact congrArg (Except.map _) (readWord_append falseTail rest)

theorem readWithin_numeral (n : Numeral) (hrest : Delimited rest) :
    Value.readWithin embedded depth (n.bytes ++ rest) = .ok (.number n.number, rest) := by
  have hread := Number.read_bytes n hrest
  obtain ⟨b, more, hb, hmark⟩ := Number.exists_head_bytes n
  have hblank : isBlank b = false := (Tree.numeral n).isBlank_head hb
  rw [hb, List.cons_append] at hread ⊢
  unfold Value.readWithin
  obtain hmark | hmark := hmark <;> simp only [skipBlanks_cons hblank, hmark, hread] <;> rfl

theorem readWithin_quoted {pieces : List Piece} {s : String} (h : text? pieces = some s)
    (rest : Bytes) :
    Value.readWithin embedded depth (quotedBytes pieces ++ rest) = .ok (.text s, rest) := by
  unfold Value.readWithin
  rw [quotedBytes, List.cons_append, List.append_assoc]
  exact congrArg (Except.map _) (readText_pieces h rest)

/-- **A value is read as what it stands for**, where nothing follows that could go on with it. -/
theorem readWithin_complete (he : Decodes size embedded)
    (ih : ∀ d, depth = d + 1 → Reads size d (Value.readWithin embedded d)) {t : Tree}
    (ws : List Blank) (hsize : t.bytes.length ≤ size) (hdepth : t.depth ≤ depth)
    (ht : t.Denotes v) (hrest : Delimited rest) :
    Value.readWithin embedded depth (blankBytes ws ++ (t.bytes ++ rest)) = .ok (v, rest) := by
  obtain ⟨b, more, hhead, hblank, -⟩ := t.exists_head
  suffices h : Value.readWithin embedded depth (t.bytes ++ rest) = .ok (v, rest) by
    rw [hhead, List.cons_append] at h ⊢
    rwa [readWithin_blanks_append hblank]
  have hdeeper (h : 1 ≤ t.depth) : ∃ d, depth = d + 1 :=
    Nat.exists_eq_add_one_of_ne_zero (Nat.ne_zero_of_lt (Nat.le_trans h hdepth))
  have object (hobject : t.IsObject) (h : 1 ≤ t.depth) :
      Value.readWithin embedded depth (t.bytes ++ rest) = .ok (v, rest) := by
    obtain ⟨d, rfl⟩ := hdeeper h
    obtain ⟨inside, hinside, hread⟩ :=
      readObject_of_denotes he (ih d rfl) hobject hsize hdepth ht
    rw [hinside, List.cons_append, Value.readWithin]
    exact hread rest
  cases ht with
  | null => exact readWithin_word .null rest
  | boolean b => exact readWithin_word (.boolean b) rest
  | numeral n => exact readWithin_numeral n hrest
  | quoted h =>
    rw [Tree.bytes_quoted]
    exact readWithin_quoted h rest
  | emptyArray inside =>
    obtain ⟨d, rfl⟩ := hdeeper (Nat.le_refl 1)
    rw [Tree.bytes_emptyArray, List.cons_append, List.append_assoc, Value.readWithin]
    exact congrArg (Except.map _) (Enclosure.readItems_close
      (Enclosure.turn_close (e := brackets) (c := 0x5D) rfl rfl inside rest))
  | array items =>
    obtain ⟨d, rfl⟩ := hdeeper (Nat.le_add_left 1 _)
    simp only [Tree.bytes_array, List.cons_append, List.append_assoc, Value.readWithin]
    exact congrArg (Except.map _) (readItems_array (ih d rfl) hsize hdepth items)
  | emptyObject | object | wrappedNumber | wrappedText =>
    exact object trivial (Nat.le_add_left 1 _)

/-- **The reader of values up to a depth reads the values of that depth**, if the reader of texts
in strings reads texts. -/
theorem reads_readWithin (he : Decodes size embedded) (depth : Nat) :
    Reads size depth (Value.readWithin embedded depth) := by
  induction depth with
  | zero =>
    have hnone : ∀ d, 0 = d + 1 → Reads size d (Value.readWithin embedded d) :=
      fun d h => absurd h (Nat.zero_ne_add_one d)
    exact ⟨readWithin_sound he hnone, readWithin_complete he hnone⟩
  | succ depth ih =>
    have ih' : ∀ d, depth + 1 = d + 1 → Reads size d (Value.readWithin embedded d) := by
      rintro d ⟨⟩
      exact ih
    exact ⟨readWithin_sound he ih', readWithin_complete he ih'⟩

end

/-! ## 7. Texts -/

/-- A text is over where nothing but white space is left. -/
theorem readEnd_eq_ok_iff {bytes : Bytes} :
    readEnd bytes = .ok () ↔ ∃ ws, bytes = blankBytes ws := by
  constructor
  · intro h
    obtain ⟨ws, hws⟩ := exists_blanks bytes
    unfold readEnd at h
    split at h
    · rename_i hnil
      exact ⟨ws, by rw [hws, hnil, List.append_nil]⟩
    · cases h
  · rintro ⟨ws, rfl⟩
    rw [readEnd, ← List.append_nil (blankBytes ws), skipBlanks_append]
    rfl

/-- A whole text is read exactly when nothing but white space is left behind what is read. -/
theorem readWholeText_eq_ok_iff {α : Type} {reader : Reader α} {text : Bytes} {a : α} :
    readWholeText reader text = .ok a ↔ ∃ ws, reader text = .ok (a, blankBytes ws) := by
  unfold readWholeText
  cases hr : reader text with
  | error f => exact ⟨nofun, nofun⟩
  | ok r =>
    obtain ⟨a', rest⟩ := r
    simp only [Except.ok.injEq, Prod.mk.injEq]
    constructor
    · intro h
      cases hend : readEnd rest with
      | error f => simp only [bind, Except.bind, hend] at h; cases h
      | ok u =>
        simp only [bind, Except.bind, hend] at h
        cases h
        obtain ⟨ws, hws⟩ := readEnd_eq_ok_iff.mp hend
        exact ⟨ws, rfl, hws⟩
    · rintro ⟨ws, rfl, rfl⟩
      simp only [bind, Except.bind, readEnd_eq_ok_iff.mpr ⟨ws, rfl⟩]
      rfl

/-- The reader of texts reads those that are shorter than the number of levels it may go down. -/
theorem decodes_decodeWithin (levels : Nat) : Decodes levels (Value.decodeWithin levels) := by
  induction levels with
  | zero => exact ⟨nofun, fun h => absurd h (Nat.not_lt_zero _)⟩
  | succ levels ih =>
    have hreads := reads_readWithin ih depthLimit
    constructor
    · intro text v h
      obtain ⟨after, h⟩ := readWholeText_eq_ok_iff.mp h
      obtain ⟨before, t, rfl, hdepth, ht⟩ := hreads.sound h
      exact ⟨⟨before, t, after⟩, Document.bytes_eq _, hdepth, ht⟩
    · intro doc v hlength hdepth ht
      have hsize : doc.tree.bytes.length ≤ levels := by
        simp only [Document.bytes_eq, List.length_append] at hlength
        omega
      rw [Document.bytes_eq]
      exact readWholeText_eq_ok_iff.mpr
        ⟨_, hreads.complete doc.before hsize hdepth ht (delimited_blanks doc.after)⟩

/-- **A text is read as the members of a message** exactly when it is a document that opens few
enough containers and holds those members. -/
theorem Members.decode_eq_ok_iff {text : Bytes} {members : Members} :
    Members.decode text = .ok members ↔
      ∃ doc : Document, doc.bytes = text ∧ doc.tree.depth ≤ depthLimit ∧
        doc.tree.Holds members := by
  have hreads := reads_readWithin (decodes_decodeWithin text.length) (depthLimit - 1)
  constructor
  · intro h
    obtain ⟨after, h⟩ := readWholeText_eq_ok_iff.mp h
    unfold readTopObject at h
    split at h
    · cases h
    · rename_i b more hskip
      split at h
      · rename_i hb
        obtain ⟨t, hbytes, hdepth, ht⟩ := exists_object hreads h
        obtain ⟨before, rfl⟩ := exists_blanks_of_skipBlanks hskip
        refine ⟨⟨before, t, after⟩, ?_, hdepth, ht⟩
        rw [Document.bytes_eq, ← hbytes, eq_of_mark hb rfl]
      · cases h
  · rintro ⟨doc, rfl, hdepth, ht⟩
    have hsize : doc.tree.bytes.length ≤ doc.bytes.length := by
      simp only [Document.bytes_eq, List.length_append]
      omega
    obtain ⟨inside, hinside, hread⟩ := readMembers_object hreads hsize hdepth ht
    have hbrace : mark 0x7B = .openBrace := rfl
    have hblank : isBlank 0x7B = false := rfl
    refine readWholeText_eq_ok_iff.mpr ⟨doc.after, ?_⟩
    simp only [readTopObject, Document.bytes_eq, skipBlanks_append, hinside, List.cons_append,
      skipBlanks_cons hblank, if_pos hbrace] at hread ⊢
    exact hread _

end BrokerBridge.Json
