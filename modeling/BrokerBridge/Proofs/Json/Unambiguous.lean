import BrokerBridge.Proofs.Json.Reading

/-!
# A JSON text has one derivation

What a text derives from is decided by its bytes from left to right: white space ends at the first
byte that is none, a string at its closing quote, a number where `Delimited` says, and the first
byte of a value tells its form.  So each of these is a prefix that is determined together with what
follows it.

* `Tree.eq_of_append` is that statement for values, by induction over the value.
* **`Document.eq_of_bytes`**: two documents with the same bytes are the same.
* **`Tree.Denotes.unique`**: a value stands for one value only.
-/
namespace BrokerBridge.Json

/-! ## 1. White space, strings and numbers -/

theorem Blank.byte_injective (w w' : Blank) (h : w.byte = w'.byte) : w = w' := by
  cases w <;> cases w' <;> first | rfl | exact absurd h (by decide)

theorem blankBytes_injective {ws ws' : List Blank} (h : blankBytes ws = blankBytes ws') :
    ws = ws' :=
  (List.map_inj_right Blank.byte_injective).mp h

/-- White space is determined where a byte follows that is none. -/
theorem eq_of_blankBytes_append {ws ws' : List Blank} {b b' : UInt8} {rest rest' : Bytes}
    (hb : isBlank b = false) (hb' : isBlank b' = false)
    (h : blankBytes ws ++ b :: rest = blankBytes ws' ++ b' :: rest') :
    ws = ws' ∧ b :: rest = b' :: rest' := by
  have hrest := congrArg skipBlanks h
  rw [skipBlanks_append, skipBlanks_append, skipBlanks_cons hb, skipBlanks_cons hb'] at hrest
  rw [hrest] at h
  exact ⟨blankBytes_injective (List.append_cancel_right h), hrest⟩

theorem HexDigit.char_injective (a b : HexDigit) : a.char = b.char → a = b := by
  cases a <;> cases b <;> rename_i x y <;> revert x y <;> decide

theorem ShortEscape.letter_injective (e e' : ShortEscape) (h : e.letter = e'.letter) : e = e' := by
  cases e <;> cases e' <;> first | rfl | exact absurd h (by decide)

theorem ShortEscape.letter_ne (e : ShortEscape) : e.letter ≠ 'u' := by cases e <;> decide

theorem Piece.exists_head (p : Piece) : ∃ c cs, p.chars = c :: cs ∧ c ≠ '"' := by
  cases p with
  | plain c h => exact ⟨c, [], rfl, h.1⟩
  | short e => exact ⟨'\\', _, rfl, by decide⟩
  | unit a b c d => exact ⟨'\\', _, rfl, by decide⟩

theorem encode_cons_append (c : Char) (cs : List Char) (rest : Bytes) :
    Utf8.encode (c :: cs) ++ rest = String.utf8EncodeChar c ++ (Utf8.encode cs ++ rest) := by
  rw [Utf8.encode_cons, List.append_assoc]

/-- A piece of a string is determined. -/
theorem Piece.eq_of_append {p p' : Piece} {rest rest' : Bytes}
    (h : Utf8.encode p.chars ++ rest = Utf8.encode p'.chars ++ rest') : p = p' ∧ rest = rest' := by
  -- the first character tells an escape from the others, the second one a letter from a code unit
  cases p <;> cases p' <;> simp only [Piece.chars, encode_cons_append] at h <;>
    replace h := Utf8.eq_of_encodeChar_append h
  case plain.plain c hc c' hc' =>
    obtain ⟨rfl, hrest⟩ := h
    exact ⟨rfl, hrest⟩
  case plain.short c hc e' => exact absurd h.1 hc.2.1
  case plain.unit c hc a' b' c' d' => exact absurd h.1 hc.2.1
  case short.plain e c' hc' => exact absurd h.1.symm hc'.2.1
  case unit.plain a b c d c' hc' => exact absurd h.1.symm hc'.2.1
  case short.short e e' =>
    obtain ⟨he, hrest⟩ := Utf8.eq_of_encodeChar_append h.2
    exact ⟨congrArg _ (e.letter_injective e' he), hrest⟩
  case short.unit e a' b' c' d' =>
    exact absurd (Utf8.eq_of_encodeChar_append h.2).1 e.letter_ne
  case unit.short a b c d e' =>
    exact absurd (Utf8.eq_of_encodeChar_append h.2).1.symm e'.letter_ne
  case unit.unit a b c d a' b' c' d' =>
    obtain ⟨-, h⟩ := Utf8.eq_of_encodeChar_append h.2
    obtain ⟨ha, h⟩ := Utf8.eq_of_encodeChar_append h
    obtain ⟨hb, h⟩ := Utf8.eq_of_encodeChar_append h
    obtain ⟨hc, h⟩ := Utf8.eq_of_encodeChar_append h
    obtain ⟨hd, hrest⟩ := Utf8.eq_of_encodeChar_append h
    rw [a.char_injective a' ha, b.char_injective b' hb, c.char_injective c' hc,
      d.char_injective d' hd]
    exact ⟨rfl, hrest⟩

/-- A string is determined by its closing quote. -/
theorem eq_of_pieceBytes_append {pieces pieces' : List Piece} {rest rest' : Bytes}
    (h : pieceBytes pieces ++ 0x22 :: rest = pieceBytes pieces' ++ 0x22 :: rest') :
    pieces = pieces' ∧ rest = rest' := by
  have hquote (p : Piece) (pieces : List Piece) (rest rest' : Bytes) :
      0x22 :: rest ≠ pieceBytes (p :: pieces) ++ rest' := by
    intro h
    obtain ⟨c, cs, hp, hc⟩ := p.exists_head
    rw [pieceBytes_cons, hp, Utf8.encode_cons, List.append_assoc, List.append_assoc] at h
    exact hc (Utf8.eq_of_encodeChar_append (c := '"') h).1.symm
  induction pieces generalizing pieces' with
  | nil =>
    cases pieces' with
    | nil => exact ⟨rfl, (List.cons.inj h).2⟩
    | cons p' pieces' => exact absurd h (hquote _ _ _ _)
  | cons p pieces ih =>
    cases pieces' with
    | nil => exact absurd h.symm (hquote _ _ _ _)
    | cons p' pieces' =>
      rw [pieceBytes_cons, pieceBytes_cons, List.append_assoc, List.append_assoc] at h
      obtain ⟨rfl, hmore⟩ := Piece.eq_of_append h
      obtain ⟨rfl, hrest⟩ := ih hmore
      exact ⟨rfl, hrest⟩

/-- A string with its quotes is determined. -/
theorem eq_of_quotedBytes_append {pieces pieces' : List Piece} {rest rest' : Bytes}
    (h : quotedBytes pieces ++ rest = quotedBytes pieces' ++ rest') :
    pieces = pieces' ∧ rest = rest' := by
  simp only [quotedBytes, List.cons_append, List.append_assoc, List.nil_append,
    List.cons.injEq, true_and] at h
  exact eq_of_pieceBytes_append h

theorem Whole.toList_injective {w w' : Whole} (h : w.toList = w'.toList) : w = w' := by
  cases w with
  | zero =>
    cases w' with
    | zero => rfl
    | digits first hne more => exact absurd (List.cons.inj h).1.symm hne
  | digits first hne more =>
    cases w' with
    | zero => exact absurd (List.cons.inj h).1 hne
    | digits first' hne' more' =>
      obtain ⟨rfl, rfl⟩ := List.cons.inj h
      rfl

theorem Numeral.fractionDigits_injective {f f' : Option (Digit × List Digit)}
    (h : fractionDigits f = fractionDigits f') : f = f' := by
  rcases f with _ | ⟨d, ds⟩ <;> rcases f' with _ | ⟨d', ds'⟩
  · rfl
  · cases h
  · cases h
  · obtain ⟨rfl, rfl⟩ := List.cons.inj h
    rfl

theorem Number.signBytes_injective {s s' : Option Bool} (h : signBytes s = signBytes s') :
    s = s' := by
  rcases s with _ | _ | _ <;> rcases s' with _ | _ | _ <;>
    first | rfl | exact absurd h (by decide)

/-- An exponent is determined by its bytes and its digits. -/
theorem Number.eq_of_powerBytes {p p' : Option Power} (h : powerBytes p = powerBytes p')
    (he : p.map Power.exponent = p'.map Power.exponent) : p = p' := by
  rcases p with _ | ⟨capital, sign, first, more⟩ <;>
    rcases p' with _ | ⟨capital', sign', first', more'⟩
  · rfl
  · cases he
  · cases he
  · simp only [Option.map_some, Power.exponent, Option.some.injEq, Exponent.mk.injEq,
      List.cons.injEq] at he
    obtain ⟨-, rfl, rfl⟩ := he
    obtain ⟨hcapital, hsign⟩ := List.cons.inj h
    obtain rfl := signBytes_injective (List.append_cancel_right hsign)
    cases capital <;> cases capital' <;> first | rfl | cases hcapital

/-- A number is determined where nothing follows that could go on with it. -/
theorem Numeral.eq_of_append {n n' : Numeral} {rest rest' : Bytes} (hr : Delimited rest)
    (hr' : Delimited rest') (h : n.bytes ++ rest = n'.bytes ++ rest') : n = n' ∧ rest = rest' := by
  have hread := (Number.read_bytes n hr).symm.trans ((congrArg _ h).trans
    (Number.read_bytes n' hr'))
  obtain ⟨hnumber, rfl⟩ := Prod.mk.inj (Except.ok.inj hread)
  refine ⟨?_, rfl⟩
  -- the number has all of the numeral but how its exponent is written, which the bytes tell
  have hbytes := List.append_cancel_right h
  obtain ⟨minus, w, f, p⟩ := n
  obtain ⟨minus', w', f', p'⟩ := n'
  simp only [number, Number.mk.injEq] at hnumber
  obtain ⟨rfl, hw, hf, hp⟩ := hnumber
  obtain rfl := Whole.toList_injective hw
  obtain rfl := fractionDigits_injective hf
  simp only [bytes_eq, List.append_cancel_left_eq] at hbytes
  rw [Number.eq_of_powerBytes hbytes hp]

theorem Numeral.chars_injective {n n' : Numeral} (h : n.chars = n'.chars) : n = n' :=
  (eq_of_append delimited_nil delimited_nil (congrArg (Utf8.encode · ++ []) h)).1

/-! ## 2. Values -/

/-- The form of a value, which its first byte tells. -/
inductive Form where
  | word
  | number
  | string
  | array
  | object

/-- The form of a value that starts with a mark. -/
def Form.ofMark : Mark → Form
  | .quote => .string
  | .minus | .digit => .number
  | .openBracket => .array
  | .openBrace => .object
  | _ => .word

/-- The form of a value. -/
def Tree.form : Tree → Form
  | .null | .boolean _ => .word
  | .numeral _ => .number
  | .quoted _ => .string
  | .emptyArray _ | .array .. => .array
  | .emptyObject _ | .object .. => .object

/-- The first byte of a value tells its form. -/
theorem Tree.form_eq (t : Tree) {b : UInt8} {rest : Bytes} (h : t.bytes = b :: rest) :
    Form.ofMark (mark b) = t.form := by
  have hb {c : UInt8} {more : Bytes} (h' : t.bytes = c :: more) : b = c :=
    (List.cons.inj (h.symm.trans h')).1
  cases t with
  | null => rw [hb rfl]; rfl
  | boolean w => cases w <;> (rw [hb rfl]; rfl)
  | numeral n =>
    obtain ⟨c, more, h', hmark⟩ := Number.exists_head_bytes n
    rw [hb h']
    obtain hmark | hmark := hmark <;> rw [hmark] <;> rfl
  | quoted pieces => rw [hb (bytes_quoted pieces)]; rfl
  | emptyArray inside => rw [hb bytes_emptyArray]; rfl
  | array before first after more => rw [hb bytes_array]; rfl
  | emptyObject inside => rw [hb bytes_emptyObject]; rfl
  | object key before first after more => rw [hb bytes_object]; rfl

section

variable {t t' : Tree} {rest rest' : Bytes}

/-- Values that start the same text have one form. -/
theorem Tree.form_eq_of_append (h : t.bytes ++ rest = t'.bytes ++ rest') : t.form = t'.form := by
  obtain ⟨b, more, hb, -⟩ := t.exists_head
  obtain ⟨b', more', hb', -⟩ := t'.exists_head
  rw [hb, hb', List.cons_append, List.cons_append] at h
  rw [← t.form_eq hb, ← t'.form_eq hb', (List.cons.inj h).1]

/-- White space in front of a value is determined. -/
theorem eq_of_blanks_tree {ws ws' : List Blank}
    (h : blankBytes ws ++ (t.bytes ++ rest) = blankBytes ws' ++ (t'.bytes ++ rest')) :
    ws = ws' ∧ t.bytes ++ rest = t'.bytes ++ rest' := by
  obtain ⟨b, more, hb, hblank, -⟩ := t.exists_head
  obtain ⟨b', more', hb', hblank', -⟩ := t'.exists_head
  rw [hb, hb', List.cons_append, List.cons_append] at h ⊢
  exact eq_of_blankBytes_append hblank hblank' h

/-- The name of a member is determined by the colon behind it. -/
theorem eq_of_key_append {key key' : Key}
    (h : key.bytes ++ 0x3A :: rest = key'.bytes ++ 0x3A :: rest') : key = key' ∧ rest = rest' := by
  obtain ⟨before, pieces, after⟩ := key
  obtain ⟨before', pieces', after'⟩ := key'
  simp only [Key.bytes, quotedBytes, List.append_assoc, List.cons_append, List.nil_append] at h
  obtain ⟨rfl, hpieces⟩ := eq_of_blankBytes_append rfl rfl h
  obtain ⟨rfl, hafter⟩ := eq_of_pieceBytes_append (List.cons.inj hpieces).2
  obtain ⟨rfl, hrest⟩ := eq_of_blankBytes_append rfl rfl hafter
  exact ⟨rfl, (List.cons.inj hrest).2⟩

/-- A word is determined. -/
theorem word_of_append (word word' : Word)
    (h : word.tree.bytes ++ rest = word'.tree.bytes ++ rest') : word = word' ∧ rest = rest' := by
  have hfirst := congrArg List.head? h
  rcases word with _ | _ | _ <;> rcases word' with _ | _ | _ <;>
    first | exact ⟨rfl, List.append_cancel_left h⟩ | cases hfirst

/-- No value stands before the end of an array. -/
theorem close_ne_tree {ws ws' : List Blank} :
    blankBytes ws ++ 0x5D :: rest ≠ blankBytes ws' ++ (t.bytes ++ rest') := by
  intro h
  obtain ⟨b, more, hb, hblank, hclose, -⟩ := t.exists_head
  rw [hb, List.cons_append] at h
  rw [← (List.cons.inj (eq_of_blankBytes_append rfl hblank h).2).1] at hclose
  exact hclose rfl

/-- No name stands before the end of an object. -/
theorem close_ne_key {ws : List Blank} {key : Key} :
    blankBytes ws ++ 0x7D :: rest ≠ key.bytes ++ rest' := by
  intro h
  simp only [Key.bytes, quotedBytes, List.append_assoc, List.cons_append] at h
  exact absurd (List.cons.inj (eq_of_blankBytes_append rfl rfl h).2).1 (by decide)

end

mutual

/-- **A value is determined** where nothing follows that could go on with it. -/
theorem Tree.eq_of_append : ∀ (t t' : Tree) {rest rest' : Bytes}, Delimited rest →
    Delimited rest' → t.bytes ++ rest = t'.bytes ++ rest' → t = t' ∧ rest = rest'
  | .null, t', rest, rest', _, _, h => by
    have hform := Tree.form_eq_of_append h
    cases t' with
    | null => exact ⟨rfl, (word_of_append .null .null h).2⟩
    | boolean b => cases (word_of_append .null (.boolean b) h).1
    | numeral | quoted | emptyArray | array | emptyObject | object => cases hform
  | .boolean b, t', rest, rest', _, _, h => by
    have hform := Tree.form_eq_of_append h
    cases t' with
    | null => cases (word_of_append (.boolean b) .null h).1
    | boolean b' =>
      obtain ⟨heq, hrest⟩ := word_of_append (.boolean b) (.boolean b') h
      cases heq
      exact ⟨rfl, hrest⟩
    | numeral | quoted | emptyArray | array | emptyObject | object => cases hform
  | .numeral n, t', rest, rest', hr, hr', h => by
    have hform := Tree.form_eq_of_append h
    cases t' with
    | numeral n' =>
      obtain ⟨rfl, hrest⟩ := Numeral.eq_of_append hr hr' h
      exact ⟨rfl, hrest⟩
    | null | boolean | quoted | emptyArray | array | emptyObject | object => cases hform
  | .quoted pieces, t', rest, rest', _, _, h => by
    have hform := Tree.form_eq_of_append h
    cases t' with
    | quoted pieces' =>
      rw [Tree.bytes_quoted, Tree.bytes_quoted] at h
      obtain ⟨rfl, hrest⟩ := eq_of_quotedBytes_append h
      exact ⟨rfl, hrest⟩
    | null | boolean | numeral | emptyArray | array | emptyObject | object => cases hform
  | .emptyArray inside, t', rest, rest', _, _, h => by
    have hform := Tree.form_eq_of_append h
    cases t' with
    | emptyArray inside' =>
      simp only [Tree.bytes_emptyArray, List.cons_append, List.append_assoc, List.cons.injEq,
        true_and] at h
      obtain ⟨rfl, hrest⟩ := eq_of_blankBytes_append rfl rfl h
      exact ⟨rfl, (List.cons.inj hrest).2⟩
    | array before' first' after' more' =>
      simp only [Tree.bytes_emptyArray, Tree.bytes_array, List.cons_append, List.append_assoc,
        List.cons.injEq, true_and] at h
      exact absurd h close_ne_tree
    | null | boolean | numeral | quoted | emptyObject | object => cases hform
  | .array before first after more, t', rest, rest', _, _, h => by
    have hform := Tree.form_eq_of_append h
    cases t' with
    | emptyArray inside' =>
      simp only [Tree.bytes_emptyArray, Tree.bytes_array, List.cons_append, List.append_assoc,
        List.cons.injEq, true_and] at h
      exact absurd h.symm close_ne_tree
    | array before' first' after' more' =>
      simp only [Tree.bytes_array, List.cons_append, List.append_assoc, List.nil_append,
        List.cons.injEq, true_and] at h
      obtain ⟨rfl, hfirst⟩ := eq_of_blanks_tree h
      obtain ⟨rfl, hmore⟩ := Tree.eq_of_append first first'
        (delimited_blanks_append after (delimited_items more rest))
        (delimited_blanks_append after' (delimited_items more' rest')) hfirst
      obtain ⟨rfl, rfl, hrest⟩ := Items.eq_of_append more more' hmore
      exact ⟨rfl, hrest⟩
    | null | boolean | numeral | quoted | emptyObject | object => cases hform
  | .emptyObject inside, t', rest, rest', _, _, h => by
    have hform := Tree.form_eq_of_append h
    cases t' with
    | emptyObject inside' =>
      simp only [Tree.bytes_emptyObject, List.cons_append, List.append_assoc, List.cons.injEq,
        true_and] at h
      obtain ⟨rfl, hrest⟩ := eq_of_blankBytes_append rfl rfl h
      exact ⟨rfl, (List.cons.inj hrest).2⟩
    | object key' before' first' after' more' =>
      simp only [Tree.bytes_emptyObject, Tree.bytes_object, List.cons_append, List.append_assoc,
        List.cons.injEq, true_and] at h
      exact absurd h close_ne_key
    | null | boolean | numeral | quoted | emptyArray | array => cases hform
  | .object key before first after more, t', rest, rest', _, _, h => by
    have hform := Tree.form_eq_of_append h
    cases t' with
    | emptyObject inside' =>
      simp only [Tree.bytes_emptyObject, Tree.bytes_object, List.cons_append, List.append_assoc,
        List.cons.injEq, true_and] at h
      exact absurd h.symm close_ne_key
    | object key' before' first' after' more' =>
      simp only [Tree.bytes_object, List.cons_append, List.append_assoc, List.nil_append,
        List.cons.injEq, true_and] at h
      obtain ⟨rfl, hbefore⟩ := eq_of_key_append h
      obtain ⟨rfl, hfirst⟩ := eq_of_blanks_tree hbefore
      obtain ⟨rfl, hmore⟩ := Tree.eq_of_append first first'
        (delimited_blanks_append after (delimited_entries more rest))
        (delimited_blanks_append after' (delimited_entries more' rest')) hfirst
      obtain ⟨rfl, rfl, hrest⟩ := Entries.eq_of_append more more' hmore
      exact ⟨rfl, hrest⟩
    | null | boolean | numeral | quoted | emptyArray | array => cases hform

/-- Further items are determined by the closing mark behind them. -/
theorem Items.eq_of_append : ∀ (more more' : Items) {ws ws' : List Blank} {rest rest' : Bytes},
    blankBytes ws ++ (more.bytes ++ 0x5D :: rest) =
      blankBytes ws' ++ (more'.bytes ++ 0x5D :: rest') →
    ws = ws' ∧ more = more' ∧ rest = rest'
  | .nil, .nil, ws, ws', rest, rest', h => by
    obtain ⟨hws, hrest⟩ := eq_of_blankBytes_append rfl rfl h
    exact ⟨hws, rfl, (List.cons.inj hrest).2⟩
  | .nil, .cons before' t' after' more', ws, ws', rest, rest', h => by
    rw [Items.bytes_cons] at h
    exact absurd (List.cons.inj (eq_of_blankBytes_append rfl rfl h).2).1 (by decide)
  | .cons before t after more, .nil, ws, ws', rest, rest', h => by
    rw [Items.bytes_cons] at h
    exact absurd (List.cons.inj (eq_of_blankBytes_append rfl rfl h).2).1 (by decide)
  | .cons before t after more, .cons before' t' after' more', ws, ws', rest, rest', h => by
    simp only [Items.bytes_cons, List.cons_append, List.append_assoc] at h
    obtain ⟨rfl, hbefore⟩ := eq_of_blankBytes_append rfl rfl h
    obtain ⟨rfl, hvalue⟩ := eq_of_blanks_tree (List.cons.inj hbefore).2
    obtain ⟨rfl, hmore⟩ := Tree.eq_of_append t t'
      (delimited_blanks_append after (delimited_items more rest))
      (delimited_blanks_append after' (delimited_items more' rest')) hvalue
    obtain ⟨rfl, rfl, hrest⟩ := Items.eq_of_append more more' hmore
    exact ⟨rfl, rfl, hrest⟩

/-- Further members are determined by the closing mark behind them. -/
theorem Entries.eq_of_append : ∀ (more more' : Entries) {ws ws' : List Blank}
    {rest rest' : Bytes}, blankBytes ws ++ (more.bytes ++ 0x7D :: rest) =
      blankBytes ws' ++ (more'.bytes ++ 0x7D :: rest') →
    ws = ws' ∧ more = more' ∧ rest = rest'
  | .nil, .nil, ws, ws', rest, rest', h => by
    obtain ⟨hws, hrest⟩ := eq_of_blankBytes_append rfl rfl h
    exact ⟨hws, rfl, (List.cons.inj hrest).2⟩
  | .nil, .cons key' before' t' after' more', ws, ws', rest, rest', h => by
    rw [Entries.bytes_cons] at h
    exact absurd (List.cons.inj (eq_of_blankBytes_append rfl rfl h).2).1 (by decide)
  | .cons key before t after more, .nil, ws, ws', rest, rest', h => by
    rw [Entries.bytes_cons] at h
    exact absurd (List.cons.inj (eq_of_blankBytes_append rfl rfl h).2).1 (by decide)
  | .cons key before t after more, .cons key' before' t' after' more', ws, ws', rest, rest', h => by
    simp only [Entries.bytes_cons, List.cons_append, List.append_assoc] at h
    obtain ⟨rfl, hkey⟩ := eq_of_blankBytes_append rfl rfl h
    obtain ⟨rfl, hbefore⟩ := eq_of_key_append (List.cons.inj hkey).2
    obtain ⟨rfl, hvalue⟩ := eq_of_blanks_tree hbefore
    obtain ⟨rfl, hmore⟩ := Tree.eq_of_append t t'
      (delimited_blanks_append after (delimited_entries more rest))
      (delimited_blanks_append after' (delimited_entries more' rest')) hvalue
    obtain ⟨rfl, rfl, hrest⟩ := Entries.eq_of_append more more' hmore
    exact ⟨rfl, rfl, hrest⟩

end

/-- **Two documents with the same bytes are the same.** -/
theorem Document.eq_of_bytes {doc doc' : Document} (h : doc.bytes = doc'.bytes) : doc = doc' := by
  obtain ⟨before, t, after⟩ := doc
  obtain ⟨before', t', after'⟩ := doc'
  simp only [Document.bytes_eq] at h
  obtain ⟨rfl, htree⟩ := eq_of_blanks_tree h
  obtain ⟨rfl, hrest⟩ :=
    Tree.eq_of_append t t' (delimited_blanks after) (delimited_blanks after') htree
  rw [blankBytes_injective hrest]

/-- A text is the object of at most one list of members. -/
theorem PlainReading.unique {text : Bytes} {members members' : List (String × Plain)}
    (h : PlainReading text members) (h' : PlainReading text members') : members = members' := by
  obtain ⟨doc, hbytes, hplain⟩ := h
  obtain ⟨doc', hbytes', hplain'⟩ := h'
  obtain rfl := Document.eq_of_bytes (hbytes.trans hbytes'.symm)
  cases hplain.symm.trans hplain'
  rfl

/-! ## 3. Readings -/

mutual

/-- **A value stands for one value only.** -/
theorem Tree.Denotes.unique : ∀ {t : Tree} {v v' : Value}, t.Denotes v → t.Denotes v' → v = v'
  | _, _, _, .null, .null => rfl
  | _, _, _, .boolean _, .boolean _ => rfl
  | _, _, _, .numeral _, .numeral _ => rfl
  | _, _, _, .quoted hs, .quoted hs' => by rw [Option.some.inj (hs.symm.trans hs')]
  | _, _, _, .emptyArray _, .emptyArray _ => rfl
  | _, _, _, .array items, .array items' => by rw [Items.Denote.unique items items']
  | _, _, _, .emptyObject _, .emptyObject _ => rfl
  | _, _, _, .object _ _ members, .object _ _ members' => by
    rw [Entries.Denote.unique members members']
  | _, _, _, .wrappedNumber _ hs, .wrappedNumber _ hs' => by
    rw [Numeral.chars_injective (Option.some.inj (hs.symm.trans hs'))]
  | _, _, _, .wrappedText _ hs _ inner, .wrappedText _ hs' _ inner' => by
    have hbytes := congrArg Utf8.encode (Option.some.inj (hs.symm.trans hs'))
    obtain rfl := Document.eq_of_bytes hbytes
    exact Tree.Denotes.unique inner inner'
  -- the key in front tells which wrapper an object is, if it is one
  | _, _, _, .object hname hplain _, .wrappedNumber hname' _
  | _, _, _, .wrappedNumber hname' _, .object hname hplain _ => by
    obtain rfl := Option.some.inj (hname.symm.trans hname')
    rw [Wrapper.ofKey?_eq_number_iff.mpr rfl] at hplain
    cases hplain
  | _, _, _, .object hname hplain _, .wrappedText hname' _ _ _
  | _, _, _, .wrappedText hname' _ _ _, .object hname hplain _ => by
    obtain rfl := Option.some.inj (hname.symm.trans hname')
    rw [Wrapper.ofKey?_eq_text_iff.mpr rfl] at hplain
    cases hplain
  | _, _, _, .wrappedNumber hname _, .wrappedText hname' _ _ _
  | _, _, _, .wrappedText hname' _ _ _, .wrappedNumber hname _ =>
    absurd (Option.some.inj (hname.symm.trans hname')) (by decide)

theorem Items.Denote.unique : ∀ {more : Items} {vs vs' : List Value}, Items.Denote more vs →
    Items.Denote more vs' → vs = vs'
  | _, _, _, .nil, .nil => rfl
  | _, _, _, .cons head tail, .cons head' tail' => by
    rw [Tree.Denotes.unique head head', Items.Denote.unique tail tail']

theorem Entries.Denote.unique : ∀ {more : Entries} {entries entries' : List (String × Value)},
    Entries.Denote more entries → Entries.Denote more entries' → entries = entries'
  | _, _, _, .nil, .nil => rfl
  | _, _, _, .cons hname head tail, .cons hname' head' tail' => by
    rw [Option.some.inj (hname.symm.trans hname'), Tree.Denotes.unique head head',
      Entries.Denote.unique tail tail']

end

end BrokerBridge.Json
