import BrokerBridge.Proofs.Json.Marks

/-!
# Strings of a JSON text

The reader of strings, against the grammar.  It joins the bytes that stand for themselves with
those that escapes stand for, and decodes the whole as UTF-8; the grammar has characters from the
start.  The two agree because an escape never brings a part of a character.

* `scanText_cases` says what one step of the reader is: the end, an escape, or one byte.
* **`readText_eq_ok_iff`**: a string is read exactly when its pieces stand for a text.
* `quotedPieces` is the string that a text is written as; it stands for that text.
-/
namespace BrokerBridge.Json

/-! ## 1. Escapes -/

/-- The byte of a hexadecimal digit. -/
def HexDigit.byte : HexDigit → UInt8
  | .decimal d => UInt8.ofNat (0x30 + d)
  | .lower letter => UInt8.ofNat (0x61 + letter)
  | .upper letter => UInt8.ofNat (0x41 + letter)

theorem encodeChar_hexDigit (h : HexDigit) : String.utf8EncodeChar h.char = [h.byte] := by
  cases h with
  | decimal d => revert d; decide
  | lower l => revert l; decide
  | upper l => revert l; decide

theorem hexDigit?_byte (h : HexDigit) : hexDigit? h.byte = some h.value := by
  cases h with
  | decimal d => revert d; decide
  | lower l => revert l; decide
  | upper l => revert l; decide

/-- A byte that has a value as a hexadecimal digit is one. -/
theorem exists_hexDigit {b : UInt8} {n : Nat} (h : hexDigit? b = some n) :
    ∃ d : HexDigit, d.byte = b ∧ d.value = n := by
  have byte {k : Nat} (hk : k ≤ b.toNat) : UInt8.ofNat (k + (b.toNat - k)) = b := by
    rw [Nat.add_sub_cancel' hk, UInt8.ofNat_toNat]
  simp only [hexDigit?, UInt8.le_iff_toNat_le, UInt8.reduceToNat] at h
  split at h
  · cases h
    exact ⟨.decimal ⟨b.toNat - 0x30, by omega⟩, byte (by omega), rfl⟩
  · split at h
    · cases h
      exact ⟨.upper ⟨b.toNat - 0x41, by omega⟩, byte (by omega), Nat.add_comm _ _⟩
    · split at h
      · cases h
        exact ⟨.lower ⟨b.toNat - 0x61, by omega⟩, byte (by omega), Nat.add_comm _ _⟩
      · cases h

theorem readUnit_bytes (a b c d : HexDigit) (rest : Bytes) :
    readUnit (a.byte :: b.byte :: c.byte :: d.byte :: rest) =
      .ok (Piece.unitValue a b c d, rest) := by
  simp only [readUnit, hexUnit?, hexDigit?_byte]
  rfl

/-- What is read as a code unit are four hexadecimal digits. -/
theorem of_readUnit {bytes rest : Bytes} {unit : Nat} (h : readUnit bytes = .ok (unit, rest)) :
    ∃ a b c d : HexDigit, Piece.unitValue a b c d = unit ∧
      bytes = a.byte :: b.byte :: c.byte :: d.byte :: rest := by
  unfold readUnit at h
  split at h
  · rename_i a b c d after
    split at h
    · rename_i hu
      cases h
      simp only [hexUnit?, bind, Option.bind_eq_some_iff, pure, Option.some.injEq] at hu
      obtain ⟨va, ha, vb, hb, vc, hc, vd, hd, rfl⟩ := hu
      obtain ⟨a, rfl, rfl⟩ := exists_hexDigit ha
      obtain ⟨b, rfl, rfl⟩ := exists_hexDigit hb
      obtain ⟨c, rfl, rfl⟩ := exists_hexDigit hc
      obtain ⟨d, rfl, rfl⟩ := exists_hexDigit hd
      exact ⟨a, b, c, d, rfl, rfl⟩
    · cases h
  · cases h

/-- The bytes of pieces. -/
def pieceBytes (pieces : List Piece) : Bytes := Utf8.encode (pieces.flatMap Piece.chars)

theorem pieceBytes_cons (p : Piece) (pieces : List Piece) :
    pieceBytes (p :: pieces) = Utf8.encode p.chars ++ pieceBytes pieces := by
  rw [pieceBytes, List.flatMap_cons, Utf8.encode_append]
  rfl

theorem pieceBytes_append (pieces pieces' : List Piece) :
    pieceBytes (pieces ++ pieces') = pieceBytes pieces ++ pieceBytes pieces' := by
  rw [pieceBytes, List.flatMap_append, Utf8.encode_append]
  rfl

theorem encode_unit (a b c d : HexDigit) :
    Utf8.encode (Piece.unit a b c d).chars =
      [backslash, unitLetter, a.byte, b.byte, c.byte, d.byte] := by
  simp only [Piece.chars, Utf8.encode_cons, encodeChar_hexDigit]
  rfl

/-- A unit that is no half of a surrogate pair stands for a character, whatever follows. -/
theorem unescape?_unit_cons {a b c d : HexDigit}
    (ht : isTrailing (Piece.unitValue a b c d) = false)
    (hl : isLeading (Piece.unitValue a b c d) = false) (rest : List Piece) :
    unescape? (.unit a b c d :: rest) =
      (unescape? rest).map (Char.ofNat (Piece.unitValue a b c d) :: ·) := by
  cases rest with
  | nil => simp [unescape?, ht, hl]
  | cons p rest => cases p <;> simp [unescape?, ht, hl]

/-- The two halves of a surrogate pair stand for one character. -/
theorem unescape?_pair_cons {a b c d a' b' c' d' : HexDigit}
    (ht : isTrailing (Piece.unitValue a b c d) = false)
    (hl : isLeading (Piece.unitValue a b c d) = true)
    (ht' : isTrailing (Piece.unitValue a' b' c' d') = true) (rest : List Piece) :
    unescape? (.unit a b c d :: .unit a' b' c' d' :: rest) =
      (unescape? rest).map
        (Char.ofNat (joinSurrogates (Piece.unitValue a b c d) (Piece.unitValue a' b' c' d')) :: ·)
        := by
  simp [unescape?, ht, hl, ht']

/-- The pieces are one escape, which stands for `c`: with a backslash in front and `seg` after it,
it is read as the bytes of `c`. -/
structure EscapeOf (pieces : List Piece) (c : Char) (seg : Bytes) : Prop where
  bytes_eq : pieceBytes pieces = backslash :: seg
  unescape_append : ∀ rest, unescape? (pieces ++ rest) = (unescape? rest).map (c :: ·)
  read : ∀ rest, readEscape (seg ++ rest) = .ok (Utf8.encode [c], rest)
  length_le : (String.utf8EncodeChar c).length ≤ seg.length + 1

theorem length_encodeChar_le (c : Char) : (String.utf8EncodeChar c).length ≤ 4 := by
  rw [String.length_utf8EncodeChar]
  exact c.utf8Size_le_four

/-- An escape of one letter is an escape. -/
theorem escapeOf_short (e : ShortEscape) :
    EscapeOf [.short e] e.char (Utf8.encode [e.letter]) where
  bytes_eq := by cases e <;> rfl
  unescape_append _ := rfl
  read _ := by cases e <;> rfl
  length_le := by cases e <;> decide

/-- A unit that is no half of a surrogate pair is an escape. -/
theorem escapeOf_unit {a b c d : HexDigit} (ht : isTrailing (Piece.unitValue a b c d) = false)
    (hl : isLeading (Piece.unitValue a b c d) = false) :
    EscapeOf [.unit a b c d] (Char.ofNat (Piece.unitValue a b c d))
      (unitLetter :: [a.byte, b.byte, c.byte, d.byte]) where
  bytes_eq := by rw [pieceBytes_cons, encode_unit]; rfl
  unescape_append := unescape?_unit_cons ht hl
  read rest := by
    have hread := readUnit_bytes a b c d rest
    simp only [List.cons_append, List.nil_append, readEscape, if_true, readUnitEscape, hread, bind,
      Except.bind, ht, hl, Bool.false_eq_true, if_false]
    rfl
  length_le := Nat.le_trans (length_encodeChar_le _) (by simp)

/-- The two halves of a surrogate pair are an escape. -/
theorem escapeOf_pair {a b c d a' b' c' d' : HexDigit}
    (ht : isTrailing (Piece.unitValue a b c d) = false)
    (hl : isLeading (Piece.unitValue a b c d) = true)
    (ht' : isTrailing (Piece.unitValue a' b' c' d') = true) :
    EscapeOf [.unit a b c d, .unit a' b' c' d']
      (Char.ofNat (joinSurrogates (Piece.unitValue a b c d) (Piece.unitValue a' b' c' d')))
      (unitLetter :: [a.byte, b.byte, c.byte, d.byte, backslash, unitLetter, a'.byte, b'.byte,
        c'.byte, d'.byte]) where
  bytes_eq := by rw [pieceBytes_cons, pieceBytes_cons, encode_unit, encode_unit]; rfl
  unescape_append := unescape?_pair_cons ht hl ht'
  read rest := by
    have hread := readUnit_bytes a b c d
      (backslash :: unitLetter :: a'.byte :: b'.byte :: c'.byte :: d'.byte :: rest)
    have hread' := readUnit_bytes a' b' c' d' rest
    simp only [List.cons_append, List.nil_append, readEscape, if_true, readUnitEscape, hread, bind,
      Except.bind, ht, hl, Bool.false_eq_true, if_false, readPairByte, hread', ht', Except.map]
  length_le := Nat.le_trans (length_encodeChar_le _) (by simp)

/-- The pieces are characters that stand for themselves and escapes, one for each character. -/
inductive Spells : List Piece → List Char → Prop where
  | nil : Spells [] []
  | plain {c : Char} (hc : IsUnescaped c) {pieces : List Piece} {cs : List Char}
      (tail : Spells pieces cs) : Spells (.plain c hc :: pieces) (c :: cs)
  | escape {head : List Piece} {c : Char} {seg : Bytes} (hescape : EscapeOf head c seg)
      {pieces : List Piece} {cs : List Char} (tail : Spells pieces cs) :
      Spells (head ++ pieces) (c :: cs)

/-- Pieces that stand for a text spell it. -/
theorem spells_of_unescape? {pieces : List Piece} {cs : List Char}
    (h : unescape? pieces = some cs) : Spells pieces cs := by
  -- a unit escape is the first half of a pair, a character of its own before another unit escape,
  -- or a character of its own before anything else (cases 5, 7 and 9); elsewhere it stands for none
  fun_induction unescape? pieces generalizing cs with
  | case1 =>
    cases h
    exact .nil
  | case2 c hc tail ih =>
    obtain ⟨ds, hds, rfl⟩ := Option.map_eq_some_iff.mp h
    exact .plain hc (ih hds)
  | case3 e tail ih =>
    obtain ⟨ds, hds, rfl⟩ := Option.map_eq_some_iff.mp h
    exact .escape (escapeOf_short e) (ih hds)
  | case5 =>
    rename_i ht hl ht' ih
    obtain ⟨ds, hds, rfl⟩ := Option.map_eq_some_iff.mp h
    exact .escape (escapeOf_pair (Bool.eq_false_iff.mpr ht) hl ht') (ih hds)
  | case7 =>
    rename_i ht hl ih
    obtain ⟨ds, hds, rfl⟩ := Option.map_eq_some_iff.mp h
    exact .escape (escapeOf_unit (Bool.eq_false_iff.mpr ht) (Bool.eq_false_iff.mpr hl)) (ih hds)
  | case9 =>
    rename_i hsingle ih
    obtain ⟨ds, hds, rfl⟩ := Option.map_eq_some_iff.mp h
    obtain ⟨ht, hl⟩ := not_or.mp hsingle
    exact .escape (escapeOf_unit (Bool.eq_false_iff.mpr ht) (Bool.eq_false_iff.mpr hl)) (ih hds)
  | case4 | case6 | case8 => cases h

theorem of_readPairByte {b : UInt8} {bytes rest : Bytes} (h : readPairByte b bytes = .ok rest) :
    bytes = b :: rest := by
  cases bytes with
  | nil => cases h
  | cons c bytes =>
    rw [readPairByte] at h
    split at h
    · rename_i hc
      rw [hc, Except.ok.inj h]
    · cases h

/-- What is read as an escape by code unit is one unit or a pair of them. -/
theorem exists_escapeOf_unit {bytes rest : Bytes} {c : Char}
    (h : readUnitEscape bytes = .ok (c, rest)) :
    ∃ pieces seg, EscapeOf pieces c (unitLetter :: seg) ∧ bytes = seg ++ rest := by
  obtain ⟨⟨lead, rest₁⟩, h₁, hlead⟩ := bind_eq_ok.mp h
  obtain ⟨x, y, z, w, rfl, rfl⟩ := of_readUnit h₁
  cases ht : isTrailing (Piece.unitValue x y z w) with
  | true => simp [ht] at hlead
  | false =>
    cases hl : isLeading (Piece.unitValue x y z w) with
    | false =>
      simp only [ht, hl, Bool.false_eq_true, if_false] at hlead
      cases hlead
      exact ⟨_, _, escapeOf_unit ht hl, rfl⟩
    | true =>
      simp only [ht, hl, Bool.false_eq_true, if_false, if_true] at hlead
      obtain ⟨rest₂, h₂, hslash⟩ := bind_eq_ok.mp hlead
      obtain ⟨rest₃, h₃, hletter⟩ := bind_eq_ok.mp hslash
      obtain ⟨⟨trail, rest₄⟩, h₄, htrail⟩ := bind_eq_ok.mp hletter
      obtain rfl := of_readPairByte h₂
      obtain rfl := of_readPairByte h₃
      obtain ⟨x', y', z', w', rfl, rfl⟩ := of_readUnit h₄
      cases ht' : isTrailing (Piece.unitValue x' y' z' w') with
      | false => simp [ht'] at htrail
      | true =>
        simp only [ht', if_true] at htrail
        obtain ⟨rfl, rfl⟩ := Prod.mk.inj (Except.ok.inj htrail)
        exact ⟨_, _, escapeOf_pair ht hl ht', by simp only [List.cons_append, List.nil_append]⟩

theorem exists_escapeOf_short {letter b : UInt8} (h : shortEscape? letter = some b) :
    ∃ e : ShortEscape, Utf8.encode [e.letter] = [letter] ∧ Utf8.encode [e.char] = [b] := by
  have hletter : letter = 0x22 ∨ letter = backslash ∨ letter = 0x2F ∨ letter = 0x62 ∨
      letter = 0x66 ∨ letter = 0x6E ∨ letter = 0x72 ∨ letter = 0x74 := by
    unfold shortEscape? at h
    grind
  obtain rfl | rfl | rfl | rfl | rfl | rfl | rfl | rfl := hletter <;> cases h
  · exact ⟨.quote, rfl, rfl⟩
  · exact ⟨.backslash, rfl, rfl⟩
  · exact ⟨.slash, rfl, rfl⟩
  · exact ⟨.backspace, rfl, rfl⟩
  · exact ⟨.formFeed, rfl, rfl⟩
  · exact ⟨.lineFeed, rfl, rfl⟩
  · exact ⟨.carriageReturn, rfl, rfl⟩
  · exact ⟨.tab, rfl, rfl⟩

/-- **What is read as an escape is one.** -/
theorem exists_escapeOf {bytes content rest : Bytes} (h : readEscape bytes = .ok (content, rest)) :
    ∃ pieces c seg, EscapeOf pieces c seg ∧ bytes = seg ++ rest ∧ content = Utf8.encode [c] := by
  unfold readEscape at h
  split at h
  · cases h
  · rename_i letter after
    split at h
    · rename_i hletter
      obtain ⟨⟨c, rest'⟩, hunit, hc⟩ := map_eq_ok.mp h
      cases hc
      obtain ⟨pieces, seg, hescape, rfl⟩ := exists_escapeOf_unit hunit
      exact ⟨pieces, c, _, hescape, by rw [hletter]; rfl, rfl⟩
    · cases hs : shortEscape? letter with
      | none => simp [hs] at h
      | some b =>
        simp only [hs] at h
        cases h
        obtain ⟨e, hletter, hchar⟩ := exists_escapeOf_short hs
        exact ⟨_, _, _, escapeOf_short e, by rw [hletter]; rfl, hchar.symm⟩

/-! ## 2. Bytes that stand for themselves -/

/-- A byte of a string that is not the start of an escape and does not end the string. -/
def IsRaw (b : UInt8) : Prop := b ≠ 0x22 ∧ b ≠ backslash ∧ 0x20 ≤ b.toNat

theorem isRaw_of_le {b : UInt8} (h : 0x80 ≤ b.toNat) : IsRaw b := by
  refine ⟨?_, ?_, Nat.le_trans (by decide) h⟩ <;> rintro rfl <;> exact absurd h (by decide)

/-- The bytes of a character that needs no escape stand for themselves. -/
theorem IsUnescaped.isRaw {c : Char} (hc : IsUnescaped c) :
    ∀ b ∈ String.utf8EncodeChar c, IsRaw b := by
  obtain ⟨hquote, hslash, hcontrol⟩ := hc
  obtain ⟨hlt, he⟩ | ⟨-, lead, tail, he, hlead, htail⟩ := Utf8.encodeChar_cases c
  · have hn : (UInt8.ofNat c.toNat).toNat = c.toNat :=
      UInt8.toNat_ofNat_of_lt' (Nat.lt_trans hlt (by decide))
    have ne {d : Char} (hd : c ≠ d) : c.toNat ≠ d.toNat := fun h => hd (Char.toNat_inj.mp h)
    rw [he]
    intro b hb
    obtain rfl := List.mem_singleton.mp hb
    refine ⟨fun h => ne hquote ?_, fun h => ne hslash ?_, hn.symm ▸ hcontrol⟩
    · rw [← hn, h]; rfl
    · rw [← hn, h]; rfl
  · rw [he]
    intro b hb
    obtain rfl | hb := List.mem_cons.mp hb
    · exact isRaw_of_le (Nat.le_trans (by decide) hlead)
    · exact isRaw_of_le (htail b hb).1

/-- A character that starts with such a byte needs no escape. -/
theorem isUnescaped_of_isRaw {c : Char} {b : UInt8} {tail : Bytes}
    (he : String.utf8EncodeChar c = b :: tail) (hb : IsRaw b) : IsUnescaped c := by
  obtain ⟨hquote, hslash, hcontrol⟩ := hb
  refine ⟨?_, ?_, ?_⟩
  · rintro rfl
    exact hquote (List.cons.inj he).1.symm
  · rintro rfl
    exact hslash (List.cons.inj he).1.symm
  · obtain ⟨hlt, he'⟩ | ⟨hge, -⟩ := Utf8.encodeChar_cases c
    · obtain ⟨rfl, -⟩ := List.cons.inj (he'.symm.trans he)
      rwa [UInt8.toNat_ofNat_of_lt' (Nat.lt_trans hlt (by decide))] at hcontrol
    · exact Nat.le_trans (by decide) hge

/-! ## 3. Reading over a string -/

theorem scanText_append (skipped rest : Bytes) :
    scanText skipped.length (skipped ++ rest) = scanText 0 rest := by
  induction skipped with
  | nil => rfl
  | cons b skipped ih => exact ih

theorem scanText_quote (rest : Bytes) : scanText 0 (0x22 :: rest) = .ok ([], rest) := by
  rw [scanText]
  exact if_pos rfl

theorem scanText_raw {b : UInt8} (hb : IsRaw b) (rest : Bytes) :
    scanText 0 (b :: rest) = (scanText 0 rest).map fun (more, after) => (b :: more, after) := by
  obtain ⟨hquote, hslash, hcontrol⟩ := hb
  have hctl : isControl b = false :=
    decide_eq_false (by rw [UInt8.lt_iff_toNat_lt]; exact Nat.not_lt.mpr hcontrol)
  rw [scanText, if_neg (fun h => hquote (eq_of_mark h rfl)), if_neg hslash, hctl]
  rfl

/-- Bytes that stand for themselves are read over. -/
theorem scanText_raws {bs : Bytes} (hbs : ∀ b ∈ bs, IsRaw b) (rest : Bytes) :
    scanText 0 (bs ++ rest) = (scanText 0 rest).map fun (more, after) => (bs ++ more, after) := by
  induction bs with
  | nil => cases h : scanText 0 rest <;> simp [h, Except.map]
  | cons b bs ih =>
    rw [List.cons_append, scanText_raw (hbs b List.mem_cons_self),
      ih fun b hb => hbs b (List.mem_cons_of_mem _ hb)]
    cases scanText 0 rest <;> rfl

/-- An escape is read over as the character that it stands for. -/
theorem scanText_escape {pieces : List Piece} {c : Char} {seg : Bytes}
    (h : EscapeOf pieces c seg) (rest : Bytes) :
    scanText 0 (backslash :: (seg ++ rest)) =
      (scanText 0 rest).map fun (more, after) => (Utf8.encode [c] ++ more, after) := by
  have hmark : ¬mark backslash = .quote := by decide
  have hlen : (seg ++ rest).length - rest.length = seg.length := by
    rw [List.length_append, Nat.add_sub_cancel]
  rw [scanText, if_neg hmark, if_pos rfl, h.read rest]
  show (scanText ((seg ++ rest).length - rest.length) (seg ++ rest)).map _ = _
  rw [hlen, scanText_append]

/-- **What one step of reading over a string is**: the end, an escape, or one byte. -/
theorem scanText_cases {bytes content rest : Bytes} (h : scanText 0 bytes = .ok (content, rest)) :
    (bytes = 0x22 :: rest ∧ content = []) ∨
    (∃ pieces c seg after more, EscapeOf pieces c seg ∧ bytes = backslash :: (seg ++ after) ∧
      scanText 0 after = .ok (more, rest) ∧ content = String.utf8EncodeChar c ++ more) ∨
    (∃ b after more, IsRaw b ∧ bytes = b :: after ∧ scanText 0 after = .ok (more, rest) ∧
      content = b :: more) := by
  cases bytes with
  | nil => cases h
  | cons b bytes =>
    by_cases hquote : mark b = .quote
    · obtain rfl := eq_of_mark hquote rfl
      rw [scanText_quote] at h
      cases h
      exact Or.inl ⟨rfl, rfl⟩
    · by_cases hslash : b = backslash
      · subst hslash
        cases he : readEscape bytes with
        | error f => simp [scanText, hquote, he] at h
        | ok r =>
          obtain ⟨piece, after⟩ := r
          obtain ⟨pieces, c, seg, hescape, rfl, rfl⟩ := exists_escapeOf he
          rw [scanText_escape hescape] at h
          obtain ⟨⟨more, after'⟩, hmore, heq⟩ := map_eq_ok.mp h
          cases heq
          exact Or.inr (Or.inl ⟨pieces, c, seg, after, more, hescape, rfl, hmore, by simp⟩)
      · by_cases hctl : isControl b = true
        · simp [scanText, hquote, hslash, hctl] at h
        · have hraw : IsRaw b := by
            refine ⟨fun h => hquote (h ▸ rfl), hslash, ?_⟩
            rw [isControl, decide_eq_true_iff, UInt8.lt_iff_toNat_lt] at hctl
            exact Nat.le_of_not_lt hctl
          rw [scanText_raw hraw] at h
          obtain ⟨⟨more, after'⟩, hmore, heq⟩ := map_eq_ok.mp h
          cases heq
          exact Or.inr (Or.inr ⟨b, bytes, more, hraw, rfl, hmore, rfl⟩)

/-- Continuation bytes of a string stand for themselves: no escape brings a part of a character. -/
theorem scanText_continuations {tail bytes more rest : Bytes}
    (htail : ∀ b ∈ tail, Utf8.IsContinuation b) (h : scanText 0 bytes = .ok (tail ++ more, rest)) :
    ∃ after, bytes = tail ++ after ∧ scanText 0 after = .ok (more, rest) := by
  induction tail generalizing bytes with
  | nil => exact ⟨bytes, rfl, h⟩
  | cons t tail ih =>
    have ht := htail t List.mem_cons_self
    obtain ⟨-, hnil⟩ | ⟨pieces, c, seg, after, more', hescape, rfl, hmore, hcontent⟩ |
      ⟨b, after, more', hraw, rfl, hmore, hcontent⟩ := scanText_cases h
    · cases hnil
    · obtain ⟨lead, ts, he⟩ : ∃ lead ts, String.utf8EncodeChar c = lead :: ts :=
        List.exists_cons_of_ne_nil String.utf8EncodeChar_ne_nil
      rw [he] at hcontent
      obtain ⟨rfl, -⟩ := List.cons.inj hcontent
      exact absurd ht (Utf8.not_isContinuation_head he)
    · obtain ⟨rfl, rfl⟩ := List.cons.inj hcontent
      obtain ⟨after', rfl, hafter'⟩ := ih (fun b hb => htail b (List.mem_cons_of_mem _ hb)) hmore
      exact ⟨after', rfl, hafter'⟩

/-! ## 4. Strings -/

/-- What is read over stands for the text that its bytes decode to. -/
theorem exists_pieces {cs : List Char} {bytes rest : Bytes}
    (h : scanText 0 bytes = .ok (Utf8.encode cs, rest)) :
    ∃ pieces, unescape? pieces = some cs ∧ bytes = pieceBytes pieces ++ 0x22 :: rest := by
  induction cs generalizing bytes with
  | nil =>
    obtain ⟨rfl, -⟩ | ⟨_, c, _, _, _, -, -, -, hcontent⟩ | ⟨_, _, _, -, -, -, hcontent⟩ :=
      scanText_cases h
    · exact ⟨[], rfl, rfl⟩
    · exact absurd (List.append_eq_nil_iff.mp hcontent.symm).1 String.utf8EncodeChar_ne_nil
    · cases hcontent
  | cons c cs ih =>
    rw [Utf8.encode_cons] at h
    obtain ⟨-, hcontent⟩ | ⟨pieces, d, seg, after, more, hescape, rfl, hmore, hcontent⟩ |
      ⟨b, after, more, hraw, rfl, hmore, hcontent⟩ := scanText_cases h
    · exact absurd (List.append_eq_nil_iff.mp hcontent).1 String.utf8EncodeChar_ne_nil
    · obtain ⟨rfl, rfl⟩ := Utf8.eq_of_encodeChar_append hcontent
      obtain ⟨pieces', hpieces', rfl⟩ := ih hmore
      refine ⟨pieces ++ pieces', ?_, ?_⟩
      · rw [hescape.unescape_append, hpieces', Option.map_some]
      · rw [pieceBytes_append, hescape.bytes_eq, List.append_assoc, List.cons_append]
    · -- one byte is the first of a character; the others are continuations and stand next
      obtain ⟨lead, tail, he⟩ : ∃ lead tail, String.utf8EncodeChar c = lead :: tail :=
        List.exists_cons_of_ne_nil String.utf8EncodeChar_ne_nil
      rw [he, List.cons_append] at hcontent
      obtain ⟨rfl, rfl⟩ := List.cons.inj hcontent
      obtain ⟨after', rfl, hafter'⟩ :=
        scanText_continuations (Utf8.isContinuation_tail he) hmore
      obtain ⟨pieces, hpieces, rfl⟩ := ih hafter'
      refine ⟨.plain c (isUnescaped_of_isRaw he hraw) :: pieces, ?_, ?_⟩
      · rw [unescape?, hpieces, Option.map_some]
      · rw [pieceBytes_cons, Piece.chars, Utf8.encode_cons, he]
        simp

/-- Pieces that spell a text are read over as its bytes. -/
theorem scanText_pieces {pieces : List Piece} {cs : List Char} (h : Spells pieces cs)
    (rest : Bytes) :
    scanText 0 (pieceBytes pieces ++ 0x22 :: rest) = .ok (Utf8.encode cs, rest) := by
  induction h with
  | nil => exact scanText_quote rest
  | plain hc _ ih =>
    rw [pieceBytes_cons, Piece.chars, Utf8.encode_cons, Utf8.encode_nil, List.append_nil,
      List.append_assoc, scanText_raws hc.isRaw, ih]
    rfl
  | escape hescape _ ih =>
    rw [pieceBytes_append, hescape.bytes_eq, List.cons_append, List.cons_append,
      List.append_assoc, scanText_escape hescape, ih]
    simp [Except.map]

/-- **A string is read exactly when its pieces stand for a text.** -/
theorem readText_eq_ok_iff {bytes rest : Bytes} {s : String} :
    readText bytes = .ok (s, rest) ↔
      ∃ pieces, text? pieces = some s ∧ bytes = pieceBytes pieces ++ 0x22 :: rest := by
  constructor
  · intro h
    obtain ⟨⟨content, rest'⟩, hscan, h⟩ := bind_eq_ok.mp h
    cases ht : Utf8.text? content with
    | none => simp [ht] at h
    | some s' =>
      simp only [ht] at h
      cases h
      rw [Utf8.text?_eq_some_iff.mp ht] at hscan
      obtain ⟨pieces, hpieces, hbytes⟩ := exists_pieces hscan
      exact ⟨pieces, by rw [text?, hpieces, Option.map_some, String.ofList_toList], hbytes⟩
  · rintro ⟨pieces, ht, rfl⟩
    obtain ⟨cs, hcs, rfl⟩ := Option.map_eq_some_iff.mp ht
    have hdecode : Utf8.text? (Utf8.encode cs) = some (String.ofList cs) := by
      rw [Utf8.text?, Utf8.decode?_encode, Option.map_some]
    rw [readText, scanText_pieces (spells_of_unescape? hcs)]
    simp only [bind, Except.bind, hdecode]

theorem readText_pieces {pieces : List Piece} {s : String} (h : text? pieces = some s)
    (rest : Bytes) : readText (pieceBytes pieces ++ 0x22 :: rest) = .ok (s, rest) :=
  readText_eq_ok_iff.mpr ⟨pieces, h, rfl⟩

/-- Text is not longer than the pieces that spell it. -/
theorem Spells.length_le {pieces : List Piece} {cs : List Char} (h : Spells pieces cs) :
    (Utf8.encode cs).length ≤ (pieceBytes pieces).length := by
  induction h with
  | nil => exact Nat.le_refl _
  | plain hc _ ih =>
    simp only [pieceBytes_cons, Piece.chars, Utf8.encode_cons, Utf8.encode_nil, List.append_nil,
      List.length_append]
    exact Nat.add_le_add_left ih _
  | escape hescape _ ih =>
    rw [pieceBytes_append, hescape.bytes_eq, Utf8.encode_cons, List.length_append,
      List.length_append, List.length_cons]
    exact Nat.add_le_add hescape.length_le ih

/-! ## 5. Writing a string -/

/-- The hexadecimal digit that is written for a number below 16. -/
def HexDigit.ofNat (n : Nat) : HexDigit :=
  if h : n < 10 then .decimal ⟨n, h⟩ else .lower ⟨(n - 10) % 6, Nat.mod_lt _ (by decide)⟩

/-- The piece that a character is written as. -/
def Piece.ofChar (c : Char) : Piece :=
  if hquote : c = '"' then .short .quote
  else if hslash : c = '\\' then .short .backslash
  else if h : 0x20 ≤ c.toNat then .plain c ⟨hquote, hslash, h⟩
  else if c.toNat = 0x08 then .short .backspace
  else if c.toNat = 0x09 then .short .tab
  else if c.toNat = 0x0A then .short .lineFeed
  else if c.toNat = 0x0C then .short .formFeed
  else if c.toNat = 0x0D then .short .carriageReturn
  else .unit (.ofNat 0) (.ofNat 0) (.ofNat (c.toNat / 16)) (.ofNat (c.toNat % 16))

/-- A character is written as its piece. -/
theorem Piece.chars_ofChar (c : Char) : (Piece.ofChar c).chars = textChar c := by
  have hcontrol : ∀ n < 0x20, (ofChar (Char.ofNat n)).chars = textChar (Char.ofNat n) := by decide
  by_cases h : 0x20 ≤ c.toNat
  · unfold ofChar textChar
    simp only [dif_pos h, if_pos h]
    split
    · rfl
    · split <;> rfl
  · have hc := hcontrol c.toNat (Nat.lt_of_not_le h)
    rwa [Char.ofNat_toNat] at hc

theorem HexDigit.value_ofNat : ∀ n < 16, (HexDigit.ofNat n).value = n := by decide

/-- The piece that a character is written as stands for that character. -/
theorem unescape?_ofChar_cons (c : Char) (rest : List Piece) :
    unescape? (Piece.ofChar c :: rest) = (unescape? rest).map (c :: ·) := by
  have short {e : ShortEscape} (h : e.char = c) :
      unescape? (.short e :: rest) = (unescape? rest).map (c :: ·) := h ▸ rfl
  have char {n : Nat} (h : c.toNat = n) : Char.ofNat n = c := by rw [← h, Char.ofNat_toNat]
  unfold Piece.ofChar
  split
  · exact short (Eq.symm ‹_›)
  split
  · exact short (Eq.symm ‹_›)
  split
  · rfl
  rename_i hcontrol
  split
  · exact short (char ‹_›)
  split
  · exact short (char ‹_›)
  split
  · exact short (char ‹_›)
  split
  · exact short (char ‹_›)
  split
  · exact short (char ‹_›)
  have hhigh := HexDigit.value_ofNat (c.toNat / 16) (by omega)
  have hlow := HexDigit.value_ofNat (c.toNat % 16) (by omega)
  have hvalue : Piece.unitValue (.ofNat 0) (.ofNat 0) (.ofNat (c.toNat / 16))
      (.ofNat (c.toNat % 16)) = c.toNat := by
    rw [Piece.unitValue, hhigh, hlow]
    show (0 * 16 + 0) * 256 + c.toNat / 16 * 16 + c.toNat % 16 = c.toNat
    omega
  rw [unescape?_unit_cons, hvalue, Char.ofNat_toNat]
  · rw [hvalue]; exact decide_eq_false (by omega)
  · rw [hvalue]; exact decide_eq_false (by omega)

/-- The string that a text is written as. -/
def quotedPieces (s : String) : List Piece := s.toList.map Piece.ofChar

theorem quotedChars_quotedPieces (s : String) : quotedChars (quotedPieces s) = textChars s := by
  rw [quotedChars, quotedPieces, List.flatMap_map, textChars]
  simp only [Piece.chars_ofChar]

/-- The string that a text is written as stands for that text. -/
theorem text?_quotedPieces (s : String) : text? (quotedPieces s) = some s := by
  have h (cs : List Char) : unescape? (cs.map Piece.ofChar) = some cs := by
    induction cs with
    | nil => rfl
    | cons c cs ih => rw [List.map_cons, unescape?_ofChar_cons, ih, Option.map_some]
  rw [text?, quotedPieces, h, Option.map_some, String.ofList_toList]

end BrokerBridge.Json
