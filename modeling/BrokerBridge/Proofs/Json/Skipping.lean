import BrokerBridge.Json.Skip
import BrokerBridge.Proofs.Json.Reading

/-!
# Passing over a JSON value

`skipValue` reads over a value that nobody asks for.  It is a loop with the open containers on a
stack and with fuel; a tree is passed in no more steps than twice its length, so the fuel never
runs out.

* `Skips` is some steps of the loop, whatever fuel is left after them, and `Skips.trans` puts such
  runs together.
* **`skipValue_tree`**: every value of the grammar is passed over, to the byte behind it.

The reverse does not hold.  What is passed over need not be a value: the escapes of a string may be
halves of surrogate pairs, and its bytes no UTF-8.
-/
namespace BrokerBridge.Json

/-! ## 1. Strings -/

theorem skipTextFrom_append (skipped rest : Bytes) :
    skipTextFrom skipped.length (skipped ++ rest) = skipTextFrom 0 rest := by
  induction skipped with
  | nil => rfl
  | cons b skipped ih => exact ih

/-- Bytes that stand for themselves are passed over. -/
theorem skipTextFrom_raws {bs : Bytes} (hbs : ∀ b ∈ bs, IsRaw b) (rest : Bytes) :
    skipTextFrom 0 (bs ++ rest) = skipTextFrom 0 rest := by
  induction bs with
  | nil => rfl
  | cons b bs ih =>
    obtain ⟨⟨hquote, hslash, hcontrol⟩, hbs⟩ := List.forall_mem_cons.mp hbs
    have hctl : isControl b = false :=
      decide_eq_false (by rw [UInt8.lt_iff_toNat_lt]; exact Nat.not_lt.mpr hcontrol)
    rw [List.cons_append, skipTextFrom, if_neg (fun h => hquote (eq_of_mark h rfl)),
      if_neg hslash, hctl, if_neg Bool.false_ne_true, ih hbs]

/-- An escape is passed over. -/
theorem skipTextFrom_escape {seg : Bytes} (h : ∀ rest, skipEscape (seg ++ rest) = .ok rest)
    (rest : Bytes) : skipTextFrom 0 (backslash :: (seg ++ rest)) = skipTextFrom 0 rest := by
  have hmark : ¬mark backslash = .quote := by decide
  have hlen : (seg ++ rest).length - rest.length = seg.length := by
    rw [List.length_append, Nat.add_sub_cancel]
  rw [skipTextFrom, if_neg hmark, if_pos rfl, h rest]
  show skipTextFrom ((seg ++ rest).length - rest.length) (seg ++ rest) = _
  rw [hlen, skipTextFrom_append]

/-- **A string is passed over**, also one whose surrogates are not paired. -/
theorem skipText_pieces (pieces : List Piece) (rest : Bytes) :
    skipText (pieceBytes pieces ++ 0x22 :: rest) = .ok rest := by
  induction pieces with
  | nil =>
    rw [skipText]
    exact if_pos rfl
  | cons p pieces ih =>
    rw [skipText] at ih
    rw [skipText, pieceBytes_cons, List.append_assoc]
    cases p with
    | plain c hc =>
      rw [Piece.chars, Utf8.encode_cons, Utf8.encode_nil, List.append_nil,
        skipTextFrom_raws hc.isRaw, ih]
    | short e =>
      have hescape (rest : Bytes) : skipEscape (Utf8.encode [e.letter] ++ rest) = .ok rest := by
        cases e <;> rfl
      exact (skipTextFrom_escape hescape _).trans ih
    | unit a b c d =>
      have hescape (rest : Bytes) :
          skipEscape ([unitLetter, a.byte, b.byte, c.byte, d.byte] ++ rest) = .ok rest := by
        have hread := readUnit_bytes a b c d rest
        simp only [List.cons_append, List.nil_append, skipEscape, if_true, hread]
        rfl
      rw [encode_unit]
      exact (skipTextFrom_escape hescape _).trans ih

/-! ## 2. Steps -/

/-- Some steps of the loop lead from one place to another, whatever fuel is left. -/
def Skips (steps : Nat) (frames : List Frame) (state : SkipState) (bytes : Bytes)
    (frames' : List Frame) (state' : SkipState) (bytes' : Bytes) : Prop :=
  ∀ fuel, skipFrom (fuel + steps) frames state bytes = skipFrom fuel frames' state' bytes'

section

variable {m n : Nat} {frames frames' frames'' : List Frame} {frame : Frame}
  {state state' state'' : SkipState} {b : UInt8} {bytes bytes' bytes'' after : Bytes}

theorem Skips.trans (h : Skips m frames state bytes frames' state' bytes')
    (h' : Skips n frames' state' bytes' frames'' state'' bytes'') :
    Skips (n + m) frames state bytes frames'' state'' bytes'' := fun fuel => by
  rw [← Nat.add_assoc, h, h']

/-- A container is opened. -/
theorem skips_open (hb : isBlank b = false) (hframe : Frame.ofFirst? b = some frame)
    (ws : List Blank) :
    Skips 1 frames .value (blankBytes ws ++ b :: bytes) (frame :: frames) .opened bytes :=
  fun fuel => by
    simp only [skipFrom, skipBlanks_append, skipBlanks_cons hb, hframe]

/-- A container is closed. -/
theorem skips_close (h : state = .opened ∨ state = .passed) (hb : isBlank b = false)
    (hclose : mark b = frame.enclosure.close) (ws : List Blank) :
    Skips 1 (frame :: frames) state (blankBytes ws ++ b :: bytes) frames .passed bytes :=
  fun fuel => by
    obtain rfl | rfl := h <;>
      simp only [skipFrom, skipBlanks_append, skipBlanks_cons hb, if_pos hclose]

/-- A container with nothing inside is passed. -/
theorem skips_empty {b' : UInt8} (hb : isBlank b = false) (hframe : Frame.ofFirst? b = some frame)
    (hb' : isBlank b' = false) (hclose : mark b' = frame.enclosure.close) (ws inside : List Blank) :
    Skips 2 frames .value (blankBytes ws ++ b :: (blankBytes inside ++ b' :: bytes)) frames .passed
      bytes :=
  (skips_open hb hframe ws).trans (skips_close (Or.inl rfl) hb' hclose inside)

/-- The first item of a container is reached. -/
theorem skips_first (frame : Frame) (hb : isBlank b = false)
    (hclose : mark b ≠ frame.enclosure.close) (hkey : frame.skipKey (b :: bytes) = .ok after) (ws : List Blank) :
    Skips 1 (frame :: frames) .opened (blankBytes ws ++ b :: bytes) (frame :: frames) .value
      after := fun fuel => by
  simp only [skipFrom, skipBlanks_append, skipBlanks_cons hb, if_neg hclose, if_true, hkey]

/-- The next item of a container is reached behind a comma. -/
theorem skips_comma (hkey : frame.skipKey bytes = .ok after) (ws : List Blank) :
    Skips 1 (frame :: frames) .passed (blankBytes ws ++ 0x2C :: bytes) (frame :: frames) .value
      after := fun fuel => by
  have hb : isBlank 0x2C = false := rfl
  have hcomma : mark 0x2C = .comma := rfl
  have hclose : Mark.comma ≠ frame.enclosure.close := by cases frame <;> nofun
  simp only [skipFrom, skipBlanks_append, skipBlanks_cons hb, hcomma, if_neg hclose,
    reduceCtorEq, if_false, if_true, hkey]

/-- A key and its colon are passed over. -/
theorem skipKey_bytes (key : Key) (rest : Bytes) :
    Frame.object.skipKey (key.bytes ++ 0x3A :: rest) = .ok rest := by
  have hb : isBlank 0x22 = false := rfl
  have hquote : mark 0x22 = .quote := rfl
  simp only [Frame.skipKey, Key.bytes, quotedBytes, List.cons_append, List.append_assoc,
    List.nil_append, skipBlanks_append, skipBlanks_cons hb, if_pos hquote, skipText_pieces,
    Except.bind, readColon_append]

/-- The first member of an object is reached, behind its key. -/
theorem skips_firstKey (key : Key) (rest : Bytes) :
    Skips 1 (.object :: frames) .opened (key.bytes ++ 0x3A :: rest) (.object :: frames) .value
      rest := by
  have hkey := skipKey_bytes { key with before := [] } rest
  simp only [Key.bytes, quotedBytes, List.cons_append, List.append_assoc] at hkey ⊢
  exact skips_first .object rfl (by decide) hkey key.before

end

/-! ## 3. Values -/

/-- A value that is no container is passed in one step. -/
theorem Tree.exists_skips_scalar {t : Tree} {b : UInt8} {more rest : Bytes}
    (hhead : t.bytes = b :: more) (hframe : Frame.ofFirst? b = none)
    (h : skipScalar b (more ++ rest) = .ok rest) (frames : List Frame) (ws : List Blank) :
    ∃ n ≤ 2 * t.bytes.length,
      Skips n frames .value (blankBytes ws ++ (t.bytes ++ rest)) frames .passed rest := by
  refine ⟨1, by rw [hhead, List.length_cons]; omega, fun fuel => ?_⟩
  simp only [hhead, List.cons_append, skipFrom, skipBlanks_append,
    skipBlanks_cons (t.isBlank_head hhead), hframe, h]

theorem skipScalar_word {b : UInt8} {tail : Bytes} (word : Word)
    (h : Word.ofFirst? b = some (word, tail)) (rest : Bytes) :
    skipScalar b (tail ++ rest) = .ok rest := by
  have hmark : mark b = .other := by
    unfold Word.ofFirst? at h
    split at h
    · simp only [*]; rfl
    · split at h
      · simp only [*]; rfl
      · split at h
        · simp only [*]; rfl
        · cases h
  simp only [skipScalar, hmark, h, readWord_append]

theorem skipScalar_numeral {n : Numeral} {b : UInt8} {more rest : Bytes}
    (hhead : n.bytes = b :: more) (hrest : Delimited rest) :
    Frame.ofFirst? b = none ∧ skipScalar b (more ++ rest) = .ok rest := by
  obtain ⟨b', more', hhead', hmark⟩ := Number.exists_head_bytes n
  obtain ⟨rfl, rfl⟩ := List.cons.inj (hhead'.symm.trans hhead)
  have hread := Number.read_bytes n hrest
  rw [hhead, List.cons_append] at hread
  obtain hmark | hmark := hmark <;> exact ⟨by simp only [Frame.ofFirst?, hmark],
    by simp only [skipScalar, hmark, hread]⟩

mutual

/-- A value is passed in no more steps than twice its length. -/
theorem Tree.exists_skips : ∀ (t : Tree) (frames : List Frame) (ws : List Blank) {rest : Bytes},
    Delimited rest → ∃ n ≤ 2 * t.bytes.length,
      Skips n frames .value (blankBytes ws ++ (t.bytes ++ rest)) frames .passed rest
  | .null, frames, ws, rest, _ =>
    Tree.exists_skips_scalar rfl rfl (skipScalar_word .null rfl rest) frames ws
  | .boolean true, frames, ws, rest, _ =>
    Tree.exists_skips_scalar rfl rfl (skipScalar_word (.boolean true) rfl rest) frames ws
  | .boolean false, frames, ws, rest, _ =>
    Tree.exists_skips_scalar rfl rfl (skipScalar_word (.boolean false) rfl rest) frames ws
  | .numeral n, frames, ws, _, hrest => by
    obtain ⟨b, more, hhead, -⟩ := (Tree.numeral n).exists_head
    obtain ⟨hframe, hskip⟩ := skipScalar_numeral hhead hrest
    exact Tree.exists_skips_scalar hhead hframe hskip frames ws
  | .quoted pieces, frames, ws, rest, _ => by
    refine Tree.exists_skips_scalar (Tree.bytes_quoted pieces) rfl ?_ frames ws
    rw [List.append_assoc]
    exact skipText_pieces pieces rest
  | .emptyArray inside, frames, ws, rest, _ => by
    simp only [Tree.bytes_emptyArray, List.cons_append, List.append_assoc, List.nil_append]
    exact ⟨2, by simp only [List.length_cons, List.length_append]; omega,
      skips_empty rfl rfl rfl rfl ws inside⟩
  | .array before first after more, frames, ws, rest, _ => by
    obtain ⟨b, tail, hhead, hblank, hclose, -⟩ := first.exists_head
    obtain ⟨m, hm, hfirst⟩ := Tree.exists_skips first (.array :: frames) []
      (delimited_blanks_append after (delimited_items more rest))
    obtain ⟨n, hn, hmore⟩ := Items.exists_skips more frames after rest
    have hinside := hfirst.trans hmore
    rw [hhead, List.cons_append] at hinside
    simp only [Tree.bytes_array, List.cons_append, List.append_assoc, List.nil_append]
    refine ⟨n + m + 1 + 1, ?_, ?_⟩
    · simp only [List.length_cons, List.length_append]
      omega
    · rw [hhead, List.cons_append]
      exact (skips_open rfl rfl ws).trans ((skips_first .array hblank hclose rfl before).trans hinside)
  | .emptyObject inside, frames, ws, rest, _ => by
    simp only [Tree.bytes_emptyObject, List.cons_append, List.append_assoc, List.nil_append]
    exact ⟨2, by simp only [List.length_cons, List.length_append]; omega,
      skips_empty rfl rfl rfl rfl ws inside⟩
  | .object key before first after more, frames, ws, rest, _ => by
    obtain ⟨m, hm, hfirst⟩ := Tree.exists_skips first (.object :: frames) before
      (delimited_blanks_append after (delimited_entries more rest))
    obtain ⟨n, hn, hmore⟩ := Entries.exists_skips more frames after rest
    simp only [Tree.bytes_object, List.cons_append, List.append_assoc, List.nil_append]
    refine ⟨n + m + 1 + 1, ?_, (skips_open rfl rfl ws).trans
      ((skips_firstKey key _).trans (hfirst.trans hmore))⟩
    simp only [List.length_cons, List.length_append]
    omega

/-- Further items and the end of the array are passed. -/
theorem Items.exists_skips : ∀ (more : Items) (frames : List Frame) (ws : List Blank)
    (rest : Bytes), ∃ n ≤ 2 * more.bytes.length + 1,
      Skips n (.array :: frames) .passed (blankBytes ws ++ (more.bytes ++ 0x5D :: rest)) frames
        .passed rest
  | .nil, _, ws, _ => ⟨1, by decide, skips_close (Or.inr rfl) rfl rfl ws⟩
  | .cons before t after more, frames, ws, rest => by
    obtain ⟨m, hm, ht⟩ := Tree.exists_skips t (.array :: frames) before
      (delimited_blanks_append after (delimited_items more rest))
    obtain ⟨n, hn, hmore⟩ := Items.exists_skips more frames after rest
    simp only [Items.bytes_cons, List.cons_append, List.append_assoc]
    refine ⟨n + m + 1, ?_, (skips_comma rfl ws).trans (ht.trans hmore)⟩
    simp only [List.length_cons, List.length_append]
    omega

/-- Further members and the end of the object are passed. -/
theorem Entries.exists_skips : ∀ (more : Entries) (frames : List Frame) (ws : List Blank)
    (rest : Bytes), ∃ n ≤ 2 * more.bytes.length + 1,
      Skips n (.object :: frames) .passed (blankBytes ws ++ (more.bytes ++ 0x7D :: rest)) frames
        .passed rest
  | .nil, _, ws, _ => ⟨1, by decide, skips_close (Or.inr rfl) rfl rfl ws⟩
  | .cons key before t after more, frames, ws, rest => by
    obtain ⟨m, hm, ht⟩ := Tree.exists_skips t (.object :: frames) before
      (delimited_blanks_append after (delimited_entries more rest))
    obtain ⟨n, hn, hmore⟩ := Entries.exists_skips more frames after rest
    simp only [Entries.bytes_cons, List.cons_append, List.append_assoc]
    refine ⟨n + m + 1, ?_, (skips_comma (skipKey_bytes key _) ws).trans (ht.trans hmore)⟩
    simp only [List.length_cons, List.length_append]
    omega

end

/-- **A value is passed over**, to the byte behind it. -/
theorem skipValue_tree (t : Tree) (ws : List Blank) {rest : Bytes} (hrest : Delimited rest) :
    skipValue (blankBytes ws ++ (t.bytes ++ rest)) = .ok rest := by
  obtain ⟨n, hn, hskips⟩ := t.exists_skips [] ws hrest
  have hfuel : 2 * (blankBytes ws ++ (t.bytes ++ rest)).length + 2 =
      (2 * (blankBytes ws ++ (t.bytes ++ rest)).length + 1 - n) + 1 + n := by
    simp only [List.length_append]
    omega
  rw [skipValue, hfuel, hskips, skipFrom]
  nofun

end BrokerBridge.Json
