import BrokerBridge.Proofs.Except
import BrokerBridge.Proofs.Json.Grammar
import BrokerBridge.Proofs.Utf8

/-!
# White space, words and enclosures of a JSON text

The readers of the marks between values, against the grammar.

* `skipBlanks_append` and `exists_blanks`: what is skipped is white space, and all of it.
* `eq_of_mark` and `mark_eq_digit_iff`: the bytes of a mark.
* `Enclosure.turn_close`, `turn_first` and `turn_comma` say what comes next inside a container by
  what stands there; `of_turn_close`, `of_turn_first` and `of_turn_comma` say what stood there.
-/
namespace BrokerBridge.Json

/-! ## 1. Marks -/

/-- The byte of a digit. -/
def digitByte (d : Digit) : UInt8 := UInt8.ofNat (0x30 + d.val)

theorem byteDigit?_digitByte : ∀ d : Digit, byteDigit? (digitByte d) = some d := by decide

section

variable {b : UInt8}

theorem eq_digitByte_of_byteDigit? {d : Digit} (h : byteDigit? b = some d) : b = digitByte d := by
  unfold byteDigit? at h
  split at h
  · rename_i hb
    obtain rfl := Option.some.inj h
    rw [digitByte, Nat.add_sub_cancel' hb.1, UInt8.ofNat_toNat]
  · cases h

/-- The byte of a mark that is one byte only. -/
def Mark.byte? : Mark → Option UInt8
  | .quote => some 0x22
  | .comma => some 0x2C
  | .colon => some 0x3A
  | .openBracket => some 0x5B
  | .closeBracket => some 0x5D
  | .openBrace => some 0x7B
  | .closeBrace => some 0x7D
  | .minus => some 0x2D
  | .digit | .other => none

/-- A mark that is one byte tells the byte. -/
theorem eq_of_mark {m : Mark} {c : UInt8} (h : mark b = m) (hc : m.byte? = some c) : b = c := by
  unfold mark at h
  cases m <;> cases hc <;> grind

theorem mark_digitByte : ∀ d : Digit, mark (digitByte d) = .digit := by decide

theorem mark_eq_digit_iff : mark b = .digit ↔ ∃ d, b = digitByte d := by
  constructor
  · intro h
    have hb : (byteDigit? b).isSome := by unfold mark at h; grind
    obtain ⟨d, hd⟩ := Option.isSome_iff_exists.mp hb
    exact ⟨d, eq_digitByte_of_byteDigit? hd⟩
  · rintro ⟨d, rfl⟩
    exact mark_digitByte d

end

/-! ## 2. White space -/

/-- The byte of a character of white space. -/
def Blank.byte : Blank → UInt8
  | .space => 0x20
  | .tab => 0x09
  | .lineFeed => 0x0A
  | .carriageReturn => 0x0D

/-- The bytes of white space. -/
def blankBytes (ws : List Blank) : Bytes := ws.map Blank.byte

/-- White space is one byte a character. -/
theorem encode_blankChars (ws : List Blank) : Utf8.encode (blankChars ws) = blankBytes ws := by
  induction ws with
  | nil => rfl
  | cons w ws ih =>
    rw [blankChars, List.map_cons, Utf8.encode_cons]
    cases w <;> exact congrArg (_ :: ·) ih

theorem isBlank_byte (w : Blank) : isBlank w.byte = true := by cases w <;> rfl

theorem exists_blank {b : UInt8} (h : isBlank b = true) : ∃ w : Blank, w.byte = b := by
  simp only [isBlank, Bool.or_eq_true, beq_iff_eq] at h
  obtain ((rfl | rfl) | rfl) | rfl := h
  exacts [⟨.space, rfl⟩, ⟨.tab, rfl⟩, ⟨.lineFeed, rfl⟩, ⟨.carriageReturn, rfl⟩]

theorem blankBytes_append (ws ws' : List Blank) :
    blankBytes (ws ++ ws') = blankBytes ws ++ blankBytes ws' := List.map_append

/-- All white space is skipped. -/
@[simp] theorem skipBlanks_append (ws : List Blank) (rest : Bytes) :
    skipBlanks (blankBytes ws ++ rest) = skipBlanks rest := by
  induction ws with
  | nil => rfl
  | cons w ws ih =>
    rw [blankBytes, List.map_cons, List.cons_append, skipBlanks, List.dropWhile_cons,
      if_pos (isBlank_byte w)]
    exact ih

theorem skipBlanks_cons {b : UInt8} (h : isBlank b = false) (rest : Bytes) :
    skipBlanks (b :: rest) = b :: rest := by
  rw [skipBlanks, List.dropWhile_cons, h]
  rfl

/-- What is skipped is white space. -/
theorem exists_blanks (bytes : Bytes) : ∃ ws, bytes = blankBytes ws ++ skipBlanks bytes := by
  induction bytes with
  | nil => exact ⟨[], rfl⟩
  | cons b rest ih =>
    by_cases h : isBlank b = true
    · obtain ⟨w, rfl⟩ := exists_blank h
      obtain ⟨ws, hws⟩ := ih
      refine ⟨w :: ws, ?_⟩
      rw [skipBlanks, List.dropWhile_cons, if_pos h]
      exact congrArg (w.byte :: ·) hws
    · exact ⟨[], (skipBlanks_cons (Bool.eq_false_iff.mpr h) rest).symm⟩

theorem exists_blanks_of_skipBlanks {bytes after : Bytes} (h : skipBlanks bytes = after) :
    ∃ ws, bytes = blankBytes ws ++ after := h ▸ exists_blanks bytes

/-! ## 3. Words and colons -/

/-- A word is read to its end. -/
theorem readWord_append (word rest : Bytes) : readWord word (word ++ rest) = .ok rest := by
  induction word with
  | nil => rfl
  | cons w word ih => rw [List.cons_append, readWord, if_pos rfl, ih]

theorem eq_append_of_readWord {word bytes rest : Bytes} (h : readWord word bytes = .ok rest) :
    bytes = word ++ rest := by
  induction word generalizing bytes with
  | nil => exact Except.ok.inj h
  | cons w word ih =>
    cases bytes with
    | nil => cases h
    | cons b bytes =>
      rw [readWord] at h
      split at h
      · rename_i hb
        rw [hb, ih h, List.cons_append]
      · cases h

theorem readColon_append (ws : List Blank) (rest : Bytes) :
    readColon (blankBytes ws ++ 0x3A :: rest) = .ok rest := by
  rw [readColon, skipBlanks_append, skipBlanks_cons rfl]
  exact if_pos rfl

/-- A colon is read with the white space in front of it. -/
theorem of_readColon {bytes rest : Bytes} (h : readColon bytes = .ok rest) :
    ∃ ws, bytes = blankBytes ws ++ 0x3A :: rest := by
  unfold readColon at h
  split at h
  · cases h
  · rename_i b after hs
    split at h
    · rename_i hb
      obtain rfl := Except.ok.inj h
      rw [eq_of_mark hb rfl] at hs
      exact exists_blanks_of_skipBlanks hs
    · cases h

/-! ## 4. Enclosures -/

namespace Enclosure

variable {e : Enclosure} {first : Bool} {bytes start : Bytes}

/-- At its closing mark a container ends. -/
theorem turn_close {c : UInt8} (hc : mark c = e.close) (hb : isBlank c = false) (ws : List Blank)
    (rest : Bytes) : e.turn first (blankBytes ws ++ c :: rest) = .ok (.close rest) := by
  rw [turn, skipBlanks_append, skipBlanks_cons hb]
  exact if_pos hc

/-- The first item stands in front of everything but the closing mark. -/
theorem turn_first {c : UInt8} (hc : mark c ≠ e.close) (hb : isBlank c = false) (ws : List Blank)
    (rest : Bytes) : e.turn true (blankBytes ws ++ c :: rest) = .ok (.item (c :: rest)) := by
  rw [turn, skipBlanks_append, skipBlanks_cons hb]
  simp only [if_neg hc, if_true]

/-- Any other item stands behind a comma. -/
theorem turn_comma {c : UInt8} (he : e.close ≠ .comma) (hc : mark c ≠ e.close)
    (hb : isBlank c = false) (ws ws' : List Blank) (rest : Bytes) :
    e.turn false (blankBytes ws ++ 0x2C :: (blankBytes ws' ++ c :: rest)) =
      .ok (.item (c :: rest)) := by
  have hcomma : mark 0x2C = .comma := rfl
  rw [turn, skipBlanks_append, skipBlanks_cons rfl]
  simp only [hcomma, if_neg he.symm, Bool.false_eq_true, if_false, if_true, skipBlanks_append,
    skipBlanks_cons hb, if_neg hc]

/-- A container ends only at its closing mark. -/
theorem of_turn_close {rest : Bytes} (h : e.turn first bytes = .ok (.close rest)) :
    ∃ ws c, bytes = blankBytes ws ++ c :: rest ∧ mark c = e.close := by
  unfold turn at h
  split at h
  · cases h
  · rename_i c after hs
    split at h
    · rename_i hc
      cases h
      obtain ⟨ws, hws⟩ := exists_blanks_of_skipBlanks hs
      exact ⟨ws, c, hws, hc⟩
    · split at h
      · cases h
      · split at h
        · split at h
          · cases h
          · split at h <;> cases h
        · cases h

/-- Before the first item stands only white space. -/
theorem of_turn_first (h : e.turn true bytes = .ok (.item start)) :
    ∃ ws, bytes = blankBytes ws ++ start := by
  unfold turn at h
  split at h
  · cases h
  · rename_i hs
    simp only [if_true] at h
    split at h
    · cases h
    · cases h
      exact exists_blanks_of_skipBlanks hs

/-- Before any other item stands one comma in white space. -/
theorem of_turn_comma (h : e.turn false bytes = .ok (.item start)) :
    ∃ ws ws', bytes = blankBytes ws ++ 0x2C :: (blankBytes ws' ++ start) := by
  unfold turn at h
  split at h
  · cases h
  · rename_i c after hs
    simp only [Bool.false_eq_true, if_false] at h
    split at h
    · cases h
    · split at h
      · rename_i hcomma
        split at h
        · cases h
        · rename_i hs'
          split at h
          · cases h
          · cases h
            obtain ⟨ws, hws⟩ := exists_blanks_of_skipBlanks hs
            obtain ⟨ws', hws'⟩ := exists_blanks_of_skipBlanks hs'
            exact ⟨ws, ws', by rw [hws, hws', eq_of_mark hcomma rfl]⟩
      · cases h

end Enclosure

end BrokerBridge.Json
