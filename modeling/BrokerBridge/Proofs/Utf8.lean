import BrokerBridge.Text.Utf8

/-!
# UTF-8 is a code

Encoding and decoding are inverse to each other.

* `Utf8.encodeChar_eq_one` to `encodeChar_eq_four`: the bytes of a character, by its range.
* `Utf8.firstChunk_encodeChar` and `Utf8.encodeChar_of_firstChunk`: a chunk is a character exactly
  when its bytes are those of that character.
* **`Utf8.decode?_eq_some_iff`**: bytes decode to a text exactly when they are its encoding.  So
  texts with the same bytes are the same (`encode_injective`), and replacing what is ill-formed
  changes nothing where nothing is (`ofString_lossy`).
-/
namespace BrokerBridge.Utf8

/-! ## 1. The bytes of a character -/

/-- A byte that can only stand after the first byte of a character. -/
def IsContinuation (b : UInt8) : Prop := 0x80 ≤ b.toNat ∧ b.toNat ≤ 0xBF

/-- The continuation byte of six bits. -/
def continuation (bits : Nat) : UInt8 := UInt8.ofNat (bits % 64 + 0x80)

theorem toNat_continuation (bits : Nat) : (continuation bits).toNat = bits % 64 + 0x80 :=
  UInt8.toNat_ofNat_of_lt' (by show _ < 256; omega)

theorem isContinuation_continuation (bits : Nat) : IsContinuation (continuation bits) := by
  rw [IsContinuation, toNat_continuation]
  omega

theorem continuation_eq {b : UInt8} (hb : IsContinuation b) {bits : Nat}
    (h : bits % 64 = b.toNat - 0x80) : continuation bits = b := by
  obtain ⟨hl, hm⟩ := hb
  rw [← UInt8.toNat_inj, toNat_continuation]
  omega

theorem toNat_ofNat_of_isValidChar {n : Nat} (h : n.isValidChar) : (Char.ofNat n).toNat = n := by
  rw [Char.ofNat, dif_pos h]
  rfl

section

variable {c : Char}

/-- A character below 0x80 is one byte. -/
theorem encodeChar_eq_one (h : c.toNat < 0x80) :
    String.utf8EncodeChar c = [UInt8.ofNat c.toNat] := by
  have h₁ : c.val.toNat ≤ 0x7F := Nat.le_of_lt_succ h
  simp only [String.utf8EncodeChar, h₁, if_true]
  rfl

/-- A character from 0x80 on and below 0x800 is two bytes. -/
theorem encodeChar_eq_two (h : 0x80 ≤ c.toNat) (h' : c.toNat < 0x800) :
    String.utf8EncodeChar c = [UInt8.ofNat (c.toNat / 64 + 0xC0), continuation c.toNat] := by
  have h₁ : ¬c.val.toNat ≤ 0x7F := Nat.not_le.mpr h
  have h₂ : c.val.toNat ≤ 0x7FF := Nat.le_of_lt_succ h'
  simp only [String.utf8EncodeChar, h₁, h₂, if_false, if_true]
  rw [Nat.mod_eq_of_lt (show c.val.toNat / 64 < 0x20 by omega)]
  rfl

/-- A character from 0x800 on and below 0x10000 is three bytes. -/
theorem encodeChar_eq_three (h : 0x800 ≤ c.toNat) (h' : c.toNat < 0x10000) :
    String.utf8EncodeChar c =
      [UInt8.ofNat (c.toNat / 4096 + 0xE0), continuation (c.toNat / 64),
        continuation c.toNat] := by
  have h₁ : ¬c.val.toNat ≤ 0x7F := Nat.not_le.mpr (Nat.le_trans (by decide) h)
  have h₂ : ¬c.val.toNat ≤ 0x7FF := Nat.not_le.mpr h
  have h₃ : c.val.toNat ≤ 0xFFFF := Nat.le_of_lt_succ h'
  simp only [String.utf8EncodeChar, h₁, h₂, h₃, if_false, if_true]
  rw [Nat.mod_eq_of_lt (show c.val.toNat / 4096 < 0x10 by omega)]
  rfl

theorem toNat_lt_of_valid (c : Char) : c.toNat < 0x110000 := by
  obtain h | ⟨-, h⟩ := c.valid
  · exact Nat.lt_trans h (by decide)
  · exact h

/-- A character from 0x10000 on is four bytes. -/
theorem encodeChar_eq_four (h : 0x10000 ≤ c.toNat) :
    String.utf8EncodeChar c =
      [UInt8.ofNat (c.toNat / 262144 + 0xF0), continuation (c.toNat / 4096),
        continuation (c.toNat / 64), continuation c.toNat] := by
  have h₁ : ¬c.val.toNat ≤ 0x7F := Nat.not_le.mpr (Nat.le_trans (by decide) h)
  have h₂ : ¬c.val.toNat ≤ 0x7FF := Nat.not_le.mpr (Nat.le_trans (by decide) h)
  have h₃ : ¬c.val.toNat ≤ 0xFFFF := Nat.not_le.mpr h
  have hmax : c.val.toNat < 0x110000 := toNat_lt_of_valid c
  simp only [String.utf8EncodeChar, h₁, h₂, h₃, if_false]
  rw [Nat.mod_eq_of_lt (show c.val.toNat / 262144 < 0x08 by omega)]
  rfl

/-- A character is written as one byte below 0x80, or as a lead byte and continuations. -/
theorem encodeChar_cases (c : Char) :
    (c.toNat < 0x80 ∧ String.utf8EncodeChar c = [UInt8.ofNat c.toNat]) ∨
    (0x80 ≤ c.toNat ∧ ∃ lead tail, String.utf8EncodeChar c = lead :: tail ∧ 0xC0 ≤ lead.toNat ∧
      ∀ b ∈ tail, IsContinuation b) := by
  have hmax : c.toNat < 0x110000 := toNat_lt_of_valid c
  have lead {n : Nat} (hl : 0xC0 ≤ n) (hm : n < 256) : 0xC0 ≤ (UInt8.ofNat n).toNat := by
    rw [UInt8.toNat_ofNat_of_lt' hm]
    exact hl
  by_cases h₁ : c.toNat < 0x80
  · exact Or.inl ⟨h₁, encodeChar_eq_one h₁⟩
  · refine Or.inr ⟨Nat.le_of_not_lt h₁, ?_⟩
    by_cases h₂ : c.toNat < 0x800
    · refine ⟨_, _, encodeChar_eq_two (by omega) h₂, lead (by omega) (by omega), ?_⟩
      simp [isContinuation_continuation]
    · by_cases h₃ : c.toNat < 0x10000
      · refine ⟨_, _, encodeChar_eq_three (by omega) h₃, lead (by omega) (by omega), ?_⟩
        simp [isContinuation_continuation]
      · refine ⟨_, _, encodeChar_eq_four (by omega), lead (by omega) (by omega), ?_⟩
        simp [isContinuation_continuation]

/-- The first byte of a character is no continuation. -/
theorem not_isContinuation_head {b : UInt8} {tail : Bytes}
    (h : String.utf8EncodeChar c = b :: tail) : ¬IsContinuation b := by
  rintro ⟨hl, hm⟩
  obtain ⟨hlt, he⟩ | ⟨-, lead, tail', he, hlead, -⟩ := encodeChar_cases c
  · obtain ⟨rfl, -⟩ := List.cons.inj (he.symm.trans h)
    rw [UInt8.toNat_ofNat_of_lt' (Nat.lt_trans hlt (by decide))] at hl
    exact absurd hl (Nat.not_le.mpr hlt)
  · obtain ⟨rfl, -⟩ := List.cons.inj (he.symm.trans h)
    exact absurd (Nat.le_trans hlead hm) (by decide)

/-- All other bytes of a character are continuations. -/
theorem isContinuation_tail {b : UInt8} {tail : Bytes}
    (h : String.utf8EncodeChar c = b :: tail) : ∀ t ∈ tail, IsContinuation t := by
  obtain ⟨-, he⟩ | ⟨-, lead, tail', he, -, htail⟩ := encodeChar_cases c
  · obtain ⟨-, rfl⟩ := List.cons.inj (he.symm.trans h)
    exact nofun
  · obtain ⟨-, rfl⟩ := List.cons.inj (he.symm.trans h)
    exact htail

end

/-! ## 2. Lead bytes -/

namespace Lead

variable {b : UInt8}

theorem not_lt_of_le {c : UInt8} {n : Nat} (hc : c.toNat ≤ n) (h : n ≤ b.toNat) : ¬b < c := by
  rw [UInt8.lt_iff_toNat_lt]
  exact Nat.not_lt.mpr (Nat.le_trans hc h)

theorem ofByte?_two (h : 0xC2 ≤ b.toNat) (h' : b.toNat < 0xE0) :
    ofByte? b = some ⟨1, 0x80, 0xBF, b.toNat - 0xC0⟩ := by
  have h₁ : ¬b < 0xC2 := not_lt_of_le (Nat.le_refl _) h
  have h₂ : b < 0xE0 := UInt8.lt_iff_toNat_lt.mpr h'
  simp only [ofByte?, h₁, h₂, if_false, if_true]

theorem ofByte?_three (h : 0xE0 ≤ b.toNat) (h' : b.toNat < 0xF0) :
    ofByte? b =
      some ⟨2, if b = 0xE0 then 0xA0 else 0x80, if b = 0xED then 0x9F else 0xBF,
        b.toNat - 0xE0⟩ := by
  have h₁ : ¬b < 0xC2 := not_lt_of_le (by decide) h
  have h₂ : ¬b < 0xE0 := not_lt_of_le (Nat.le_refl _) h
  have h₃ : b < 0xF0 := UInt8.lt_iff_toNat_lt.mpr h'
  simp only [ofByte?, h₁, h₂, h₃, if_false, if_true]

theorem ofByte?_four (h : 0xF0 ≤ b.toNat) (h' : b.toNat < 0xF5) :
    ofByte? b =
      some ⟨3, if b = 0xF0 then 0x90 else 0x80, if b = 0xF4 then 0x8F else 0xBF,
        b.toNat - 0xF0⟩ := by
  have h₁ : ¬b < 0xC2 := not_lt_of_le (by decide) h
  have h₂ : ¬b < 0xE0 := not_lt_of_le (by decide) h
  have h₃ : ¬b < 0xF0 := not_lt_of_le (Nat.le_refl _) h
  have h₄ : b < 0xF5 := UInt8.lt_iff_toNat_lt.mpr h'
  simp only [ofByte?, h₁, h₂, h₃, h₄, if_false, if_true]

/-- There are lead bytes of two, of three and of four bytes. -/
theorem range_of_ofByte? {lead : Lead} (h : ofByte? b = some lead) :
    (0xC2 ≤ b.toNat ∧ b.toNat < 0xE0) ∨ (0xE0 ≤ b.toNat ∧ b.toNat < 0xF0) ∨
      (0xF0 ≤ b.toNat ∧ b.toNat < 0xF5) := by
  unfold ofByte? at h
  simp only [UInt8.lt_iff_toNat_lt, UInt8.reduceToNat] at h
  split at h
  · cases h
  · split at h
    · left; omega
    · split at h
      · right; left; omega
      · split at h
        · right; right; omega
        · cases h

end Lead

/-! ## 3. A chunk is a character exactly when its bytes are -/

theorem ite_toNat_le {b k x y : UInt8} {n : Nat} :
    (if b = k then x else y).toNat ≤ n ↔
      (b.toNat = k.toNat → x.toNat ≤ n) ∧ (b.toNat ≠ k.toNat → y.toNat ≤ n) := by
  by_cases h : b = k <;> simp [h, UInt8.toNat_inj]

theorem le_ite_toNat {b k x y : UInt8} {n : Nat} :
    n ≤ (if b = k then x else y).toNat ↔
      (b.toNat = k.toNat → n ≤ x.toNat) ∧ (b.toNat ≠ k.toNat → n ≤ y.toNat) := by
  by_cases h : b = k <;> simp [h, UInt8.toNat_inj]

/-- A byte in the range is read as six more bits. -/
theorem readTail_cons {n taken code : Nat} {least most b : UInt8} (hl : least.toNat ≤ b.toNat)
    (hm : b.toNat ≤ most.toNat) (rest : Bytes) :
    readTail (n + 1) least most taken code (b :: rest) =
      readTail n 0x80 0xBF (taken + 1) (code * 64 + (b.toNat - 0x80)) rest := by
  rw [readTail, if_pos ⟨UInt8.le_iff_toNat_le.mpr hl, UInt8.le_iff_toNat_le.mpr hm⟩]

theorem readTail_continuation (n taken code bits : Nat) (rest : Bytes) :
    readTail (n + 1) 0x80 0xBF taken code (continuation bits :: rest) =
      readTail n 0x80 0xBF (taken + 1) (code * 64 + bits % 64) rest := by
  obtain ⟨hl, hm⟩ := isContinuation_continuation bits
  rw [@readTail_cons n taken code 0x80 0xBF (continuation bits) hl hm, toNat_continuation,
    Nat.add_sub_cancel]

/-- A tail that is read to its end starts with a byte in the range. -/
theorem of_readTail_eq_char {n taken code k : Nat} {least most : UInt8} {bytes : Bytes} {c : Char}
    (h : readTail (n + 1) least most taken code bytes = .char c k) :
    ∃ b rest, bytes = b :: rest ∧ least.toNat ≤ b.toNat ∧ b.toNat ≤ most.toNat ∧
      readTail n 0x80 0xBF (taken + 1) (code * 64 + (b.toNat - 0x80)) rest = .char c k := by
  cases bytes with
  | nil => cases h
  | cons b rest =>
    rw [readTail] at h
    split at h
    · rename_i hb
      exact ⟨b, rest, rfl, UInt8.le_iff_toNat_le.mp hb.1, UInt8.le_iff_toNat_le.mp hb.2, h⟩
    · cases h

/-- After a lead byte the tail is read. -/
theorem firstChunk_of_ofByte? {b : UInt8} {lead : Lead} (h : Lead.ofByte? b = some lead)
    (rest : Bytes) :
    firstChunk b rest = readTail lead.tail lead.least lead.most 0 lead.bits rest := by
  have hlead : 0xC2 ≤ b.toNat := by
    obtain h | h | h := Lead.range_of_ofByte? h <;> omega
  have hb : ¬b < 0x80 := Lead.not_lt_of_le (by decide) hlead
  rw [firstChunk, if_neg hb, h]

section

variable {c : Char} (rest : Bytes)

theorem firstChunk_two (h : 0x80 ≤ c.toNat) (h' : c.toNat < 0x800) :
    firstChunk (UInt8.ofNat (c.toNat / 64 + 0xC0)) (continuation c.toNat :: rest) = .char c 1 := by
  have hn : (UInt8.ofNat (c.toNat / 64 + 0xC0)).toNat = c.toNat / 64 + 0xC0 :=
    UInt8.toNat_ofNat_of_lt' (show _ < 256 by omega)
  have hcode : (c.toNat / 64 + 0xC0 - 0xC0) * 64 + c.toNat % 64 = c.toNat := by omega
  rw [firstChunk_of_ofByte? (Lead.ofByte?_two (by omega) (by omega))]
  simp only [readTail_continuation, hn]
  rw [readTail, hcode, Char.ofNat_toNat]

theorem firstChunk_three (h : 0x800 ≤ c.toNat) (h' : c.toNat < 0x10000) :
    firstChunk (UInt8.ofNat (c.toNat / 4096 + 0xE0))
      (continuation (c.toNat / 64) :: continuation c.toNat :: rest) = .char c 2 := by
  have hvalid : c.toNat < 0xD800 ∨ 0xDFFF < c.toNat := c.valid.imp_right And.left
  have hn : (UInt8.ofNat (c.toNat / 4096 + 0xE0)).toNat = c.toNat / 4096 + 0xE0 :=
    UInt8.toNat_ofNat_of_lt' (show _ < 256 by omega)
  have ht := toNat_continuation (c.toNat / 64)
  have hcode : ((c.toNat / 4096 + 0xE0 - 0xE0) * 64 + (c.toNat / 64 % 64 + 0x80 - 0x80)) * 64 +
      c.toNat % 64 = c.toNat := by omega
  rw [firstChunk_of_ofByte? (Lead.ofByte?_three (by omega) (by omega))]
  -- the second byte keeps within the range that rules out overlong forms and surrogates
  rw [readTail_cons (by simp only [ite_toNat_le, hn, ht, UInt8.reduceToNat]; omega)
    (by simp only [le_ite_toNat, hn, ht, UInt8.reduceToNat]; omega), hn, readTail_continuation, ht,
    readTail, hcode, Char.ofNat_toNat]

theorem firstChunk_four (h : 0x10000 ≤ c.toNat) :
    firstChunk (UInt8.ofNat (c.toNat / 262144 + 0xF0))
      (continuation (c.toNat / 4096) :: continuation (c.toNat / 64) :: continuation c.toNat ::
        rest) = .char c 3 := by
  have hmax : c.toNat < 0x110000 := toNat_lt_of_valid c
  have hn : (UInt8.ofNat (c.toNat / 262144 + 0xF0)).toNat = c.toNat / 262144 + 0xF0 :=
    UInt8.toNat_ofNat_of_lt' (show _ < 256 by omega)
  have ht := toNat_continuation (c.toNat / 4096)
  have hcode : (((c.toNat / 262144 + 0xF0 - 0xF0) * 64 +
      (c.toNat / 4096 % 64 + 0x80 - 0x80)) * 64 + c.toNat / 64 % 64) * 64 + c.toNat % 64 =
      c.toNat := by omega
  rw [firstChunk_of_ofByte? (Lead.ofByte?_four (by omega) (by omega))]
  -- the second byte keeps within the range that rules out overlong forms and large code points
  rw [readTail_cons (by simp only [ite_toNat_le, hn, ht, UInt8.reduceToNat]; omega)
    (by simp only [le_ite_toNat, hn, ht, UInt8.reduceToNat]; omega), hn, readTail_continuation,
    readTail_continuation, ht, readTail, hcode, Char.ofNat_toNat]

/-- **The bytes of a character are one chunk**, whatever follows them. -/
theorem firstChunk_encodeChar {b : UInt8} {tail : Bytes}
    (h : String.utf8EncodeChar c = b :: tail) :
    firstChunk b (tail ++ rest) = .char c tail.length := by
  by_cases h₁ : c.toNat < 0x80
  · rw [encodeChar_eq_one h₁] at h
    obtain ⟨rfl, rfl⟩ := h
    have hn : (UInt8.ofNat c.toNat).toNat = c.toNat :=
      UInt8.toNat_ofNat_of_lt' (show _ < 256 by omega)
    have hb : UInt8.ofNat c.toNat < 0x80 := by
      rw [UInt8.lt_iff_toNat_lt, hn]
      exact h₁
    rw [firstChunk, if_pos hb, hn, Char.ofNat_toNat]
    rfl
  · by_cases h₂ : c.toNat < 0x800
    · rw [encodeChar_eq_two (by omega) h₂] at h
      obtain ⟨rfl, rfl⟩ := h
      exact firstChunk_two rest (by omega) h₂
    · by_cases h₃ : c.toNat < 0x10000
      · rw [encodeChar_eq_three (by omega) h₃] at h
        obtain ⟨rfl, rfl⟩ := h
        exact firstChunk_three rest (by omega) h₃
      · rw [encodeChar_eq_four (by omega)] at h
        obtain ⟨rfl, rfl⟩ := h
        exact firstChunk_four rest (by omega)

end

/-- The character that a lead byte and one continuation make has these bytes. -/
theorem encodeChar_ofNat_two {b t : UInt8} (hl : 0xC2 ≤ b.toNat) (hm : b.toNat < 0xE0)
    (ht : IsContinuation t) :
    String.utf8EncodeChar (Char.ofNat ((b.toNat - 0xC0) * 64 + (t.toNat - 0x80))) = [b, t] := by
  obtain ⟨htl, htm⟩ := ht
  have hc := toNat_ofNat_of_isValidChar (n := (b.toNat - 0xC0) * 64 + (t.toNat - 0x80))
    (Or.inl (by omega))
  rw [encodeChar_eq_two (by omega) (by omega), hc, continuation_eq ⟨htl, htm⟩ (by omega),
    show ((b.toNat - 0xC0) * 64 + (t.toNat - 0x80)) / 64 + 0xC0 = b.toNat by omega,
    UInt8.ofNat_toNat]

/-- The character that a lead byte and two continuations make has these bytes.  The range of the
first of them is what makes the code point that of a character of three bytes. -/
theorem encodeChar_ofNat_three {b t u : UInt8} (hl : 0xE0 ≤ b.toNat) (hm : b.toNat < 0xF0)
    (htl : (if b = 0xE0 then 0xA0 else 0x80 : UInt8).toNat ≤ t.toNat)
    (htm : t.toNat ≤ (if b = 0xED then 0x9F else 0xBF : UInt8).toNat) (hu : IsContinuation u) :
    String.utf8EncodeChar
      (Char.ofNat (((b.toNat - 0xE0) * 64 + (t.toNat - 0x80)) * 64 + (u.toNat - 0x80))) =
      [b, t, u] := by
  obtain ⟨hul, hum⟩ := hu
  simp only [ite_toNat_le, le_ite_toNat, UInt8.reduceToNat] at htl htm
  generalize hn : ((b.toNat - 0xE0) * 64 + (t.toNat - 0x80)) * 64 + (u.toNat - 0x80) = n
  have hc : (Char.ofNat n).toNat = n := toNat_ofNat_of_isValidChar (by
    show n < 0xD800 ∨ 0xDFFF < n ∧ n < 0x110000
    omega)
  rw [encodeChar_eq_three (by omega) (by omega), hc,
    continuation_eq (b := t) ⟨by omega, by omega⟩ (by omega),
    continuation_eq ⟨hul, hum⟩ (by omega), show n / 4096 + 0xE0 = b.toNat by omega,
    UInt8.ofNat_toNat]

/-- The character that a lead byte and three continuations make has these bytes. -/
theorem encodeChar_ofNat_four {b t u v : UInt8} (hl : 0xF0 ≤ b.toNat) (hm : b.toNat < 0xF5)
    (htl : (if b = 0xF0 then 0x90 else 0x80 : UInt8).toNat ≤ t.toNat)
    (htm : t.toNat ≤ (if b = 0xF4 then 0x8F else 0xBF : UInt8).toNat) (hu : IsContinuation u)
    (hv : IsContinuation v) :
    String.utf8EncodeChar
      (Char.ofNat ((((b.toNat - 0xF0) * 64 + (t.toNat - 0x80)) * 64 + (u.toNat - 0x80)) * 64 +
        (v.toNat - 0x80))) = [b, t, u, v] := by
  obtain ⟨hul, hum⟩ := hu
  obtain ⟨hvl, hvm⟩ := hv
  simp only [ite_toNat_le, le_ite_toNat, UInt8.reduceToNat] at htl htm
  generalize hn : (((b.toNat - 0xF0) * 64 + (t.toNat - 0x80)) * 64 + (u.toNat - 0x80)) * 64 +
    (v.toNat - 0x80) = n
  have hc : (Char.ofNat n).toNat = n := toNat_ofNat_of_isValidChar (by
    show n < 0xD800 ∨ 0xDFFF < n ∧ n < 0x110000
    omega)
  rw [encodeChar_eq_four (by omega), hc,
    continuation_eq (b := t) ⟨by omega, by omega⟩ (by omega),
    continuation_eq (b := u) ⟨hul, hum⟩ (by omega), continuation_eq ⟨hvl, hvm⟩ (by omega),
    show n / 262144 + 0xF0 = b.toNat by omega, UInt8.ofNat_toNat]

/-- A chunk that is a character is made of the bytes of that character. -/
theorem encodeChar_of_firstChunk {b : UInt8} {rest : Bytes} {c : Char} {n : Nat}
    (h : firstChunk b rest = .char c n) :
    ∃ tail after, rest = tail ++ after ∧ tail.length = n ∧
      String.utf8EncodeChar c = b :: tail := by
  by_cases hb : b < 0x80
  · rw [firstChunk, if_pos hb] at h
    obtain ⟨rfl, rfl⟩ := h
    have hb' : b.toNat < 0x80 := UInt8.lt_iff_toNat_lt.mp hb
    have hc : (Char.ofNat b.toNat).toNat = b.toNat :=
      toNat_ofNat_of_isValidChar (Or.inl (by omega))
    refine ⟨[], rest, rfl, rfl, ?_⟩
    rw [encodeChar_eq_one (by omega), hc, UInt8.ofNat_toNat]
  · cases hlead : Lead.ofByte? b with
    | none =>
      rw [firstChunk, if_neg hb, hlead] at h
      cases h
    | some lead =>
      rw [firstChunk_of_ofByte? hlead] at h
      obtain ⟨hl, hm⟩ | ⟨hl, hm⟩ | ⟨hl, hm⟩ := Lead.range_of_ofByte? hlead
      · obtain rfl : lead = _ := Option.some.inj (hlead.symm.trans (Lead.ofByte?_two hl hm))
        obtain ⟨t, rest, rfl, htl, htm, h⟩ := of_readTail_eq_char h
        obtain ⟨rfl, rfl⟩ := Chunk.char.inj h
        exact ⟨[t], rest, rfl, rfl, encodeChar_ofNat_two hl hm ⟨htl, htm⟩⟩
      · obtain rfl : lead = _ := Option.some.inj (hlead.symm.trans (Lead.ofByte?_three hl hm))
        obtain ⟨t, rest, rfl, htl, htm, h⟩ := of_readTail_eq_char h
        obtain ⟨u, rest, rfl, hul, hum, h⟩ := of_readTail_eq_char h
        obtain ⟨rfl, rfl⟩ := Chunk.char.inj h
        exact ⟨[t, u], rest, rfl, rfl, encodeChar_ofNat_three hl hm htl htm ⟨hul, hum⟩⟩
      · obtain rfl : lead = _ := Option.some.inj (hlead.symm.trans (Lead.ofByte?_four hl hm))
        obtain ⟨t, rest, rfl, htl, htm, h⟩ := of_readTail_eq_char h
        obtain ⟨u, rest, rfl, hul, hum, h⟩ := of_readTail_eq_char h
        obtain ⟨v, rest, rfl, hvl, hvm, h⟩ := of_readTail_eq_char h
        obtain ⟨rfl, rfl⟩ := Chunk.char.inj h
        exact ⟨[t, u, v], rest, rfl, rfl,
          encodeChar_ofNat_four hl hm htl htm ⟨hul, hum⟩ ⟨hvl, hvm⟩⟩

/-! ## 4. Texts -/

theorem chunksFrom_append (skipped rest : Bytes) :
    chunksFrom skipped.length (skipped ++ rest) = chunks rest := by
  induction skipped with
  | nil => rfl
  | cons b skipped ih => exact ih

/-- The first chunk of a text is its first character. -/
theorem chunks_encodeChar_append (c : Char) (rest : Bytes) :
    chunks (String.utf8EncodeChar c ++ rest) =
      .char c ((String.utf8EncodeChar c).length - 1) :: chunks rest := by
  cases h : String.utf8EncodeChar c with
  | nil => exact absurd h String.utf8EncodeChar_ne_nil
  | cons b tail =>
    have hchunk := firstChunk_encodeChar rest h
    rw [List.cons_append, chunks, chunksFrom, hchunk, Chunk.tail, chunksFrom_append]
    rfl

/-- A first chunk that is a character is the first character of the text. -/
theorem decode?_of_chunks_eq {bytes after : Bytes} {c : Char} {n : Nat}
    (h : chunks bytes = .char c n :: chunks after) :
    decode? bytes = (decode? after).map (c :: ·) := by
  simp only [decode?, h, List.mapM_cons, bind, Option.bind, pure]
  cases List.mapM (m := Option) _ (chunks after) <;> rfl

@[simp] theorem decode?_encode (cs : List Char) : decode? (encode cs) = some cs := by
  induction cs with
  | nil => rfl
  | cons c cs ih =>
    rw [encode_cons, decode?_of_chunks_eq (chunks_encodeChar_append c _), ih, Option.map_some]

/-- Bytes that decode to a text are its encoding. -/
theorem eq_encode_of_decode? {bytes : Bytes} {cs : List Char} (h : decode? bytes = some cs) :
    bytes = encode cs := by
  -- a chunk takes up to four bytes, so the induction is on the length
  induction hn : bytes.length using Nat.strongRecOn generalizing bytes cs with
  | ind n ih =>
    cases bytes with
    | nil =>
      obtain rfl : [] = cs := Option.some.inj h
      rfl
    | cons b rest =>
      cases hchunk : firstChunk b rest with
      | char c k =>
        obtain ⟨tail, after, rfl, rfl, hc⟩ := encodeChar_of_firstChunk hchunk
        have hchunks : chunks (b :: (tail ++ after)) = .char c tail.length :: chunks after := by
          rw [chunks, chunksFrom, hchunk, Chunk.tail, chunksFrom_append]
        rw [decode?_of_chunks_eq hchunks] at h
        obtain ⟨ds, hds, rfl⟩ := Option.map_eq_some_iff.mp h
        have hlt : after.length < n := by
          rw [← hn, List.length_cons, List.length_append]
          omega
        rw [encode_cons, hc, ← ih _ hlt hds rfl, List.cons_append]
      | illFormed k | cut k =>
        simp [decode?, chunks, chunksFrom, hchunk, List.mapM_cons] at h

/-- **Bytes decode to a text exactly when they are its encoding.** -/
theorem decode?_eq_some_iff {bytes : Bytes} {cs : List Char} :
    decode? bytes = some cs ↔ bytes = encode cs :=
  ⟨eq_encode_of_decode?, fun h => h ▸ decode?_encode cs⟩

theorem text?_eq_some_iff {bytes : Bytes} {s : String} :
    text? bytes = some s ↔ bytes = ofString s := by
  rw [text?, Option.map_eq_some_iff]
  constructor
  · rintro ⟨cs, h, rfl⟩
    rw [ofString, String.toList_ofList]
    exact eq_encode_of_decode? h
  · intro h
    exact ⟨s.toList, decode?_eq_some_iff.mpr h, String.ofList_toList⟩

/-- Texts with the same bytes are the same. -/
theorem encode_injective {cs ds : List Char} (h : encode cs = encode ds) : cs = ds := by
  have hd := congrArg decode? h
  rw [decode?_encode, decode?_encode] at hd
  exact Option.some.inj hd

/-- The first character of a text can be told from its bytes. -/
theorem eq_of_encodeChar_append {c d : Char} {rest rest' : Bytes}
    (h : String.utf8EncodeChar c ++ rest = String.utf8EncodeChar d ++ rest') :
    c = d ∧ rest = rest' := by
  have hchunks := congrArg chunks h
  rw [chunks_encodeChar_append, chunks_encodeChar_append] at hchunks
  obtain rfl : c = d := (Chunk.char.inj (List.cons.inj hchunks).1).1
  exact ⟨rfl, List.append_cancel_left h⟩

theorem lossy_encode (cs : List Char) : lossy (encode cs) = String.ofList cs := by
  rw [lossy]
  congr 1
  induction cs with
  | nil => rfl
  | cons c cs ih => rw [encode_cons, chunks_encodeChar_append, List.map_cons, ih]

/-- Where every chunk is a character, nothing is replaced. -/
theorem ofString_lossy {bytes : Bytes} {cs : List Char} (h : decode? bytes = some cs) :
    ofString (lossy bytes) = bytes := by
  rw [eq_encode_of_decode? h, lossy_encode, ofString, String.toList_ofList]

end BrokerBridge.Utf8
