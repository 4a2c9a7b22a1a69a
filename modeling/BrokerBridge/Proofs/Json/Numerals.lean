import BrokerBridge.Proofs.Json.Marks

/-!
# Numbers of a JSON text

The reader of numbers, against the grammar.

* **`Number.read_bytes`** and **`Number.of_read`**: a numeral is read to its end where nothing
  that could go on with it follows, and what is read is a numeral.
* `Number.ofText_eq_ok_iff`: a text that is one number and nothing else.
-/
namespace BrokerBridge.Json

/-! ## 1. What may follow -/

/-- Nothing follows that could go on with a number: the end, white space or a mark that ends a
value. -/
def Delimited (rest : Bytes) : Prop :=
  ∀ b ∈ rest.head?, isBlank b = true ∨ b = 0x2C ∨ b = 0x5D ∨ b = 0x7D

theorem delimited_nil : Delimited [] := by simp [Delimited]

theorem delimited_blanks_append (ws : List Blank) {rest : Bytes} (h : Delimited rest) :
    Delimited (blankBytes ws ++ rest) := by
  cases ws with
  | nil => exact h
  | cons w ws =>
    intro b hb
    obtain rfl : w.byte = b := Option.some.inj hb
    exact Or.inl (isBlank_byte w)

theorem delimited_blanks (ws : List Blank) : Delimited (blankBytes ws) := by
  rw [← List.append_nil (blankBytes ws)]
  exact delimited_blanks_append ws delimited_nil

/-- A mark that ends a value goes on with no number. -/
theorem delimited_cons {b : UInt8} (h : b = 0x2C ∨ b = 0x5D ∨ b = 0x7D) (rest : Bytes) :
    Delimited (b :: rest) := by
  intro c hc
  obtain rfl : b = c := Option.some.inj hc
  exact Or.inr h

/-- No digit, point or exponent is in front. -/
theorem Delimited.head {b : UInt8} {rest : Bytes} (h : Delimited (b :: rest)) :
    byteDigit? b = none ∧ b ≠ 0x2E ∧ b ≠ 0x65 ∧ b ≠ 0x45 := by
  have hb := h b rfl
  rw [isBlank] at hb
  simp only [Bool.or_eq_true, beq_iff_eq] at hb
  obtain (((rfl | rfl) | rfl) | rfl) | rfl | rfl | rfl := hb <;> decide

theorem Delimited.startsWithDigit {rest : Bytes} (h : Delimited rest) :
    Number.startsWithDigit rest = false := by
  cases rest with
  | nil => rfl
  | cons b rest => rw [Number.startsWithDigit, h.head.1]; rfl

theorem Delimited.head?_ne {rest : Bytes} (h : Delimited rest) :
    rest.head? ≠ some 0x2E ∧ rest.head? ≠ some 0x65 ∧ rest.head? ≠ some 0x45 := by
  cases rest with
  | nil => exact ⟨nofun, nofun, nofun⟩
  | cons b rest => simpa only [List.head?_cons, ne_eq, Option.some.injEq] using h.head.2

namespace Number

/-! ## 2. Digits -/

theorem encode_digitChars (ds : List Digit) :
    Utf8.encode (ds.map digitChar) = ds.map digitByte := by
  have hd : ∀ d : Digit, String.utf8EncodeChar (digitChar d) = [digitByte d] := by decide
  induction ds with
  | nil => rfl
  | cons d ds ih => rw [List.map_cons, Utf8.encode_cons, hd, ih]; rfl

/-- Digits are read up to a byte that is none. -/
theorem spanDigits_append (ds : List Digit) {rest : Bytes} (h : startsWithDigit rest = false) :
    spanDigits (ds.map digitByte ++ rest) = (ds, rest) := by
  induction ds with
  | nil =>
    cases rest with
    | nil => rfl
    | cons b rest =>
      rw [startsWithDigit, Option.isSome_eq_false_iff, Option.isNone_iff_eq_none] at h
      simp only [List.map_nil, List.nil_append, spanDigits, h]
  | cons d ds ih =>
    simp only [List.map_cons, List.cons_append, spanDigits, byteDigit?_digitByte, ih]

/-- What is read as digits are digits. -/
theorem of_spanDigits {bytes rest : Bytes} {ds : List Digit} (h : spanDigits bytes = (ds, rest)) :
    bytes = ds.map digitByte ++ rest := by
  induction bytes generalizing ds with
  | nil =>
    cases h
    rfl
  | cons b bytes ih =>
    cases hb : byteDigit? b with
    | none =>
      simp only [spanDigits, hb] at h
      cases h
      rfl
    | some d =>
      simp only [spanDigits, hb] at h
      obtain ⟨rfl, rfl⟩ := h
      rw [eq_digitByte_of_byteDigit? hb]
      exact congrArg (_ :: ·) (ih rfl)

/-! ## 3. The parts of a number -/

/-- The whole part is read to its end. -/
theorem readWhole_bytes (w : Whole) {rest : Bytes} (h : startsWithDigit rest = false) :
    readWhole (w.toList.map digitByte ++ rest) = .ok (w.toList, rest) := by
  cases w with
  | zero =>
    simp only [Whole.toList, List.map_cons, List.map_nil, List.cons_append, List.nil_append,
      readWhole, byteDigit?_digitByte, if_true, h, Bool.false_eq_true, if_false]
  | digits first nonzero more =>
    simp only [Whole.toList, List.map_cons, List.cons_append, readWhole, byteDigit?_digitByte,
      if_neg nonzero, spanDigits_append more h]

/-- What is read as a whole part is one: no digit stands behind a zero. -/
theorem of_readWhole {bytes rest : Bytes} {ds : List Digit}
    (h : readWhole bytes = .ok (ds, rest)) :
    ∃ w : Whole, w.toList = ds ∧ bytes = ds.map digitByte ++ rest := by
  cases bytes with
  | nil => cases h
  | cons b bytes =>
    cases hb : byteDigit? b with
    | none => simp [readWhole, hb] at h
    | some d =>
      obtain rfl := eq_digitByte_of_byteDigit? hb
      simp only [readWhole, hb] at h
      split at h
      · rename_i hd
        subst hd
        split at h
        · cases h
        · cases h
          exact ⟨.zero, rfl, rfl⟩
      · rename_i hd
        cases hs : spanDigits bytes with
        | mk more after =>
          rw [hs] at h
          cases h
          exact ⟨.digits d hd more, rfl, congrArg (_ :: ·) (of_spanDigits hs)⟩

/-- The bytes of a fraction. -/
def fractionBytes : Option (Digit × List Digit) → Bytes
  | none => []
  | some (first, more) => 0x2E :: (first :: more).map digitByte

theorem encode_fractionChars (f : Option (Digit × List Digit)) :
    Utf8.encode (fractionChars (Numeral.fractionDigits f)) = fractionBytes f := by
  cases f with
  | none => rfl
  | some f =>
    rw [Numeral.fractionDigits, fractionChars, Utf8.encode_cons, encode_digitChars]
    · rfl
    · nofun

/-- A fraction is read to its end, and none where there is no point. -/
theorem readFraction_bytes (f : Option (Digit × List Digit)) {rest : Bytes}
    (h : startsWithDigit rest = false) (hpoint : rest.head? ≠ some 0x2E) :
    readFraction (fractionBytes f ++ rest) = .ok (Numeral.fractionDigits f, rest) := by
  cases f with
  | none =>
    cases rest with
    | nil => rfl
    | cons b rest =>
      have hb : b ≠ 0x2E := fun hb => hpoint (congrArg some hb)
      exact if_neg hb
  | some f =>
    obtain ⟨first, more⟩ := f
    have hs : spanDigits ((first :: more).map digitByte ++ rest) = (first :: more, rest) :=
      spanDigits_append _ h
    rw [fractionBytes, List.cons_append, readFraction, if_pos rfl, hs]
    rfl

/-- What is read as a fraction is one: a digit stands behind the point. -/
theorem of_readFraction {bytes rest : Bytes} {ds : List Digit}
    (h : readFraction bytes = .ok (ds, rest)) :
    ∃ f, Numeral.fractionDigits f = ds ∧ bytes = fractionBytes f ++ rest := by
  cases bytes with
  | nil =>
    cases h
    exact ⟨none, rfl, rfl⟩
  | cons b bytes =>
    rw [readFraction] at h
    split at h
    · rename_i hb
      cases hs : spanDigits bytes with
      | mk digits after =>
        rw [hs] at h
        cases digits with
        | nil => cases after <;> cases h
        | cons first more =>
          cases h
          exact ⟨some (first, more), rfl, by rw [hb, of_spanDigits hs]; rfl⟩
    · cases h
      exact ⟨none, rfl, rfl⟩

/-- The bytes of a sign. -/
def signBytes : Option Bool → Bytes
  | none => []
  | some true => [0x2D]
  | some false => [0x2B]

/-- The bytes of an exponent. -/
def powerBytes : Option Power → Bytes
  | none => []
  | some p =>
    (if p.capital then 0x45 else 0x65) :: signBytes p.sign ++ (p.first :: p.more).map digitByte

theorem encode_powerChars (p : Option Power) :
    Utf8.encode ((p.map Power.chars).getD []) = powerBytes p := by
  cases p with
  | none => rfl
  | some p =>
    obtain ⟨capital, sign, first, more⟩ := p
    have hsign : Utf8.encode (Power.signChars sign) = signBytes sign := by
      rcases sign with _ | _ | _ <;> rfl
    rw [Option.map_some, Option.getD_some, Power.chars, Utf8.encode_append, Utf8.encode_cons,
      hsign, encode_digitChars]
    cases capital <;> rfl

theorem exponentSign_bytes (sign : Option Bool) (d : Digit) (rest : Bytes) :
    exponentSign (signBytes sign ++ digitByte d :: rest) =
      (sign.getD false, digitByte d :: rest) := by
  have hd : ∀ d : Digit, digitByte d ≠ 0x2B ∧ digitByte d ≠ 0x2D := by decide
  rcases sign with _ | _ | _
  · simp only [signBytes, List.nil_append, exponentSign, if_neg (hd d).1, if_neg (hd d).2]
    rfl
  · rfl
  · rfl

/-- An exponent is read to its end, and none where there is no letter. -/
theorem readExponent_bytes (p : Option Power) {rest : Bytes} (h : startsWithDigit rest = false)
    (hsmall : rest.head? ≠ some 0x65) (hcapital : rest.head? ≠ some 0x45) :
    readExponent (powerBytes p ++ rest) = .ok (p.map Power.exponent, rest) := by
  cases p with
  | none =>
    cases rest with
    | nil => rfl
    | cons b rest =>
      have hb : ¬(b = 0x65 ∨ b = 0x45) := by
        rintro (rfl | rfl)
        · exact hsmall rfl
        · exact hcapital rfl
      exact if_neg hb
  | some p =>
    obtain ⟨capital, sign, first, more⟩ := p
    have hletter : (if capital then 0x45 else 0x65 : UInt8) = 0x65 ∨
        (if capital then 0x45 else 0x65 : UInt8) = 0x45 := by cases capital <;> simp
    simp only [powerBytes, List.map_cons, List.cons_append, List.append_assoc, readExponent,
      if_pos hletter, exponentSign_bytes, byteDigit?_digitByte, spanDigits_append more h]
    rfl

theorem of_exponentSign {bytes rest : Bytes} {negative : Bool}
    (h : exponentSign bytes = (negative, rest)) :
    ∃ sign, sign.getD false = negative ∧ bytes = signBytes sign ++ rest := by
  cases bytes with
  | nil =>
    cases h
    exact ⟨none, rfl, rfl⟩
  | cons b bytes =>
    rw [exponentSign] at h
    split at h
    · rename_i hb
      cases h
      exact ⟨some false, rfl, by rw [hb]; rfl⟩
    · split at h
      · rename_i hb
        cases h
        exact ⟨some true, rfl, by rw [hb]; rfl⟩
      · cases h
        exact ⟨none, rfl, rfl⟩

/-- What is read as an exponent is one: a digit stands behind the letter and the sign. -/
theorem of_readExponent {bytes rest : Bytes} {e : Option Exponent}
    (h : readExponent bytes = .ok (e, rest)) :
    ∃ p : Option Power, p.map Power.exponent = e ∧ bytes = powerBytes p ++ rest := by
  cases bytes with
  | nil =>
    cases h
    exact ⟨none, rfl, rfl⟩
  | cons b bytes =>
    rw [readExponent] at h
    split at h
    · rename_i hb
      cases hs : exponentSign bytes with
      | mk negative after =>
        obtain ⟨sign, rfl, rfl⟩ := of_exponentSign hs
        rw [hs] at h
        cases after with
        | nil => cases h
        | cons c after =>
          cases hc : byteDigit? c with
          | none => simp [hc] at h
          | some first =>
            cases hm : spanDigits after with
            | mk more left =>
              simp only [hc, hm] at h
              cases h
              refine ⟨some ⟨b = 0x45, sign, first, more⟩, rfl, ?_⟩
              have hletter : (if decide (b = 0x45) then 0x45 else 0x65 : UInt8) = b := by
                obtain rfl | rfl := hb <;> rfl
              simp only [powerBytes, hletter, eq_digitByte_of_byteDigit? hc, of_spanDigits hm,
                List.map_cons, List.cons_append, List.append_assoc]
    · cases h
      exact ⟨none, rfl, rfl⟩

end Number

/-! ## 4. Numbers -/

/-- The bytes of a numeral. -/
def Numeral.bytes (n : Numeral) : Bytes := Utf8.encode n.chars

/-- The bytes of a numeral, part by part. -/
theorem Numeral.bytes_eq (n : Numeral) :
    n.bytes = (if n.minus then [0x2D] else []) ++ (n.whole.toList.map digitByte ++
      (Number.fractionBytes n.fraction ++ Number.powerBytes n.power)) := by
  rw [bytes, chars]
  simp only [Utf8.encode_append, Number.encode_digitChars, Number.encode_fractionChars,
    Number.encode_powerChars, List.append_assoc]
  cases n.minus <;> rfl

namespace Number

/-- What stands behind the sign is read part by part, and each part ends where the next begins. -/
theorem readUnsigned_bytes (minus : Bool) (w : Whole) (f : Option (Digit × List Digit))
    (p : Option Power) {rest : Bytes} (h : Delimited rest) :
    readUnsigned minus (w.toList.map digitByte ++ (fractionBytes f ++ (powerBytes p ++ rest))) =
      .ok ((Numeral.mk minus w f p).number, rest) := by
  obtain ⟨hpoint, hsmall, hcapital⟩ := h.head?_ne
  have hp : startsWithDigit (powerBytes p ++ rest) = false ∧
      (powerBytes p ++ rest).head? ≠ some 0x2E := by
    cases p with
    | none => exact ⟨h.startsWithDigit, hpoint⟩
    | some p => cases hcap : p.capital <;> simp [powerBytes, hcap, startsWithDigit] <;> decide
  have hf : startsWithDigit (fractionBytes f ++ (powerBytes p ++ rest)) = false := by
    cases f with
    | none => exact hp.1
    | some f => rfl
  have hexponent := readExponent_bytes p h.startsWithDigit hsmall hcapital
  exact bind_eq_ok.mpr ⟨_, readWhole_bytes w hf, bind_eq_ok.mpr
    ⟨_, readFraction_bytes f hp.1 hp.2, bind_eq_ok.mpr ⟨_, hexponent, rfl⟩⟩⟩

theorem of_readUnsigned {minus : Bool} {bytes rest : Bytes} {n : Number}
    (h : readUnsigned minus bytes = .ok (n, rest)) :
    ∃ w f p, (Numeral.mk minus w f p).number = n ∧
      bytes = w.toList.map digitByte ++ (fractionBytes f ++ (powerBytes p ++ rest)) := by
  obtain ⟨⟨ds, rest₁⟩, h₁, h⟩ := bind_eq_ok.mp h
  obtain ⟨⟨fs, rest₂⟩, h₂, h⟩ := bind_eq_ok.mp h
  obtain ⟨⟨e, rest₃⟩, h₃, h⟩ := bind_eq_ok.mp h
  cases h
  obtain ⟨w, rfl, rfl⟩ := of_readWhole h₁
  obtain ⟨f, rfl, rfl⟩ := of_readFraction h₂
  obtain ⟨p, rfl, rfl⟩ := of_readExponent h₃
  exact ⟨w, f, p, rfl, rfl⟩

/-- **A numeral is read as its number**, where nothing follows that could go on with it. -/
theorem read_bytes (n : Numeral) {rest : Bytes} (h : Delimited rest) :
    read (n.bytes ++ rest) = .ok (n.number, rest) := by
  obtain ⟨minus, w, f, p⟩ := n
  simp only [Numeral.bytes_eq, List.append_assoc]
  cases minus with
  | true => exact readUnsigned_bytes true w f p h
  | false =>
    have hw : ∃ d more, w.toList = d :: more := by cases w <;> exact ⟨_, _, rfl⟩
    obtain ⟨d, more, hd⟩ := hw
    have hread := readUnsigned_bytes false w f p h
    have hminus : mark (digitByte d) ≠ .minus := by rw [mark_digitByte]; nofun
    simp only [hd, List.map_cons, List.cons_append, Bool.false_eq_true, if_false,
      List.nil_append, read, if_neg hminus] at hread ⊢
    exact hread

/-- **What is read as a number is a numeral.** -/
theorem of_read {bytes rest : Bytes} {n : Number} (h : read bytes = .ok (n, rest)) :
    ∃ m : Numeral, m.number = n ∧ bytes = m.bytes ++ rest := by
  cases bytes with
  | nil => cases h
  | cons b bytes =>
    rw [read] at h
    split at h
    · rename_i hb
      obtain ⟨w, f, p, rfl, rfl⟩ := of_readUnsigned h
      refine ⟨⟨true, w, f, p⟩, rfl, ?_⟩
      simp only [Numeral.bytes_eq, eq_of_mark hb rfl, if_true, List.append_assoc]
      rfl
    · obtain ⟨w, f, p, rfl, hbytes⟩ := of_readUnsigned h
      refine ⟨⟨false, w, f, p⟩, rfl, ?_⟩
      simp only [Numeral.bytes_eq, hbytes, Bool.false_eq_true, if_false, List.nil_append,
        List.append_assoc]

/-- The first byte of a numeral is a minus sign or a digit. -/
theorem exists_head_bytes (n : Numeral) :
    ∃ b rest, n.bytes = b :: rest ∧ (mark b = .minus ∨ mark b = .digit) := by
  obtain ⟨minus, w, f, p⟩ := n
  rw [Numeral.bytes_eq]
  cases minus with
  | true => exact ⟨_, _, rfl, Or.inl rfl⟩
  | false => cases w <;> exact ⟨_, _, rfl, Or.inr (mark_digitByte _)⟩

/-- A text is one number and nothing else exactly when it is a numeral. -/
theorem ofText_eq_ok_iff {text : Bytes} {n : Number} :
    ofText text = .ok n ↔ ∃ m : Numeral, m.number = n ∧ text = m.bytes := by
  constructor
  · intro h
    have hread : readWholeText text = .ok n := by
      rw [ofText] at h
      cases hr : readWholeText text with
      | error f => rw [hr] at h; cases h
      | ok k => rw [hr] at h; cases h; rfl
    unfold readWholeText at hread
    split at hread
    · cases hread
    · split at hread
      · split at hread
        · rename_i hok
          cases hread
          obtain ⟨m, hm, hbytes⟩ := of_read hok
          exact ⟨m, hm, by rw [hbytes, List.append_nil]⟩
        · cases hread
        · cases hread
      · cases hread
  · rintro ⟨m, rfl, rfl⟩
    have hread : read m.bytes = .ok (m.number, []) := by
      rw [← List.append_nil m.bytes]
      exact read_bytes m delimited_nil
    obtain ⟨b, rest, hb, hmark⟩ := exists_head_bytes m
    rw [hb] at hread ⊢
    simp only [ofText, readWholeText, if_pos hmark, hread]
    rfl

end Number

end BrokerBridge.Json
