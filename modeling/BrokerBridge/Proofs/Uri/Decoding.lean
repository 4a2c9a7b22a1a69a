import BrokerBridge.Proofs.Utf8
import BrokerBridge.Uri.Amqp

/-!
# Decoding around a character of ASCII

Bytes of ASCII are characters by themselves: no chunk of UTF-8 reaches over one, and no
percent-encoded byte over one that is no hexadecimal digit.  So what stands in front of such a byte
is decoded as if nothing followed it.
-/
namespace BrokerBridge

/-! ## 1. UTF-8 -/

namespace Utf8

theorem chunks_cons_ascii {b : UInt8} (hb : b < 0x80) (rest : Bytes) :
    chunks (b :: rest) = .char (Char.ofNat b.toNat) 0 :: chunks rest := by
  have hchunk : firstChunk b rest = .char (Char.ofNat b.toNat) 0 := if_pos hb
  rw [chunks, chunksFrom, hchunk]
  rfl

/-- The bytes after a lead byte are read up to a byte of ASCII at most. -/
theorem exists_readTail (bytes : Bytes) {n taken code : Nat} {least most : UInt8}
    (hl : 0x80 ≤ least) :
    ∃ chunk : Chunk, chunk.tail ≤ taken + bytes.length ∧ ∀ b rest, b < 0x80 →
      readTail n least most taken code (bytes ++ b :: rest) = chunk := by
  induction bytes generalizing n taken code least most with
  | nil =>
    cases n with
    | zero => exact ⟨.char (Char.ofNat code) taken, Nat.le_refl _, fun _ _ _ => rfl⟩
    | succ n =>
      refine ⟨.illFormed taken, Nat.le_refl _, fun b rest hb => if_neg fun h => ?_⟩
      exact absurd (UInt8.le_trans hl h.1) (UInt8.not_le.mpr hb)
  | cons x bytes ih =>
    cases n with
    | zero => exact ⟨.char (Char.ofNat code) taken, Nat.le_add_right _ _, fun _ _ _ => rfl⟩
    | succ n =>
      by_cases hx : least ≤ x ∧ x ≤ most
      · obtain ⟨chunk, htail, hread⟩ := @ih n (taken + 1) (code * 64 + (x.toNat - 0x80)) 0x80 0xBF
          (UInt8.le_refl _)
        refine ⟨chunk, ?_, fun b rest hb => ?_⟩
        · rw [List.length_cons]
          omega
        · rw [List.cons_append, readTail, if_pos hx, hread b rest hb]
      · exact ⟨.illFormed taken, Nat.le_add_right _ _, fun b rest _ => if_neg hx⟩

/-- No byte of ASCII goes on with a character. -/
theorem Lead.le_least {b : UInt8} {lead : Lead} (h : ofByte? b = some lead) :
    0x80 ≤ lead.least := by
  obtain hb | hb | hb := range_of_ofByte? h
  · rw [ofByte?_two hb.1 hb.2] at h
    cases h
    exact UInt8.le_refl _
  · rw [ofByte?_three hb.1 hb.2] at h
    cases h
    show 0x80 ≤ if b = 0xE0 then (0xA0 : UInt8) else 0x80
    split <;> decide
  · rw [ofByte?_four hb.1 hb.2] at h
    cases h
    show 0x80 ≤ if b = 0xF0 then (0x90 : UInt8) else 0x80
    split <;> decide

theorem exists_firstChunk (x : UInt8) (bytes : Bytes) :
    ∃ chunk : Chunk, chunk.tail ≤ bytes.length ∧ ∀ b rest, b < 0x80 →
      firstChunk x (bytes ++ b :: rest) = chunk := by
  by_cases hx : x < 0x80
  · exact ⟨.char (Char.ofNat x.toNat) 0, Nat.zero_le _, fun _ _ _ => if_pos hx⟩
  · cases hlead : Lead.ofByte? x with
    | none =>
      refine ⟨.illFormed 0, Nat.zero_le _, fun b rest _ => ?_⟩
      rw [firstChunk, if_neg hx, hlead]
    | some lead =>
      obtain ⟨chunk, htail, hread⟩ :=
        @exists_readTail bytes lead.tail 0 lead.bits lead.least lead.most (Lead.le_least hlead)
      refine ⟨chunk, Nat.zero_add bytes.length ▸ htail, fun b rest hb => ?_⟩
      rw [firstChunk, if_neg hx, hlead]
      exact hread b rest hb

/-- The number of bytes of some chunks. -/
def size : List Chunk → Nat
  | [] => 0
  | chunk :: cs => chunk.tail + 1 + size cs

theorem size_cons (chunk : Chunk) (cs : List Chunk) :
    size (chunk :: cs) = chunk.tail + 1 + size cs := rfl

/-- **No chunk reaches over a byte of ASCII.** -/
theorem exists_chunks (bytes : Bytes) :
    ∃ cs : List Chunk, size cs = bytes.length ∧ ∀ b rest, b < 0x80 →
      chunks (bytes ++ b :: rest) = cs ++ chunks (b :: rest) := by
  -- a chunk takes up to four bytes, so the induction is on the length
  induction hn : bytes.length using Nat.strongRecOn generalizing bytes with
  | ind n ih =>
    cases bytes with
    | nil => exact ⟨[], hn, fun _ _ _ => rfl⟩
    | cons x bytes =>
      obtain ⟨chunk, htail, hfirst⟩ := exists_firstChunk x bytes
      have hdrop : (bytes.drop chunk.tail).length < n := by
        rw [← hn, List.length_drop, List.length_cons]
        omega
      obtain ⟨cs, hsize, hchunks⟩ := ih _ hdrop (bytes.drop chunk.tail) rfl
      refine ⟨chunk :: cs, ?_, fun b rest hb => ?_⟩
      · rw [size_cons, hsize, List.length_drop, ← hn, List.length_cons]
        omega
      · have hsplit : bytes ++ b :: rest =
            bytes.take chunk.tail ++ (bytes.drop chunk.tail ++ b :: rest) := by
          rw [← List.append_assoc, List.take_append_drop]
        have hlength : (bytes.take chunk.tail).length = chunk.tail :=
          List.length_take_of_le htail
        have hskip := chunksFrom_append (bytes.take chunk.tail) (bytes.drop chunk.tail ++ b :: rest)
        rw [hlength, ← hsplit] at hskip
        rw [List.cons_append, chunks, chunksFrom, hfirst b rest hb, hskip, hchunks b rest hb,
          List.cons_append]

/-- The chunks of a text, in front of anything. -/
theorem chunks_encode_append (cs : List Char) (rest : Bytes) :
    chunks (encode cs ++ rest) =
      cs.map (fun c => .char c ((String.utf8EncodeChar c).length - 1)) ++ chunks rest := by
  induction cs with
  | nil => rfl
  | cons c cs ih =>
    rw [encode_cons, List.append_assoc, chunks_encodeChar_append, ih]
    rfl

theorem defectFrom_append (i : Nat) (cs cs' : List Chunk) :
    defectFrom i (cs ++ cs') = (defectFrom i cs).or (defectFrom (i + size cs) cs') := by
  induction cs generalizing i with
  | nil => rfl
  | cons chunk cs ih =>
    cases chunk with
    | char c n =>
      rw [List.cons_append, defectFrom, defectFrom, ih, size_cons, Chunk.tail, Nat.add_assoc i n 1,
        Nat.add_assoc]
    | illFormed n | cut n => rfl

/-- A defect moves with the chunks. -/
theorem defectFrom_add (i k : Nat) (cs : List Chunk) :
    defectFrom (i + k) cs = (defectFrom i cs).map fun d => ⟨d.index + k, d.length⟩ := by
  induction cs generalizing i with
  | nil => rfl
  | cons chunk cs ih =>
    cases chunk with
    | char c n =>
      rw [defectFrom, defectFrom, ← ih]
      congr 1
      omega
    | illFormed n | cut n => rfl

/-- The first defect behind characters of ASCII. -/
theorem defectFrom_ascii {cs : List Char} (hcs : ∀ c ∈ cs, c.toNat < 0x80) (i : Nat)
    (rest : List Chunk) :
    defectFrom i (cs.map (fun c => .char c ((String.utf8EncodeChar c).length - 1)) ++ rest) =
      defectFrom (i + cs.length) rest := by
  induction cs generalizing i with
  | nil => rfl
  | cons c cs ih =>
    obtain ⟨hc, hcs⟩ := List.forall_mem_cons.mp hcs
    rw [List.map_cons, List.cons_append, defectFrom, ih hcs, encodeChar_eq_one hc,
      List.length_singleton, Nat.sub_self, Nat.add_zero, List.length_cons, Nat.add_assoc,
      Nat.add_comm 1]

/-- The character that is shown for a chunk. -/
def Chunk.shown : Chunk → Char
  | .char c _ => c
  | .illFormed _ | .cut _ => Char.ofNat 0xFFFD

theorem toList_lossy (bytes : Bytes) : (lossy bytes).toList = (chunks bytes).map Chunk.shown := by
  rw [lossy, String.toList_ofList]
  refine List.map_congr_left fun chunk _ => ?_
  cases chunk <;> rfl

/-- The text of bytes around a byte of ASCII. -/
theorem exists_lossy (bytes : Bytes) :
    ∃ front : List Char, ∀ b rest, b < 0x80 →
      (lossy (bytes ++ b :: rest)).toList =
        front ++ Char.ofNat b.toNat :: (lossy rest).toList := by
  obtain ⟨cs, -, hchunks⟩ := exists_chunks bytes
  refine ⟨cs.map Chunk.shown, fun b rest hb => ?_⟩
  rw [toList_lossy, toList_lossy, hchunks b rest hb, chunks_cons_ascii hb, List.map_append,
    List.map_cons, Chunk.shown]

/-- The text of a text in front of anything. -/
theorem lossy_encode_append (cs : List Char) (rest : Bytes) :
    (lossy (encode cs ++ rest)).toList = cs ++ (lossy rest).toList := by
  rw [toList_lossy, toList_lossy, chunks_encode_append, List.map_append, List.map_map]
  congr 1
  exact List.map_id cs

end Utf8

/-! ## 2. Percent encoding -/

namespace Uri

theorem hexByte?_left {a : UInt8} (h : hexDigit? a = none) (b : UInt8) : hexByte? a b = none := by
  rw [hexByte?, h]
  rfl

theorem hexByte?_right {b : UInt8} (h : hexDigit? b = none) (a : UInt8) : hexByte? a b = none := by
  rw [hexByte?, h]
  cases hexDigit? a <;> rfl

theorem escaped?_append {b : UInt8} (hb : hexDigit? b = none) (bytes rest : Bytes) :
    escaped? (bytes ++ b :: rest) = escaped? bytes := by
  match bytes, rest with
  | [], [] => rfl
  | [], c :: _ => exact hexByte?_left hb c
  | [a], _ => exact hexByte?_right hb a
  | _ :: _ :: _, _ => rfl

theorem two_le_of_escaped? {bytes : Bytes} {c : UInt8} (h : escaped? bytes = some c) :
    2 ≤ bytes.length := by
  match bytes with
  | [] | [_] => cases h
  | _ :: _ :: rest => exact Nat.le_add_left 2 rest.length

theorem percentDecodeFrom_append {b : UInt8} (hb : hexDigit? b = none) (bytes rest : Bytes)
    {skip : Nat} (hskip : skip ≤ bytes.length) :
    percentDecodeFrom skip (bytes ++ b :: rest) =
      percentDecodeFrom skip bytes ++ percentDecode (b :: rest) := by
  induction bytes generalizing skip with
  | nil =>
    obtain rfl := Nat.le_zero.mp hskip
    rfl
  | cons x bytes ih =>
    cases skip with
    | succ skip => exact ih (Nat.le_of_succ_le_succ hskip)
    | zero =>
      rw [List.cons_append, percentDecodeFrom, percentDecodeFrom, escaped?_append hb,
        ih (Nat.zero_le _)]
      cases hesc : escaped? bytes with
      | none => split <;> rfl
      | some c =>
        rw [ih (two_le_of_escaped? hesc)]
        split <;> rfl

/-- **No escape reaches over a byte that is no hexadecimal digit.** -/
theorem percentDecode_append {b : UInt8} (hb : hexDigit? b = none) (bytes rest : Bytes) :
    percentDecode (bytes ++ b :: rest) = percentDecode bytes ++ percentDecode (b :: rest) :=
  percentDecodeFrom_append hb bytes rest (Nat.zero_le _)

theorem ofNat_ne {c : Char} (hascii : c.toNat < 0x80) (hpercent : c ≠ '%') :
    UInt8.ofNat c.toNat ≠ 0x25 := by
  intro h
  have hn : c.toNat = 0x25 := by
    rw [← UInt8.toNat_ofNat_of_lt' (Nat.lt_trans hascii (by decide)), h]
    rfl
  exact hpercent (Char.toNat_inj.mp hn)

/-- A byte that is no percent sign stands for itself. -/
theorem percentDecode_cons {b : UInt8} (hb : b ≠ 0x25) (rest : Bytes) :
    percentDecode (b :: rest) = b :: percentDecode rest := by
  rw [percentDecode, percentDecodeFrom, if_neg hb]
  rfl

/-! ## 3. Percent-encoded texts -/

/-- The bytes that a percent-encoded text stands for. -/
def decoded (cs : List Char) : Bytes := percentDecode (Utf8.encode cs)

/-- Decoding goes on behind a character of ASCII that is no hexadecimal digit. -/
theorem decoded_append_cons {c : Char} (hascii : c.toNat < 0x80) (hpercent : c ≠ '%')
    (hhex : hexDigit? (UInt8.ofNat c.toNat) = none) (cs ds : List Char) :
    decoded (cs ++ c :: ds) = decoded cs ++ UInt8.ofNat c.toNat :: decoded ds := by
  rw [decoded, Utf8.encode_append, Utf8.encode_cons, Utf8.encodeChar_eq_one hascii,
    List.singleton_append, percentDecode_append hhex, percentDecode_cons (ofNat_ne hascii hpercent)]
  rfl

/-- Characters of ASCII other than the percent sign stand for themselves. -/
theorem decoded_append {cs : List Char} (hcs : ∀ c ∈ cs, c.toNat < 0x80 ∧ c ≠ '%')
    (ds : List Char) : decoded (cs ++ ds) = Utf8.encode cs ++ decoded ds := by
  induction cs with
  | nil => rfl
  | cons c cs ih =>
    obtain ⟨⟨hascii, hpercent⟩, hcs⟩ := List.forall_mem_cons.mp hcs
    rw [Utf8.encode_cons, Utf8.encodeChar_eq_one hascii, List.append_assoc, ← ih hcs, decoded,
      List.cons_append, Utf8.encode_cons, Utf8.encodeChar_eq_one hascii, List.singleton_append,
      percentDecode_cons (ofNat_ne hascii hpercent)]
    rfl

end Uri

end BrokerBridge
