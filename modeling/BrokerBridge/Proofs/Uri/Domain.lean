import BrokerBridge.Proofs.Uri.Decoding
import Mathlib.Tactic.Tauto

/-!
# No at sign in a host

The host of a URL that the web knows is decoded and put in its plain form before it is looked at,
so it is not clear at once that an at sign in it is refused (`Host.ofDomain_at`).  It is: no form of
a text loses an at sign, and neither a label of a domain nor an address has one.
-/
namespace BrokerBridge

/-- What reads a list item by item reads each of its items. -/
theorem exists_mem_of_mapM {α β : Type} {f : α → Option β} {xs : List α} {ys : List β} {x : α}
    (h : xs.mapM f = some ys) (hx : x ∈ xs) : ∃ y ∈ ys, f x = some y := by
  induction xs generalizing ys with
  | nil => cases hx
  | cons z xs ih =>
    rw [List.mapM_cons] at h
    obtain ⟨y, hy, h⟩ := Option.bind_eq_some_iff.mp h
    obtain ⟨rest, hrest, h⟩ := Option.bind_eq_some_iff.mp h
    cases h
    obtain rfl | hx := List.mem_cons.mp hx
    · exact ⟨y, List.mem_cons_self, hy⟩
    · obtain ⟨y', hy', hx⟩ := ih hrest hx
      exact ⟨y', List.mem_cons_of_mem _ hy', hx⟩

/-! ## 1. Normal form -/

namespace Text

theorem parts_at : parts 0x40 = [0x40] := by decide

theorem compositeOf?_at_left (b : Nat) : compositeOf? 0x40 b = none := by
  have hcomposites : composites.all (fun c => c.2.1 != 0x40) = true := by decide +kernel
  have hsyllable : syllableOf? 0x40 b = none := by
    rw [syllableOf?, if_neg fun h => absurd h.1 (by decide),
      if_neg fun h => absurd h.1 (by decide)]
  have hfind : composites.find? (fun c => c.2.1 == 0x40 && c.2.2 == b) = none := by
    refine List.find?_eq_none.mpr fun c hc h => ?_
    exact (bne_iff_ne.mp (List.all_eq_true.mp hcomposites c hc))
      (beq_iff_eq.mp (Bool.and_eq_true_iff.mp h).1)
  rw [compositeOf?, hsyllable]
  simp only [hfind, Option.map_none, ite_self]

theorem compositeOf?_at_right (a : Nat) : compositeOf? a 0x40 = none := if_pos (by decide)

theorem mem_insertMark {n m : Nat} (ns : List Nat) : m ∈ insertMark n ns ↔ m = n ∨ m ∈ ns := by
  induction ns with
  | nil => exact List.mem_cons
  | cons k ns ih =>
    rw [insertMark]
    split
    · rw [List.mem_cons, ih, List.mem_cons]
      exact or_left_comm
    · exact List.mem_cons

theorem mem_foldl_insertMark {m : Nat} (ns before : List Nat) :
    m ∈ ns.foldl (fun before n => insertMark n before) before ↔ m ∈ before ∨ m ∈ ns := by
  induction ns generalizing before with
  | nil => simp
  | cons n ns ih =>
    rw [List.foldl_cons, ih, mem_insertMark, List.mem_cons, or_assoc]
    exact or_left_comm

theorem mem_ordered {m : Nat} (ns : List Nat) : m ∈ ordered ns ↔ m ∈ ns := by
  rw [ordered, List.mem_reverse, mem_foldl_insertMark]
  simp

/-- What goes into no composite is still there at the end. -/
theorem at_mem_composeFrom (starter : Option Nat) (passed ns : List Nat)
    (h : 0x40 ∈ starter ∨ 0x40 ∈ passed ∨ 0x40 ∈ ns) : 0x40 ∈ composeFrom starter passed ns := by
  induction ns generalizing starter passed with
  | nil =>
    simpa [composeFrom] using h
  | cons n ns ih =>
    rw [composeFrom]
    split
    next composite hcomposite =>
      -- neither the code point nor the one it goes into is the at sign
      have hboth : n ≠ 0x40 ∧ 0x40 ∉ starter := by
        split at hcomposite
        · obtain ⟨s, rfl, hs⟩ := Option.bind_eq_some_iff.mp hcomposite
          constructor
          · rintro rfl
            rw [compositeOf?_at_right] at hs
            cases hs
          · rintro ⟨⟩
            rw [compositeOf?_at_left] at hs
            cases hs
        · cases hcomposite
      refine ih _ _ ?_
      obtain h | h | h := h
      · exact absurd h hboth.2
      · exact .inr (.inl h)
      · exact .inr (.inr ((List.mem_cons.mp h).resolve_left (Ne.symm hboth.1)))
    next =>
      rw [List.mem_cons] at h
      split
      · rw [List.mem_append, List.mem_append, List.mem_reverse, Option.mem_toList]
        obtain h | h | h | h := h
        · exact .inl (.inl h)
        · exact .inl (.inr h)
        · exact .inr (ih _ _ (.inl (Option.mem_def.mpr (congrArg some h.symm))))
        · exact .inr (ih _ _ (.inr (.inr h)))
      · refine ih _ _ ?_
        rw [List.mem_cons]
        tauto

theorem at_mem_normal {cs : List Char} (h : '@' ∈ cs) : '@' ∈ normal cs := by
  have hparts : 0x40 ∈ cs.flatMap fun c => parts c.toNat :=
    List.mem_flatMap.mpr ⟨'@', h, parts_at ▸ List.mem_singleton_self _⟩
  exact List.mem_map.mpr ⟨0x40,
    at_mem_composeFrom none [] _ (.inr (.inr ((mem_ordered _).mpr hparts))), rfl⟩

end Text

namespace Uri

/-! ## 2. Labels -/

/-- A character that splits nothing is in one of the parts. -/
theorem mem_splitAt {p : Char → Bool} {c : Char} (hp : p c = false) {cs : List Char} (h : c ∈ cs) :
    ∃ part ∈ splitAt p cs, c ∈ part := by
  induction cs with
  | nil => cases h
  | cons d cs ih =>
    rw [splitAt]
    by_cases hd : p d = true
    · rw [if_pos hd]
      have hne : c ≠ d := fun hcd => by rw [hcd, hd] at hp; cases hp
      obtain ⟨part, hpart, hc⟩ := ih ((List.mem_cons.mp h).resolve_left hne)
      exact ⟨part, List.mem_cons_of_mem _ hpart, hc⟩
    · rw [if_neg hd]
      obtain rfl | h := List.mem_cons.mp h
      · split
        · exact ⟨_, List.mem_singleton_self _, List.mem_cons_self⟩
        · exact ⟨_, List.mem_cons_self, List.mem_cons_self⟩
      · obtain ⟨part, hpart, hc⟩ := ih h
        split
        next heq =>
          rw [heq] at hpart
          cases hpart
        next first parts heq =>
          rw [heq] at hpart
          obtain rfl | hpart := List.mem_cons.mp hpart
          · exact ⟨_, List.mem_cons_self, List.mem_cons_of_mem _ hc⟩
          · exact ⟨part, List.mem_cons_of_mem _ hpart, hc⟩

namespace Punycode

theorem digit?_at : digit? '@' = none := by decide

/-- A distance ends before what is no digit. -/
theorem at_mem_of_readDelta {bias k weight value delta : Nat} {cs rest : List Char}
    (h : readDelta bias k weight value cs = some (delta, rest)) (hat : '@' ∈ cs) : '@' ∈ rest := by
  induction cs generalizing k weight value with
  | nil => cases hat
  | cons c cs ih =>
    rw [readDelta] at h
    obtain ⟨d, hd, h⟩ := Option.bind_eq_some_iff.mp h
    have hne : '@' ≠ c := by
      rintro rfl
      rw [digit?_at] at hd
      cases hd
    have hat := (List.mem_cons.mp hat).resolve_left hne
    dsimp only at h
    split at h
    · cases h
    · split at h
      · cases h
        exact hat
      · exact ih h hat

/-- What is put into a text leaves it there, and is all of digits. -/
theorem at_mem_of_insertAll {fuel code index bias : Nat} {output rest read : List Char}
    (h : insertAll fuel code index bias output rest = some read) (hat : '@' ∈ output ∨ '@' ∈ rest) :
    '@' ∈ read := by
  induction fuel generalizing code index bias output rest with
  | zero =>
    cases rest with
    | nil =>
      cases h
      exact hat.resolve_right List.not_mem_nil
    | cons c rest => cases h
  | succ fuel ih =>
    cases rest with
    | nil =>
      cases h
      exact hat.resolve_right List.not_mem_nil
    | cons c rest =>
      rw [insertAll] at h
      obtain ⟨⟨delta, after⟩, hdelta, h⟩ := Option.bind_eq_some_iff.mp h
      dsimp only at h
      split at h
      · refine ih h ?_
        obtain hat | hat := hat
        · exact .inl (List.mem_insertIdx (Nat.le_of_lt_succ (Nat.mod_lt _ (Nat.succ_pos _)))
            |>.mpr (.inr hat))
        · exact .inr (at_mem_of_readDelta hdelta hat)
      · cases h

theorem at_mem_of_decode? {cs read : List Char} (h : decode? cs = some read) (hat : '@' ∈ cs) :
    '@' ∈ read := by
  -- the at sign stands in front of the last hyphen or behind it
  have hsides : '@' ∈ ((cs.reverse.dropWhile (· ≠ '-')).drop 1).reverse ∨
      '@' ∈ (cs.reverse.takeWhile (· ≠ '-')).reverse := by
    rw [List.mem_reverse, List.mem_reverse]
    have hrev : '@' ∈ cs.reverse.takeWhile (· ≠ '-') ++ cs.reverse.dropWhile (· ≠ '-') := by
      rw [List.takeWhile_append_dropWhile]
      exact List.mem_reverse.mpr hat
    obtain hfront | hback := List.mem_append.mp hrev
    · exact .inr hfront
    · left
      cases hdrop : cs.reverse.dropWhile (· ≠ '-') with
      | nil =>
        rw [hdrop] at hback
        cases hback
      | cons c rest =>
        have hc := List.head?_dropWhile_not (fun c => decide (c ≠ '-')) cs.reverse
        rw [hdrop, List.head?_cons] at hc
        have hc : c = '-' := by simpa using hc
        rw [hdrop, hc] at hback
        exact (List.mem_cons.mp hback).resolve_left (by decide)
  rw [decode?] at h
  split at h
  · cases h
  · split at h
    · exact at_mem_of_insertAll h hsides
    · cases h

end Punycode

namespace Domain

theorem at_mem_of_readLabel? {label read : List Char} (h : readLabel? label = some read)
    (hat : '@' ∈ label) : '@' ∈ read := by
  rw [readLabel?] at h
  split at h
  next hmark =>
    rw [decodeLabel?] at h
    split at h
    · cases h
    · refine Punycode.at_mem_of_decode? (Option.eq_some_of_filter_eq_some h) ?_
      obtain ⟨encoded, rfl⟩ := List.isPrefixOf_iff_prefix.mp hmark
      rw [List.drop_left]
      exact (List.mem_append.mp hat).resolve_left (by decide)
  next =>
    split at h
    · cases h
      exact hat
    · cases h

theorem isLabel_at {label : List Char} (hat : '@' ∈ label) : isLabel label = false := by
  have hforbidden : label.any isForbiddenInDomain = true :=
    List.any_eq_true.mpr ⟨'@', hat, by decide⟩
  rw [isLabel, hforbidden, Bool.not_true, Bool.and_false]

theorem at_mem_of_plain? {cs plain : List Char} (h : plain? cs = some plain) (hat : '@' ∈ cs) :
    '@' ∈ plain := by
  obtain ⟨pieces, hpieces, rfl⟩ := Option.map_eq_some_iff.mp h
  obtain ⟨piece, hpiece, hread⟩ := exists_mem_of_mapM hpieces hat
  cases hread
  exact Text.at_mem_normal (List.mem_flatten.mpr ⟨_, hpiece, List.mem_singleton_self _⟩)

/-- **No name has an at sign.** -/
theorem name?_at {cs : List Char} (hat : '@' ∈ cs) : name? cs = none := by
  refine Option.eq_none_iff_forall_ne_some.mpr fun name h => ?_
  obtain ⟨plain, hplain, h⟩ := Option.bind_eq_some_iff.mp h
  obtain ⟨read, hread, h⟩ := Option.bind_eq_some_iff.mp h
  obtain ⟨label, hlabel, hat⟩ :=
    mem_splitAt (p := (· == '.')) (by decide) (at_mem_of_plain? hplain hat)
  obtain ⟨r, hr, hreadLabel⟩ := exists_mem_of_mapM hread hlabel
  have hname : isName read = false := by
    have hall : read.all isLabel = false :=
      List.all_eq_false.mpr ⟨r, hr, by simp [isLabel_at (at_mem_of_readLabel? hreadLabel hat)]⟩
    rw [isName, hall, Bool.false_and]
  rw [hname] at h
  cases h

end Domain

/-! ## 3. Addresses -/

theorem numeral?_at {cs : List Char} (hat : '@' ∈ cs) : numeral? cs = none := by
  have hnumeral : isNumeral cs = false := by
    have hall : cs.all (fun c => (digit? c).isSome) = false :=
      List.all_eq_false.mpr ⟨'@', hat, by decide⟩
    rw [isNumeral, hall, Bool.and_false]
  rw [numeral?, hnumeral]
  rfl

theorem decimalByte?_at {cs : List Char} (hat : '@' ∈ cs) : decimalByte? cs = none := by
  unfold decimalByte?
  split
  · rfl
  · rw [numeral?_at hat]
    rfl

theorem embeddedIpv4?_at {cs : List Char} (hat : '@' ∈ cs) : embeddedIpv4? cs = none := by
  obtain ⟨label, hlabel, hat⟩ := mem_splitAt (p := (· == '.')) (by decide) hat
  have hbytes : (labels cs).mapM decimalByte? = none := by
    refine Option.eq_none_iff_forall_ne_some.mpr fun bytes h => ?_
    obtain ⟨_, _, hbyte⟩ := exists_mem_of_mapM h hlabel
    rw [decimalByte?_at hat] at hbyte
    cases hbyte
  rw [embeddedIpv4?, hbytes]

/-- Digits end before an at sign. -/
theorem at_mem_drop_digits {cs : List Char} (hat : '@' ∈ cs) (n : Nat) :
    '@' ∈ cs.drop ((cs.take n).takeWhile fun d => (baseDigit? 16 d).isSome).length := by
  generalize hdigits : (cs.take n).takeWhile (fun d => (baseDigit? 16 d).isSome) = digits
  have hprefix : digits <+: cs :=
    hdigits ▸ (List.takeWhile_prefix _).trans (List.take_prefix n cs)
  have hdigit : '@' ∉ digits := fun h => by
    rw [← hdigits] at h
    exact absurd (List.all_eq_true.mp List.all_takeWhile '@' h) (by decide)
  obtain ⟨more, rfl⟩ := hprefix
  rw [List.drop_left]
  exact (List.mem_append.mp hat).resolve_left hdigit

theorem readPieces_at {fuel : Nat} {p : Pieces} {cs : List Char} (hat : '@' ∈ cs) :
    readPieces fuel p cs = none := by
  induction fuel generalizing p cs with
  | zero =>
    cases cs with
    | nil => cases hat
    | cons c cs => rfl
  | succ fuel ih =>
    cases cs with
    | nil => cases hat
    | cons c cs =>
      rw [readPieces]
      by_cases hfull : 8 ≤ p.reversed.length + (if p.gap.isSome then 1 else 0)
      · exact if_pos hfull
      · rw [if_neg hfull]
        by_cases hc : c = ':'
        · rw [if_pos hc]
          split
          · rfl
          · exact ih ((List.mem_cons.mp hat).resolve_left (by rw [hc]; decide))
        · rw [if_neg hc]
          have hdrop := at_mem_drop_digits hat 4
          dsimp only
          split
          next heq =>
            rw [heq] at hdrop
            cases hdrop
          · rfl
          next heq =>
            rw [heq] at hdrop
            exact ih ((List.mem_cons.mp hdrop).resolve_left (by decide))
          next =>
            rw [embeddedIpv4?_at hat]
            exact ite_self _
          · rfl

theorem ipv6?_at {cs : List Char} (hat : '@' ∈ cs) : ipv6? cs = none := by
  unfold ipv6?
  split
  · rfl
  · rfl
  next rest =>
    rw [readPieces_at (by simpa using hat)]
    rfl
  · rfl
  next =>
    rw [readPieces_at hat]
    rfl

/-! ## 4. Hosts -/

theorem domain?_at {cs : List Char} (hat : '@' ∈ cs) : domain? cs = none := by
  obtain ⟨front, back, rfl⟩ := List.append_of_mem hat
  obtain ⟨chunks, -, hchunks⟩ := Utf8.exists_chunks (decoded front)
  refine Option.bind_eq_none_iff.mpr fun read hread => Domain.name?_at ?_
  rw [← decoded, decoded_append_cons (by decide) (by decide) (by decide), Utf8.decode?,
    hchunks _ _ (by decide), Utf8.chunks_cons_ascii (by decide)] at hread
  obtain ⟨c, hc, h⟩ := exists_mem_of_mapM hread (List.mem_append_right _ List.mem_cons_self)
  cases h
  exact hc

/-- **No host of the web has an at sign.**  What is wrong with it depends only on how it begins. -/
theorem Host.ofDomain_at {cs : List Char} (hat : '@' ∈ cs) :
    Host.ofDomain cs =
      .error (if cs.head? = some '[' then .invalidIpv6 else .invalidDomainName) := by
  rw [Host.ofDomain]
  split
  next hhead =>
    rw [Host.ofBracketed]
    split
    next hlast =>
      obtain ⟨inner, rfl⟩ := List.getLast?_eq_some_iff.mp hlast
      have hinner := (List.mem_append.mp hat).resolve_right (by decide)
      have hat : '@' ∈ ((inner ++ [']']).drop 1).dropLast := by
        cases inner with
        | nil => cases hinner
        | cons c inner =>
          cases Option.some.inj hhead
          rw [List.cons_append, List.drop_one, List.tail_cons, List.dropLast_concat]
          exact (List.mem_cons.mp hinner).resolve_left (by decide)
      rw [ipv6?_at hat]
    · rfl
  next => rw [domain?_at hat]

end Uri

end BrokerBridge
