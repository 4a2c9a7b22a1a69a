import BrokerBridge.Proofs.Uri.Decoding

/-!
# Passwords in texts

A password of ASCII letters and digits stands between a colon and an at sign, and no part of a URL
begins or ends inside it.  So what is made of a text with a password in it is followed for all
passwords at once: it is the same for each of them (`Blind`), or a text with the password between a
colon and an at sign again (`Enclosed`), or at least behind a colon (`Bordered`).
-/
namespace BrokerBridge

/-- A password of letters and digits of ASCII. -/
structure Password where
  text : String
  ne_empty : text ≠ ""
  alphanum : ∀ c ∈ text.toList, c.isAlphanum

namespace Password

variable {α β : Type}

/-- The characters of a password. -/
def chars (w : Password) : List Char := w.text.toList

theorem mem_chars {w : Password} {c : Char} (h : c ∈ w.chars) : c.isAlphanum := w.alphanum c h

theorem exists_chars (w : Password) : ∃ c cs, w.chars = c :: cs ∧ c.isAlphanum := by
  cases hw : w.chars with
  | nil => exact absurd (String.toList_eq_nil_iff.mp hw) w.ne_empty
  | cons c cs => exact ⟨c, cs, rfl, mem_chars (hw ▸ List.mem_cons_self)⟩

end Password

theorem ne_of_isAlphanum {c d : Char} (hd : d.isAlphanum = false) (hc : c.isAlphanum) : c ≠ d := by
  rintro rfl
  rw [hd] at hc
  cases hc

theorem toNat_lt_of_isAlphanum {c : Char} (hc : c.isAlphanum) : c.toNat < 0x80 := by
  have hranges : (65 ≤ c.toNat ∧ c.toNat ≤ 90) ∨ (97 ≤ c.toNat ∧ c.toNat ≤ 122) ∨
      (48 ≤ c.toNat ∧ c.toNat ≤ 57) := by
    obtain h | h := Bool.or_eq_true_iff.mp hc
    · obtain h | h := Bool.or_eq_true_iff.mp h
      · exact .inl (of_decide_eq_true h)
      · exact .inr (.inl ((Bool.and_eq_true_iff.mp h).imp of_decide_eq_true of_decide_eq_true))
    · exact .inr (.inr ((Bool.and_eq_true_iff.mp h).imp of_decide_eq_true of_decide_eq_true))
  omega

namespace Uri

variable {α β : Type}

/-- A text with a password in it, after a colon and before an at sign. -/
def around (a b : List Char) (w : Password) : List Char := a ++ ':' :: (w.chars ++ '@' :: b)

/-- What may stand in front of a password: nothing, or something that ends in a colon. -/
def Leads (a : List Char) : Prop := a = [] ∨ ∃ a', a = a' ++ [':']

/-- A value that is the same for every password. -/
inductive Blind (f : Password → α) : Prop where
  | intro (value : α) (h : ∀ w, f w = value)

/-- A text that is the same for every password, or has the password between a colon and an at
sign. -/
inductive Enclosed (f : Password → List Char) : Prop where
  | blind (h : Blind f)
  | around (a b : List Char) (h : ∀ w, f w = around a b w)

/-- A text that is the same for every password, or has the password at its beginning or behind a
colon. -/
inductive Bordered (f : Password → List Char) : Prop where
  | blind (h : Blind f)
  | behind (a b : List Char) (ha : Leads a)
    (h : ∀ w, f w = a ++ (w.chars ++ b))

theorem Blind.fixed (value : α) : Blind fun _ => value := ⟨value, fun _ => rfl⟩

theorem Blind.map {f : Password → α} (h : Blind f) (g : α → β) : Blind fun w => g (f w) := by
  obtain ⟨value, h⟩ := h
  exact ⟨g value, fun w => congrArg g (h w)⟩

theorem around_cons (c : Char) (a b : List Char) (w : Password) :
    around (c :: a) b w = c :: around a b w := rfl

theorem append_around (a a' b : List Char) (w : Password) :
    a ++ around a' b w = around (a ++ a') b w := (List.append_assoc a a' _).symm

theorem around_append (a b b' : List Char) (w : Password) :
    around a b w ++ b' = around a (b ++ b') w := by
  simp only [around, List.append_assoc, List.cons_append]

theorem around_eq (a b : List Char) (w : Password) :
    around a b w = (a ++ [':']) ++ (w.chars ++ '@' :: b) := by
  rw [List.append_assoc]
  rfl

theorem Enclosed.bordered {f : Password → List Char} (hf : Enclosed f) : Bordered f := by
  cases hf with
  | blind h => exact .blind h
  | around a b h =>
    exact .behind (a ++ [':']) ('@' :: b) (.inr ⟨a, rfl⟩) fun w => by rw [h, around_eq]

/-- Without its first character the text may begin with the password. -/
theorem Enclosed.bordered_drop {f : Password → List Char} (hf : Enclosed f) :
    Bordered fun w => (f w).drop 1 := by
  cases hf with
  | blind h => exact .blind (h.map (List.drop 1))
  | around a b h =>
    cases a with
    | nil => exact .behind [] ('@' :: b) (.inl rfl) fun w => by rw [h]; rfl
    | cons c a =>
      have htail : Enclosed fun w => (f w).drop 1 := .around a b fun w => by rw [h]; rfl
      exact htail.bordered

/-! ## 1. Running over the password -/

/-- A list satisfies a condition throughout, or up to its first item that does not. -/
theorem all_or_exists_append (p : Char → Bool) (cs : List Char) :
    (∀ c ∈ cs, p c) ∨ ∃ a e b, cs = a ++ e :: b ∧ (∀ c ∈ a, p c) ∧ p e = false := by
  induction cs with
  | nil => exact .inl fun _ h => absurd h List.not_mem_nil
  | cons c cs ih =>
    cases hc : p c with
    | false => exact .inr ⟨[], c, cs, rfl, fun _ h => absurd h List.not_mem_nil, hc⟩
    | true =>
      obtain hall | ⟨a, e, b, rfl, ha, he⟩ := ih
      · exact .inl (List.forall_mem_cons.mpr ⟨hc, hall⟩)
      · exact .inr ⟨c :: a, e, b, rfl, List.forall_mem_cons.mpr ⟨hc, ha⟩, he⟩

theorem takeWhile_stop {p : Char → Bool} {a : List Char} {e : Char} (ha : ∀ c ∈ a, p c)
    (he : p e = false) (rest : List Char) : (a ++ e :: rest).takeWhile p = a := by
  rw [List.takeWhile_append_of_pos ha, List.takeWhile_cons_of_neg (by simp [he]), List.append_nil]

theorem dropWhile_stop {p : Char → Bool} {a : List Char} {e : Char} (ha : ∀ c ∈ a, p c)
    (he : p e = false) (rest : List Char) : (a ++ e :: rest).dropWhile p = e :: rest := by
  rw [List.dropWhile_append_of_pos ha, List.dropWhile_cons_of_neg (by simp [he])]

/-- A character does not occur, or it occurs a last time. -/
theorem not_mem_or_exists_last (d : Char) (cs : List Char) :
    d ∉ cs ∨ ∃ front back, cs = front ++ d :: back ∧ d ∉ back := by
  have hne {ds : List Char} (h : ∀ c ∈ ds, decide (c ≠ d)) : d ∉ ds.reverse := fun hmem =>
    of_decide_eq_true (h d (List.mem_reverse.mp hmem)) rfl
  obtain hall | ⟨a, e, b, hcs, ha, he⟩ :=
    all_or_exists_append (fun c => decide (c ≠ d)) cs.reverse
  · exact .inl (cs.reverse_reverse ▸ hne hall)
  · obtain rfl : e = d := by simpa using he
    refine .inr ⟨b.reverse, a.reverse, ?_, hne ha⟩
    rw [← cs.reverse_reverse, hcs, List.reverse_append, List.reverse_cons, List.append_assoc]
    rfl

/-- A condition on characters that a password, the colon before it and the at sign after it
satisfy. -/
structure Passes (p : Char → Bool) : Prop where
  colon : p ':'
  at_ : p '@'
  alphanum : ∀ c, c.isAlphanum → p c

theorem Passes.of_ne {d : Char} (hcolon : d ≠ ':') (hat : d ≠ '@') (hd : d.isAlphanum = false) :
    Passes fun c => decide (c ≠ d) where
  colon := decide_eq_true hcolon.symm
  at_ := decide_eq_true hat.symm
  alphanum _ hc := decide_eq_true (ne_of_isAlphanum hd hc)

theorem Passes.of_beq {d : Char} (hcolon : d ≠ ':') (hat : d ≠ '@') (hd : d.isAlphanum = false) :
    Passes fun c => !(c == d) where
  colon := bne_iff_ne.mpr hcolon.symm
  at_ := bne_iff_ne.mpr hat.symm
  alphanum _ hc := bne_iff_ne.mpr (ne_of_isAlphanum hd hc)

theorem Passes.takeWhile_around {p : Char → Bool} (hp : Passes p) {a : List Char}
    (ha : ∀ c ∈ a, p c) (b : List Char) (w : Password) :
    (around a b w).takeWhile p = around a (b.takeWhile p) w := by
  rw [around, List.takeWhile_append_of_pos ha, List.takeWhile_cons_of_pos hp.colon,
    List.takeWhile_append_of_pos fun c hc => hp.alphanum c (w.mem_chars hc),
    List.takeWhile_cons_of_pos hp.at_]
  rfl

theorem Passes.dropWhile_around {p : Char → Bool} (hp : Passes p) {a : List Char}
    (ha : ∀ c ∈ a, p c) (b : List Char) (w : Password) :
    (around a b w).dropWhile p = b.dropWhile p := by
  rw [around, List.dropWhile_append_of_pos ha, List.dropWhile_cons_of_pos hp.colon,
    List.dropWhile_append_of_pos fun c hc => hp.alphanum c (w.mem_chars hc),
    List.dropWhile_cons_of_pos hp.at_]

theorem Passes.enclosed_takeWhile {p : Char → Bool} (hp : Passes p) (a b : List Char) :
    Enclosed fun w => (around a b w).takeWhile p := by
  obtain ha | ⟨a, e, a', rfl, ha, he⟩ := all_or_exists_append p a
  · exact .around a (b.takeWhile p) (hp.takeWhile_around ha b)
  · refine .blind ⟨a, fun w => ?_⟩
    rw [around, List.append_assoc, List.cons_append, takeWhile_stop ha he]

/-- Splitting a text splits what follows it, and the last part goes on with the first part of
that. -/
theorem exists_splitAt_append (p : Char → Bool) (cs : List Char) :
    ∃ front last, ∀ t part parts, splitAt p t = part :: parts →
      splitAt p (cs ++ t) = front ++ (last ++ part) :: parts := by
  induction cs with
  | nil => exact ⟨[], [], fun t part parts h => h⟩
  | cons c cs ih =>
    obtain ⟨front, last, ih⟩ := ih
    cases hc : p c with
    | true =>
      refine ⟨[] :: front, last, fun t part parts h => ?_⟩
      rw [List.cons_append, splitAt, if_pos hc, ih t part parts h]
      rfl
    | false =>
      cases front with
      | nil =>
        refine ⟨[], c :: last, fun t part parts h => ?_⟩
        rw [List.cons_append, splitAt, if_neg (by simp [hc]), ih t part parts h]
        rfl
      | cons first front =>
        refine ⟨(c :: first) :: front, last, fun t part parts h => ?_⟩
        rw [List.cons_append, splitAt, if_neg (by simp [hc]), ih t part parts h]
        rfl

theorem splitAt_append {p : Char → Bool} {cs : List Char} (hcs : ∀ c ∈ cs, p c = false)
    {t part : List Char} {parts : List (List Char)} (h : splitAt p t = part :: parts) :
    splitAt p (cs ++ t) = (cs ++ part) :: parts := by
  induction cs with
  | nil => exact h
  | cons c cs ih =>
    obtain ⟨hc, hcs⟩ := List.forall_mem_cons.mp hcs
    rw [List.cons_append, splitAt, if_neg (by simp [hc]), ih hcs]
    rfl

theorem splitAt_ne_nil (p : Char → Bool) (cs : List Char) : splitAt p cs ≠ [] := by
  cases cs with
  | nil => exact List.cons_ne_nil _ _
  | cons c cs =>
    rw [splitAt]
    split
    · exact List.cons_ne_nil _ _
    · split <;> exact List.cons_ne_nil _ _

/-- **The password stands in one part**, between a colon and an at sign again. -/
theorem exists_splitAt_around {p : Char → Bool} (hp : Passes fun c => !p c) (a b : List Char) :
    ∃ front a' b' back, ∀ w, splitAt p (around a b w) = front ++ around a' b' w :: back := by
  obtain ⟨part, parts, hb⟩ := List.exists_cons_of_ne_nil (splitAt_ne_nil p b)
  obtain ⟨front, last, ha⟩ := exists_splitAt_append p a
  have hno {c : Char} (h : (!p c) = true) : p c = false := by simpa using h
  refine ⟨front, last, part, parts, fun w => ha _ _ _ ?_⟩
  have hback : splitAt p (['@'] ++ b) = (['@'] ++ part) :: parts :=
    splitAt_append (List.forall_mem_singleton.mpr (hno hp.at_)) hb
  have hpassword := splitAt_append (fun c hc => hno (hp.alphanum c (w.mem_chars hc))) hback
  exact splitAt_append (List.forall_mem_singleton.mpr (hno hp.colon)) hpassword

end Uri

end BrokerBridge
