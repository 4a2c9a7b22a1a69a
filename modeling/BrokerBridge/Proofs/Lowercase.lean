import BrokerBridge.Text.Lowercase

/-!
# Texts in lower case

What is known of a text whose lower-case form is known.

* A character that is in lower case already stays where it is (`mem_lowerFrom`).
* A digit or a letter is mostly the lower-case form of itself and its capital only.  A text whose
  lower-case form is made of such characters (`IsPlain`) is one of its mixtures of cases
  (`mem_casings`), and these can be listed.
-/
namespace BrokerBridge.Text

variable {cs ds : List Char} {c d : Char}

theorem mem_lowerFrom (hform : c ∈ lowerForm c) (hsigma : c.toNat ≠ 0x3A3) (before : List Char)
    (h : c ∈ cs) : c ∈ lowerFrom before cs := by
  induction cs generalizing before with
  | nil => cases h
  | cons c' cs ih =>
    rw [lowerFrom, List.mem_append]
    obtain rfl | h := List.mem_cons.mp h
    · left
      rw [if_neg fun h => hsigma h.1]
      exact hform
    · exact .inr (ih _ h)

/-! ## 1. Where characters come from -/

/-- An ASCII character that is no capital and neither `i` nor `k`, the two letters that characters
beyond ASCII have in their lower-case forms. -/
def IsPlain (d : Char) : Prop :=
  0 < d.toNat ∧ d.toNat < 0x80 ∧ ¬(0x41 ≤ d.toNat ∧ d.toNat ≤ 0x5A) ∧ d.toNat ≠ 0x69 ∧
    d.toNat ≠ 0x6B

instance (d : Char) : Decidable (IsPlain d) := inferInstanceAs (Decidable (_ ∧ _))

/-- The Kelvin sign aside, whatever is beyond ASCII stays there. -/
theorem lowerRuns_beyond : ∀ run ∈ lowerRuns, 0x80 ≤ run.1 + run.2.2.2 ∨
    run.1 = run.2.1 ∧ run.1 + run.2.2.2 = 0x6B := by
  decide +kernel

theorem toNat_ofNat_eq_or (n : Nat) : (Char.ofNat n).toNat = n ∨ (Char.ofNat n).toNat = 0 := by
  by_cases h : n.isValidChar
  · rw [Char.ofNat, dif_pos h]
    exact .inl rfl
  · rw [Char.ofNat, dif_neg h]
    exact .inr rfl

/-- The lower-case form of a character beyond ASCII is not plain. -/
theorem not_isPlain_of_run {run : Nat × Nat × Nat × Int} {n : Nat} (hrun : run ∈ lowerRuns)
    (hn : runHolds n run = true) : ¬IsPlain (Char.ofNat ((n : Int) + run.2.2.2).toNat) := by
  rintro ⟨hpos, hascii, -, -, hk⟩
  obtain ⟨hfirst, hlast, -⟩ : run.1 ≤ n ∧ n ≤ run.2.1 ∧ _ := of_decide_eq_true hn
  have hcode := (toNat_ofNat_eq_or ((n : Int) + run.2.2.2).toNat).resolve_right (by omega)
  rw [hcode] at hascii
  obtain hbeyond | ⟨honly, hkelvin⟩ := lowerRuns_beyond run hrun
  · omega
  · rw [hcode] at hk
    omega

theorem not_isPlain_of_dotted (hc : c.toNat = 0x130) (h : d ∈ lowerForm c) : ¬IsPlain d := by
  rw [lowerForm, if_pos hc, List.mem_cons, List.mem_singleton] at h
  obtain rfl | rfl := h <;> decide

/-- The lower-case forms of ASCII. -/
theorem lowerForm_ascii : ∀ n < 0x80, (lowerForm (Char.ofNat n)).all fun d =>
    decide (IsPlain d → Char.ofNat n = d ∨ Char.ofNat n = d.toUpper) := by
  decide +kernel

/-- A plain character is the lower-case form of itself and of its capital only. -/
theorem eq_or_eq_of_mem_lowerForm (hd : IsPlain d) (h : d ∈ lowerForm c) :
    c = d ∨ c = d.toUpper := by
  by_cases hascii : c.toNat < 0x80
  · have hforms := lowerForm_ascii c.toNat hascii
    rw [Char.ofNat_toNat, List.all_eq_true] at hforms
    exact of_decide_eq_true (hforms d h) hd
  · by_cases hdotted : c.toNat = 0x130
    · exact absurd hd (not_isPlain_of_dotted hdotted h)
    · rw [lowerForm, if_neg hdotted, lowerChar?, if_neg hascii] at h
      cases hrun : lowerRuns.find? (runHolds c.toNat) with
      | none =>
        rw [hrun] at h
        exact .inl (List.mem_singleton.mp h).symm
      | some run =>
        rw [hrun] at h
        rw [List.mem_singleton.mp h] at hd
        exact absurd hd (not_isPlain_of_run (List.mem_of_find?_eq_some hrun)
          (List.find?_some hrun))

/-- What has a plain character in its lower-case form has nothing else there. -/
theorem lowerForm_eq_singleton (hd : IsPlain d) (h : d ∈ lowerForm c) : lowerForm c = [d] := by
  by_cases hdotted : c.toNat = 0x130
  · exact absurd hd (not_isPlain_of_dotted hdotted h)
  · rw [lowerForm, if_neg hdotted] at h ⊢
    rw [List.mem_singleton.mp h]

/-! ## 2. Mixtures of cases -/

/-- The texts that differ from a text in the case of their characters. -/
def casings : List Char → List (List Char)
  | [] => [[]]
  | d :: ds => (casings ds).flatMap fun cs => [d :: cs, d.toUpper :: cs]

theorem cons_mem_casings (hc : c = d ∨ c = d.toUpper) (hcs : cs ∈ casings ds) :
    c :: cs ∈ casings (d :: ds) := by
  refine List.mem_flatMap.mpr ⟨cs, hcs, ?_⟩
  obtain rfl | rfl := hc
  · exact List.mem_cons_self
  · exact List.mem_cons_of_mem _ List.mem_cons_self

/-- **A text is a mixture of cases of its lower-case form**, if that is plain. -/
theorem mem_casings (before : List Char) (h : lowerFrom before cs = ds)
    (hds : ∀ d ∈ ds, IsPlain d) : cs ∈ casings ds := by
  induction cs generalizing before ds with
  | nil =>
    subst h
    exact List.mem_singleton_self _
  | cons c cs ih =>
    rw [lowerFrom] at h
    split at h
    · have hfinal : ¬IsPlain (Char.ofNat 0x3C2) := by decide
      exact absurd (hds _ (h ▸ List.mem_append_left _ (List.mem_singleton_self _))) hfinal
    · obtain ⟨d, hd⟩ : ∃ d, d ∈ lowerForm c := by
        rw [lowerForm]
        split
        · exact ⟨_, List.mem_cons_self⟩
        · exact ⟨_, List.mem_singleton_self _⟩
      have hplain : IsPlain d := hds d (h ▸ List.mem_append_left _ hd)
      rw [lowerForm_eq_singleton hplain hd] at h
      subst h
      exact cons_mem_casings (eq_or_eq_of_mem_lowerForm hplain hd)
        (ih _ rfl fun e he => hds e (List.mem_cons_of_mem _ he))

end BrokerBridge.Text
