import BrokerBridge.Config.Conversion
import BrokerBridge.Config.Environment
import BrokerBridge.Proofs.Lowercase

/-!
# Guessed values

The value of a structured variable is guessed to be a flag or a number before it is converted to
what its setting is; the value of a legacy variable is converted as it is.

* Converted to text, a guess is written out again (`asText_guess`), and that need not be the text it
  was made from.  A text with a colon in it is taken for nothing else (`guess_of_colon`).
* Converted to a flag, a guess comes out as the text itself would, for every text that names a flag
  in some mixture of cases (`flag?_guess`).
-/
namespace BrokerBridge.Config

variable {v : String} {cs : List Char}

/-! ## 1. Texts -/

/-- A scalar written out; null is empty. -/
def Scalar.written : Scalar → String
  | .null => ""
  | .boolean b => if b then "true" else "false"
  | .integer i => toString i
  | .decimal x => x.plainText
  | .text s => s

/-- What a value may be taken for. -/
theorem guess_cases (v : String) :
    (∃ b, Scalar.guess v = .boolean b) ∨ (∃ i, Scalar.guess v = .integer i) ∨
      (∃ x, Scalar.guess v = .decimal x) ∨ Scalar.guess v = .text v := by
  simp only [Scalar.guess]
  split
  · exact .inl ⟨_, rfl⟩
  split
  · exact .inl ⟨_, rfl⟩
  split
  · exact .inr (.inl ⟨_, rfl⟩)
  split
  · exact .inr (.inr (.inl ⟨_, rfl⟩))
  · exact .inr (.inr (.inr rfl))

theorem guess_ne_null (v : String) : Scalar.guess v ≠ .null := by
  obtain ⟨b, h⟩ | ⟨i, h⟩ | ⟨x, h⟩ | h := guess_cases v <;> rw [h] <;> nofun

/-- **A guess as text is what it is written as.** -/
theorem asText_guess (v : String) (origin : Option String) :
    asText (.scalar (.guess v) origin) = .ok (Scalar.guess v).written := by
  obtain ⟨b, h⟩ | ⟨i, h⟩ | ⟨x, h⟩ | h := guess_cases v <;> rw [h] <;> rfl

theorem ofList_append_ne_empty (as : List Char) {bs : List Char} (h : bs ≠ []) :
    String.ofList (as ++ bs) ≠ "" := by
  intro hempty
  have hnil : as ++ bs = [] := by
    rw [← String.toList_ofList (l := as ++ bs), hempty]
    rfl
  exact h (List.append_eq_nil_iff.mp hnil).2

theorem positional_ne_nil (ds : Binary64.Digits) : ds.positional ≠ [] := by
  have hdigits : Binary64.numeralChars ds.digits ≠ [] := Nat.toDigits_ne_nil
  unfold Binary64.Digits.positional
  split
  · exact List.append_ne_nil_of_left_ne_nil hdigits _
  dsimp only
  split
  · exact List.append_ne_nil_of_right_ne_nil _ (List.cons_ne_nil _ _)
  · exact List.cons_ne_nil _ _

theorem plainText_ne_empty (x : Binary64) : x.plainText ≠ "" := by
  unfold Binary64.plainText
  split
  · decide
  · exact ofList_append_ne_empty _ (by decide)
  · exact ofList_append_ne_empty _ (by decide)
  · exact ofList_append_ne_empty _ (positional_ne_nil _)

theorem toString_nat_ne_empty (n : Nat) : toString n ≠ "" := by
  rw [Nat.toString_eq_ofList_toDigits]
  exact ofList_append_ne_empty [] Nat.toDigits_ne_nil

theorem toString_int_ne_empty (i : Int) : toString i ≠ "" := by
  cases i with
  | ofNat n => exact toString_nat_ne_empty n
  | negSucc n => exact fun h => toString_nat_ne_empty n.succ (String.append_eq_empty_iff.mp h).2

/-- Nothing but an empty text is taken for something that is written as one. -/
theorem written_guess_ne_empty (hv : v ≠ "") : (Scalar.guess v).written ≠ "" := by
  obtain ⟨b, h⟩ | ⟨i, h⟩ | ⟨x, h⟩ | h := guess_cases v <;> rw [h, Scalar.written]
  · cases b <;> decide
  · exact toString_int_ne_empty i
  · exact plainText_ne_empty x
  · exact hv

/-! ## 2. Colons -/

theorem numeral?_of_colon (h : ':' ∈ cs) : numeral? cs = none := by
  have hnumeral : isNumeral cs = false := by
    rw [isNumeral, Bool.and_eq_false_iff, List.all_eq_false]
    exact .inr ⟨':', h, by decide⟩
  rw [numeral?, hnumeral]
  rfl

theorem colon_mem_splitSign (h : ':' ∈ cs) : ':' ∈ (splitSign cs).2 := by
  unfold splitSign
  split
  · exact (List.mem_cons.mp h).resolve_left (by decide)
  · exact (List.mem_cons.mp h).resolve_left (by decide)
  · exact h

theorem integer?_of_colon (h : ':' ∈ cs) : integer? cs = none := by
  simp only [integer?, numeral?_of_colon (colon_mem_splitSign h)]
  rfl

theorem exponent?_of_colon (h : ':' ∈ cs) : Binary64.exponent? cs = none := by
  cases cs with
  | nil => cases h
  | cons c cs =>
    rw [Binary64.exponent?]
    split
    · rename_i hc
      refine integer?_of_colon ((List.mem_cons.mp h).resolve_left ?_)
      rintro rfl
      exact absurd hc (by decide)
    · rfl

theorem colon_mem_spanChars {p : Char → Bool} (hp : p ':' = false) (h : ':' ∈ cs) :
    ':' ∈ (Binary64.spanChars p cs).2 := by
  rw [← List.takeWhile_append_dropWhile (p := p) (l := cs), List.mem_append] at h
  refine h.resolve_left fun hspan => ?_
  rw [List.all_eq_true.mp List.all_takeWhile ':' hspan] at hp
  cases hp

theorem unsignedOfText?_of_colon (negative : Bool) (h : ':' ∈ cs) :
    Binary64.unsignedOfText? negative cs = none := by
  unfold Binary64.unsignedOfText?
  extract_lets isDigit
  have hdigit : isDigit ':' = false := by decide
  split
  rename_i whole rest hwhole
  have hrest : ':' ∈ rest := by
    have hmem := colon_mem_spanChars hdigit h
    rwa [hwhole] at hmem
  split
  rename_i fraction behind hfraction
  -- A point may follow, and digits behind it; the colon is behind them too.
  have hbehind : ':' ∈ behind := by
    split at hfraction
    · rename_i r
      have hmem := colon_mem_spanChars hdigit ((List.mem_cons.mp hrest).resolve_left (by decide))
      rwa [hfraction] at hmem
    · cases hfraction
      exact hrest
  rw [exponent?_of_colon hbehind]
  exact ite_self none

theorem ofText?_of_colon (h : ':' ∈ v.toList) : Binary64.ofText? v = none := by
  have hcs := colon_mem_splitSign h
  have hname : ∀ name : String, ':' ∉ name.toList →
      String.ofList ((splitSign v.toList).2.map Char.toLower) ≠ name := by
    intro name hno heq
    refine hno ?_
    rw [← heq, String.toList_ofList]
    exact List.mem_map.mpr ⟨':', hcs, by decide⟩
  simp only [Binary64.ofText?, if_neg (hname "nan" (by decide)),
    if_neg (not_or.mpr ⟨hname "inf" (by decide), hname "infinity" (by decide)⟩),
    unsignedOfText?_of_colon _ hcs]

/-- **A text with a colon in it is taken for nothing but itself.** -/
theorem guess_of_colon (h : ':' ∈ v.toList) : Scalar.guess v = .text v := by
  have hlower : ':' ∈ (Text.lower v).toList := by
    rw [Text.lower, String.toList_ofList]
    exact Text.mem_lowerFrom (by decide) (by decide) [] h
  have htrue : Text.lower v ≠ "true" := fun heq => absurd (heq ▸ hlower) (by decide)
  have hfalse : Text.lower v ≠ "false" := fun heq => absurd (heq ▸ hlower) (by decide)
  have hinteger : integer64? v.toList = none := by
    rw [integer64?, integer?_of_colon h]
    rfl
  simp only [Scalar.guess, if_neg htrue, if_neg hfalse, hinteger, ofText?_of_colon h]

/-! ## 3. Flags -/

/-- The flag that a scalar is taken for. -/
def Scalar.flag? : Scalar → Option Bool
  | .null => none
  | .boolean b => some b
  | .integer i => some (i != 0)
  | .decimal x => some !x.isZero
  | .text s => Config.flag? (Text.lower s)

theorem asFlag_of_flag? {value : Scalar} {b : Bool} (h : value.flag? = some b)
    (origin : Option String) : asFlag (.scalar value origin) = .ok b := by
  cases value with
  | null => cases h
  | text s =>
    have hs : Config.flag? (Text.lower s) = some b := h
    simp only [asFlag, ofScalar, hs]
  | _ => exact congrArg Except.ok (Option.some.inj h)

theorem asFlag_text (h : flag? (Text.lower v) = none) (origin : Option String) :
    asFlag (.scalar (.text v) origin) =
      .error ⟨.text (Text.lower v), "a boolean", origin⟩ := by
  simp only [asFlag, ofScalar, h]

/-- The names of a flag. -/
def flagNames (b : Bool) : List String :=
  if b then ["1", "true", "on", "yes"] else ["0", "false", "off", "no"]

theorem mem_flagNames {s : String} {b : Bool} (h : flag? s = some b) : s ∈ flagNames b := by
  unfold flag? at h
  split at h
  · cases h
    assumption
  split at h
  · cases h
    assumption
  · cases h

/-- The names of flags in all mixtures of cases. -/
theorem flag?_guess_casings : ∀ b, ∀ name ∈ flagNames b,
    name.toList.all (fun d => decide (Text.IsPlain d)) ∧
    ∀ cs ∈ Text.casings name.toList, (Scalar.guess (String.ofList cs)).flag? = some b := by
  decide +kernel

/-- **The name of a flag in any case is guessed to be something that means the same flag.** -/
theorem flag?_guess {b : Bool} (h : flag? (Text.lower v) = some b) :
    (Scalar.guess v).flag? = some b := by
  obtain ⟨hplain, hcasings⟩ := flag?_guess_casings b _ (mem_flagNames h)
  have hmem : v.toList ∈ Text.casings (Text.lower v).toList := by
    refine Text.mem_casings [] ?_ fun d hd =>
      of_decide_eq_true (List.all_eq_true.mp hplain d hd)
    rw [Text.lower, String.toList_ofList]
  rw [← String.ofList_toList (s := v)]
  exact hcasings _ hmem

end BrokerBridge.Config
