import BrokerBridge.Proofs.Lowercase
import BrokerBridge.Proofs.Uri.Password

/-!
# Checks of texts with a password in them

A check of a connection string either comes out the same for every password or ends in a fault that
shows something of it, and there are three such faults (`Shows`).  What the parts and the settings
of a connection string are checked for is followed here for all passwords at once (`Guarded`).
-/
namespace BrokerBridge.Uri

/-- The faults that show something of the password in `p:password@s`: the whole text, how long the
password is, or a way to log in that has the password in its name. -/
inductive Shows (p s : String) : (Password → AmqpFault) → Prop where
  | noParts : Shows p s fun w => .noParts (p ++ ":" ++ w.text ++ "@" ++ s)
  | encoding (index : Nat) (length : Option Nat) :
    Shows p s fun w => .encoding ⟨index + w.text.length, length⟩
  | mechanism (a b : String) :
    Shows p s fun w => .mechanism (Text.lower (a ++ ":" ++ w.text ++ "@" ++ b))

variable {p s : String}

/-- A check that comes out the same for every password, or else shows something of it. -/
inductive Guarded (p s : String) (check : Password → Except AmqpFault Unit) : Prop where
  | blind (h : Blind check)
  | shows (fault : Password → AmqpFault) (hfault : Shows p s fault)
    (h : ∀ w, check w = .error (fault w))

theorem Guarded.seq {check next : Password → Except AmqpFault Unit} (h : Guarded p s check)
    (hnext : Guarded p s next) : Guarded p s fun w => check w >>= fun _ => next w := by
  cases h with
  | blind h =>
    obtain ⟨result, h⟩ := h
    obtain rfl : check = fun _ => result := funext h
    cases result with
    | error fault => exact .blind ⟨.error fault, fun _ => rfl⟩
    | ok => exact hnext
  | shows fault hfault h =>
    obtain rfl : check = fun w => .error (fault w) := funext h
    exact .shows fault hfault fun _ => rfl

/-! ## 1. Percent-encoded text -/

theorem decoded_chars_append (w : Password) (cs : List Char) :
    decoded (w.chars ++ cs) = Utf8.encode w.chars ++ decoded cs :=
  decoded_append (fun _ hc => ⟨toNat_lt_of_isAlphanum (w.mem_chars hc),
    ne_of_isAlphanum (by decide) (w.mem_chars hc)⟩) cs

/-- Decoding goes on behind the colon in front of a password. -/
theorem exists_chunks_password {a : List Char} (ha : Leads a) (b : List Char) :
    ∃ front, ∀ w : Password, Utf8.chunks (decoded (a ++ (w.chars ++ b))) =
      front ++ (w.chars.map (fun c => .char c ((String.utf8EncodeChar c).length - 1)) ++
        Utf8.chunks (decoded b)) := by
  obtain rfl | ⟨a, rfl⟩ := ha
  · refine ⟨[], fun w => ?_⟩
    rw [List.nil_append, List.nil_append, decoded_chars_append, Utf8.chunks_encode_append]
  · obtain ⟨front, -, hfront⟩ := Utf8.exists_chunks (decoded a)
    refine ⟨front ++ [.char ':' 0], fun w => ?_⟩
    rw [List.append_assoc, List.singleton_append,
      decoded_append_cons (by decide) (by decide) (by decide), hfront _ _ (by decide),
      Utf8.chunks_cons_ascii (by decide), decoded_chars_append, Utf8.chunks_encode_append,
      List.append_assoc]
    rfl

theorem checkText_eq (cs : List Char) :
    checkText cs = match Utf8.defect? (decoded cs) with
      | some d => .error (.encoding d)
      | none => .ok () := by
  rw [checkText, decodeText, ← decoded]
  cases Utf8.defect? (decoded cs) <;> rfl

theorem guarded_checkText {a : List Char} (ha : Leads a) (b : List Char) :
    Guarded p s fun w => checkText (a ++ (w.chars ++ b)) := by
  obtain ⟨front, hchunks⟩ := exists_chunks_password ha b
  -- ASCII has no defect, so the first one is in front of the password or behind it
  have hdefect (w : Password) : Utf8.defect? (decoded (a ++ (w.chars ++ b))) =
      (Utf8.defectFrom 0 front).or
        ((Utf8.defectFrom (Utf8.size front) (Utf8.chunks (decoded b))).map fun d =>
          ⟨d.index + w.text.length, d.length⟩) := by
    rw [Utf8.defect?, hchunks, Utf8.defectFrom_append, Nat.zero_add,
      Utf8.defectFrom_ascii fun c hc => toNat_lt_of_isAlphanum (w.mem_chars hc),
      Utf8.defectFrom_add, Password.chars, String.length_toList]
  cases hfront : Utf8.defectFrom 0 front with
  | some d =>
    refine .blind ⟨.error (.encoding d), fun w => ?_⟩
    rw [checkText_eq, hdefect, hfront, Option.some_or]
  | none =>
    cases hback : Utf8.defectFrom (Utf8.size front) (Utf8.chunks (decoded b)) with
    | none =>
      refine .blind ⟨.ok (), fun w => ?_⟩
      rw [checkText_eq, hdefect, hfront, hback]
      rfl
    | some d =>
      refine .shows _ (.encoding d.index d.length) fun w => ?_
      rw [checkText_eq, hdefect, hfront, hback]
      rfl

/-- **A part of a URL shows at most how long the password in it is**, by the place of what is behind
it. -/
theorem Bordered.guarded_checkText {f : Password → List Char} (hf : Bordered f) :
    Guarded p s fun w => checkText (f w) := by
  cases hf with
  | blind h => exact .blind (h.map checkText)
  | behind a b ha h => simpa only [h] using Uri.guarded_checkText ha b

/-! ## 2. The settings of a query -/

theorem ofList_around (a b : List Char) (w : Password) :
    String.ofList (around a b w) = String.ofList a ++ ":" ++ w.text ++ "@" ++ String.ofList b := by
  refine String.toList_injective ?_
  simp only [String.toList_ofList, String.toList_append, around, Password.chars]
  simp

/-- A form with a password in it is a text with the password in it. -/
theorem exists_decodeForm_around (a b : List Char) :
    ∃ a' b', ∀ w, decodeForm (around a b w) = String.ofList (around a' b' w) := by
  let plain (c : Char) : Char := if c = '+' then ' ' else c
  obtain ⟨front, hfront⟩ := Utf8.exists_lossy (decoded (a.map plain))
  refine ⟨front, (Utf8.lossy (decoded (b.map plain))).toList, fun w => String.toList_injective ?_⟩
  have hplain : w.chars.map plain = w.chars :=
    (List.map_congr_left fun c hc =>
      if_neg (ne_of_isAlphanum (by decide) (w.mem_chars hc))).trans (List.map_id _)
  have hback : decoded ('@' :: b.map plain) = 0x40 :: decoded (b.map plain) :=
    decoded_append_cons (by decide) (by decide) (by decide) [] _
  have hat := Utf8.lossy_encode_append ['@'] (decoded (b.map plain))
  rw [decodeForm, ← decoded, String.toList_ofList]
  show (Utf8.lossy (decoded ((around a b w).map plain))).toList = _
  rw [around, List.map_append, List.map_cons, List.map_append, List.map_cons, hplain]
  show (Utf8.lossy (decoded (a.map plain ++ ':' :: (w.chars ++ '@' :: b.map plain)))).toList = _
  rw [decoded_append_cons (by decide) (by decide) (by decide), hfront _ _ (by decide),
    decoded_chars_append, Utf8.lossy_encode_append, hback]
  exact congrArg (fun cs => front ++ ':' :: (w.chars ++ cs)) hat

/-- Behind a colon there are no more digits. -/
theorem exists_checkDigits (bits value : Nat) (a : List Char) :
    ∃ fault, ∀ rest, checkDigits bits value (a ++ ':' :: rest) = .error fault := by
  induction a generalizing value with
  | nil => exact ⟨.notANumber, fun rest => rfl⟩
  | cons c a ih =>
    cases hc : digit? c with
    | none =>
      refine ⟨.notANumber, fun rest => ?_⟩
      rw [List.cons_append, checkDigits, hc]
    | some d =>
      by_cases hlt : value * 10 + d < wordCount bits
      · obtain ⟨fault, ih⟩ := ih (value * 10 + d)
        refine ⟨fault, fun rest => ?_⟩
        rw [List.cons_append, checkDigits, hc]
        exact (if_pos hlt).trans (ih rest)
      · refine ⟨.numberTooLarge, fun rest => ?_⟩
        rw [List.cons_append, checkDigits, hc]
        exact if_neg hlt

/-- What has a colon in it is no number. -/
theorem exists_checkNumber (bits : Nat) (a : List Char) :
    ∃ fault, ∀ rest, checkNumber bits (String.ofList (a ++ ':' :: rest)) = .error fault := by
  cases a with
  | nil =>
    refine ⟨.notANumber, fun rest => ?_⟩
    unfold checkNumber
    rw [String.toList_ofList]
    rfl
  | cons c a =>
    by_cases hc : c = '+'
    · obtain ⟨fault, h⟩ := exists_checkDigits bits 0 a
      refine ⟨fault, fun rest => ?_⟩
      unfold checkNumber
      rw [String.toList_ofList, hc, ← h rest]
      cases a <;> rfl
    · obtain ⟨fault, h⟩ := exists_checkDigits bits 0 (c :: a)
      refine ⟨fault, fun rest => ?_⟩
      unfold checkNumber
      rw [String.toList_ofList, ← h rest]
      split
      next heq => cases heq
      next heq => exact absurd (List.cons.inj heq).1 hc
      next heq => exact absurd (List.cons.inj heq).1 hc
      next => rfl

theorem guarded_checkMechanism (a b : List Char) :
    Guarded p s fun w => checkMechanism (String.ofList (around a b w)) := by
  refine .shows _ (.mechanism (String.ofList a) (String.ofList b)) fun w => ?_
  have hcolon : ':' ∈ (Text.lower (String.ofList (around a b w))).toList := by
    rw [Text.lower, String.toList_ofList, String.toList_ofList]
    exact Text.mem_lowerFrom (by decide) (by decide) [] (List.mem_append_right _ List.mem_cons_self)
  have hmechanisms : ∀ name ∈ mechanisms, ':' ∉ name.toList := by decide
  have hno : Text.lower (String.ofList (around a b w)) ∉ mechanisms := fun h =>
    hmechanisms _ h hcolon
  rw [← ofList_around, checkMechanism, if_neg hno]

/-- A setting whose value has the password in it is refused, or it is a way to log in. -/
theorem guarded_setting {setting : String × (String → Except AmqpFault Unit)}
    (h : setting ∈ settings) (a b : List Char) :
    Guarded p s fun w => setting.2 (String.ofList (around a b w)) := by
  have hnumber (bits : Nat) :
      Guarded p s fun w => checkNumber bits (String.ofList (around a b w)) := by
    obtain ⟨fault, hfault⟩ := exists_checkNumber bits a
    exact .blind ⟨.error fault, fun w => hfault _⟩
  simp only [settings, List.mem_cons, List.not_mem_nil, or_false] at h
  obtain rfl | rfl | rfl | rfl | rfl := h
  · exact hnumber 32
  · exact hnumber 16
  · exact hnumber 16
  · exact hnumber 64
  · dsimp only
    exact guarded_checkMechanism a b

/-- The name and the value of a part of a query. -/
def queryPair (part : List Char) : String × String :=
  (decodeForm (part.takeWhile (· ≠ '=')), decodeForm ((part.dropWhile (· ≠ '=')).drop 1))

/-- A part of a query with a password in it has the password in its value, or a colon in its
name. -/
theorem queryPair_around (a b : List Char) :
    (∃ name a' b', ∀ w, queryPair (around a b w) = (name, String.ofList (around a' b' w))) ∨
      ∃ value, ∀ w, ∃ name, ':' ∈ name.toList ∧ queryPair (around a b w) = (name, value) := by
  have hp : Passes fun c => decide (c ≠ '=') := .of_ne (by decide) (by decide) (by decide)
  obtain ha | ⟨a, e, a', rfl, ha, he⟩ := all_or_exists_append (fun c => decide (c ≠ '=')) a
  · obtain ⟨a', b', hname⟩ := exists_decodeForm_around a (b.takeWhile fun c => decide (c ≠ '='))
    refine .inr ⟨decodeForm ((b.dropWhile fun c => decide (c ≠ '=')).drop 1),
      fun w => ⟨String.ofList (around a' b' w), ?_, ?_⟩⟩
    · rw [String.toList_ofList]
      exact List.mem_append_right _ List.mem_cons_self
    · rw [queryPair, hp.takeWhile_around ha, hp.dropWhile_around ha, hname]
  · obtain ⟨a'', b', hvalue⟩ := exists_decodeForm_around a' b
    refine .inl ⟨decodeForm a, a'', b', fun w => ?_⟩
    have hsplit : around (a ++ e :: a') b w = a ++ e :: around a' b w := List.append_assoc _ _ _
    rw [queryPair, hsplit, takeWhile_stop ha he, dropWhile_stop ha he, List.drop_one,
      List.tail_cons, hvalue]

theorem queryPairs_around (a b : List Char) :
    ∃ front a' b' back, ∀ w,
      queryPairs (around a b w) = front ++ queryPair (around a' b' w) :: back := by
  have hp : Passes fun c => !(c == '&') := .of_beq (by decide) (by decide) (by decide)
  obtain ⟨front, a', b', back, hsplit⟩ := exists_splitAt_around hp a b
  refine ⟨(front.filter fun part => !part.isEmpty).map queryPair, a', b',
    (back.filter fun part => !part.isEmpty).map queryPair, fun w => ?_⟩
  have hpart : (around a' b' w).isEmpty = false := by simp [around]
  rw [queryPairs, hsplit, List.filter_append, List.filter_cons, hpart, List.map_append]
  rfl

/-- **The first value of a setting has the password in it, or is the same for every password.** -/
theorem Enclosed.lookup_queryPairs {f : Password → List Char} (hf : Enclosed f) {name : String}
    (hname : ':' ∉ name.toList) :
    Blind (fun w => (queryPairs (f w)).lookup name) ∨
      ∃ a b, ∀ w, (queryPairs (f w)).lookup name = some (String.ofList (Uri.around a b w)) := by
  cases hf with
  | blind h => exact .inl (h.map fun query => (queryPairs query).lookup name)
  | around a b h =>
    obtain rfl : f = Uri.around a b := funext h
    obtain ⟨front, a', b', back, hpairs⟩ := queryPairs_around a b
    cases hfront : front.lookup name with
    | some value =>
      refine .inl ⟨some value, fun w => ?_⟩
      rw [hpairs, List.lookup_append, hfront, Option.some_or]
    | none =>
      obtain ⟨n, a, b, hpair⟩ | ⟨value, hpair⟩ := queryPair_around a' b'
      · by_cases hn : name = n
        · refine .inr ⟨a, b, fun w => ?_⟩
          rw [hpairs, List.lookup_append, hfront, Option.none_or, hpair, hn, List.lookup_cons_self]
        · refine .inl ⟨back.lookup name, fun w => ?_⟩
          rw [hpairs, List.lookup_append, hfront, Option.none_or, hpair, List.lookup_cons,
            beq_eq_false_iff_ne.mpr hn]
      · refine .inl ⟨back.lookup name, fun w => ?_⟩
        obtain ⟨n, hn, hpair⟩ := hpair w
        have hne : name ≠ n := fun h => hname (h ▸ hn)
        rw [hpairs, List.lookup_append, hfront, Option.none_or, hpair, List.lookup_cons,
          beq_eq_false_iff_ne.mpr hne]

/-- The check of a setting that a query may have. -/
def checkSetting (pairs : List (String × String))
    (setting : String × (String → Except AmqpFault Unit)) : Except AmqpFault Unit :=
  match pairs.lookup setting.1 with
  | none => .ok ()
  | some value => setting.2 value

theorem checkSettings_eq (pairs : List (String × String)) :
    checkSettings pairs = settings.forM (checkSetting pairs) := rfl

theorem Enclosed.guarded_checkSetting {f : Password → List Char} (hf : Enclosed f)
    {setting : String × (String → Except AmqpFault Unit)} (h : setting ∈ settings) :
    Guarded p s fun w => checkSetting (queryPairs (f w)) setting := by
  have hnames : ∀ setting ∈ settings, ':' ∉ setting.1.toList := by decide
  obtain ⟨value, hvalue⟩ | ⟨a, b, hvalue⟩ := hf.lookup_queryPairs (hnames setting h)
  · cases value with
    | none => exact .blind ⟨.ok (), fun w => by rw [checkSetting, hvalue]⟩
    | some value => exact .blind ⟨setting.2 value, fun w => by rw [checkSetting, hvalue]⟩
  · simpa only [checkSetting, hvalue] using guarded_setting h a b

/-- **The settings of a query with a password in it.** -/
theorem Enclosed.guarded_checkSettings {f : Password → List Char} (hf : Enclosed f) :
    Guarded p s fun w => checkSettings (queryPairs (f w)) := by
  -- the induction is on the settings that are still to be checked
  have hall (rest : List (String × (String → Except AmqpFault Unit)))
      (hrest : ∀ setting ∈ rest, setting ∈ settings) :
      Guarded p s fun w => rest.forM (checkSetting (queryPairs (f w))) := by
    induction rest with
    | nil => exact .blind ⟨.ok (), fun w => rfl⟩
    | cons setting rest ih =>
      obtain ⟨hsetting, hrest⟩ := List.forall_mem_cons.mp hrest
      exact Guarded.seq (hf.guarded_checkSetting hsetting) (ih hrest)
  simp only [checkSettings_eq]
  exact hall settings fun _ h => h

end BrokerBridge.Uri
