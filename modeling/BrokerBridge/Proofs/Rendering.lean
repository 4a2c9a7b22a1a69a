import BrokerBridge.Settings.Basic
import BrokerBridge.Text.Hexadecimal
import Mathlib.Tactic.SplitIfs

/-!
# What rendered settings tell

The two texts that describe settings are made of fixed words, numbers, truth values and quoted
texts.  Each of these is determined together with what follows it (`Determined`), whatever
characters a quoted text has, so a rendering is read from left to right in one way only.

* `Text.unquoteChar?_append`: a character inside quotes is read back, and the closing quote is not
  one; from that follows `determined_quoted`.
* `eq_of_number_append`: a number ends at the first character that is no digit.
* **`Settings.rendered_iff`**: two settings have one text exactly when they agree in what the text
  names.  The URL of the database and the connections of the brokers are not named.
-/
namespace BrokerBridge

/-! ## 1. Quoted texts -/

namespace Text

/-- The number that hexadecimal digits write. -/
def hexValue (digits : List Char) : Nat :=
  digits.foldl (fun n c => 16 * n + (hexDigit? c).getD 0) 0

theorem hexDigit?_digitChar : ∀ d < 16, hexDigit? d.digitChar = some d := by decide

/-- A number is read from its digits. -/
theorem hexValue_hexChars (n : Nat) : hexValue (hexChars n) = n := by
  induction n using Nat.strongRecOn with
  | ind n ih =>
    rw [hexChars, Nat.toDigits_eq_if (by decide)]
    split
    · rename_i hlt
      rw [hexValue, List.foldl_cons, List.foldl_nil, hexDigit?_digitChar n hlt]
      exact Nat.zero_add n
    · rename_i hge
      have hdiv := ih (n / 16) (Nat.div_lt_self (by omega) (by decide))
      rw [hexValue, List.foldl_append, ← hexValue, ← hexChars, hdiv, List.foldl_cons,
        List.foldl_nil, hexDigit?_digitChar _ (Nat.mod_lt n (by decide))]
      exact Nat.div_add_mod n 16

/-- No brace is among the digits of a number. -/
theorem brace_notMem_hexChars (n : Nat) : '}' ∉ hexChars n := by
  induction n using Nat.strongRecOn with
  | ind n ih =>
    have hdigit (d : Nat) : '}' ≠ d.digitChar := (Nat.digitChar_ne '}' rfl).symm
    rw [hexChars, Nat.toDigits_eq_if (by decide)]
    split
    · exact fun hmem => hdigit _ (List.mem_singleton.mp hmem)
    · rename_i hge
      intro hmem
      obtain hmem | hmem := List.mem_append.mp hmem
      · exact ih (n / 16) (Nat.div_lt_self (by omega) (by decide)) hmem
      · exact hdigit _ (List.mem_singleton.mp hmem)

/-- The character in front of a quoted text, and what is behind it.  At the quote that ends the text
there is none. -/
def unquoteChar? : List Char → Option (Char × List Char)
  | '"' :: _ => none
  | '\\' :: '"' :: rest => some ('"', rest)
  | '\\' :: '\\' :: rest => some ('\\', rest)
  | '\\' :: 'n' :: rest => some ('\n', rest)
  | '\\' :: 'r' :: rest => some ('\r', rest)
  | '\\' :: 't' :: rest => some ('\t', rest)
  | '\\' :: '0' :: rest => some (Char.ofNat 0, rest)
  | '\\' :: 'u' :: '{' :: rest =>
    some (Char.ofNat (hexValue (rest.takeWhile (· ≠ '}'))), (rest.dropWhile (· ≠ '}')).tail)
  | c :: rest => some (c, rest)
  | [] => none

/-- The code point of a character that is not printable is read back. -/
theorem unquoteChar?_escape (c : Char) (rest : List Char) :
    unquoteChar? ('\\' :: 'u' :: '{' :: (hexChars c.toNat ++ '}' :: rest)) = some (c, rest) := by
  have hdigits : ∀ x ∈ hexChars c.toNat, decide (x ≠ '}') = true := fun x hx =>
    decide_eq_true fun heq => brace_notMem_hexChars c.toNat (heq ▸ hx)
  rw [unquoteChar?, List.takeWhile_append_of_pos hdigits, List.dropWhile_append_of_pos hdigits,
    List.takeWhile_cons_of_neg (by decide), List.dropWhile_cons_of_neg (by decide),
    List.append_nil, hexValue_hexChars, Char.ofNat_toNat, List.tail_cons]

/-- **A character inside quotes is read back**, whatever follows it. -/
theorem unquoteChar?_append (c : Char) (rest : List Char) :
    unquoteChar? (quotedChar c ++ rest) = some (c, rest) := by
  unfold quotedChar
  split_ifs with hquote hbackslash hn hr ht hzero
  · rw [hquote]
    rfl
  · rw [hbackslash]
    rfl
  · rw [hn]
    rfl
  · rw [hr]
    rfl
  · rw [ht]
    rfl
  · rw [hzero]
    rfl
  · rw [List.singleton_append]
    unfold unquoteChar?
    split <;> simp_all
  · rw [List.append_assoc, List.append_assoc]
    exact unquoteChar?_escape c rest

/-- A quoted text ends at its quote, whatever follows it. -/
theorem eq_of_quoted_append {cs cs' rest rest' : List Char}
    (h : cs.flatMap quotedChar ++ '"' :: rest = cs'.flatMap quotedChar ++ '"' :: rest') :
    cs = cs' ∧ rest = rest' := by
  induction cs generalizing cs' with
  | nil =>
    cases cs' with
    | nil => exact ⟨rfl, List.tail_eq_of_cons_eq h⟩
    | cons c' cs' =>
      have hread := congrArg unquoteChar? h
      rw [List.flatMap_cons, List.append_assoc, unquoteChar?_append] at hread
      cases hread
  | cons c cs ih =>
    have hread := congrArg unquoteChar? h
    rw [List.flatMap_cons, List.append_assoc, unquoteChar?_append] at hread
    cases cs' with
    | nil => cases hread
    | cons c' cs' =>
      rw [List.flatMap_cons, List.append_assoc, unquoteChar?_append] at hread
      obtain ⟨rfl, hrest⟩ := Prod.mk.inj (Option.some.inj hread)
      obtain ⟨rfl, rfl⟩ := ih hrest
      exact ⟨rfl, rfl⟩

end Text

/-! ## 2. Determined renderings -/

/-- What is rendered is determined by the rendering, and so is what follows it. -/
def Determined {α : Type} (render : α → String) : Prop :=
  ∀ {a b : α} {rest rest' : String}, render a ++ rest = render b ++ rest' → a = b ∧ rest = rest'

theorem determined_quoted : Determined Text.quoted := by
  intro s s' rest rest' h
  have hchars := congrArg String.toList h
  simp only [Text.quoted, String.toList_append, String.toList_ofList, List.cons_append,
    List.append_assoc, List.nil_append, List.cons.injEq, true_and] at hchars
  obtain ⟨hs, hrest⟩ := Text.eq_of_quoted_append hchars
  exact ⟨String.toList_injective hs, String.toList_injective hrest⟩

/-- Texts with different first characters stay different whatever follows them. -/
theorem append_ne_append {s s' : String} {c c' : Char} (hs : s.toList.head? = some c)
    (hs' : s'.toList.head? = some c') (hne : c ≠ c') (rest rest' : String) :
    s ++ rest ≠ s' ++ rest' := by
  intro h
  have hhead := congrArg (·.toList.head?) h
  simp only [String.toList_append, List.head?_append, hs, hs', Option.some_or,
    Option.some.injEq] at hhead
  exact hne hhead

theorem determined_flagText : Determined Settings.flagText := by
  intro b b' rest rest' h
  cases b <;> cases b'
  · exact ⟨rfl, (String.append_right_inj _).mp h⟩
  · exact absurd h (append_ne_append rfl rfl (by decide) rest rest')
  · exact absurd h (append_ne_append rfl rfl (by decide) rest rest')
  · exact ⟨rfl, (String.append_right_inj _).mp h⟩

theorem determined_optionText : Determined Settings.optionText := by
  intro o o' rest rest' h
  cases o with
  | none =>
    cases o' with
    | none => exact ⟨rfl, (String.append_right_inj _).mp h⟩
    | some s' =>
      rw [Settings.optionText, Settings.optionText, String.append_assoc, String.append_assoc] at h
      exact absurd h (append_ne_append rfl rfl (by decide) rest _)
  | some s =>
    cases o' with
    | none =>
      rw [Settings.optionText, Settings.optionText, String.append_assoc, String.append_assoc] at h
      exact absurd h (append_ne_append rfl rfl (by decide) _ rest')
    | some s' =>
      simp only [Settings.optionText, String.append_assoc, String.append_right_inj] at h
      obtain ⟨rfl, hrest⟩ := determined_quoted h
      exact ⟨rfl, (String.append_right_inj _).mp hrest⟩

/-- The digits of a number end where a character follows that is none. -/
theorem takeWhile_toDigits {c : Char} (hc : c.isDigit = false) (n : Nat) (rest : List Char) :
    (Nat.toDigits 10 n ++ c :: rest).takeWhile Char.isDigit = Nat.toDigits 10 n := by
  have hdigits : ∀ x ∈ Nat.toDigits 10 n, x.isDigit = true := fun x hx =>
    Nat.isDigit_of_mem_toDigits (by decide) (by decide) hx
  have hend : ¬c.isDigit = true := by
    rw [hc]
    exact Bool.false_ne_true
  rw [List.takeWhile_append_of_pos hdigits, List.takeWhile_cons_of_neg hend, List.append_nil]

/-- **A number ends where a text follows that starts with no digit.** -/
theorem eq_of_number_append {n m : Nat} {mark rest rest' : String}
    (h : toString n ++ (mark ++ rest) = toString m ++ (mark ++ rest'))
    (hmark : ∃ c cs, mark.toList = c :: cs ∧ c.isDigit = false) : n = m ∧ rest = rest' := by
  obtain ⟨c, cs, hcs, hc⟩ := hmark
  have hchars := congrArg String.toList h
  simp only [Nat.toString_eq_ofList_toDigits, String.toList_append, String.toList_ofList, hcs,
    List.cons_append] at hchars
  have hdigits : Nat.toDigits 10 n = Nat.toDigits 10 m := by
    rw [← takeWhile_toDigits hc n, hchars, takeWhile_toDigits hc m]
  have hnm : n = m := by
    rw [← Nat.ofDigitChars_ten_toDigits (n := n), hdigits, Nat.ofDigitChars_ten_toDigits]
  rw [hnm, String.append_right_inj, String.append_right_inj] at h
  exact ⟨hnm, h⟩

/-! ## 3. Settings -/

namespace Settings

theorem brokerSummary_eq_of_append {b b' : BrokerSettings} {rest rest' : String}
    (h : brokerSummary b ++ rest = brokerSummary b' ++ rest') :
    b.exchange = b'.exchange ∧ b.queue = b'.queue ∧ rest = rest' := by
  simp only [brokerSummary, String.append_assoc, String.append_right_inj] at h
  obtain ⟨hexchange, h⟩ := determined_quoted h
  rw [String.append_right_inj] at h
  obtain ⟨hqueue, h⟩ := determined_quoted h
  exact ⟨hexchange, hqueue, (String.append_right_inj _).mp h⟩

/-- Two settings agree in all that their summaries name. -/
structure SameSummary (s s' : Settings) : Prop where
  enabled : s.tls.enabled = s'.tls.enabled
  verifyCert : s.tls.verifyCert = s'.tls.verifyCert
  legaExchange : s.lega.exchange = s'.lega.exchange
  legaQueue : s.lega.queue = s'.lega.queue
  cegaExchange : s.cega.exchange = s'.cega.exchange
  cegaQueue : s.cega.queue = s'.cega.queue
  dialAttempts : s.supervisor.dialAttempts = s'.supervisor.dialAttempts
  dialIntervalSecs : s.supervisor.dialIntervalSecs = s'.supervisor.dialIntervalSecs

theorem sameSummary_of_eq {s s' : Settings} (heq : s.summary = s'.summary) :
    SameSummary s s' := by
  have h : s.summary ++ "" = s'.summary ++ "" := by rw [heq]
  unfold summary at h
  simp only [String.append_assoc] at h
  simp only [String.append_right_inj] at h
  obtain ⟨henabled, h⟩ := determined_flagText h
  rw [String.append_right_inj] at h
  obtain ⟨hverify, h⟩ := determined_flagText h
  rw [String.append_right_inj] at h
  obtain ⟨hlegaExchange, hlegaQueue, h⟩ := brokerSummary_eq_of_append h
  rw [String.append_right_inj] at h
  obtain ⟨hcegaExchange, hcegaQueue, h⟩ := brokerSummary_eq_of_append h
  rw [String.append_right_inj] at h
  obtain ⟨hattempts, h⟩ := eq_of_number_append h ⟨'x', [], rfl, rfl⟩
  obtain ⟨hinterval, -⟩ := eq_of_number_append h ⟨'s', [], rfl, rfl⟩
  exact ⟨henabled, hverify, hlegaExchange, hlegaQueue, hcegaExchange, hcegaQueue,
    UInt32.toNat_inj.mp hattempts, UInt64.toNat_inj.mp hinterval⟩

theorem summary_eq_iff {s s' : Settings} : s.summary = s'.summary ↔ SameSummary s s' := by
  refine ⟨sameSummary_of_eq, fun h => ?_⟩
  unfold summary brokerSummary
  simp only [h.enabled, h.verifyCert, h.legaExchange, h.legaQueue,
    h.cegaExchange, h.cegaQueue, h.dialAttempts, h.dialIntervalSecs]

theorem brokerDetails_eq_of_append {b b' : BrokerSettings} {rest rest' : String}
    (h : brokerDetails b ++ rest = brokerDetails b' ++ rest') :
    b.exchange = b'.exchange ∧ b.queue = b'.queue ∧ rest = rest' := by
  unfold brokerDetails record at h
  simp only [List.map_cons, List.map_nil, String.intercalate_cons_cons,
    String.intercalate_singleton, String.append_assoc] at h
  simp only [String.append_right_inj] at h
  obtain ⟨hexchange, h⟩ := determined_quoted h
  simp only [String.append_right_inj] at h
  obtain ⟨hqueue, h⟩ := determined_quoted h
  exact ⟨hexchange, hqueue, (String.append_right_inj _).mp h⟩

/-- Two settings agree in all that their details name. -/
structure SameDetails (s s' : Settings) : Prop extends SameSummary s s' where
  maxConnections : s.database.maxConnections = s'.database.maxConnections
  caCertPath : s.tls.caCertPath = s'.tls.caCertPath
  level : s.logging.level = s'.logging.level

theorem sameDetails_of_eq {s s' : Settings} (heq : s.details = s'.details) :
    SameDetails s s' := by
  have h : s.details ++ "" = s'.details ++ "" := by rw [heq]
  unfold details record at h
  simp only [List.map_cons, List.map_nil, String.intercalate_cons_cons,
    String.intercalate_singleton, String.append_assoc] at h
  simp only [String.append_right_inj] at h
  obtain ⟨hconnections, h⟩ := eq_of_number_append h ⟨' ', ['}'], rfl, rfl⟩
  simp only [String.append_right_inj] at h
  obtain ⟨henabled, h⟩ := determined_flagText h
  simp only [String.append_right_inj] at h
  obtain ⟨hpath, h⟩ := determined_optionText h
  simp only [String.append_right_inj] at h
  obtain ⟨hverify, h⟩ := determined_flagText h
  simp only [String.append_right_inj] at h
  obtain ⟨hlegaExchange, hlegaQueue, h⟩ := brokerDetails_eq_of_append h
  simp only [String.append_right_inj] at h
  obtain ⟨hcegaExchange, hcegaQueue, h⟩ := brokerDetails_eq_of_append h
  simp only [String.append_right_inj] at h
  obtain ⟨hattempts, h⟩ := eq_of_number_append h ⟨',', [' '], rfl, rfl⟩
  simp only [String.append_right_inj] at h
  obtain ⟨hinterval, h⟩ := eq_of_number_append h ⟨' ', ['}'], rfl, rfl⟩
  simp only [String.append_right_inj] at h
  obtain ⟨hlevel, -⟩ := determined_quoted h
  exact ⟨⟨henabled, hverify, hlegaExchange, hlegaQueue, hcegaExchange, hcegaQueue,
      UInt32.toNat_inj.mp hattempts, UInt64.toNat_inj.mp hinterval⟩,
    UInt32.toNat_inj.mp hconnections, hpath, hlevel⟩

theorem details_eq_iff {s s' : Settings} : s.details = s'.details ↔ SameDetails s s' := by
  refine ⟨sameDetails_of_eq, fun h => ?_⟩
  unfold details brokerDetails
  rw [h.enabled, h.verifyCert, h.legaExchange, h.legaQueue, h.cegaExchange, h.cegaQueue,
    h.dialAttempts, h.dialIntervalSecs, h.maxConnections, h.caCertPath, h.level]

/-! ## 4. Secrets -/

/-- The settings with other secrets. -/
def withSecrets (s : Settings) (url legaConnection cegaConnection : String) : Settings :=
  { s with
    database := { s.database with url }
    lega := { s.lega with connection := legaConnection }
    cega := { s.cega with connection := cegaConnection } }

/-- **Rendered settings hide the secrets, and nothing can be forged in them.**  Each text is that of
any other secrets, and two settings have one text exactly when they agree in everything that it
names, whatever characters the names of exchanges and queues have. -/
theorem rendered_iff (s s' : Settings) :
    (∀ url legaConnection cegaConnection,
      (s.withSecrets url legaConnection cegaConnection).summary = s.summary ∧
      (s.withSecrets url legaConnection cegaConnection).details = s.details) ∧
    (s.summary = s'.summary ↔ SameSummary s s') ∧
    (s.details = s'.details ↔ SameDetails s s') :=
  ⟨fun _ _ _ => ⟨rfl, rfl⟩, summary_eq_iff, details_eq_iff⟩

end Settings

end BrokerBridge
