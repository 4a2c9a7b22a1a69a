import BrokerBridge.Proofs.Uri.Authority
import BrokerBridge.Proofs.Uri.Checks

/-!
# Connection strings with a password in them

A connection string `p:password@s` is read alike for every password (`veils_parse`), whatever
stands around the password, and the checks of what was read show it only in the three ways of
`Shows` (`guarded_checkAmqp`).
-/
namespace BrokerBridge.Uri

/-! ## 1. The scheme -/

theorem dropWhile_append_cons {p : Char → Bool} {d : Char} (hd : p d = false)
    (cs rest : List Char) : (cs ++ d :: rest).dropWhile p = cs.dropWhile p ++ d :: rest := by
  have hrest : (d :: rest).dropWhile p = d :: rest := List.dropWhile_cons_of_neg (by simp [hd])
  rw [List.dropWhile_append, hrest]
  split
  next h => rw [List.isEmpty_iff.mp h, List.nil_append]
  next => rfl

theorem isIgnored_eq_false {c : Char} (hc : c.isAlphanum) : isIgnored c = false := by
  rw [isIgnored, decide_eq_false (ne_of_isAlphanum (by decide) hc),
    decide_eq_false (ne_of_isAlphanum (by decide) hc),
    decide_eq_false (ne_of_isAlphanum (by decide) hc)]
  rfl

theorem filter_around {p : Char → Bool} (hp : Passes p) (a b : List Char) (w : Password) :
    (around a b w).filter p = around (a.filter p) (b.filter p) w := by
  have hw : w.chars.filter p = w.chars :=
    List.filter_eq_self.mpr fun c hc => hp.alphanum c (w.mem_chars hc)
  rw [around, List.filter_append, List.filter_cons_of_pos hp.colon, List.filter_append, hw,
    List.filter_cons_of_pos hp.at_]
  rfl

/-- Nothing is left out of a password. -/
theorem exists_significant_around (a b : List Char) :
    ∃ a' b', ∀ w, significant (String.ofList (around a b w)) = around a' b' w := by
  have hp : Passes fun c => !isIgnored c := {
    colon := by decide
    at_ := by decide
    alphanum := fun c hc => by rw [isIgnored_eq_false hc]; rfl }
  refine ⟨(a.dropWhile isEdge).filter fun c => !isIgnored c,
    (b.reverse.dropWhile isEdge).reverse.filter fun c => !isIgnored c, fun w => ?_⟩
  have hfront : (around a b w).dropWhile isEdge = around (a.dropWhile isEdge) b w :=
    dropWhile_append_cons (by decide) a _
  have hreverse (a b : List Char) : (around a b w).reverse =
      b.reverse ++ '@' :: (w.chars.reverse ++ ':' :: a.reverse) := by
    simp [around]
  have hback (a b : List Char) : (b ++ '@' :: (w.chars.reverse ++ ':' :: a.reverse)).reverse =
      around a b.reverse w := by
    simp [around]
  rw [significant, String.toList_ofList, hfront, hreverse, dropWhile_append_cons (by decide), hback,
    filter_around hp]

theorem scheme?_eq {c : Char} {cs rest : List Char} {d : Char} (hhead : cs.head? = some c)
    (hdrop : cs.dropWhile isSchemeChar = d :: rest) :
    scheme? cs = if d = ':' ∧ c.isAlpha then
      some (String.ofList ((cs.takeWhile isSchemeChar).map Char.toLower), rest) else none := by
  unfold scheme?
  rw [hhead, hdrop]
  by_cases hd : d = ':'
  · subst hd
    simp only [true_and]
  · rw [if_neg fun h => hd h.1]
    split
    next heq => exact absurd (List.cons.inj heq).1 hd
    next => rfl

/-- **The scheme ends in front of the password**, at the colon there or sooner. -/
theorem scheme?_around (a b : List Char) :
    (∀ w, scheme? (around a b w) = none) ∨
      ∃ scheme a', Leads a' ∧
        ∀ w, scheme? (around a b w) = some (scheme, a' ++ (w.chars ++ '@' :: b)) := by
  obtain ⟨c, hhead⟩ : ∃ c, ∀ w, (around a b w).head? = some c := by
    cases a with
    | nil => exact ⟨':', fun _ => rfl⟩
    | cons c a => exact ⟨c, fun _ => rfl⟩
  obtain ⟨d, scheme, a', ha', hscheme⟩ : ∃ d scheme a', Leads a' ∧ ∀ w, scheme? (around a b w) =
        if d = ':' ∧ c.isAlpha then some (scheme, a' ++ (w.chars ++ '@' :: b)) else none := by
    obtain hall | ⟨front, e, back, rfl, hall, he⟩ := all_or_exists_append isSchemeChar a
    · refine ⟨':', String.ofList (a.map Char.toLower), [], .inl rfl, fun w => ?_⟩
      rw [scheme?_eq (hhead w) (dropWhile_stop hall (by decide) _), around,
        takeWhile_stop hall (by decide)]
      rfl
    · have hsplit (w : Password) :
          around (front ++ e :: back) b w = front ++ e :: around back b w :=
        List.append_assoc _ _ _
      refine ⟨e, String.ofList (front.map Char.toLower), back ++ [':'], .inr ⟨back, rfl⟩,
        fun w => ?_⟩
      rw [scheme?_eq (hhead w) (hsplit w ▸ dropWhile_stop hall he _), hsplit,
        takeWhile_stop hall he, around_eq]
  by_cases h : d = ':' ∧ c.isAlpha
  · exact .inr ⟨scheme, a', ha', fun w => by rw [hscheme, if_pos h]⟩
  · exact .inl fun w => by rw [hscheme, if_neg h]

/-! ## 2. The whole -/

/-- Slashes in front of a password can be left out. -/
theorem exists_dropWhile_slash {a : List Char} (ha : Leads a)
    (b : List Char) :
    ∃ a', Leads a' ∧ ∀ w : Password,
      (a ++ (w.chars ++ b)).dropWhile isFileSlash = a' ++ (w.chars ++ b) := by
  obtain rfl | ⟨a, rfl⟩ := ha
  · refine ⟨[], .inl rfl, fun w => ?_⟩
    obtain ⟨c, cs, hw, hc⟩ := w.exists_chars
    rw [hw]
    exact List.dropWhile_cons_of_neg (by simp [isFileSlash_eq_false hc])
  · refine ⟨a.dropWhile isFileSlash ++ [':'], .inr ⟨_, rfl⟩, fun w => ?_⟩
    rw [List.append_assoc, List.append_assoc]
    exact dropWhile_append_cons (by decide) a _

/-- Reads what follows a scheme that the web does not know. -/
def readOther (scheme : String) (rest : List Char) : Except UrlFault Url :=
  match rest with
  | '/' :: '/' :: cs => readAuthority scheme .other cs
  | '/' :: cs => .ok (({ scheme } : Url).withRest ('/' :: cs))
  | _ => .ok { scheme, isWhole := true }

theorem readOther_of_ne (scheme : String) {c : Char} (h : c ≠ '/') (cs : List Char) :
    readOther scheme (c :: cs) = .ok { scheme, isWhole := true } := by
  unfold readOther
  split
  next heq => exact absurd (List.cons.inj heq).1 h
  next heq => exact absurd (List.cons.inj heq).1 h
  next => rfl

theorem readOther_slash (scheme : String) {c : Char} (h : c ≠ '/') (cs : List Char) :
    readOther scheme ('/' :: c :: cs) = .ok (({ scheme } : Url).withRest ('/' :: c :: cs)) := by
  unfold readOther
  split
  next heq => exact absurd (List.cons.inj (List.cons.inj heq).2).1 h
  next heq => rw [(List.cons.inj heq).2]
  next hno => exact absurd rfl (hno (c :: cs))

theorem veils_readOther (scheme : String) {a : List Char} (ha : Leads a)
    (b : List Char) : Veils fun w => readOther scheme (a ++ (w.chars ++ '@' :: b)) := by
  have hcolon : ':' ≠ '/' := by decide
  obtain rfl | ⟨a, rfl⟩ := ha
  · refine .blind ⟨.ok { scheme, isWhole := true }, fun w => ?_⟩
    obtain ⟨c, cs, hw, hc⟩ := w.exists_chars
    rw [hw]
    exact readOther_of_ne scheme (ne_of_isAlphanum (by decide) hc) _
  · match a with
    | [] => exact .blind ⟨_, fun w => readOther_of_ne scheme hcolon _⟩
    | c :: a =>
      by_cases hc : c = '/'
      · subst hc
        match a with
        | [] =>
          refine .url _ (veiled_withRest { scheme } ['/'] b) fun w => ?_
          rw [← around_eq]
          exact readOther_slash scheme hcolon _
        | d :: a =>
          by_cases hd : d = '/'
          · subst hd
            exact veils_readAuthority scheme .other (.inr ⟨a, rfl⟩) b
          · refine .url _ (veiled_withRest { scheme } ('/' :: d :: a) b) fun w => ?_
            rw [← around_eq]
            exact readOther_slash scheme hd _
      · exact .blind ⟨_, fun w => readOther_of_ne scheme hc _⟩

/-- **A connection string is read alike for every password in it.** -/
theorem veils_parse (a b : List Char) :
    Veils fun w => Url.parse (String.ofList (around a b w)) := by
  obtain ⟨a, b, hsignificant⟩ := exists_significant_around a b
  unfold Url.parse
  simp only [hsignificant]
  obtain hscheme | ⟨scheme, a, ha, hscheme⟩ := scheme?_around a b
  · simp only [hscheme]
    exact .blind ⟨.error .relative, fun _ => rfl⟩
  · simp only [hscheme]
    cases SchemeKind.ofScheme scheme with
    | file => exact .blind (blind_readFile ha b)
    | web =>
      obtain ⟨a', ha', hdrop⟩ := exists_dropWhile_slash ha ('@' :: b)
      have h := veils_readAuthority scheme .web ha' b
      simp only [← hdrop] at h
      exact h
    | other => exact veils_readOther scheme ha b

/-- **The checks of a connection string show its password in no more than three ways.** -/
theorem guarded_checkAmqp (p s : String) {u : Password → Url} (hu : Veiled u) :
    Guarded p s fun w => checkAmqp (p ++ ":" ++ w.text ++ "@" ++ s) (u w) := by
  obtain ⟨isWhole, hwhole⟩ := hu.isWhole
  obtain ⟨scheme, hscheme⟩ := hu.scheme
  unfold checkAmqp
  simp only [hwhole, hscheme]
  cases isWhole with
  | true => exact .shows _ .noParts fun _ => rfl
  | false =>
    by_cases hamqp : scheme ≠ "amqp" ∧ scheme ≠ "amqps"
    · simp only [if_pos hamqp]
      exact .blind ⟨.error (.scheme scheme), fun _ => rfl⟩
    · simp only [if_neg hamqp]
      have hhost : Blind fun w => checkText (u w).hostText.toList :=
        hu.host.map fun host => checkText ((host.map Host.text).getD "").toList
      exact hu.username.guarded_checkText.seq <| hu.password.guarded_checkText.seq <|
        (Guarded.blind hhost).seq <| hu.path.bordered_drop.guarded_checkText.seq
          hu.query.guarded_checkSettings

end BrokerBridge.Uri
