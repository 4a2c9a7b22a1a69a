import BrokerBridge.Proofs.Uri.Domain
import BrokerBridge.Proofs.Uri.Path

/-!
# Hosts and passwords

A URL is read up to the end of the part that names the host without looking at what follows
(`readTarget_append`).  So where the password stands behind that end, it is in the path or in the
query.  Where it stands in front of it, it belongs to the user, whose last at sign comes behind the
password, and the host is read from what follows that.  Either way the host and the scheme are the
same for every password (`Veiled`).
-/
namespace BrokerBridge.Uri

variable {kind : SchemeKind}

/-! ## 1. The user -/

/-- The password of a user: what follows the first colon, unless that is empty. -/
def passwordOf (user : List Char) : Option (List Char) :=
  let password := (user.dropWhile (· ≠ ':')).drop 1
  if password.isEmpty then none else some password

theorem passwordOf_getD (user : List Char) :
    (passwordOf user).getD [] = (user.dropWhile (· ≠ ':')).drop 1 := by
  unfold passwordOf
  dsimp only
  split
  next h => exact (List.isEmpty_iff.mp h).symm
  next => rfl

theorem readCredentials_of_userText? {cs user rest : List Char}
    (h : userText? kind cs = some (user, rest)) (huser : user ≠ []) :
    readCredentials kind cs =
      .ok ⟨user.takeWhile (· ≠ ':'), passwordOf user, rest⟩ := by
  unfold readCredentials
  rw [h]
  obtain ⟨c, user, rfl⟩ := List.exists_cons_of_ne_nil huser
  have hcolon := List.head?_dropWhile_not (fun c => decide (c ≠ ':')) (c :: user)
  unfold passwordOf
  dsimp only
  split
  next heq => rw [heq]; rfl
  next hno =>
    cases hdrop : (c :: user).dropWhile fun c => decide (c ≠ ':') with
    | nil => rfl
    | cons d more =>
      rw [hdrop, List.head?_cons] at hcolon
      obtain rfl : d = ':' := by simpa using hcolon
      cases more with
      | nil => rfl
      | cons e more => exact absurd hdrop (hno e more)

theorem userText?_eq {cs user behind : List Char}
    (h : cs.takeWhile (fun c => !endsAuthority kind c) = user ++ '@' :: behind)
    (hbehind : '@' ∉ behind) : userText? kind cs = some (user, cs.drop (user.length + 1)) := by
  have hlast : (user ++ '@' :: behind).reverse.takeWhile (· ≠ '@') = behind.reverse := by
    rw [List.reverse_append, List.reverse_cons, List.append_assoc]
    have hne : ∀ c ∈ behind.reverse, c ≠ '@' := fun c hc heq =>
      hbehind (heq ▸ List.mem_reverse.mp hc)
    exact takeWhile_stop (fun c hc => decide_eq_true (hne c hc)) (by decide) _
  have hlength : (user ++ '@' :: behind).length - behind.length = user.length + 1 := by
    rw [List.length_append, List.length_cons]
    omega
  unfold userText?
  dsimp only
  rw [h, if_pos (List.mem_append_right _ List.mem_cons_self), hlast, List.length_reverse, hlength,
    Nat.add_sub_cancel, List.take_left]

theorem endsAuthority_eq_false {c : Char} (hc : c.isAlphanum) : endsAuthority kind c = false := by
  have hne (d : Char) (hd : d.isAlphanum = false) : decide (c = d) = false :=
    decide_eq_false (ne_of_isAlphanum hd hc)
  rw [endsAuthority, hne _ (by decide), hne _ (by decide), hne _ (by decide), hne _ (by decide)]
  simp

theorem endsAuthority_at : endsAuthority kind '@' = false := by cases kind <;> rfl

/-- **The last at sign in front of the host comes behind the password.** -/
theorem exists_userText?_password {a : List Char} (ha : ∀ c ∈ a, endsAuthority kind c = false)
    (b : List Char) :
    ∃ b' rest, ∀ w : Password,
      userText? kind (a ++ (w.chars ++ '@' :: b)) = some (a ++ (w.chars ++ b'), rest) := by
  have hauthority (w : Password) :
      (a ++ (w.chars ++ '@' :: b)).takeWhile (fun c => !endsAuthority kind c) =
        a ++ (w.chars ++ '@' :: b.takeWhile fun c => !endsAuthority kind c) := by
    rw [List.takeWhile_append_of_pos fun c hc => by rw [ha c hc]; rfl,
      List.takeWhile_append_of_pos fun c hc => by
        rw [endsAuthority_eq_false (w.mem_chars hc)]; rfl,
      List.takeWhile_cons_of_pos (by rw [endsAuthority_at]; rfl)]
  obtain hno | ⟨front, back, hb, hback⟩ :=
    not_mem_or_exists_last '@' (b.takeWhile fun c => !endsAuthority kind c)
  · refine ⟨[], b, fun w => ?_⟩
    have hsplit : (a ++ (w.chars ++ '@' :: b)).takeWhile (fun c => !endsAuthority kind c) =
        (a ++ w.chars) ++ '@' :: b.takeWhile fun c => !endsAuthority kind c := by
      rw [hauthority, List.append_assoc]
    rw [userText?_eq hsplit hno, ← List.append_assoc, ← List.drop_drop, List.drop_left,
      List.append_nil]
    rfl
  · refine ⟨'@' :: front, b.drop (front.length + 1), fun w => ?_⟩
    have hsplit : (a ++ (w.chars ++ '@' :: b)).takeWhile (fun c => !endsAuthority kind c) =
        (a ++ (w.chars ++ '@' :: front)) ++ '@' :: back := by
      rw [hauthority, hb]
      simp
    have hlength : (a ++ (w.chars ++ '@' :: front)).length + 1 =
        (a ++ w.chars).length + (1 + (front.length + 1)) := by
      simp only [List.length_append, List.length_cons]
      omega
    rw [userText?_eq hsplit hback, hlength, ← List.append_assoc a w.chars ('@' :: b),
      ← List.drop_drop, List.drop_left, ← List.drop_drop]
    rfl

/-- A part of a text that ends in a colon ends in one itself, if it does not end sooner. -/
theorem bordered_of_append {a front back : List Char} {d : Char}
    (ha : Leads a) (h : a = front ++ d :: back) :
    back = [] ∧ d = ':' ∨ ∃ a', back = a' ++ [':'] := by
  obtain rfl | ⟨a, rfl⟩ := ha
  · cases front <;> cases h
  · have hends := congrArg List.getLast? h
    rw [List.getLast?_concat, List.getLast?_append, List.getLast?_cons, Option.some_or] at hends
    cases hback : back.getLast? with
    | none =>
      rw [hback] at hends
      exact .inl ⟨List.getLast?_eq_none_iff.mp hback, (Option.some.inj hends).symm⟩
    | some c =>
      rw [hback] at hends
      obtain rfl : ':' = c := Option.some.inj hends
      exact .inr (List.getLast?_eq_some_iff.mp hback)

/-- The password is the whole name of the user, or it is behind the name. -/
theorem bordered_name {a : List Char} (ha : Leads a) (b : List Char) :
    Bordered fun w => (a ++ (w.chars ++ b)).takeWhile fun c => decide (c ≠ ':') := by
  obtain hno | ⟨front, e, back, rfl, hfront, he⟩ :=
    all_or_exists_append (fun c => decide (c ≠ ':')) a
  · obtain rfl : a = [] := ha.resolve_right fun ⟨a', h⟩ =>
      of_decide_eq_true (hno ':' (h ▸ List.mem_append_right _ List.mem_cons_self)) rfl
    refine .behind [] (b.takeWhile fun c => decide (c ≠ ':')) (.inl rfl) fun w => ?_
    exact List.takeWhile_append_of_pos fun c hc =>
      decide_eq_true (ne_of_isAlphanum (by decide) (w.mem_chars hc))
  · refine .blind ⟨front, fun w => ?_⟩
    rw [List.append_assoc, List.cons_append, takeWhile_stop hfront he]

theorem bordered_behind_name {a : List Char} (ha : Leads a) (b : List Char) :
    Bordered fun w => ((a ++ (w.chars ++ b)).dropWhile fun c => decide (c ≠ ':')).drop 1 := by
  obtain hno | ⟨front, e, back, hfront, hcolon, he⟩ :=
    all_or_exists_append (fun c => decide (c ≠ ':')) a
  · obtain rfl : a = [] := ha.resolve_right fun ⟨a', h⟩ =>
      of_decide_eq_true (hno ':' (h ▸ List.mem_append_right _ List.mem_cons_self)) rfl
    refine .blind ⟨(b.dropWhile fun c => decide (c ≠ ':')).drop 1, fun w => ?_⟩
    exact congrArg (List.drop 1) (List.dropWhile_append_of_pos fun c hc =>
      decide_eq_true (ne_of_isAlphanum (by decide) (w.mem_chars hc)))
  · have hback : Leads back := (bordered_of_append ha hfront).imp And.left id
    refine .behind back b hback fun w => ?_
    rw [hfront, List.append_assoc, List.cons_append, dropWhile_stop hcolon he]
    rfl

/-- A user is given by anything but a lone colon. -/
theorem isGiven_of_user {user : List Char} {c : Char} {cs : List Char} (huser : user = c :: cs)
    (h : c ≠ ':' ∨ cs ≠ []) (rest : List Char) :
    (Credentials.mk (user.takeWhile (· ≠ ':')) (passwordOf user) rest).isGiven = true := by
  subst huser
  by_cases hc : c = ':'
  · subst hc
    have hcs : cs ≠ [] := h.resolve_left fun hne => hne rfl
    have hpassword : passwordOf (':' :: cs) = some cs := if_neg (by simpa using hcs)
    rw [Credentials.isGiven, hpassword]
    exact Bool.or_true _
  · have hname : (c :: cs).takeWhile (· ≠ ':') = c :: cs.takeWhile (· ≠ ':') :=
      List.takeWhile_cons_of_pos (decide_eq_true hc)
    rw [Credentials.isGiven, hname]
    rfl

/-- The user of a URL whose password stands in front of the host. -/
theorem exists_readCredentials_password {a : List Char} (ha : Leads a)
    (hends : ∀ c ∈ a, endsAuthority kind c = false) (b : List Char) :
    ∃ (c : Password → Credentials) (rest : List Char),
      (∀ w, readCredentials kind (a ++ (w.chars ++ '@' :: b)) = .ok (c w)) ∧
      (∀ w, (c w).rest = rest) ∧ (∀ w, (c w).isGiven = true) ∧
      (Bordered fun w => (c w).username) ∧ Bordered fun w => (c w).password.getD [] := by
  obtain ⟨b', rest, huser⟩ := exists_userText?_password hends b
  have hcons (w : Password) :
      ∃ c cs, a ++ (w.chars ++ b') = c :: cs ∧ (c ≠ ':' ∨ cs ≠ []) := by
    obtain ⟨c, cs, hw, hc⟩ := w.exists_chars
    rw [hw]
    cases a with
    | nil => exact ⟨c, cs ++ b', rfl, .inl (ne_of_isAlphanum (by decide) hc)⟩
    | cons d a => exact ⟨d, a ++ (c :: cs ++ b'), rfl, .inr (by simp)⟩
  refine ⟨fun w => ⟨(a ++ (w.chars ++ b')).takeWhile (· ≠ ':'),
    passwordOf (a ++ (w.chars ++ b')), rest⟩, rest, fun w => ?_, fun _ => rfl, fun w => ?_,
    bordered_name ha b', ?_⟩
  · obtain ⟨c, cs, h, -⟩ := hcons w
    exact readCredentials_of_userText? (huser w) (h ▸ List.cons_ne_nil c cs)
  · obtain ⟨c, cs, h, hgiven⟩ := hcons w
    exact isGiven_of_user h hgiven rest
  · simpa only [passwordOf_getD] using bordered_behind_name ha b'

/-! ## 2. Host and port -/

/-- The host of a URL, its port and what follows them. -/
structure Target where
  host : Option Host
  port : Option Nat
  rest : List Char

/-- The URL of a user and what follows it. -/
def Target.url (t : Target) (scheme : String) (c : Credentials) : Url :=
  let u : Url := {
    scheme, username := c.username, password := c.password, host := t.host, port := t.port }
  u.withRest t.rest

/-- Reads what follows the user of a URL, which may have been `given`. -/
def readTarget (kind : SchemeKind) (given : Bool) (cs : List Char) : Except UrlFault Target := do
  let host ← readHost kind (spanHost kind false cs).1
  let rest := (spanHost kind false cs).2
  if host = none ∧ rest.head? = some ':' then .error .emptyHost
  else
    let after ← if rest.head? = some ':' then readPort none rest.tail else .ok (none, rest)
    if host = none ∧ given then .error .emptyHost else .ok ⟨host, after.1, after.2⟩

theorem readAuthority_eq (scheme : String) (cs : List Char) :
    readAuthority scheme kind cs = (readCredentials kind cs).bind fun c =>
      (readTarget kind c.isGiven c.rest).map fun t => t.url scheme c := by
  unfold readAuthority readTarget
  cases readCredentials kind cs with
  | error fault => rfl
  | ok c =>
    simp only [bind, Except.bind]
    generalize spanHost kind false c.rest = spanned
    obtain ⟨hostChars, rest⟩ := spanned
    cases readHost kind hostChars with
    | error fault => rfl
    | ok host =>
      dsimp only
      by_cases hcolon : host = none ∧ rest.head? = some ':'
      · rw [if_pos hcolon, if_pos hcolon]
        rfl
      · rw [if_neg hcolon, if_neg hcolon]
        have hend (port : Option Nat) (rest : List Char) :
            (if host = none ∧ c.isGiven then .error .emptyHost
              else .ok (Target.url ⟨host, port, rest⟩ scheme c) : Except UrlFault Url) =
            (if host = none ∧ c.isGiven then .error .emptyHost
              else .ok ⟨host, port, rest⟩ : Except UrlFault Target).map
                fun t => t.url scheme c := by
          split <;> rfl
        split
        next more =>
          rw [List.head?_cons, if_pos rfl, List.tail_cons]
          cases readPort none more with
          | error fault => rfl
          | ok after => exact hend after.1 after.2
        next hno =>
          have hhead : rest.head? ≠ some ':' := fun h => by
            obtain ⟨more, rfl⟩ := List.head?_eq_some_iff.mp h
            exact hno more rfl
          rw [if_neg hhead]
          exact hend none rest

theorem spanHost_append {e : Char} (he : endsAuthority kind e = true) (inBrackets : Bool)
    (cs rest : List Char) :
    spanHost kind inBrackets (cs ++ e :: rest) =
      ((spanHost kind inBrackets cs).1, (spanHost kind inBrackets cs).2 ++ e :: rest) := by
  induction cs generalizing inBrackets with
  | nil =>
    simp [spanHost, he]
  | cons c cs ih =>
    rw [List.cons_append, spanHost, spanHost]
    split
    · rfl
    · dsimp only
      rw [ih]

theorem readPort_append {e : Char} (he : endsAuthority kind e = true) (value : Option Nat)
    (cs rest : List Char) :
    readPort value (cs ++ e :: rest) =
      (readPort value cs).map fun after => (after.1, after.2 ++ e :: rest) := by
  have hend : e = '/' ∨ e = '?' ∨ e = '#' ∨ e = '\\' := by
    simp only [endsAuthority, Bool.or_eq_true, Bool.and_eq_true, decide_eq_true_eq] at he
    tauto
  induction cs generalizing value with
  | nil =>
    obtain rfl | rfl | rfl | rfl := hend <;> rfl
  | cons c cs ih =>
    rw [List.cons_append, readPort, readPort]
    split
    · dsimp only
      split
      · rfl
      · exact ih _
    · split <;> rfl

/-- **Nothing behind the end of the host decides about the host.** -/
theorem readTarget_append {e : Char} (he : endsAuthority kind e = true) (given : Bool)
    (cs rest : List Char) :
    readTarget kind given (cs ++ e :: rest) =
      (readTarget kind given cs).map fun t => { t with rest := t.rest ++ e :: rest } := by
  have hcolon : e ≠ ':' := by
    rintro rfl
    cases kind <;> cases he
  unfold readTarget
  rw [spanHost_append he]
  generalize spanHost kind false cs = spanned
  obtain ⟨hostChars, after⟩ := spanned
  dsimp only
  have hhead : (after ++ e :: rest).head? = some ':' ↔ after.head? = some ':' := by
    cases after with
    | nil => simp [hcolon]
    | cons c after => exact Iff.rfl
  cases readHost kind hostChars with
  | error fault => rfl
  | ok host =>
    simp only [hhead, bind, Except.bind]
    split
    · rfl
    next hno =>
      split
      next h =>
        obtain ⟨more, rfl⟩ := List.head?_eq_some_iff.mp h
        rw [List.cons_append, List.tail_cons, List.tail_cons, readPort_append he]
        cases readPort none more with
        | error fault => rfl
        | ok after =>
          dsimp only [Except.map]
          split <;> rfl
      next => split <;> rfl

theorem userText?_append {e : Char} (he : endsAuthority kind e = true) {cs : List Char}
    (hcs : ∀ c ∈ cs, endsAuthority kind c = false) (rest : List Char) :
    userText? kind (cs ++ e :: rest) =
      (userText? kind cs).map fun found => (found.1, found.2 ++ e :: rest) := by
  have hall : ∀ c ∈ cs, (!endsAuthority kind c) = true := fun c hc => by rw [hcs c hc]; rfl
  have hself : cs.takeWhile (fun c => !endsAuthority kind c) = cs := by
    have h : (cs ++ []).takeWhile (fun c => !endsAuthority kind c) = cs ++ [].takeWhile _ :=
      List.takeWhile_append_of_pos hall
    rwa [List.append_nil, List.takeWhile_nil, List.append_nil] at h
  unfold userText?
  dsimp only
  rw [takeWhile_stop hall (by rw [he]; rfl), hself]
  split
  · rw [List.drop_append_of_le_length (Nat.sub_le _ _)]
    rfl
  · rfl

/-- Nor about the user, but for an at sign with nothing between it and the end. -/
theorem readCredentials_append {e : Char} (he : endsAuthority kind e = true) {cs : List Char}
    (hcs : ∀ c ∈ cs, endsAuthority kind c = false) :
    (∃ fault, ∀ rest, readCredentials kind (cs ++ e :: rest) = .error fault) ∨
      ∃ c : Credentials, ∀ rest,
        readCredentials kind (cs ++ e :: rest) = .ok { c with rest := c.rest ++ e :: rest } := by
  cases huser : userText? kind cs with
  | none =>
    refine .inr ⟨{ rest := cs }, fun rest => ?_⟩
    rw [readCredentials, userText?_append he hcs, huser]
    rfl
  | some found =>
    obtain ⟨user, behind⟩ := found
    have huser (rest : List Char) :
        userText? kind (cs ++ e :: rest) = some (user, behind ++ e :: rest) := by
      rw [userText?_append he hcs, huser]
      rfl
    by_cases hempty : user = []
    · subst hempty
      cases behind with
      | nil =>
        refine .inl ⟨.emptyHost, fun rest => ?_⟩
        unfold readCredentials
        rw [huser]
        exact if_pos he
      | cons d behind =>
        cases hd : endsAuthority kind d with
        | true =>
          refine .inl ⟨.emptyHost, fun rest => ?_⟩
          unfold readCredentials
          rw [huser]
          exact if_pos hd
        | false =>
          refine .inr ⟨{ rest := d :: behind }, fun rest => ?_⟩
          unfold readCredentials
          rw [huser]
          exact if_neg (by simp [hd])
    · exact .inr ⟨⟨user.takeWhile (· ≠ ':'), passwordOf user, behind⟩, fun rest =>
        readCredentials_of_userText? (huser rest) hempty⟩

/-! ## 3. What follows two slashes -/

/-- URLs that are the same for every password, but for the parts that have the password in them. -/
structure Veiled (u : Password → Url) : Prop where
  isWhole : Blind fun w => (u w).isWhole
  scheme : Blind fun w => (u w).scheme
  username : Bordered fun w => (u w).username
  password : Bordered fun w => (u w).password.getD []
  host : Blind fun w => (u w).host
  path : Enclosed fun w => (u w).path
  query : Enclosed fun w => (u w).query.getD []

/-- A reading that ends alike for every password. -/
inductive Veils (read : Password → Except UrlFault Url) : Prop where
  | blind (h : Blind read)
  | url (u : Password → Url) (hu : Veiled u) (h : ∀ w, read w = .ok (u w))

theorem Veiled.fixed (u : Url) : Veiled fun _ => u where
  isWhole := .fixed _
  scheme := .fixed _
  username := .blind (.fixed _)
  password := .blind (.fixed _)
  host := .fixed _
  path := .blind (.fixed _)
  query := .blind (.fixed _)

theorem Veils.error_or_url {read : Password → Except UrlFault Url} (h : Veils read) :
    (∃ fault, ∀ w, read w = .error fault) ∨ ∃ u, Veiled u ∧ ∀ w, read w = .ok (u w) := by
  cases h with
  | blind h =>
    obtain ⟨result, h⟩ := h
    cases result with
    | error fault => exact .inl ⟨fault, h⟩
    | ok u => exact .inr ⟨fun _ => u, .fixed u, h⟩
  | url u hu h => exact .inr ⟨u, hu, h⟩

theorem Url.withRest_eq (u : Url) (cs : List Char) :
    u.withRest cs = { u with path := pathOf (splitQuery cs).1, query := (splitQuery cs).2 } := rfl

theorem veiled_withRest (u : Url) (a b : List Char) :
    Veiled fun w => u.withRest (around a b w) := by
  obtain ⟨hpath, hquery⟩ := enclosed_splitQuery_around a b
  simp only [Url.withRest_eq]
  exact {
    isWhole := .fixed u.isWhole
    scheme := .fixed u.scheme
    username := .blind (.fixed u.username)
    password := .blind (.fixed (u.password.getD []))
    host := .fixed u.host
    path := hpath.pathOf
    query := hquery }

theorem veils_readAuthority (scheme : String) (kind : SchemeKind) {a : List Char}
    (ha : Leads a) (b : List Char) :
    Veils fun w => readAuthority scheme kind (a ++ (w.chars ++ '@' :: b)) := by
  obtain hall | ⟨front, e, back, hfront, hall, he⟩ :=
    all_or_exists_append (fun c => !endsAuthority kind c) a
  · -- the password stands in front of the host
    have hends : ∀ c ∈ a, endsAuthority kind c = false := fun c hc => by simpa using hall c hc
    obtain ⟨c, rest, hread, hrest, hgiven, husername, hpassword⟩ :=
      exists_readCredentials_password ha hends b
    have hauthority (w : Password) : readAuthority scheme kind (a ++ (w.chars ++ '@' :: b)) =
        (readTarget kind true rest).map fun t => t.url scheme (c w) := by
      rw [readAuthority_eq, hread, Except.bind, hrest, hgiven]
    cases htarget : readTarget kind true rest with
    | error fault => exact .blind ⟨.error fault, fun w => by rw [hauthority, htarget]; rfl⟩
    | ok t =>
      refine .url (fun w => t.url scheme (c w)) ?_ fun w => by rw [hauthority, htarget]; rfl
      exact {
        isWhole := .fixed false
        scheme := .fixed scheme
        username := husername
        password := hpassword
        host := .fixed t.host
        path := .blind (.fixed (pathOf (splitQuery t.rest).1))
        query := .blind (.fixed ((splitQuery t.rest).2.getD [])) }
  · -- the password stands behind it
    have he : endsAuthority kind e = true := by simpa using he
    have hends : ∀ c ∈ front, endsAuthority kind c = false := fun c hc => by simpa using hall c hc
    obtain ⟨back, rfl⟩ : ∃ a', back = a' ++ [':'] := (bordered_of_append ha hfront).resolve_left
      fun h => by rw [h.2] at he; cases kind <;> cases he
    have hsplit (w : Password) :
        a ++ (w.chars ++ '@' :: b) = front ++ e :: around back b w := by
      rw [hfront, around_eq, List.append_assoc, List.cons_append]
    simp only [hsplit, readAuthority_eq]
    obtain ⟨fault, hread⟩ | ⟨c, hread⟩ := readCredentials_append he hends
    · exact .blind ⟨.error fault, fun w => by rw [hread]; rfl⟩
    · have htarget (w : Password) : readTarget kind c.isGiven (c.rest ++ e :: around back b w) =
          (readTarget kind c.isGiven c.rest).map fun t =>
            { t with rest := around (t.rest ++ e :: back) b w } := by
        rw [readTarget_append he]
        simp only [← around_cons, append_around]
      simp only [hread, Except.bind, Credentials.isGiven] at htarget ⊢
      simp only [htarget]
      cases readTarget kind _ c.rest with
      | error fault => exact .blind ⟨.error fault, fun _ => rfl⟩
      | ok t =>
        let u : Url := {
          scheme, username := c.username, password := c.password, host := t.host, port := t.port }
        exact .url _ (veiled_withRest u (t.rest ++ e :: back) b) fun _ => rfl

/-! ## 4. Files -/

theorem passes_endsAuthority : Passes fun c => !endsAuthority kind c where
  colon := by cases kind <;> rfl
  at_ := by cases kind <;> rfl
  alphanum c hc := by rw [endsAuthority_eq_false hc]; rfl

/-- Whether a character is a slash of a file. -/
def isFileSlash (c : Char) : Bool := c = '/' || c = '\\'

theorem isFileSlash_eq_false {c : Char} (hc : c.isAlphanum) : isFileSlash c = false := by
  rw [isFileSlash, decide_eq_false (ne_of_isAlphanum (by decide) hc),
    decide_eq_false (ne_of_isAlphanum (by decide) hc)]
  rfl

theorem readFile_of_not_slash {c : Char} (h : isFileSlash c = false) (cs : List Char) :
    readFile (c :: cs) = .ok { scheme := "file" } := by
  cases cs with
  | nil => rfl
  | cons d cs =>
    unfold readFile
    exact if_neg (by show ¬ ((isFileSlash c && isFileSlash d) = true); rw [h]; simp)

theorem readFile_of_not_slash_snd (c : Char) {d : Char} (h : isFileSlash d = false)
    (cs : List Char) : readFile (c :: d :: cs) = .ok { scheme := "file" } := by
  unfold readFile
  exact if_neg (by show ¬ ((isFileSlash c && isFileSlash d) = true); rw [h]; simp)

/-- The URL of a file on a host, which may be missing. -/
def fileOn (host : List Char) : Except UrlFault Url :=
  if host.isEmpty ∨ startsWithDrive ('/' :: host) then .ok { scheme := "file" }
  else (Host.ofDomain host).map fun h => { scheme := "file", host := some h }

theorem readFile_of_slashes {c d : Char} (hc : isFileSlash c = true) (hd : isFileSlash d = true)
    (cs : List Char) :
    readFile (c :: d :: cs) = fileOn (cs.takeWhile fun c => !endsAuthority .file c) := by
  unfold readFile
  exact if_pos (by show (isFileSlash c && isFileSlash d) = true; rw [hc, hd]; rfl)

/-- **A host with a password in it is refused alike for every password.** -/
theorem Enclosed.blind_fileOn {f : Password → List Char} (hf : Enclosed f) :
    Blind fun w => fileOn (f w) := by
  cases hf with
  | blind h => exact h.map fileOn
  | around a b h =>
    obtain rfl : f = Uri.around a b := funext h
    obtain ⟨drive, hdrive⟩ := blind_startsWithDrive_around a b
    have hempty (w : Password) : (Uri.around a b w).isEmpty = false := by simp [Uri.around]
    have hhead (w : Password) : (Uri.around a b w).head? = (a ++ [':']).head? := by
      cases a <;> rfl
    have hat (w : Password) : '@' ∈ Uri.around a b w :=
      List.mem_append_right _ (List.mem_cons_of_mem _ (List.mem_append_right _ List.mem_cons_self))
    unfold fileOn
    simp only [hempty, hdrive, Host.ofDomain_at (hat _), hhead]
    exact .fixed _

/-- No file has the password in its host. -/
theorem blind_readFile {a : List Char} (ha : Leads a) (b : List Char) :
    Blind fun w => readFile (a ++ (w.chars ++ '@' :: b)) := by
  have hcolon : isFileSlash ':' = false := by decide
  obtain rfl | ⟨a, rfl⟩ := ha
  · refine ⟨.ok { scheme := "file" }, fun w => ?_⟩
    obtain ⟨c, cs, hw, hc⟩ := w.exists_chars
    rw [hw]
    exact readFile_of_not_slash (isFileSlash_eq_false hc) _
  · simp only [← around_eq]
    match a with
    | [] => exact ⟨_, fun w => readFile_of_not_slash hcolon _⟩
    | [c] => exact ⟨_, fun w => readFile_of_not_slash_snd c hcolon _⟩
    | c :: d :: a =>
      cases hc : isFileSlash c with
      | false => exact ⟨_, fun w => readFile_of_not_slash hc _⟩
      | true =>
        cases hd : isFileSlash d with
        | false => exact ⟨_, fun w => readFile_of_not_slash_snd c hd _⟩
        | true =>
          simp only [around_cons, readFile_of_slashes hc hd]
          exact (passes_endsAuthority.enclosed_takeWhile a b).blind_fileOn

end BrokerBridge.Uri
