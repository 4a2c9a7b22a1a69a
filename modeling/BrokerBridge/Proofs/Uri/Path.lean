import BrokerBridge.Proofs.Uri.Password

/-!
# Paths with a password in them

What looks like a password may stand in the path or in the query of a URL: everything behind the
first slash after the host does.  Resolving the dots of a path takes segments away and puts others
there, but never a part of one, so the path that comes out has the password between a colon and an
at sign, or not at all (`Enclosed.pathOf`).
-/
namespace BrokerBridge.Uri

/-! ## 1. The ends of a text -/

theorem Enclosed.append_fixed {f : Password → List Char} (hf : Enclosed f) (cs : List Char) :
    Enclosed fun w => f w ++ cs := by
  cases hf with
  | blind h => exact .blind (h.map (· ++ cs))
  | around a b h => exact .around a (b ++ cs) fun w => by rw [h, around_append]

theorem getLast?_around (a b : List Char) (w : Password) :
    (around a b w).getLast? = ('@' :: b).getLast? := by
  have hcolon : around a b w = a ++ ':' :: w.chars ++ '@' :: b := by simp [around]
  rw [hcolon, List.getLast?_append, List.getLast?_cons, Option.some_or]

theorem Enclosed.blind_getLast? {f : Password → List Char} (hf : Enclosed f) :
    Blind fun w => (f w).getLast? := by
  cases hf with
  | blind h => exact h.map List.getLast?
  | around a b h => exact ⟨('@' :: b).getLast?, fun w => by rw [h, getLast?_around]⟩

theorem slash_not_mem_around {a b : List Char} (ha : '/' ∉ a) (hb : '/' ∉ b) (w : Password) :
    '/' ∉ around a b w := by
  have hw : '/' ∉ w.chars := fun h => ne_of_isAlphanum (by decide) (w.mem_chars h) rfl
  simp only [around, List.mem_append, List.mem_cons, not_or]
  exact ⟨ha, by decide, hw, by decide, hb⟩

/-! ## 2. Going up -/

theorem upToSlash_of_not_mem {cs : List Char} (h : '/' ∉ cs) : upToSlash cs = [] := by
  rw [upToSlash, List.reverse_eq_nil_iff]
  have hall : ∀ c ∈ cs.reverse, decide (c ≠ '/') = true := fun c hc =>
    decide_eq_true fun heq => h (heq ▸ List.mem_reverse.mp hc)
  have hdrop := @List.dropWhile_append_of_pos _ _ cs.reverse [] hall
  rwa [List.append_nil] at hdrop

theorem upToSlash_append_cons (front : List Char) {back : List Char} (h : '/' ∉ back) :
    upToSlash (front ++ '/' :: back) = front ++ ['/'] := by
  have hback : ∀ c ∈ back.reverse, decide (c ≠ '/') = true := fun c hc =>
    decide_eq_true fun heq => h (heq ▸ List.mem_reverse.mp hc)
  rw [upToSlash, List.reverse_append, List.reverse_cons, List.append_assoc, List.singleton_append,
    dropWhile_stop hback (by decide), List.reverse_cons, List.reverse_reverse]

theorem enclosed_upToSlash_around (a b : List Char) :
    Enclosed fun w => upToSlash (around a b w) := by
  obtain hb | ⟨b, c, rfl, hc⟩ := not_mem_or_exists_last '/' b
  · obtain ha | ⟨a, c, rfl, hc⟩ := not_mem_or_exists_last '/' a
    · exact .blind ⟨[], fun w => upToSlash_of_not_mem (slash_not_mem_around ha hb w)⟩
    · refine .blind ⟨a ++ ['/'], fun w => ?_⟩
      rw [← append_around, around_cons, upToSlash_append_cons a (slash_not_mem_around hc hb w)]
  · refine .around a (b ++ ['/']) fun w => ?_
    rw [← around_append, upToSlash_append_cons _ hc, around_append]

theorem goUp_of_getLast? {path : List Char} (h : path.getLast? ≠ some '/') :
    goUp path = upToSlash path := if_neg fun h' => h h'.1

theorem goUp_slash {cs : List Char} (h : '/' ∉ cs) : goUp (cs ++ ['/']) = cs ++ ['/'] := by
  have hparent : upToSlash (cs ++ ['/']).dropLast = [] := by
    rw [List.dropLast_concat, upToSlash_of_not_mem h]
  rw [goUp, hparent]
  exact (if_neg fun h' => h'.2.1 rfl).trans (upToSlash_append_cons cs List.not_mem_nil)

theorem goUp_slash_slash (front : List Char) {back : List Char} (h : '/' ∉ back) :
    goUp (front ++ '/' :: (back ++ ['/'])) =
      if startsWithDrive ('/' :: (back ++ ['/'])) then front ++ '/' :: (back ++ ['/'])
      else front ++ ['/'] := by
  have hpath : front ++ '/' :: (back ++ ['/']) = (front ++ '/' :: back) ++ ['/'] := by simp
  have hparent : upToSlash (front ++ '/' :: (back ++ ['/'])).dropLast = front ++ ['/'] := by
    rw [hpath, List.dropLast_concat, upToSlash_append_cons front h]
  have hdrop : (front ++ '/' :: (back ++ ['/'])).drop ((front ++ ['/']).length - 1) =
      '/' :: (back ++ ['/']) := by
    rw [List.length_append, List.length_singleton, Nat.add_sub_cancel, List.drop_left]
  have hlast : (front ++ '/' :: (back ++ ['/'])).getLast? = some '/' := by
    rw [hpath, List.getLast?_concat]
  have hself : upToSlash (front ++ '/' :: (back ++ ['/'])) = front ++ '/' :: (back ++ ['/']) := by
    rw [hpath, upToSlash_append_cons _ List.not_mem_nil]
  rw [goUp, hparent, hdrop, hlast, hself]
  cases startsWithDrive ('/' :: (back ++ ['/'])) with
  | true => exact if_neg fun h => h.2.2 rfl
  | false => exact if_pos ⟨rfl, by simp, by decide⟩

/-- A drive is a letter with a colon behind it and no password behind that. -/
theorem blind_startsWithDrive_around (a b : List Char) :
    Blind fun w => startsWithDrive ('/' :: around a b w) := by
  match a with
  | [] =>
    refine ⟨false, fun w => ?_⟩
    obtain ⟨c, cs, hw, -⟩ := w.exists_chars
    rw [around, hw]
    rfl
  | [x] =>
    refine ⟨false, fun w => ?_⟩
    obtain ⟨c, cs, hw, hc⟩ := w.exists_chars
    have hend (d : Char) (hd : d.isAlphanum = false) : decide (c = d) = false :=
      decide_eq_false (ne_of_isAlphanum hd hc)
    rw [around, hw]
    show (x.isAlpha && _ && (decide (c = '/') || decide (c = '\\') || decide (c = '?') ||
      decide (c = '#'))) = false
    rw [hend _ (by decide), hend _ (by decide), hend _ (by decide), hend _ (by decide)]
    exact Bool.and_false _
  | [x, y] => exact ⟨startsWithDrive ['/', x, y, ':'], fun w => rfl⟩
  | x :: y :: e :: more => exact ⟨startsWithDrive ['/', x, y, e], fun w => rfl⟩

/-- Going up from a path that ends in a slash: its last slash but one is behind the password, in front
of it, or not there. -/
theorem enclosed_goUp_slash (a b : List Char) :
    Enclosed fun w => goUp (around a (b ++ ['/']) w) := by
  obtain hb | ⟨b, c, rfl, hc⟩ := not_mem_or_exists_last '/' b
  · obtain ha | ⟨a, c, rfl, hc⟩ := not_mem_or_exists_last '/' a
    · refine .around a (b ++ ['/']) fun w => ?_
      rw [← around_append, goUp_slash (slash_not_mem_around ha hb w)]
    · have hup (w : Password) := goUp_slash_slash a (slash_not_mem_around hc hb w)
      obtain ⟨drive, hdrive⟩ := blind_startsWithDrive_around c (b ++ ['/'])
      simp only [around_append, hdrive] at hup
      simp only [← append_around, around_cons, hup]
      cases drive with
      | true =>
        refine .around (a ++ '/' :: c) (b ++ ['/']) fun w => ?_
        rw [← append_around, around_cons]
        rfl
      | false => exact .blind ⟨a ++ ['/'], fun w => rfl⟩
  · have hpath (w : Password) : around a (b ++ '/' :: c ++ ['/']) w =
        around a b w ++ '/' :: (c ++ ['/']) := by
      rw [around_append, List.append_assoc, List.cons_append]
    simp only [hpath, goUp_slash_slash _ hc]
    cases startsWithDrive ('/' :: (c ++ ['/'])) with
    | true => exact .around a (b ++ '/' :: (c ++ ['/'])) fun w => around_append a b _ w
    | false => exact .around a (b ++ ['/']) fun w => around_append a b ['/'] w

theorem Enclosed.goUp {f : Password → List Char} (hf : Enclosed f) :
    Enclosed fun w => Uri.goUp (f w) := by
  cases hf with
  | blind h => exact .blind (h.map Uri.goUp)
  | around a b h =>
    obtain rfl : f = Uri.around a b := funext h
    by_cases hlast : ('@' :: b).getLast? = some '/'
    · obtain ⟨b, rfl⟩ : ∃ b', b = b' ++ ['/'] := by
        cases b with
        | nil => cases hlast
        | cons c b => exact List.getLast?_eq_some_iff.mp hlast
      exact enclosed_goUp_slash a b
    · have hup (w : Password) : Uri.goUp (Uri.around a b w) = upToSlash (Uri.around a b w) :=
        goUp_of_getLast? (by rwa [getLast?_around])
      simpa only [hup] using enclosed_upToSlash_around a b

/-! ## 3. Segments -/

theorem isUp_at {segment : List Char} (h : '@' ∈ segment) : isUp segment = false := by
  refine decide_eq_false fun hmem => ?_
  have hat : '@' ∈ (String.ofList (segment.map Char.toLower)).toList := by
    rw [String.toList_ofList]
    exact List.mem_map.mpr ⟨'@', h, by decide⟩
  have hno : ∀ name ∈ ["..", "%2e%2e", "%2e.", ".%2e"], '@' ∉ name.toList := by decide
  exact hno _ hmem hat

theorem isHere_at {segment : List Char} (h : '@' ∈ segment) : isHere segment = false := by
  refine decide_eq_false fun hmem => ?_
  have hat : '@' ∈ (String.ofList (segment.map Char.toLower)).toList := by
    rw [String.toList_ofList]
    exact List.mem_map.mpr ⟨'@', h, by decide⟩
  have hno : ∀ name ∈ [".", "%2e"], '@' ∉ name.toList := by decide
  exact hno _ hmem hat

theorem addSegment_around (path a b : List Char) (slash : Bool) (w : Password) :
    addSegment path (around a b w) slash =
      around (path ++ a) (b ++ if slash then ['/'] else []) w := by
  have hat : '@' ∈ around a b w :=
    List.mem_append_right _ (List.mem_cons_of_mem _ (List.mem_append_right _ List.mem_cons_self))
  rw [addSegment, isUp_at hat, isHere_at hat, ← around_append, ← append_around]
  rfl

/-- A slash at the end, unless there is one. -/
theorem Enclosed.slashed {f : Password → List Char} (hf : Enclosed f) :
    Enclosed fun w => if (f w).getLast? = some '/' then f w else f w ++ ['/'] := by
  obtain ⟨last, hlast⟩ := hf.blind_getLast?
  by_cases h : last = some '/'
  · simpa only [hlast, if_pos h] using hf
  · simpa only [hlast, if_neg h] using hf.append_fixed ['/']

theorem Enclosed.addSegment {f : Password → List Char} (hf : Enclosed f) (segment : List Char)
    (slash : Bool) : Enclosed fun w => Uri.addSegment (f w) segment slash := by
  unfold Uri.addSegment
  cases isUp segment with
  | true =>
    cases slash with
    | true => simpa using hf.goUp.slashed
    | false => simpa using hf.goUp
  | false =>
    cases isHere segment with
    | true => simpa using hf.slashed
    | false => simpa using (hf.append_fixed segment).append_fixed _

theorem Enclosed.addSegments {f : Password → List Char} (hf : Enclosed f)
    (segments : List (List Char)) : Enclosed fun w => Uri.addSegments (f w) segments := by
  induction segments generalizing f with
  | nil => exact hf
  | cons segment segments ih =>
    cases segments with
    | nil => exact hf.addSegment segment false
    | cons next rest => exact ih (hf.addSegment segment true)

theorem addSegments_append (path : List Char) (front : List (List Char)) (segment : List Char)
    (back : List (List Char)) :
    addSegments path (front ++ segment :: back) =
      addSegments (front.foldl (addSegment · · true) path) (segment :: back) := by
  induction front generalizing path with
  | nil => rfl
  | cons first front ih =>
    cases front with
    | nil => rfl
    | cons next rest => exact ih (addSegment path first true)

/-- **Resolving the dots of a path keeps a password in one piece.** -/
theorem enclosed_pathOf_around (a b : List Char) : Enclosed fun w => pathOf (around a b w) := by
  have hp : Passes fun c => !(c == '/') := .of_beq (by decide) (by decide) (by decide)
  have hsegments (a : List Char) :
      Enclosed fun w => addSegments ['/'] (splitAt (· == '/') (around a b w)) := by
    obtain ⟨front, a', b', back, hsplit⟩ := exists_splitAt_around hp a b
    have hpath (slash : Bool) : Enclosed fun w =>
        addSegment (front.foldl (addSegment · · true) ['/']) (around a' b' w) slash :=
      .around _ _ fun w => addSegment_around _ _ _ _ w
    simp only [hsplit, addSegments_append]
    cases back with
    | nil => exact hpath false
    | cons next rest => exact (hpath true).addSegments (next :: rest)
  cases a with
  | nil => exact hsegments []
  | cons c a =>
    by_cases hc : c = '/'
    · subst hc
      exact hsegments a
    · have hpathOf (w : Password) : pathOf (around (c :: a) b w) =
          addSegments ['/'] (splitAt (· == '/') (around (c :: a) b w)) := by
        unfold pathOf
        split
        next heq => cases heq
        next heq => exact absurd (List.cons.inj heq).1 hc
        next => rfl
      simpa only [hpathOf] using hsegments (c :: a)

theorem Enclosed.pathOf {f : Password → List Char} (hf : Enclosed f) :
    Enclosed fun w => Uri.pathOf (f w) := by
  cases hf with
  | blind h => exact .blind (h.map Uri.pathOf)
  | around a b h =>
    obtain rfl : f = Uri.around a b := funext h
    exact enclosed_pathOf_around a b

/-! ## 4. Path and query -/

theorem drop_length_takeWhile (p : Char → Bool) (cs : List Char) :
    cs.drop (cs.takeWhile p).length = cs.dropWhile p := by
  conv => enter [1, 2]; rw [← List.takeWhile_append_dropWhile (p := p) (l := cs)]
  exact List.drop_left

/-- Whether a character belongs to a path. -/
def inPath (c : Char) : Bool := c ≠ '?' && c ≠ '#'

theorem passes_inPath : Passes inPath where
  colon := by decide
  at_ := by decide
  alphanum c hc := by
    rw [inPath, decide_eq_true (ne_of_isAlphanum (by decide) hc),
      decide_eq_true (ne_of_isAlphanum (by decide) hc)]
    rfl

theorem splitQuery_fst (cs : List Char) : (splitQuery cs).1 = cs.takeWhile inPath := by
  unfold splitQuery
  dsimp only
  split <;> rfl

/-- The query depends only on what is behind the path. -/
theorem splitQuery_snd_congr {cs ds : List Char}
    (h : cs.drop (cs.takeWhile inPath).length = ds.drop (ds.takeWhile inPath).length) :
    (splitQuery cs).2 = (splitQuery ds).2 := by
  have hdrop : cs.drop (cs.takeWhile fun c => c ≠ '?' && c ≠ '#').length =
      ds.drop (ds.takeWhile fun c => c ≠ '?' && c ≠ '#').length := h
  unfold splitQuery
  dsimp only
  rw [hdrop]
  split <;> rfl

theorem splitQuery_snd (cs : List Char) :
    (splitQuery cs).2 = (splitQuery (cs.dropWhile inPath)).2 := by
  have hrest : (cs.dropWhile inPath).takeWhile inPath = [] := by
    have hhead := List.head?_dropWhile_not inPath cs
    cases hdrop : cs.dropWhile inPath with
    | nil => rfl
    | cons c rest =>
      rw [hdrop, List.head?_cons] at hhead
      exact List.takeWhile_cons_of_neg (by simp [hhead])
  refine splitQuery_snd_congr ?_
  rw [drop_length_takeWhile, hrest]
  rfl

/-- **The password stands in the path or in the query**, if it stands in either. -/
theorem enclosed_splitQuery_around (a b : List Char) :
    (Enclosed fun w => (splitQuery (around a b w)).1) ∧
      Enclosed fun w => (splitQuery (around a b w)).2.getD [] := by
  have hfragment : Passes fun c => decide (c ≠ '#') :=
    .of_ne (by decide) (by decide) (by decide)
  constructor
  · simpa only [splitQuery_fst] using passes_inPath.enclosed_takeWhile a b
  · obtain ha | ⟨a, e, a', rfl, ha, he⟩ := all_or_exists_append inPath a
    · refine .blind ⟨(splitQuery (b.dropWhile inPath)).2.getD [], fun w => ?_⟩
      rw [splitQuery_snd, passes_inPath.dropWhile_around ha]
    · have hdrop (w : Password) : (splitQuery (around (a ++ e :: a') b w)).2 =
          (splitQuery (e :: around a' b w)).2 := by
        rw [splitQuery_snd, ← append_around, around_cons, dropWhile_stop ha he]
      simp only [hdrop]
      have he : e = '?' ∨ e = '#' :=
        (Bool.and_eq_false_iff.mp he).imp (fun h => by simpa using h) fun h => by simpa using h
      obtain rfl | rfl := he
      · exact hfragment.enclosed_takeWhile a' b
      · exact .blind (.fixed [])

end BrokerBridge.Uri
