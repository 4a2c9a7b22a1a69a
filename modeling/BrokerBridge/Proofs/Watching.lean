import BrokerBridge.Supervision.Watch

/-!
# Watching, round by round

`Watch.endBy` says at once how a bridge ends.  Here it is watched as it runs.  Every time something
wakes it, the watch goes round its four branches in any order (`Watch.Round`): a branch where
something has happened ends the watch, and the others are not looked at any more.  The consumers are
a set from which the one that ended is taken; once the set is found empty it is not asked again.

* `Watch.Waited`: the rounds that found nothing.  No moment at which something happens is slept
  through, so the bridge is never watched past the first of them (`Waited.invariant`).
* **`Watch.ends_first`**: the watch ends at the first moment at which something happens, with any of
  the things that happen then and with nothing else, and `endBy` has the same ends.
-/
namespace BrokerBridge

/-- What a watch looks at. -/
inductive Branch where
  | lega
  | cega
  | consumers
  | shutdown
  deriving DecidableEq, Repr

/-- All branches. -/
def Branch.all : List Branch := [.lega, .cega, .consumers, .shutdown]

theorem Branch.mem_all (b : Branch) : b ∈ Branch.all := by cases b <;> decide

/-- A watch between two rounds: the consumers in the set, by their numbers, and whether the set is
still asked. -/
structure Watching where
  left : List Nat
  asks : Bool
  deriving DecidableEq, Repr

namespace Watch

/-! ## 1. What happens -/

/-- What happens at a branch. -/
def Comes (w : Watch) : Branch → Timed Occurrence → Prop
  | .lega, o => ∃ e, w.lega = some e ∧ o = ⟨e.at_, .connection e.event⟩
  | .cega, o => ∃ e, w.cega = some e ∧ o = ⟨e.at_, .connection e.event⟩
  | .consumers, o => ∃ i e, w.consumers[i]? = some (some e) ∧ o = ⟨e.at_, .consumer i e.event⟩
  | .shutdown, o => ∃ e, w.shutdown = some e ∧ o = ⟨e.at_, .shutdown e.event⟩

variable {w : Watch} {o : Timed Occurrence}

theorem mem_timed_iff {α : Type} {wrap : α → Occurrence} {e : Option (Timed α)} :
    o ∈ timed wrap e ↔ ∃ t, e = some t ∧ o = ⟨t.at_, wrap t.event⟩ := by
  rw [timed, Option.mem_toList, Option.map_eq_some_iff]
  simp only [eq_comm]

theorem mem_occurrences_iff : o ∈ w.occurrences ↔ ∃ b, w.Comes b o := by
  simp only [occurrences, List.mem_append, List.mem_flatMap, mem_timed_iff, Prod.exists,
    List.mem_zipIdx_iff_getElem?]
  constructor
  · rintro (((h | h) | ⟨_, i, hi, e, rfl, ho⟩) | h)
    · exact ⟨.lega, h⟩
    · exact ⟨.cega, h⟩
    · exact ⟨.consumers, i, e, hi, ho⟩
    · exact ⟨.shutdown, h⟩
  · rintro ⟨_ | _ | _ | _, h⟩
    · exact .inl (.inl (.inl h))
    · exact .inl (.inl (.inr h))
    · obtain ⟨i, e, hi, ho⟩ := h
      exact .inl (.inr ⟨_, i, hi, e, rfl, ho⟩)
    · exact .inr h

/-! ## 2. Rounds -/

/-- **A look at a branch** at a moment: what has happened there, if anything. -/
inductive Looks (w : Watch) (now : Nat) :
    Branch → Watching → Option Occurrence → Watching → Prop where
  | happened {b : Branch} {s : Watching} {o : Timed Occurrence} (hb : b ≠ .consumers)
    (h : w.Comes b o) (hnow : o.at_ ≤ now) : Looks w now b s (some o.event) s
  | nothing {b : Branch} {s : Watching} (hb : b ≠ .consumers)
    (h : ∀ o, w.Comes b o → now < o.at_) : Looks w now b s none s
  /-- One of the consumers that have ended is taken from the set. -/
  | ended {s : Watching} {i : Nat} {e : Timed ConsumerEnd} (hasks : s.asks = true)
    (hi : i ∈ s.left) (h : w.consumers[i]? = some (some e)) (hnow : e.at_ ≤ now) :
    Looks w now .consumers s (some (.consumer i e.event)) { s with left := s.left.erase i }
  | running {s : Watching} (hasks : s.asks = true) (hleft : s.left ≠ [])
    (h : ∀ i ∈ s.left, ∀ e, w.consumers[i]? = some (some e) → now < e.at_) :
    Looks w now .consumers s none s
  /-- An empty set has nothing to tell, now and later. -/
  | empty {s : Watching} (hasks : s.asks = true) (hleft : s.left = []) :
    Looks w now .consumers s none { s with asks := false }
  | unasked {s : Watching} (hasks : s.asks = false) : Looks w now .consumers s none s

/-- **A round** looks at branches in order until something has happened at one. -/
inductive Round (w : Watch) (now : Nat) :
    List Branch → Watching → Option Occurrence → Watching → Prop where
  | finished {s : Watching} : Round w now [] s none s
  | stop {b : Branch} {bs : List Branch} {s s' : Watching} {x : Occurrence}
    (h : Looks w now b s (some x) s') : Round w now (b :: bs) s (some x) s'
  | next {b : Branch} {bs : List Branch} {s s' s'' : Watching} {r : Option Occurrence}
    (h : Looks w now b s none s') (rest : Round w now bs s' r s'') :
    Round w now (b :: bs) s r s''

/-- Whether nothing happens between two moments. -/
def Still (w : Watch) (now next : Nat) : Prop := ∀ o ∈ w.occurrences, o.at_ ≤ now ∨ next ≤ o.at_

/-- A watch before its first round. -/
def start (w : Watch) : Watching := ⟨List.range w.consumers.length, true⟩

/-- **A watch that goes on**: after some rounds that found nothing it looks again at a moment. -/
inductive Waited (w : Watch) : (rounds now : Nat) → Watching → Prop where
  | start : Waited w 0 0 w.start
  | round {rounds now next : Nat} {order : List Branch} {s s' : Watching}
    (h : Waited w rounds now s) (horder : order.Perm Branch.all)
    (hround : Round w now order s none s') (hnext : now < next) (hstill : w.Still now next) :
    Waited w (rounds + 1) next s'

/-- How a watch ends: when, with what, and with which consumers in the set. -/
structure Ending where
  at_ : Nat
  result : Except AppError Unit
  left : List Nat

/-- **A watch that ends**: a round finds something. -/
inductive Ends (w : Watch) : Ending → Prop where
  | intro {rounds now : Nat} {order : List Branch} {s s' : Watching} {x : Occurrence}
    (h : w.Waited rounds now s) (horder : order.Perm Branch.all)
    (hround : Round w now order s (some x) s') : Ends w ⟨now, x.result, s'.left⟩

/-! ## 3. What a round finds -/

/-- All consumers are in the set, and it is asked unless there are none. -/
structure Whole (w : Watch) (s : Watching) : Prop where
  left : s.left = List.range w.consumers.length
  asks : s.asks = false → w.consumers = []

theorem whole_start (w : Watch) : w.Whole w.start := ⟨rfl, nofun⟩

/-- The consumers in the set after an occurrence. -/
def leftAfter (w : Watch) : Occurrence → List Nat
  | .consumer i _ => (List.range w.consumers.length).erase i
  | _ => List.range w.consumers.length

variable {now : Nat} {b : Branch} {s s' : Watching} {x : Occurrence} {order : List Branch}

theorem Whole.mem_left {i : Nat} {e : Option (Timed ConsumerEnd)} (h : w.Whole s)
    (hi : w.consumers[i]? = some e) : i ∈ s.left := by
  rw [h.left, List.mem_range]
  exact (List.getElem?_eq_some_iff.mp hi).1

/-- A look that finds nothing leaves the set as it is, and nothing has happened there. -/
theorem Whole.looks_none (h : w.Whole s) (hlooks : Looks w now b s none s') :
    w.Whole s' ∧ ∀ o, w.Comes b o → now < o.at_ := by
  cases hlooks with
  | nothing _ hlater => exact ⟨h, hlater⟩
  | running _ _ hlater =>
    refine ⟨h, ?_⟩
    rintro _ ⟨i, e, hi, rfl⟩
    exact hlater i (h.mem_left hi) e hi
  | empty _ hleft =>
    refine ⟨⟨h.left, fun _ => ?_⟩, ?_⟩
    · rw [← List.length_eq_zero_iff, ← List.range_eq_nil, ← h.left, hleft]
    · rintro _ ⟨i, e, hi, rfl⟩
      have hmem := h.mem_left hi
      rw [hleft] at hmem
      cases hmem
  | unasked hasks =>
    refine ⟨h, ?_⟩
    rintro _ ⟨i, e, hi, rfl⟩
    rw [h.asks hasks] at hi
    cases hi

/-- A look that finds something takes the consumer from the set whose end it is. -/
theorem Whole.looks_some (h : w.Whole s) (hlooks : Looks w now b s (some x) s') :
    s'.left = w.leftAfter x ∧ ∃ o, w.Comes b o ∧ o.event = x ∧ o.at_ ≤ now := by
  cases hlooks with
  | happened hb hcomes hnow =>
    refine ⟨?_, _, hcomes, rfl, hnow⟩
    cases b with
    | consumers => exact absurd rfl hb
    | lega | cega | shutdown =>
      obtain ⟨e, -, rfl⟩ := hcomes
      exact h.left
  | ended _ _ hi hnow =>
    refine ⟨?_, _, ⟨_, _, hi, rfl⟩, rfl, hnow⟩
    show s.left.erase _ = _
    rw [h.left]
    rfl

/-- A round that finds nothing leaves the set as it is, and nothing has happened. -/
theorem Whole.round_none (h : w.Whole s) (hround : Round w now order s none s') :
    w.Whole s' ∧ ∀ b ∈ order, ∀ o, w.Comes b o → now < o.at_ := by
  generalize hr : (none : Option Occurrence) = r at hround
  induction hround with
  | finished => exact ⟨h, fun _ hb => absurd hb List.not_mem_nil⟩
  | stop _ => cases hr
  | next hlooks _ ih =>
    obtain ⟨hwhole, hhead⟩ := h.looks_none hlooks
    obtain ⟨hwhole', hrest⟩ := ih hwhole hr
    exact ⟨hwhole', List.forall_mem_cons.mpr ⟨hhead, hrest⟩⟩

/-- A round that finds something finds what has happened, and takes its consumer from the set. -/
theorem Whole.round_some (h : w.Whole s) (hround : Round w now order s (some x) s') :
    s'.left = w.leftAfter x ∧ ∃ o ∈ w.occurrences, o.event = x ∧ o.at_ ≤ now := by
  generalize hr : some x = r at hround
  induction hround with
  | finished => cases hr
  | stop hlooks =>
    cases hr
    obtain ⟨hleft, o, hcomes, hevent, hnow⟩ := h.looks_some hlooks
    exact ⟨hleft, o, mem_occurrences_iff.mpr ⟨_, hcomes⟩, hevent, hnow⟩
  | next hlooks _ ih => exact ih (h.looks_none hlooks).1 hr

/-- Every branch can be looked at. -/
theorem exists_looks (w : Watch) (now : Nat) (b : Branch) (s : Watching) :
    ∃ r s', Looks w now b s r s' := by
  by_cases hb : b = .consumers
  · subst hb
    cases hasks : s.asks with
    | false => exact ⟨none, s, .unasked hasks⟩
    | true =>
      by_cases hended : ∃ i ∈ s.left, ∃ e, w.consumers[i]? = some (some e) ∧ e.at_ ≤ now
      · obtain ⟨i, hi, e, he, hnow⟩ := hended
        exact ⟨_, _, .ended hasks hi he hnow⟩
      · by_cases hleft : s.left = []
        · exact ⟨none, _, .empty hasks hleft⟩
        · refine ⟨none, s, .running hasks hleft fun i hi e he => ?_⟩
          exact Nat.lt_of_not_le fun hnow => hended ⟨i, hi, e, he, hnow⟩
  · by_cases hcomes : ∃ o, w.Comes b o ∧ o.at_ ≤ now
    · obtain ⟨o, ho, hnow⟩ := hcomes
      exact ⟨_, s, .happened hb ho hnow⟩
    · refine ⟨none, s, .nothing hb fun o ho => ?_⟩
      exact Nat.lt_of_not_le fun hnow => hcomes ⟨o, ho, hnow⟩

/-- Every round comes to an end. -/
theorem exists_round (w : Watch) (now : Nat) (order : List Branch) (s : Watching) :
    ∃ r s', Round w now order s r s' := by
  induction order generalizing s with
  | nil => exact ⟨none, s, .finished⟩
  | cons b order ih =>
    obtain ⟨r, s', hlooks⟩ := exists_looks w now b s
    cases r with
    | some x => exact ⟨some x, s', .stop hlooks⟩
    | none =>
      obtain ⟨r, s'', hround⟩ := ih s'
      exact ⟨r, s'', .next hlooks hround⟩

/-- What has happened at a branch may be found there. -/
theorem Whole.exists_looks_of_comes (h : w.Whole s) (hcomes : w.Comes b o) (hnow : o.at_ ≤ now) :
    ∃ s', Looks w now b s (some o.event) s' := by
  cases b with
  | lega | cega | shutdown => exact ⟨s, .happened nofun hcomes hnow⟩
  | consumers =>
    obtain ⟨i, e, hi, rfl⟩ := hcomes
    cases hasks : s.asks with
    | true => exact ⟨_, .ended hasks (h.mem_left hi) hi hnow⟩
    | false =>
      rw [h.asks hasks] at hi
      cases hi

/-! ## 4. What a watch comes to -/

variable {rounds : Nat}

/-- **The invariant of a watch**: the set is as it was, and the moment is not past anything that
happens, although every round takes it further. -/
theorem Waited.invariant (h : w.Waited rounds now s) :
    w.Whole s ∧ rounds ≤ now ∧ ∀ o ∈ w.occurrences, now ≤ o.at_ := by
  induction h with
  | start => exact ⟨w.whole_start, Nat.le_refl 0, fun o _ => Nat.zero_le o.at_⟩
  | round _ horder hround hnext hstill ih =>
    obtain ⟨hwhole, hrounds, -⟩ := ih
    obtain ⟨hwhole', hlater⟩ := hwhole.round_none hround
    refine ⟨hwhole', Nat.succ_le_of_lt (Nat.lt_of_le_of_lt hrounds hnext), fun o ho => ?_⟩
    obtain ⟨b, hb⟩ := mem_occurrences_iff.mp ho
    have hlt := hlater b (horder.mem_iff.mpr b.mem_all) o hb
    exact (hstill o ho).resolve_left (Nat.not_le_of_lt hlt)

/-- The first of what happens. -/
def IsFirst (w : Watch) (o : Timed Occurrence) : Prop :=
  o ∈ w.occurrences ∧ ∀ p ∈ w.occurrences, o.at_ ≤ p.at_

/-- How a watch ends with an occurrence. -/
def endingOf (w : Watch) (o : Timed Occurrence) : Ending :=
  ⟨o.at_, o.event.result, w.leftAfter o.event⟩

theorem Ends.exists_first {e : Ending} (h : w.Ends e) :
    ∃ o, w.IsFirst o ∧ e = w.endingOf o := by
  obtain ⟨hwaited, -, hround⟩ := h
  obtain ⟨hwhole, -, hle⟩ := hwaited.invariant
  obtain ⟨hleft, o, ho, rfl, hnow⟩ := hwhole.round_some hround
  obtain rfl := Nat.le_antisymm hnow (hle o ho)
  exact ⟨o, ⟨ho, hle⟩, by rw [hleft, endingOf]⟩

/-- There is time to wait for the first of what happens. -/
theorem IsFirst.exists_waited (h : w.IsFirst o) : ∃ rounds s, w.Waited rounds o.at_ s := by
  by_cases hzero : o.at_ = 0
  · rw [hzero]
    exact ⟨0, _, .start⟩
  · obtain ⟨r, s', hround⟩ := exists_round w 0 Branch.all w.start
    cases r with
    | none =>
      refine ⟨1, s', .round .start (List.Perm.refl _) hround (Nat.pos_of_ne_zero hzero) ?_⟩
      exact fun p hp => .inr (h.2 p hp)
    | some x =>
      obtain ⟨-, p, hp, -, hnow⟩ := w.whole_start.round_some hround
      have := h.2 p hp
      omega

/-- A watch may end with any of the first of what happens. -/
theorem IsFirst.ends (h : w.IsFirst o) : w.Ends (w.endingOf o) := by
  obtain ⟨rounds, s, hwaited⟩ := h.exists_waited
  obtain ⟨hwhole, -⟩ := hwaited.invariant
  obtain ⟨b, hb⟩ := mem_occurrences_iff.mp h.1
  obtain ⟨s', hlooks⟩ := hwhole.exists_looks_of_comes hb (Nat.le_refl o.at_)
  have horder : (b :: Branch.all.erase b).Perm Branch.all :=
    (List.perm_cons_erase b.mem_all).symm
  rw [endingOf, ← (hwhole.looks_some hlooks).1]
  exact .intro hwaited horder (.stop hlooks)

theorem ends_iff {e : Ending} : w.Ends e ↔ ∃ o, w.IsFirst o ∧ e = w.endingOf o := by
  constructor
  · exact Ends.exists_first
  · rintro ⟨o, ho, rfl⟩
    exact ho.ends

/-! ## 5. All orders of looking -/

/-- There is a first unless there is none at all. -/
theorem first?_eq_none_iff {order : List (Timed Occurrence)} :
    first? order = none ↔ order = [] := by
  cases order with
  | nil => exact iff_of_true rfl rfl
  | cons o order =>
    refine iff_of_false ?_ (List.cons_ne_nil o order)
    rw [first?]
    split
    · exact Option.some_ne_none o
    · split <;> exact Option.some_ne_none _

/-- The first of some occurrences is one of them, and none of them comes before it. -/
theorem of_first? {order : List (Timed Occurrence)} (h : first? order = some o) :
    o ∈ order ∧ ∀ p ∈ order, o.at_ ≤ p.at_ := by
  induction order generalizing o with
  | nil => cases h
  | cons q order ih =>
    rw [first?] at h
    cases hrest : first? order with
    | none =>
      rw [hrest] at h
      obtain rfl := Option.some.inj h
      rw [first?_eq_none_iff.mp hrest]
      exact ⟨List.mem_cons_self, by simp⟩
    | some p =>
      obtain ⟨hp, hle⟩ := ih hrest
      rw [hrest] at h
      dsimp only at h
      split at h
      · rename_i hlt
        obtain rfl := Option.some.inj h
        exact ⟨List.mem_cons_of_mem _ hp, List.forall_mem_cons.mpr ⟨Nat.le_of_lt hlt, hle⟩⟩
      · rename_i hnot
        obtain rfl := Option.some.inj h
        have hle' := Nat.le_of_not_lt hnot
        exact ⟨List.mem_cons_self, List.forall_mem_cons.mpr
          ⟨Nat.le_refl _, fun r hr => Nat.le_trans hle' (hle r hr)⟩⟩

theorem first?_cons_of_le {order : List (Timed Occurrence)} (h : ∀ p ∈ order, o.at_ ≤ p.at_) :
    first? (o :: order) = some o := by
  rw [first?]
  cases hrest : first? order with
  | none => rfl
  | some p => exact if_neg (Nat.not_lt_of_le (h p (of_first? hrest).1))

/-- What is told of how a watch ended. -/
def Ending.told (e : Ending) : WatchEnd := ⟨e.at_, e.result, e.left.length⟩

theorem told_endingOf (ho : o ∈ w.occurrences) :
    (w.endingOf o).told = ⟨o.at_, o.event.result,
      w.consumers.length - if o.event.isConsumer then 1 else 0⟩ := by
  have hlength : (w.leftAfter o.event).length =
      w.consumers.length - if o.event.isConsumer then 1 else 0 := by
    obtain ⟨b, hb⟩ := mem_occurrences_iff.mp ho
    cases b with
    | lega | cega | shutdown =>
      obtain ⟨e, -, rfl⟩ := hb
      exact List.length_range
    | consumers =>
      obtain ⟨i, e, hi, rfl⟩ := hb
      have hmem : i ∈ List.range w.consumers.length :=
        List.mem_range.mpr (List.getElem?_eq_some_iff.mp hi).1
      show ((List.range w.consumers.length).erase i).length = w.consumers.length - 1
      rw [List.length_erase_of_mem hmem, List.length_range]
  rw [Ending.told, endingOf, hlength]

/-- **The ends of a watch are those that are found at once**, in the orders of looking. -/
theorem exists_endBy_iff {told : WatchEnd} :
    (∃ order, order.Perm w.occurrences ∧ w.endBy order = some told) ↔
      ∃ e, w.Ends e ∧ e.told = told := by
  simp only [ends_iff, endBy, Option.map_eq_some_iff]
  constructor
  · rintro ⟨order, horder, o, hfirst, rfl⟩
    obtain ⟨ho, hle⟩ := of_first? hfirst
    have ho' : o ∈ w.occurrences := horder.mem_iff.mp ho
    exact ⟨_, ⟨o, ⟨ho', fun p hp => hle p (horder.mem_iff.mpr hp)⟩, rfl⟩, told_endingOf ho'⟩
  · rintro ⟨_, ⟨o, ⟨ho, hle⟩, rfl⟩, rfl⟩
    obtain ⟨before, after, hsplit⟩ := List.append_of_mem ho
    have horder : (o :: (before ++ after)).Perm w.occurrences := by
      rw [hsplit]
      exact List.perm_middle.symm
    refine ⟨_, horder, o, first?_cons_of_le fun p hp => ?_, (told_endingOf ho).symm⟩
    exact hle p (horder.mem_iff.mp (List.mem_cons_of_mem o hp))

/-! ## 6. The first thing that happens -/

/-- **What a watch may end as at a moment**: with an end of a connection, with a consumer that
returned or did not, which leaves the set, or with a shutdown that failed or did not. -/
inductive EndsAs (w : Watch) (at_ : Nat) : Except AppError Unit → List Nat → Prop where
  | connection {e : SupervisorError} (h : w.lega = some ⟨at_, e⟩ ∨ w.cega = some ⟨at_, e⟩) :
    EndsAs w at_ (.error (.supervisor e)) (List.range w.consumers.length)
  | returned {i : Nat} {e : ForwardError}
    (h : w.consumers[i]? = some (some ⟨at_, .returned e⟩)) :
    EndsAs w at_ (.error (.forward e)) ((List.range w.consumers.length).erase i)
  | failed {i : Nat} {ended : TaskEnd}
    (h : w.consumers[i]? = some (some ⟨at_, .failed ended⟩)) :
    EndsAs w at_ (.error (.task ended)) ((List.range w.consumers.length).erase i)
  | shutdown (h : w.shutdown = some ⟨at_, .ok ()⟩) :
    EndsAs w at_ (.ok ()) (List.range w.consumers.length)
  | signal {e : IoFailure} (h : w.shutdown = some ⟨at_, .error e⟩) :
    EndsAs w at_ (.error (.signal e)) (List.range w.consumers.length)

theorem endsAs_iff {at_ : Nat} {result : Except AppError Unit} {left : List Nat} :
    w.EndsAs at_ result left ↔
      ∃ o ∈ w.occurrences, ⟨at_, result, left⟩ = w.endingOf o := by
  constructor
  · rintro (⟨h | h⟩ | h | h | h | h)
    · exact ⟨_, mem_occurrences_iff.mpr ⟨.lega, _, h, rfl⟩, rfl⟩
    · exact ⟨_, mem_occurrences_iff.mpr ⟨.cega, _, h, rfl⟩, rfl⟩
    · exact ⟨_, mem_occurrences_iff.mpr ⟨.consumers, _, _, h, rfl⟩, rfl⟩
    · exact ⟨_, mem_occurrences_iff.mpr ⟨.consumers, _, _, h, rfl⟩, rfl⟩
    · exact ⟨_, mem_occurrences_iff.mpr ⟨.shutdown, _, h, rfl⟩, rfl⟩
    · exact ⟨_, mem_occurrences_iff.mpr ⟨.shutdown, _, h, rfl⟩, rfl⟩
  · rintro ⟨o, ho, hending⟩
    cases hending
    obtain ⟨b, hb⟩ := mem_occurrences_iff.mp ho
    cases b with
    | lega =>
      obtain ⟨e, he, rfl⟩ := hb
      exact .connection (.inl he)
    | cega =>
      obtain ⟨e, he, rfl⟩ := hb
      exact .connection (.inr he)
    | consumers =>
      obtain ⟨i, ⟨at_, ended⟩, he, rfl⟩ := hb
      cases ended with
      | returned e => exact .returned he
      | failed ended => exact .failed he
    | shutdown =>
      obtain ⟨⟨at_, result⟩, he, rfl⟩ := hb
      cases result with
      | ok => exact .shutdown he
      | error e => exact .signal he

/-- **The watch ends with the first thing that happens.**

* It ends at a moment with a result just when nothing happens before it and the result is that of
  something that happens then.  The set of consumers is whole, but for the consumer whose end it is.
* It goes on until then: it never gets stuck in a round, no round that finds nothing comes late, and
  there are not more of them than moments before the first thing that happens.
* It ends if anything happens at all, which is nothing for an empty set of consumers.  It ends well
  only with a shutdown.
* What is found at once, by any order of looking, are these ends. -/
theorem ends_first (w : Watch) :
    (∀ e, w.Ends e ↔
      (∀ o ∈ w.occurrences, e.at_ ≤ o.at_) ∧ w.EndsAs e.at_ e.result e.left) ∧
      (∀ rounds now s, w.Waited rounds now s →
        (∀ o ∈ w.occurrences, rounds ≤ now ∧ now ≤ o.at_) ∧
        ∀ order, order.Perm Branch.all → ∃ r s', Round w now order s r s' ∧
          (r = none → ∀ o ∈ w.occurrences, now < o.at_)) ∧
      ((∃ e, w.Ends e) ↔ ∃ o, o ∈ w.occurrences) ∧
      (w.consumers = [] → w.lega = none → w.cega = none → w.shutdown = none → ¬∃ e, w.Ends e) ∧
      (∀ e, w.Ends e → e.result = .ok () → w.shutdown = some ⟨e.at_, .ok ()⟩) ∧
      ∀ told, (∃ order, order.Perm w.occurrences ∧ w.endBy order = some told) ↔
        ∃ e, w.Ends e ∧ e.told = told := by
  have hends : ∀ e, w.Ends e ↔
      (∀ o ∈ w.occurrences, e.at_ ≤ o.at_) ∧ w.EndsAs e.at_ e.result e.left := by
    intro e
    rw [ends_iff, endsAs_iff]
    constructor
    · rintro ⟨o, ⟨ho, hle⟩, rfl⟩
      exact ⟨hle, o, ho, rfl⟩
    · rintro ⟨hle, o, ho, hending⟩
      change e = w.endingOf o at hending
      subst hending
      exact ⟨o, ⟨ho, hle⟩, rfl⟩
  refine ⟨hends, fun rounds now s hwaited => ?_, ⟨?_, ?_⟩, ?_, fun e he hok => ?_,
    fun _ => exists_endBy_iff⟩
  · obtain ⟨hwhole, hrounds, hle⟩ := hwaited.invariant
    refine ⟨fun o ho => ⟨hrounds, hle o ho⟩, fun order horder => ?_⟩
    obtain ⟨r, s', hround⟩ := exists_round w now order s
    refine ⟨r, s', hround, ?_⟩
    rintro rfl o ho
    obtain ⟨b, hb⟩ := mem_occurrences_iff.mp ho
    exact (hwhole.round_none hround).2 b (horder.mem_iff.mpr b.mem_all) o hb
  · rintro ⟨e, he⟩
    obtain ⟨o, ⟨ho, -⟩, -⟩ := ends_iff.mp he
    exact ⟨o, ho⟩
  · rintro ⟨o, ho⟩
    cases hfirst : first? w.occurrences with
    | none =>
      rw [first?_eq_none_iff.mp hfirst] at ho
      cases ho
    | some p => exact ⟨_, IsFirst.ends (of_first? hfirst)⟩
  · rintro hconsumers hlega hcega hshutdown ⟨e, he⟩
    obtain ⟨o, ⟨ho, -⟩, -⟩ := ends_iff.mp he
    rw [occurrences, hconsumers, hlega, hcega, hshutdown] at ho
    cases ho
  · obtain ⟨at_, result, left⟩ := e
    obtain rfl : result = .ok () := hok
    obtain ⟨-, has⟩ := (hends _).mp he
    cases has with
    | shutdown h => exact h

/-- A consumer returns as a connection closes, before the shutdown: either may end the watch. -/
def closing : Watch where
  lega := some ⟨5, .connectionClosed "lega-mq"⟩
  consumers := [none, some ⟨5, .returned (.consumerClosed "inbox")⟩]
  shutdown := some ⟨9, .ok ()⟩

/-- Both ends of such a watch, and not the shutdown. -/
theorem closing_ends :
    closing.Ends ⟨5, .error (.supervisor (.connectionClosed "lega-mq")), [0, 1]⟩ ∧
      closing.Ends ⟨5, .error (.forward (.consumerClosed "inbox")), [0]⟩ ∧
      ¬closing.Ends ⟨9, .ok (), [0, 1]⟩ ∧
      ¬∃ e, Ends {} e := by
  obtain ⟨hends, -⟩ := ends_first closing
  obtain ⟨-, -, -, hnever, -⟩ := ends_first {}
  have hle : ∀ o ∈ closing.occurrences, 5 ≤ o.at_ := by decide
  refine ⟨(hends _).mpr ⟨hle, .connection (.inl rfl)⟩, (hends _).mpr ⟨hle, .returned (i := 1) rfl⟩,
    fun h => ?_, hnever rfl rfl rfl rfl⟩
  have hlate := ((hends _).mp h).1
  revert hlate
  decide

end Watch

end BrokerBridge
