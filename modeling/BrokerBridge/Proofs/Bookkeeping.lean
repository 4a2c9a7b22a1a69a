import BrokerBridge.Proofs.Fifo
import Mathlib.Data.List.DropRight

/-!
# What a channel in memory remembers of settlements

A channel keeps two flags, whether deliveries were acked and nacked, and a mark, how the last of
them that was given back was to be requeued.  Reading the flags resets them, reading the mark does
not, and the steps of `ChannelStep` write them in different ways.

The uses of a channel say the same without flags.  Since the flags were last read
(`ChannelUse.sinceReading`) there were acks or there were none, and nacks or none; and of all nacks
and rejects since the channel was made one is the latest (`ChannelUse.latestRequeue`).

* `MemoryChannel.use_remembers`: what one use does to the flags and to the mark.
* `MemoryChannel.flag_afterUses` and `MemoryChannel.lastRequeue_afterUses`: so flags and mark are
  what the uses say, after any number of them.
* `Decides.filterMap_results`: uses that do not concern the flags can be left out, and all readings
  of the flags stay the same; the mark is the other instance.
* **`MemoryChannel.bookkeeping`**: every reading of a channel that was made of an exchange and some
  bindings, in whatever way it is used.
-/
namespace BrokerBridge

/-! ## 1. Uses -/

/-- One use of a channel in memory: a step, or a look at the latest requeue flag. -/
inductive ChannelUse where
  | step (s : ChannelStep)
  | lastRequeue

/-- What a use comes to. -/
inductive UseResult where
  | came (r : StepResult)
  | lastRequeue (requeue : Option Bool)

namespace ChannelUse

/-- Whether a use acks. -/
def isAck : ChannelUse → Bool
  | step (.perform (.ack _ _)) => true
  | _ => false

/-- Whether a use nacks.  A reject is no nack. -/
def isNack : ChannelUse → Bool
  | step (.perform (.nack _ _ _)) => true
  | _ => false

/-- Whether a use reads the flags. -/
def readsFlags : ChannelUse → Bool
  | step .takeSettled => true
  | _ => false

/-- The requeue flag of a nack or a reject. -/
def requeue? : ChannelUse → Option Bool
  | step (.perform (.nack _ _ requeue)) => some requeue
  | step (.perform (.reject _ requeue)) => some requeue
  | _ => none

/-- The uses since the flags were last read, or all of them when the flags never were. -/
def sinceReading (uses : List ChannelUse) : List ChannelUse :=
  uses.rtakeWhile fun u => !u.readsFlags

/-- The requeue flag of the latest nack or reject, if there was one. -/
def latestRequeue (uses : List ChannelUse) : Option Bool := (uses.filterMap requeue?).getLast?

theorem sinceReading_concat (uses : List ChannelUse) (u : ChannelUse) :
    sinceReading (uses ++ [u]) = if u.readsFlags then [] else sinceReading uses ++ [u] := by
  rw [sinceReading, List.rtakeWhile_concat]
  cases u.readsFlags <;> rfl

theorem latestRequeue_concat (uses : List ChannelUse) (u : ChannelUse) :
    latestRequeue (uses ++ [u]) = u.requeue?.or (latestRequeue uses) := by
  rw [latestRequeue, List.filterMap_append, List.getLast?_append]
  cases h : u.requeue? <;> simp [h, latestRequeue]

/-- Whether a use has to do with the flags: it sets one, or reads them. -/
def concernsFlags (u : ChannelUse) : Bool := u.isAck || u.isNack || u.readsFlags

/-- Whether a use has to do with the mark: it sets it, or reads it. -/
def concernsRequeue : ChannelUse → Bool
  | lastRequeue => true
  | u => u.requeue?.isSome

end ChannelUse

namespace UseResult

/-- The flags that a use read, if it did. -/
def settled? : UseResult → Option (Bool × Bool)
  | came (.settled acked nacked) => some (acked, nacked)
  | _ => none

/-- The mark that a use read, if it did. -/
def requeue? : UseResult → Option (Option Bool)
  | lastRequeue requeue => some requeue
  | _ => none

end UseResult

namespace MemoryChannel

/-- Uses a channel. -/
def use (c : MemoryChannel) : ChannelUse → UseResult × MemoryChannel
  | .step s => (.came (c.step s).1, (c.step s).2)
  | .lastRequeue => (.lastRequeue c.lastRequeue, c)

/-- The channel after some uses. -/
def afterUses (c : MemoryChannel) (uses : List ChannelUse) : MemoryChannel :=
  uses.foldl (fun c u => (c.use u).2) c

/-- What each of some uses comes to. -/
def results (c : MemoryChannel) : List ChannelUse → List UseResult
  | [] => []
  | u :: rest => (c.use u).1 :: (c.use u).2.results rest

theorem afterUses_concat (c : MemoryChannel) (uses : List ChannelUse) (u : ChannelUse) :
    c.afterUses (uses ++ [u]) = ((c.afterUses uses).use u).2 := by
  rw [afterUses, List.foldl_append]
  rfl

theorem results_append (u : ChannelUse) (later : List ChannelUse) :
    ∀ (before : List ChannelUse) (c : MemoryChannel),
      c.results (before ++ u :: later) = c.results before ++
        ((c.afterUses before).use u).1 :: (c.afterUses (before ++ [u])).results later
  | [], _ => rfl
  | v :: before, c => congrArg ((c.use v).1 :: ·) (results_append u later before (c.use v).2)

/-! ## 2. Flags and mark after any uses -/

/-- **One use.**  An ack and a nack set a flag each, and reading the flags resets both; a nack and a
reject set the mark, and nothing resets it. -/
theorem use_remembers (c : MemoryChannel) (u : ChannelUse) :
    (c.use u).2.acked = (!u.readsFlags && (u.isAck || c.acked)) ∧
      (c.use u).2.nacked = (!u.readsFlags && (u.isNack || c.nacked)) ∧
      (c.use u).2.lastRequeue = u.requeue?.or c.lastRequeue := by
  cases u with
  | lastRequeue => exact ⟨rfl, rfl, rfl⟩
  | step s =>
    cases s with
    | measure _ | takeSettled | setUnavailable _ => exact ⟨rfl, rfl, rfl⟩
    | take queue =>
      simp only [use, step, take]
      split <;> exact ⟨rfl, rfl, rfl⟩
    | perform op =>
      cases op with
      | ack _ _ | nack _ _ _ | reject _ _ => exact ⟨rfl, rfl, rfl⟩
      | publish p =>
        simp only [use, step, perform, publish]
        split
        · exact ⟨rfl, rfl, rfl⟩
        · split <;> exact ⟨rfl, rfl, rfl⟩

/-- **A flag** that uses of one kind set and a reading resets tells whether there was such a use
since the last reading. -/
theorem flag_afterUses {flag : MemoryChannel → Bool} {sets : ChannelUse → Bool}
    (hstep : ∀ c u, flag (c.use u).2 = (!u.readsFlags && (sets u || flag c))) {c : MemoryChannel}
    (hstart : flag c = false) (uses : List ChannelUse) :
    flag (c.afterUses uses) = (ChannelUse.sinceReading uses).any sets := by
  induction uses using List.reverseRecOn with
  | nil => exact hstart
  | append_singleton uses u ih =>
    rw [afterUses_concat, hstep, ih, ChannelUse.sinceReading_concat]
    cases u.readsFlags with
    | true => rfl
    | false => simp [Bool.or_comm]

/-- The mark is the requeue flag of the latest nack or reject. -/
theorem lastRequeue_afterUses {c : MemoryChannel} (hstart : c.lastRequeue = none)
    (uses : List ChannelUse) : (c.afterUses uses).lastRequeue = ChannelUse.latestRequeue uses := by
  induction uses using List.reverseRecOn with
  | nil => exact hstart
  | append_singleton uses u ih =>
    rw [afterUses_concat, (use_remembers _ u).2.2, ih, ChannelUse.latestRequeue_concat]

end MemoryChannel

/-! ## 3. What does not concern a reading -/

/-- **A part of a channel decides what certain readings show**, and only certain uses concern it. -/
structure Decides {β γ : Type} (part : MemoryChannel → β) (shown : UseResult → Option γ)
    (concerns : ChannelUse → Bool) : Prop where
  shown_eq : ∀ {c c' : MemoryChannel}, part c = part c' →
    ∀ u, shown (c.use u).1 = shown (c'.use u).1
  part_eq : ∀ {c c' : MemoryChannel}, part c = part c' →
    ∀ u, part (c.use u).2 = part (c'.use u).2
  frame : ∀ c u, concerns u = false → shown (c.use u).1 = none ∧ part (c.use u).2 = part c

/-- **Other uses can be left out**, and all that is shown stays the same. -/
theorem Decides.filterMap_results {β γ : Type} {part : MemoryChannel → β}
    {shown : UseResult → Option γ} {concerns : ChannelUse → Bool}
    (h : Decides part shown concerns) :
    ∀ (uses : List ChannelUse) {c c' : MemoryChannel}, part c = part c' →
      (c.results uses).filterMap shown = (c'.results (uses.filter concerns)).filterMap shown
  | [], _, _, _ => rfl
  | u :: rest, c, c', hpart => by
    rw [List.filter_cons, MemoryChannel.results, List.filterMap_cons]
    cases hu : concerns u with
    | false =>
      obtain ⟨hnone, hsame⟩ := h.frame c u hu
      rw [hnone]
      exact h.filterMap_results rest (hsame.trans hpart)
    | true =>
      have ih := h.filterMap_results rest (h.part_eq hpart u)
      rw [if_pos rfl, MemoryChannel.results, List.filterMap_cons, h.shown_eq hpart u, ih]

namespace MemoryChannel

/-- Only a reading of the flags shows them. -/
theorem settled?_use (c : MemoryChannel) (u : ChannelUse) :
    (c.use u).1.settled? = if u.readsFlags then some (c.acked, c.nacked) else none := by
  cases u with
  | lastRequeue => rfl
  | step s => cases s <;> rfl

theorem decides_flags :
    Decides (fun c => (c.acked, c.nacked)) UseResult.settled? ChannelUse.concernsFlags where
  shown_eq {c c'} hpart u := by
    obtain ⟨hacked, hnacked⟩ := Prod.mk.inj hpart
    rw [settled?_use, settled?_use, hacked, hnacked]
  part_eq {c c'} hpart u := by
    obtain ⟨hacked, hnacked⟩ := Prod.mk.inj hpart
    simp only [(use_remembers _ u).1, (use_remembers _ u).2.1, hacked, hnacked]
  frame c u hu := by
    simp only [ChannelUse.concernsFlags, Bool.or_eq_false_iff] at hu
    obtain ⟨⟨hack, hnack⟩, hreads⟩ := hu
    refine ⟨?_, ?_⟩
    · rw [settled?_use, hreads]
      rfl
    · simp only [(use_remembers c u).1, (use_remembers c u).2.1, hack, hnack, hreads,
        Bool.not_false, Bool.true_and, Bool.false_or]

theorem decides_lastRequeue :
    Decides lastRequeue UseResult.requeue? ChannelUse.concernsRequeue where
  shown_eq {c c'} hpart u := by
    cases u with
    | step _ => rfl
    | lastRequeue => exact congrArg some hpart
  part_eq {c c'} hpart u := by
    rw [(use_remembers c u).2.2, (use_remembers c' u).2.2, hpart]
  frame c u hu := by
    cases u with
    | lastRequeue => cases hu
    | step s =>
      have hnone : (ChannelUse.step s).requeue? = none :=
        Option.isNone_iff_eq_none.mp (Option.isSome_eq_false_iff.mp hu)
      exact ⟨rfl, by rw [(use_remembers c _).2.2, hnone, Option.none_or]⟩

/-! ## 4. All readings -/

/-- **What a channel in memory tells of settlements.**  However it is used since it was made of an
exchange and some bindings:

* reading the flags tells whether there was an ack, and whether there was a nack, since they were
  last read, or since the channel was made; a reject is neither;
* reading the mark tells the requeue flag of the latest nack or reject of all, and nothing before
  the first;
* no reading of the flags would be another one without the publications, the messages taken, the
  changes of availability, the rejects and the readings of the mark, and no reading of the mark
  without the first three, the acks and the readings of the flags. -/
theorem bookkeeping (exchange : String) (bindings : List (String × String)) :
    let made := made exchange bindings
    (∀ before later : List ChannelUse,
      made.results (before ++ .step .takeSettled :: later) =
        made.results before ++
          .came (.settled ((ChannelUse.sinceReading before).any ChannelUse.isAck)
              ((ChannelUse.sinceReading before).any ChannelUse.isNack)) ::
            (made.afterUses (before ++ [.step .takeSettled])).results later) ∧
    (∀ before later : List ChannelUse,
      made.results (before ++ .lastRequeue :: later) =
        made.results before ++ .lastRequeue (ChannelUse.latestRequeue before) ::
          (made.afterUses (before ++ [.lastRequeue])).results later) ∧
    ∀ uses : List ChannelUse,
      (made.results uses).filterMap UseResult.settled? =
        (made.results (uses.filter ChannelUse.concernsFlags)).filterMap UseResult.settled? ∧
      (made.results uses).filterMap UseResult.requeue? =
        (made.results (uses.filter ChannelUse.concernsRequeue)).filterMap UseResult.requeue? := by
  intro made
  obtain ⟨hacked, hnacked, hrequeue⟩ :
      made.acked = false ∧ made.nacked = false ∧ made.lastRequeue = none := by
    have hmade : made = { exchange, bindings := Assoc.ofEntries bindings } :=
      made_eq exchange bindings
    rw [hmade]
    exact ⟨rfl, rfl, rfl⟩
  refine ⟨fun before later => ?_, fun before later => ?_, fun uses => ⟨?_, ?_⟩⟩
  · have hack := flag_afterUses (fun c u => (c.use_remembers u).1) hacked before
    have hnack := flag_afterUses (fun c u => (c.use_remembers u).2.1) hnacked before
    rw [results_append, ← hack, ← hnack]
    rfl
  · rw [results_append, ← lastRequeue_afterUses hrequeue before]
    rfl
  · exact decides_flags.filterMap_results uses rfl
  · exact decides_lastRequeue.filterMap_results uses rfl

/-- A reject leaves the flags, a reading of the flags leaves the mark, and the other way round. -/
example :
    let c := made "sda" []
    let op (op : Operation) : ChannelUse := .step (.perform op)
    (c.results [op (.ack 1 false), op (.reject 2 true), .lastRequeue, .step .takeSettled,
      .step .takeSettled, .lastRequeue]).drop 2 =
      [.lastRequeue (some true), .came (.settled true false), .came (.settled false false),
        .lastRequeue (some true)] := rfl

end MemoryChannel

end BrokerBridge
