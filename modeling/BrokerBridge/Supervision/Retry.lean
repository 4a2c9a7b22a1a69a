import BrokerBridge.Log
import BrokerBridge.Settings.Basic

/-!
# Retrying

An operation is tried until it succeeds or the attempts are used up, with a pause of fixed length
after every failure but the last.  There is always a first attempt, whatever the policy says.
Attempts are numbered from 1, and time is counted in milliseconds from the first of them.
-/
namespace BrokerBridge

/-- How often an operation is tried, and the pause between attempts in milliseconds. -/
structure RetryPolicy where
  attempts : UInt32 := 10
  interval : Nat := 10000
  deriving DecidableEq, Repr

/-- The policy for dialing. -/
def RetryPolicy.ofSettings (s : SupervisorSettings) : RetryPolicy :=
  ⟨s.dialAttempts, s.dialIntervalSecs.toNat * 1000⟩

/-- The number of attempts that are made when all of them fail. -/
def RetryPolicy.most (p : RetryPolicy) : Nat := max p.attempts.toNat 1

/-- An attempt: its number, and when it was made. -/
structure Attempt where
  number : Nat
  at_ : Nat
  deriving DecidableEq, Repr

/-- A failed attempt that is followed by another one. -/
structure RetryWarning where
  operation : String
  attempt : Nat
  most : Nat
  error : String
  deriving DecidableEq, Repr

/-- The entry of a failed attempt. -/
def RetryWarning.entry (w : RetryWarning) : Entry :=
  ⟨.warn, "Attempt failed, will retry",
    [("operation", .text w.operation), ("attempt", .number w.attempt),
      ("max_attempts", .number w.most), ("error", .text w.error)]⟩

/-- What came of trying an operation. -/
structure RetryRun (ε α : Type) where
  result : Except ε α
  attempts : List Attempt
  warnings : List RetryWarning
  elapsed : Nat

/-- Tries an operation for the `number`-th time at the moment `now`, with `left` more attempts. -/
def retryFrom (p : RetryPolicy) (what : String) (describe : ε → String)
    (operation : Nat → Except ε α) : (left number now : Nat) → RetryRun ε α
  | 0, number, now => ⟨operation number, [⟨number, now⟩], [], now⟩
  | left + 1, number, now =>
    match operation number with
    | .ok a => ⟨.ok a, [⟨number, now⟩], [], now⟩
    | .error e =>
      let run := retryFrom p what describe operation left (number + 1) (now + p.interval)
      { run with
        attempts := ⟨number, now⟩ :: run.attempts
        warnings := ⟨what, number, p.most, describe e⟩ :: run.warnings }

/-- Tries an operation as a policy says. -/
def retry (p : RetryPolicy) (what : String) (describe : ε → String)
    (operation : Nat → Except ε α) : RetryRun ε α :=
  retryFrom p what describe operation (p.most - 1) 1 0

end BrokerBridge
