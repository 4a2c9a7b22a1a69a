import BrokerBridge.Supervision.CloseSignal
import Mathlib.Data.List.Induction

/-!
# What a close signal tells, and when

Senders of a connection send errors, become more and become fewer, while the bridge calls for the
end of the connection.  A call asks, and asks again as often as it is woken, until it is answered;
so a completed call is an answer, and a call that is given up leaves nothing behind.  All of this
comes in any order, as a list of `SignalStep`s.

What the senders do makes a history of its own: how many of them there are (`SignalStep.alive`) and
which errors they sent (`SignalStep.sent`).

* `CloseSignal.Follows`: how a signal and its answers hang together with that history.  Nothing else
  is needed to know what the next call comes to (`Follows.closed_eq`).
* `Follows.step`: it stays so, whatever happens next.
* **`CloseSignal.tells_errors_first`**: the answers are the errors that were sent, one each and in
  order, and only after the last of them and the last sender that the connection is closed.
-/
namespace BrokerBridge

/-! ## 1. What the senders do -/

/-- Something that happens to a close signal: an error is sent, a sender becomes two or goes, or a
call asks. -/
inductive SignalStep where
  | send (e : LinkFailure)
  | clone
  | drop
  | ask
  deriving DecidableEq, Repr

namespace SignalStep

/-- How many senders there are after a step, when there were `n`.  Where there is none, none can
become two. -/
def senders (n : Nat) : SignalStep → Nat
  | clone => if n = 0 then 0 else n + 1
  | drop => n - 1
  | send _ | ask => n

/-- How many senders there are after some steps, with one at first. -/
def alive (steps : List SignalStep) : Nat := steps.foldl senders 1

/-- The error that a step sends, which takes one of `n` senders. -/
def error? (n : Nat) : SignalStep → Option LinkFailure
  | send e => if n = 0 then none else some e
  | _ => none

/-- The errors that are sent in some steps, in order, with `n` senders at first. -/
def sentFrom (n : Nat) : List SignalStep → List LinkFailure
  | [] => []
  | x :: rest => (x.error? n).toList ++ sentFrom (x.senders n) rest

/-- The errors that are sent in some steps, in order. -/
def sent (steps : List SignalStep) : List LinkFailure := sentFrom 1 steps

/-- No sender comes of none. -/
theorem senders_zero (x : SignalStep) : x.senders 0 = 0 := by cases x <;> rfl

theorem alive_concat (steps : List SignalStep) (x : SignalStep) :
    alive (steps ++ [x]) = x.senders (alive steps) := by
  rw [alive, List.foldl_append]
  rfl

theorem sent_concat (steps : List SignalStep) (x : SignalStep) :
    sent (steps ++ [x]) = sent steps ++ (x.error? (alive steps)).toList := by
  have general (steps : List SignalStep) (n : Nat) :
      sentFrom n (steps ++ [x]) =
        sentFrom n steps ++ (x.error? (steps.foldl senders n)).toList := by
    induction steps generalizing n with
    | nil => exact List.append_nil _
    | cons y rest ih =>
      rw [List.cons_append, sentFrom, ih, sentFrom, List.append_assoc]
      rfl
  exact general steps 1

theorem sent_concat_of_silent {steps : List SignalStep} {x : SignalStep}
    (h : x.error? (alive steps) = none) : sent (steps ++ [x]) = sent steps := by
  rw [sent_concat, h, Option.toList_none, List.append_nil]

theorem sent_concat_send {steps : List SignalStep} (h : alive steps ≠ 0) (e : LinkFailure) :
    sent (steps ++ [send e]) = sent steps ++ [e] := by
  rw [sent_concat, error?, if_neg h, Option.toList_some]

end SignalStep

/-! ## 2. What a signal does -/

namespace CloseSignal

/-- The signal after a step. -/
def step (s : CloseSignal) : SignalStep → CloseSignal
  | .send e => (s.send e).2
  | .clone => s.clone
  | .drop => s.drop
  | .ask => s.closed.2

/-- The signal after some steps. -/
def after (s : CloseSignal) (steps : List SignalStep) : CloseSignal := steps.foldl step s

/-- What a step is answered, if it is a call that is. -/
def answer? (s : CloseSignal) : SignalStep → Option SupervisorError
  | .ask => s.closed.1
  | _ => none

/-- The answers of the calls among some steps that are answered, in order. -/
def answers (s : CloseSignal) : List SignalStep → List SupervisorError
  | [] => []
  | x :: rest => (s.answer? x).toList ++ (s.step x).answers rest

theorem after_append (s : CloseSignal) (steps later : List SignalStep) :
    s.after (steps ++ later) = (s.after steps).after later := List.foldl_append

theorem after_concat (s : CloseSignal) (steps : List SignalStep) (x : SignalStep) :
    s.after (steps ++ [x]) = (s.after steps).step x := by
  rw [after_append]
  rfl

theorem answers_concat (s : CloseSignal) (steps : List SignalStep) (x : SignalStep) :
    s.answers (steps ++ [x]) = s.answers steps ++ ((s.after steps).answer? x).toList := by
  induction steps generalizing s with
  | nil => exact List.append_nil _
  | cons y rest ih =>
    rw [List.cons_append, answers, ih, answers, List.append_assoc]
    rfl

/-- **How a signal follows its senders.**  What waits is what was sent without as many errors as
there were answers, and the answers are those errors; what was answered besides says that the
connection is closed, and then no sender is left. -/
structure Follows (host : String) (steps : List SignalStep) (s : CloseSignal)
    (answers : List SupervisorError) : Prop where
  host_eq : s.host = host
  senders_eq : s.senders = SignalStep.alive steps
  waiting_eq : s.waiting = (SignalStep.sent steps).drop answers.length
  answers_eq : answers =
    ((SignalStep.sent steps).take answers.length).map (.connectionLost host) ++
      List.replicate (answers.length - (SignalStep.sent steps).length) (.connectionClosed host)
  alive_eq_zero : (SignalStep.sent steps).length < answers.length → SignalStep.alive steps = 0

section

variable {host : String} {steps : List SignalStep} {s : CloseSignal}
  {answers : List SupervisorError}

theorem follows_start (host : String) : Follows host [] { host } [] :=
  ⟨rfl, rfl, rfl, rfl, nofun⟩

/-- **What the next call comes to**: the next error that was sent; without one, that the connection
is closed or nothing, and the signal stays as it is. -/
theorem Follows.closed_eq (h : Follows host steps s answers) :
    s.closed =
      match (SignalStep.sent steps)[answers.length]? with
      | some e => (some (.connectionLost host e),
          { s with waiting := (SignalStep.sent steps).drop (answers.length + 1) })
      | none =>
        (if SignalStep.alive steps = 0 then some (.connectionClosed host) else none, s) := by
  have hwaiting := h.waiting_eq
  cases hnext : (SignalStep.sent steps)[answers.length]? with
  | none =>
    rw [List.drop_eq_nil_of_le (List.getElem?_eq_none_iff.mp hnext)] at hwaiting
    simp only [closed, hwaiting, h.senders_eq, h.host_eq]
    split <;> rfl
  | some e =>
    obtain ⟨hlt, he⟩ := List.getElem?_eq_some_iff.mp hnext
    rw [List.drop_eq_getElem_cons hlt, he] at hwaiting
    simp only [closed, hwaiting, h.host_eq]

/-- Nothing is sent, and nothing asked. -/
theorem Follows.of_silent {x : SignalStep} (h : Follows host steps s answers)
    (herror : x.error? (SignalStep.alive steps) = none) {s' : CloseSignal}
    (hhost : s'.host = s.host) (hsenders : s'.senders = x.senders s.senders)
    (hwaiting : s'.waiting = s.waiting) :
    Follows host (steps ++ [x]) s' answers := by
  have hsent := SignalStep.sent_concat_of_silent herror
  constructor
  · exact hhost.trans h.host_eq
  · rw [hsenders, h.senders_eq, SignalStep.alive_concat]
  · rw [hwaiting, h.waiting_eq, hsent]
  · rw [hsent]
    exact h.answers_eq
  · intro hlt
    have hnone := h.alive_eq_zero (hsent ▸ hlt)
    rw [SignalStep.alive_concat, hnone, SignalStep.senders_zero]

/-- An error is sent while there is a sender, and waits behind the others. -/
theorem Follows.of_sent (h : Follows host steps s answers) {e : LinkFailure}
    (hsender : SignalStep.alive steps ≠ 0) :
    Follows host (steps ++ [.send e]) { s with waiting := s.waiting ++ [e] } answers := by
  -- an answer beyond the errors says that no sender is left, so there is none yet
  have hle : answers.length ≤ (SignalStep.sent steps).length :=
    Nat.le_of_not_lt fun hlt => hsender (h.alive_eq_zero hlt)
  have hsent := SignalStep.sent_concat_send hsender e
  have hle' : answers.length ≤ (SignalStep.sent (steps ++ [.send e])).length := by
    rw [hsent, List.length_append]
    exact Nat.le_add_right_of_le hle
  constructor
  · exact h.host_eq
  · rw [SignalStep.alive_concat]
    exact h.senders_eq
  · rw [hsent, List.drop_append_of_le_length hle, ← h.waiting_eq]
  · rw [Nat.sub_eq_zero_of_le hle', hsent, List.take_append_of_le_length hle,
      ← Nat.sub_eq_zero_of_le hle]
    exact h.answers_eq
  · exact fun hlt => absurd hle' (Nat.not_le_of_lt hlt)

/-- A call takes the next error. -/
theorem Follows.of_lost (h : Follows host steps s answers) {e : LinkFailure}
    (hnext : (SignalStep.sent steps)[answers.length]? = some e) :
    Follows host (steps ++ [.ask])
      { s with waiting := (SignalStep.sent steps).drop (answers.length + 1) }
      (answers ++ [.connectionLost host e]) := by
  obtain ⟨hlt, he⟩ := List.getElem?_eq_some_iff.mp hnext
  have hsent : SignalStep.sent (steps ++ [.ask]) = SignalStep.sent steps :=
    SignalStep.sent_concat_of_silent rfl
  have hanswers := h.answers_eq
  rw [Nat.sub_eq_zero_of_le (Nat.le_of_lt hlt), List.replicate_zero, List.append_nil] at hanswers
  constructor
  · exact h.host_eq
  · rw [SignalStep.alive_concat]
    exact h.senders_eq
  · rw [hsent, List.length_append, List.length_singleton]
  · rw [hsent, List.length_append, List.length_singleton, Nat.sub_eq_zero_of_le hlt,
      List.take_succ_eq_append_getElem hlt, he, List.map_append, ← hanswers]
    simp
  · rw [hsent, List.length_append, List.length_singleton]
    exact fun hgt => absurd hgt (Nat.not_lt_of_le hlt)

/-- A call finds that nothing is left and no sender either. -/
theorem Follows.of_closed (h : Follows host steps s answers)
    (hnext : (SignalStep.sent steps)[answers.length]? = none)
    (hsender : SignalStep.alive steps = 0) :
    Follows host (steps ++ [.ask]) s (answers ++ [.connectionClosed host]) := by
  have hle := List.getElem?_eq_none_iff.mp hnext
  have hsent : SignalStep.sent (steps ++ [.ask]) = SignalStep.sent steps :=
    SignalStep.sent_concat_of_silent rfl
  have halive : SignalStep.alive (steps ++ [.ask]) = SignalStep.alive steps :=
    SignalStep.alive_concat steps .ask
  have hanswers := h.answers_eq
  rw [List.take_of_length_le hle] at hanswers
  have hlength : (answers ++ [SupervisorError.connectionClosed host]).length = answers.length + 1 :=
    List.length_append
  constructor
  · exact h.host_eq
  · rw [halive]
    exact h.senders_eq
  · rw [hsent, hlength, h.waiting_eq, List.drop_eq_nil_of_le hle,
      List.drop_eq_nil_of_le (Nat.le_succ_of_le hle)]
  · rw [hsent, hlength, List.take_of_length_le (Nat.le_succ_of_le hle), Nat.succ_sub hle,
      List.replicate_succ', ← List.append_assoc, ← hanswers]
  · exact fun _ => halive.trans hsender

/-- **A signal goes on following its senders**, whatever happens next. -/
theorem Follows.step (h : Follows host steps s answers) (x : SignalStep) :
    Follows host (steps ++ [x]) (s.step x) (answers ++ (s.answer? x).toList) := by
  cases x with
  | send e =>
    have hiff : s.senders = 0 ↔ SignalStep.alive steps = 0 := by rw [h.senders_eq]
    simp only [CloseSignal.step, answer?, Option.toList_none, List.append_nil, send]
    split
    · rename_i hzero
      have herror : SignalStep.error? (SignalStep.alive steps) (.send e) = none :=
        if_pos (hiff.mp hzero)
      exact h.of_silent herror rfl rfl rfl
    · rename_i hsender
      exact h.of_sent (mt hiff.mpr hsender)
  | clone =>
    simp only [CloseSignal.step, answer?, Option.toList_none, List.append_nil, clone]
    split
    · rename_i hzero
      exact h.of_silent rfl rfl (hzero.trans (if_pos hzero).symm) rfl
    · rename_i hsender
      exact h.of_silent rfl rfl (if_neg hsender).symm rfl
  | drop =>
    simp only [CloseSignal.step, answer?, Option.toList_none, List.append_nil, drop]
    exact h.of_silent rfl rfl rfl rfl
  | ask =>
    simp only [CloseSignal.step, answer?, h.closed_eq]
    cases hnext : (SignalStep.sent steps)[answers.length]? with
    | some e => exact h.of_lost hnext
    | none =>
      dsimp only
      split
      · rename_i hsender
        exact h.of_closed hnext hsender
      · rw [Option.toList_none, List.append_nil]
        exact h.of_silent rfl rfl rfl rfl

end

/-! ## 3. All calls -/

/-- A signal that was just made follows its senders for ever. -/
theorem follows_after (host : String) (steps : List SignalStep) :
    Follows host steps (after { host } steps) (answers { host } steps) := by
  induction steps using List.reverseRecOn with
  | nil => exact follows_start host
  | append_singleton steps x ih =>
    rw [after_concat, answers_concat]
    exact ih.step x

/-- Without a sender and without an error that waits, nothing happens any more. -/
theorem after_of_ended {s : CloseSignal} (hsenders : s.senders = 0) (hwaiting : s.waiting = [])
    (steps : List SignalStep) : s.after steps = s := by
  induction steps with
  | nil => rfl
  | cons x rest ih =>
    have hstep : s.step x = s := by
      cases x with
      | send e => simp only [step, send, if_pos hsenders]
      | clone => simp only [step, clone, if_pos hsenders]
      | drop =>
        have hdrop : s.senders - 1 = s.senders := by rw [hsenders]
        simp only [step, drop, hdrop]
      | ask => simp only [step, closed, hwaiting, if_pos hsenders]
    rw [after, List.foldl_cons, hstep]
    exact ih

/-- **A close signal tells every error before it tells that the connection is closed.**  For every
host, and whatever has happened so far in any order:

* The answers so far are the errors that were sent, from the first on, in order and one each; more
  answers than errors there are only when no sender is left, and each of them says that the
  connection is closed.  What has not been told yet waits.
* The next call is answered with the next error that was sent, also when no sender is left.  Without
  one it is answered that the connection is closed, when no sender is left; and it is not answered
  when there is one, and the signal stays as it is.
* Once all errors are told and no sender is left, nothing changes any more, so every further call is
  answered that the connection is closed. -/
theorem tells_errors_first (host : String) (steps : List SignalStep) :
    let now := after { host } steps
    let answers := answers { host } steps
    let sent := SignalStep.sent steps
    let alive := SignalStep.alive steps
    answers = (sent.take answers.length).map (.connectionLost host) ++
        List.replicate (answers.length - sent.length) (.connectionClosed host) ∧
      (sent.length < answers.length → alive = 0) ∧
      now.waiting = sent.drop answers.length ∧
      now.closed =
        (match sent[answers.length]? with
        | some e =>
          (some (.connectionLost host e), { now with waiting := sent.drop (answers.length + 1) })
        | none => (if alive = 0 then some (.connectionClosed host) else none, now)) ∧
      (alive = 0 → sent.length ≤ answers.length →
        ∀ later, now.after later = now ∧ now.closed = (some (.connectionClosed host), now)) := by
  intro now answers sent alive
  have h : Follows host steps now answers := follows_after host steps
  refine ⟨h.answers_eq, h.alive_eq_zero, h.waiting_eq, h.closed_eq, fun hsender hle later => ?_⟩
  have hwaiting : now.waiting = [] := h.waiting_eq.trans (List.drop_eq_nil_of_le hle)
  refine ⟨after_of_ended (h.senders_eq.trans hsender) hwaiting later, ?_⟩
  rw [h.closed_eq, List.getElem?_eq_none_iff.mpr hle]
  exact congrArg (·, now) (if_pos hsender)

/-- Two errors are told though both senders went before the first call, and then that the connection
is closed, again and again. -/
theorem tells_errors_first_mq :
    let sends : List SignalStep :=
      [.ask, .send .missingHeartbeat, .clone, .drop, .send .channelsLimitReached, .drop]
    let signal : CloseSignal := { host := "mq" }
    let told : List SupervisorError :=
      [.connectionLost "mq" .missingHeartbeat, .connectionLost "mq" .channelsLimitReached,
        .connectionClosed "mq"]
    signal.answers sends = [] ∧ (signal.after sends).closed.1 = some told[0] ∧
      signal.answers (sends ++ [.ask, .ask, .ask]) = told ∧
      SignalStep.alive (sends ++ [.ask, .ask, .ask]) = 0 ∧
      (signal.after (sends ++ [.ask, .ask, .ask])).closed.1 = some (.connectionClosed "mq") := by
  intro sends signal told
  have hall := tells_errors_first "mq" (sends ++ [.ask, .ask, .ask])
  have hnext := (tells_errors_first "mq" sends).2.2.2.1
  exact ⟨rfl, congrArg Prod.fst hnext, hall.1, hall.2.1 (by decide),
    congrArg Prod.fst (hall.2.2.2.2 rfl (by decide) [.ask]).2⟩

end CloseSignal

end BrokerBridge
