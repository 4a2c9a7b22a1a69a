import BrokerBridge.Proofs.Dialing
import BrokerBridge.Proofs.Retrying

/-!
# What is checked before the first attempt

A connection string that is wrong, and settings of TLS that are wrong, stay wrong however often they
are tried.  `dial_checks_first` says for each of these faults what comes of dialing, and that
nothing is attempted, logged or waited for then.  Where there are several faults the first one is
told, in the order in which the theorem has them.

Without a fault there is a target, and with it one mode for all attempts: they are those that
`retry` makes at this target (`DialRun.Tries`).  Which number of attempts a failure reports is not
asked here.
-/
namespace BrokerBridge

open Uri

/-- The attempts to connect, by their outcomes. -/
abbrev connecting (p : RetryPolicy) (outcome : Nat → Except LinkFailure Unit) :
    RetryRun LinkFailure Unit :=
  retry p "connect" LinkFailure.message outcome

/-- **A run of attempts at a target**, by their outcomes: they are those of the policy, and the run
fails just when all of them do, with the failure of the last. -/
structure DialRun.Tries (run : DialRun) (t : DialTarget) (tls : TlsSettings) (p : RetryPolicy)
    (outcome : Nat → Except LinkFailure Unit) : Prop where
  attempts : run.attempts = (connecting p outcome).attempts
  elapsed : run.elapsed = (connecting p outcome).elapsed
  log : run.log =
    targetEntries t tls p ++ (connecting p outcome).warnings.map RetryWarning.entry ++
      match run.result with
      | .ok _ => [connectedEntry t]
      | .error _ => []
  fails_iff : (∃ e, run.result = .error e) ↔
    ∀ k, 1 ≤ k → k ≤ max p.attempts.toNat 1 → ∃ failure, outcome k = .error failure
  failure : ∀ e, run.result = .error e → ∃ last number failure,
    run.attempts.getLast? = some last ∧ last.number = max p.attempts.toNat 1 ∧
      outcome last.number = .error failure ∧ e = .connect t.host number failure
  host : ∀ host, run.result = .ok host → host = t.host

variable {files : FileTree} {url : String} {tls : TlsSettings} {p : RetryPolicy}
  {connect : DialTarget → Nat → Except LinkFailure Unit} {t : DialTarget}

theorem dial_of_success (h : DialTarget.of files url tls = .ok t)
    (hrun : (connecting p (connect t)).result = .ok ()) :
    dial files url tls p connect =
      { result := .ok t.host
        attempts := (connecting p (connect t)).attempts
        log := targetEntries t tls p ++
          (connecting p (connect t)).warnings.map RetryWarning.entry ++ [connectedEntry t]
        elapsed := (connecting p (connect t)).elapsed } := by
  unfold dial
  simp only [h, hrun]

theorem dial_of_failure {failure : LinkFailure} (h : DialTarget.of files url tls = .ok t)
    (hrun : (connecting p (connect t)).result = .error failure) :
    dial files url tls p connect =
      { result := .error (.connect t.host p.attempts.toNat failure)
        attempts := (connecting p (connect t)).attempts
        log := targetEntries t tls p ++
          (connecting p (connect t)).warnings.map RetryWarning.entry
        elapsed := (connecting p (connect t)).elapsed } := by
  unfold dial
  simp only [h, hrun]

/-- **With a target there is a run of attempts at it.** -/
theorem dial_tries (h : DialTarget.of files url tls = .ok t) :
    (dial files url tls p connect).Tries t tls p (connect t) := by
  have hfails := retry_fails_iff p "connect" LinkFailure.message (connect t)
  cases hrun : (connecting p (connect t)).result with
  | ok =>
    rw [hrun] at hfails
    rw [dial_of_success h hrun]
    exact {
      attempts := rfl
      elapsed := rfl
      log := rfl
      fails_iff := ⟨nofun, fun hall => nomatch hfails.mpr hall⟩
      failure := nofun
      host := fun _ hhost => (Except.ok.inj hhost).symm }
  | error failure =>
    obtain ⟨last, hlast, hresult, -, -, -, hend⟩ :=
      exists_last_attempt p "connect" LinkFailure.message (connect t)
    rw [hrun] at hresult hfails
    rw [dial_of_failure h hrun]
    have hmost : last.number = p.most := by
      obtain hmost | ⟨a, ha⟩ := hend
      · exact hmost
      · rw [ha] at hresult
        cases hresult
    exact {
      attempts := rfl
      elapsed := rfl
      log := (List.append_nil _).symm
      fails_iff := ⟨fun _ => hfails.mp ⟨_, rfl⟩, fun _ => ⟨_, rfl⟩⟩
      failure := fun e he =>
        ⟨last, _, failure, hlast, hmost, hresult.symm, (Except.error.inj he).symm⟩
      host := nofun }

/-- **Dialing checks first and tries then.**  A text that is no URL, a URL that leads to no broker
and settings of TLS that cannot be had end it in this order, before any attempt and without a word
in the log, whatever the policy.  Otherwise the outcomes of the attempts at the target decide. -/
theorem dial_checks_first (files : FileTree) (url : String) (tls : TlsSettings) (p : RetryPolicy)
    (connect : DialTarget → Nat → Except LinkFailure Unit) :
    let run := dial files url tls p connect
    (∀ fault, Url.parse url = .error fault → run = ⟨.error (.invalidUrl fault), [], [], 0⟩) ∧
      ∀ u, Url.parse url = .ok u →
        (∀ fault, checkAmqp url u = .error fault →
          run = ⟨.error (.invalidAmqpUri fault.message), [], [], 0⟩) ∧
        (checkAmqp url u = .ok () →
          (∀ e, tlsMode files tls = .error e → run = ⟨.error e, [], [], 0⟩) ∧
          ∀ mode, tlsMode files tls = .ok mode →
            run.Tries ⟨u.hostText, u.scheme, mode⟩ tls p
              (connect ⟨u.hostText, u.scheme, mode⟩)) := by
  refine ⟨fun fault hparse => dial_of_error ?_, fun u hparse =>
    ⟨fun fault hcheck => dial_of_error (DialTarget.of_refused hparse hcheck), fun hcheck =>
      ⟨fun e htls => dial_of_error ?_, fun mode htls => dial_tries ?_⟩⟩⟩
  · rw [DialTarget.of, hparse]
  · rw [DialTarget.of_accepted hparse hcheck, htls]
    rfl
  · rw [DialTarget.of_accepted hparse hcheck, htls]
    rfl

/-- One fault after the other, and then a broker that never answers. -/
theorem dial_checks_mq :
    let run (url : String) (tls : TlsSettings) :=
      dial {} url tls { attempts := 3 } fun _ _ => .error .missingHeartbeat
    run "mq" { enabled := true } = ⟨.error (.invalidUrl .relative), [], [], 0⟩ ∧
      run "sctp://mq" { enabled := true } =
        ⟨.error (.invalidAmqpUri "Invalid AMQP scheme: sctp"), [], [], 0⟩ ∧
      run "amqps://mq" { enabled := true } = ⟨.error .missingCaCert, [], [], 0⟩ ∧
      ∃ e, (run "amqps://mq" {}).result = .error e :=
  ⟨(dial_checks_first ..).1 .relative rfl,
    ((dial_checks_first ..).2 _ rfl).1 (.scheme "sctp") rfl,
    (((dial_checks_first ..).2 _ rfl).2 rfl).1 .missingCaCert rfl,
    ((((dial_checks_first ..).2 _ rfl).2 rfl).2 .plain rfl).fails_iff.mpr fun _ _ _ => ⟨_, rfl⟩⟩

end BrokerBridge
