import BrokerBridge.Proofs.Connecting

/-!
# How many attempts a failed connection reports

A connection is dialed as often as its policy says, and once at least.  The warnings in between tell
the most attempts there can be; the failure in the end tells how many there were.  The two numbers
come from the same policy on different ways: the warnings have the number that the attempts were
counted against, the failure the number as the policy has it.

* `connecting_of_failure`: a run that fails has made all the attempts it could make, and has warned
  of every failure but the last.
* **`dial_reports_attempts`**: the warnings are right for every policy.  The failure is right except
  for the policy without any attempt, where it tells that none was made.
-/
namespace BrokerBridge

/-- Whether an entry tells that another attempt follows. -/
def Entry.retries (e : Entry) : Bool := e.message = "Attempt failed, will retry"

theorem RetryWarning.retries_entry (w : RetryWarning) : w.entry.retries = true := by
  rw [Entry.retries, decide_eq_true_eq]
  rfl

/-- Nothing that is told before the first attempt is taken for a warning. -/
theorem filter_targetEntries (t : DialTarget) (tls : TlsSettings) (p : RetryPolicy) :
    (targetEntries t tls p).filter Entry.retries = [] := by
  rw [targetEntries, tlsEntries]
  split <;> split <;> rfl

/-- Of the log of a run the warnings are those of its attempts. -/
theorem filter_retries (t : DialTarget) (tls : TlsSettings) (p : RetryPolicy)
    (warnings : List RetryWarning) :
    (targetEntries t tls p ++ warnings.map RetryWarning.entry).filter Entry.retries =
      warnings.map RetryWarning.entry := by
  rw [List.filter_append, filter_targetEntries, List.nil_append, List.filter_eq_self]
  simp only [List.mem_map]
  rintro _ ⟨w, -, rfl⟩
  exact w.retries_entry

theorem map_field?_entry (warnings : List RetryWarning) :
    (warnings.map RetryWarning.entry).map (·.field? "max_attempts") =
      (warnings.map RetryWarning.most).map fun n => some (.number n) := by
  rw [List.map_map, List.map_map]
  rfl

theorem tlsMode_ne_connect (files : FileTree) (tls : TlsSettings) (host : String) (number : Nat)
    (failure : LinkFailure) : tlsMode files tls ≠ .error (.connect host number failure) := by
  unfold tlsMode loadCaBundle
  repeat' split
  all_goals exact nofun

/-- A connection string is never refused with the failure of an attempt. -/
theorem DialTarget.of_ne_connect (files : FileTree) (url : String) (tls : TlsSettings)
    (host : String) (number : Nat) (failure : LinkFailure) :
    DialTarget.of files url tls ≠ .error (.connect host number failure) := by
  intro h
  unfold DialTarget.of at h
  split at h
  · cases h
  · split at h
    · cases h
    · cases hmode : tlsMode files tls with
      | error e =>
        rw [hmode] at h
        cases h
        exact tlsMode_ne_connect files tls host number failure hmode
      | ok mode =>
        rw [hmode] at h
        cases h

/-- The number of a policy is the number of attempts, unless it has none. -/
theorem RetryPolicy.toNat_eq_most_iff (p : RetryPolicy) :
    p.attempts.toNat = p.most ↔ p.attempts ≠ 0 := by
  have hzero : p.attempts = 0 ↔ p.attempts.toNat = 0 := UInt32.toNat_inj.symm
  rw [ne_eq, hzero, most]
  omega

/-- **A run that fails** makes all attempts of its policy, with the failure of the last as its
result, and every warning tells that number. -/
theorem connecting_of_failure {p : RetryPolicy} {outcome : Nat → Except LinkFailure Unit}
    {failure : LinkFailure} (h : (connecting p outcome).result = .error failure) :
    (connecting p outcome).attempts.length = p.most ∧
      (∀ k, 1 ≤ k → k ≤ p.most → ∃ e, outcome k = .error e) ∧
      outcome p.most = .error failure ∧
      (connecting p outcome).warnings.map RetryWarning.most =
        List.replicate (p.most - 1) p.most := by
  have hfails := (retry_fails_iff p "connect" LinkFailure.message outcome).mp ⟨failure, h⟩
  obtain ⟨errors, -, -, hend, hrun⟩ := exists_retry_eq p "connect" LinkFailure.message outcome
  rw [connecting, hrun] at h
  have hmost : errors.length + 1 = p.most := by
    obtain hmost | ⟨a, ha⟩ := hend
    · exact hmost
    · rw [ha] at h
      cases h
  rw [connecting, hrun]
  refine ⟨?_, hfails, hmost ▸ h, ?_⟩
  · rw [List.length_map, List.length_range, hmost]
  · rw [List.map_map]
    refine List.eq_replicate_iff.mpr ⟨?_, fun most hmem => ?_⟩
    · rw [List.length_map, List.length_zipIdx, ← hmost, Nat.add_sub_cancel]
    · obtain ⟨_, -, rfl⟩ := List.mem_map.mp hmem
      rfl

/-- Dialing fails with a connection when all attempts at a target failed. -/
theorem exists_target_of_connect {files : FileTree} {url : String} {tls : TlsSettings}
    {p : RetryPolicy} {connect : DialTarget → Nat → Except LinkFailure Unit} {host : String}
    {number : Nat} {failure : LinkFailure}
    (h : (dial files url tls p connect).result = .error (.connect host number failure)) :
    ∃ t, DialTarget.of files url tls = .ok t ∧
      (connecting p (connect t)).result = .error failure ∧ host = t.host ∧
      number = p.attempts.toNat := by
  cases htarget : DialTarget.of files url tls with
  | error e =>
    rw [dial_of_error htarget] at h
    cases h
    exact absurd htarget (DialTarget.of_ne_connect files url tls host number failure)
  | ok t =>
    cases hrun : (connecting p (connect t)).result with
    | ok =>
      rw [dial_of_success htarget hrun] at h
      cases h
    | error e =>
      rw [dial_of_failure htarget hrun] at h
      cases h
      exact ⟨t, rfl, hrun, rfl, rfl⟩

/-- **What a failed connection reports about its attempts.**  When dialing fails with a connection,
whatever the connection string, the settings of TLS, the policy and the failures:

* There was a target, and all attempts at it failed; their number is that of the policy, and one
  when the policy has none.  The failure that is reported is that of the last of them.
* There is one warning for every attempt but the last, and each tells the number of attempts that
  were made.
* The failure tells the number of the policy.  So it tells the number of attempts that were made,
  also in its text, exactly when the policy has an attempt.  Without one it tells none, though one
  was made. -/
theorem dial_reports_attempts {files : FileTree} {url : String} {tls : TlsSettings}
    {p : RetryPolicy} {connect : DialTarget → Nat → Except LinkFailure Unit} {host : String}
    {number : Nat} {failure : LinkFailure}
    (h : (dial files url tls p connect).result = .error (.connect host number failure)) :
    let run := dial files url tls p connect
    let made := run.attempts.length
    made = max p.attempts.toNat 1 ∧
      (∃ t, DialTarget.of files url tls = .ok t ∧ host = t.host ∧
        (∀ k, 1 ≤ k → k ≤ made → ∃ e, connect t k = .error e) ∧ connect t made = .error failure) ∧
      (run.log.filter Entry.retries).map (·.field? "max_attempts") =
        List.replicate (made - 1) (some (FieldValue.number made)) ∧
      number = p.attempts.toNat ∧ (number = made ↔ p.attempts ≠ 0) ∧
      (p.attempts ≠ 0 → (SupervisorError.connect host number failure).message =
        "failed to connect to " ++ host ++ " after " ++ toString made ++ " attempts: " ++
          failure.message) ∧
      (p.attempts = 0 → number = 0 ∧ made = 1 ∧ run.log.filter Entry.retries = []) := by
  intro run made
  obtain ⟨t, htarget, hfailure, rfl, rfl⟩ := exists_target_of_connect h
  obtain ⟨hlength, hfailed, hlast, hwarnings⟩ := connecting_of_failure hfailure
  have hdial := dial_of_failure htarget hfailure
  have hmade : made = p.most := (congrArg (·.attempts.length) hdial).trans hlength
  have hlog : run.log.filter Entry.retries =
      (connecting p (connect t)).warnings.map RetryWarning.entry :=
    (congrArg (·.log.filter Entry.retries) hdial).trans (filter_retries t tls p _)
  rw [hmade]
  refine ⟨rfl, ⟨t, htarget, rfl, hfailed, hlast⟩, ?_, rfl, p.toNat_eq_most_iff, fun hsome => ?_,
    fun hnone => ?_⟩
  · rw [hlog, map_field?_entry, hwarnings, List.map_replicate]
  · rw [← p.toNat_eq_most_iff.mpr hsome]
    rfl
  · have hone : p.most = 1 := by rw [RetryPolicy.most, hnone]; rfl
    rw [hone, Nat.sub_self, List.replicate_zero, List.map_eq_nil_iff] at hwarnings
    rw [hlog, hwarnings]
    exact ⟨congrArg UInt32.toNat hnone, hone, rfl⟩

/-- Three attempts are told as three; the one attempt of a policy without any is told as none. -/
theorem dial_reports_attempts_mq :
    let run (p : RetryPolicy) := dial {} "amqps://mq" {} p fun _ _ => .error .missingHeartbeat
    let three := run { attempts := 3 }
    let never := run { attempts := 0 }
    (three.result = .error (.connect "mq" 3 .missingHeartbeat) ∧ three.attempts.length = 3 ∧
      (three.log.filter Entry.retries).map (·.field? "max_attempts") =
        [some (.number 3), some (.number 3)]) ∧
      never.result = .error (.connect "mq" 0 .missingHeartbeat) ∧ never.attempts.length = 1 := by
  intro run three never
  have hthree : three.result = .error (.connect "mq" 3 .missingHeartbeat) := rfl
  have hnever : never.result = .error (.connect "mq" 0 .missingHeartbeat) := rfl
  obtain ⟨hmade, -, hwarnings, -⟩ := dial_reports_attempts hthree
  exact ⟨⟨hthree, hmade, hwarnings⟩, hnever, (dial_reports_attempts hnever).1⟩

end BrokerBridge
