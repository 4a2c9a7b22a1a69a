import BrokerBridge.Proofs.Uri.Parsing
import BrokerBridge.Supervision.Dial

/-!
# What dialing tells of a password

A connection string has the password of the broker in it, and what becomes of dialing is written to
the log.  `dial_veils_password` compares two runs that differ in the password only: they make the
same attempts and log the same, and they end alike but for a connection string that is refused with
one of the three faults of `Uri.Shows`.  The first of them is the one that matters: a connection
string without a slash after its scheme is told as it stands (`dial_of_no_slash`).

What comes of an attempt to connect is given: whether that tells the password is not asked here.
-/
namespace BrokerBridge

open Uri

variable {files : FileTree} {tls : TlsSettings} {url : String} {u : Url}

theorem DialTarget.of_refused {fault : AmqpFault} (hparse : Url.parse url = .ok u)
    (h : checkAmqp url u = .error fault) :
    DialTarget.of files url tls = .error (.invalidAmqpUri fault.message) := by
  unfold DialTarget.of
  simp only [hparse, h]

theorem DialTarget.of_accepted (hparse : Url.parse url = .ok u) (h : checkAmqp url u = .ok ()) :
    DialTarget.of files url tls =
      (tlsMode files tls).map fun mode => ⟨u.hostText, u.scheme, mode⟩ := by
  unfold DialTarget.of
  simp only [hparse, h]

/-- **The target of a connection string is the same for every password in it**, or what is wrong
with it shows something of the password. -/
theorem DialTarget.of_password (files : FileTree) (p s : String) (tls : TlsSettings) :
    (Blind fun w : Password => DialTarget.of files (p ++ ":" ++ w.text ++ "@" ++ s) tls) ∨
      ∃ fault, Shows p s fault ∧ ∀ w : Password,
        DialTarget.of files (p ++ ":" ++ w.text ++ "@" ++ s) tls =
          .error (.invalidAmqpUri (fault w).message) := by
  have htext (w : Password) : p ++ ":" ++ w.text ++ "@" ++ s =
      String.ofList (around p.toList s.toList w) := by
    rw [ofList_around, String.ofList_toList, String.ofList_toList]
  have hveils := veils_parse p.toList s.toList
  simp only [← htext] at hveils
  obtain ⟨fault, hparse⟩ | ⟨u, hu, hparse⟩ := hveils.error_or_url
  · refine .inl ⟨.error (.invalidUrl fault), fun w => ?_⟩
    rw [DialTarget.of, hparse]
  · cases guarded_checkAmqp p s hu with
    | shows fault hfault hcheck =>
      exact .inr ⟨fault, hfault, fun w => of_refused (hparse w) (hcheck w)⟩
    | blind hcheck =>
      obtain ⟨result, hcheck⟩ := hcheck
      cases result with
      | error fault => exact .inl ⟨_, fun w => of_refused (hparse w) (hcheck w)⟩
      | ok =>
        obtain ⟨host, hhost⟩ := hu.host
        obtain ⟨scheme, hscheme⟩ := hu.scheme
        refine .inl ⟨(tlsMode files tls).map fun mode =>
          ⟨(host.map Host.text).getD "", scheme, mode⟩, fun w => ?_⟩
        rw [of_accepted (hparse w) (hcheck w), Url.hostText, hhost, hscheme]

theorem dial_of_error {policy : RetryPolicy}
    {connect : DialTarget → Nat → Except LinkFailure Unit} {e : SupervisorError}
    (h : DialTarget.of files url tls = .error e) :
    dial files url tls policy connect = ⟨.error e, [], [], 0⟩ := by
  unfold dial
  rw [h]

/-- **A connection string without a slash after its scheme is told as it stands.** -/
theorem dial_of_no_slash {scheme : String} {c : Char} {cs : List Char}
    (hscheme : scheme? (significant url) = some (scheme, c :: cs))
    (hkind : SchemeKind.ofScheme scheme = .other) (hslash : c ≠ '/') (policy : RetryPolicy)
    (connect : DialTarget → Nat → Except LinkFailure Unit) :
    (dial files url tls policy connect).result =
      .error (.invalidAmqpUri ("Invalid URL: '" ++ url ++ "'")) := by
  have hparse : Url.parse url = .ok { scheme, isWhole := true } := by
    unfold Url.parse
    simp only [hscheme, hkind]
    exact readOther_of_ne scheme hslash cs
  rw [dial_of_error (DialTarget.of_refused hparse rfl)]
  rfl

/-- **Dialing tells nothing of a password**, unless the connection string is refused with one of the
three faults that show something of it: two runs with different passwords make the same attempts at
the same moments, log the same, and end with the same result. -/
theorem dial_veils_password (files : FileTree) (p s : String) (tls : TlsSettings)
    (policy : RetryPolicy) (connect : DialTarget → Nat → Except LinkFailure Unit)
    (w₁ w₂ : Password) :
    let run (w : Password) := dial files (p ++ ":" ++ w.text ++ "@" ++ s) tls policy connect
    (run w₁).log = (run w₂).log ∧ (run w₁).attempts = (run w₂).attempts ∧
      (run w₁).elapsed = (run w₂).elapsed ∧
      ((run w₁).result = (run w₂).result ∨
        ∃ fault, Shows p s fault ∧ ∀ w ∈ [w₁, w₂],
          (run w).result = .error (.invalidAmqpUri (fault w).message)) := by
  intro run
  obtain ⟨target, htarget⟩ | ⟨fault, hfault, htarget⟩ := DialTarget.of_password files p s tls
  · have hrun : run w₁ = run w₂ := by
      show dial .. = dial ..
      unfold dial
      rw [htarget, htarget]
    rw [hrun]
    exact ⟨rfl, rfl, rfl, .inl rfl⟩
  · have hrun (w : Password) : run w = ⟨.error (.invalidAmqpUri (fault w).message), [], [], 0⟩ :=
      dial_of_error (htarget w)
    simp only [hrun]
    exact ⟨trivial, trivial, trivial, .inr ⟨fault, hfault, fun _ _ => rfl⟩⟩

/-- With slashes after the scheme the password stays untold, without them it is told. -/
theorem dial_veils_password_mq :
    let one : Password := ⟨"one", by decide, List.all_eq_true.mp rfl⟩
    let two : Password := ⟨"two", by decide, List.all_eq_true.mp rfl⟩
    let run (p : String) (w : Password) :=
      dial {} (p ++ ":" ++ w.text ++ "@" ++ "mq") {} {} fun _ _ => .ok ()
    (run "amqp://user" one).log = (run "amqp://user" two).log ∧
      (run "amqp://user" two).result = .ok "mq" ∧
      (run "amqp" two).result = .error (.invalidAmqpUri "Invalid URL: 'amqp:two@mq'") :=
  ⟨(dial_veils_password {} "amqp://user" "mq" {} {} (fun _ _ => .ok ()) _ _).1, rfl, rfl⟩

end BrokerBridge
