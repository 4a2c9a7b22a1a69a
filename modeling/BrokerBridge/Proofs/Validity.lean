import BrokerBridge.Proofs.Config.Loading
import BrokerBridge.Proofs.Retrying
import BrokerBridge.Proofs.Securing
import BrokerBridge.Routing.Forward

/-!
# Settings that the bridge can start with

Settings are checked once, and what is checked is relied upon later, in other places: by the mode of
TLS, by the loop of attempts, by the rules and by the router.

* `Settings.demands`: what is asked of settings, one demand after the other.  The defect of settings
  is that of the first demand that is not met (`Settings.defect?_eq_some_iff`).
* **`Settings.accepted_start`**: settings without a defect lead to none of the failures that the
  demands are there for, and all settings that are loaded are such.

TLS looks for the path of its certificates in another way than the check does.  Both come to the
same for all settings (`tlsMode_eq_missing_iff`).
-/
namespace BrokerBridge

/-! ## 1. What is asked of settings -/

/-- A text with a character that is no white space. -/
def NotBlank (text : String) : Prop := ∃ c ∈ text.toList, Text.isBlank c = false

theorem notBlank_iff {text : String} : NotBlank text ↔ Text.isBlankText text = false :=
  Text.isBlankText_eq_false_iff.symm

instance (text : String) : Decidable (NotBlank text) := decidable_of_iff _ notBlank_iff.symm

/-- Something that is asked of settings, and the defect of settings that do not meet it. -/
structure Demand where
  defect : SettingsDefect
  met : Prop
  [decidable : Decidable met]

instance (d : Demand) : Decidable d.met := d.decidable

namespace Settings

/-- A text that must not be blank. -/
def textDemand (key text : String) : Demand := ⟨.missing key, NotBlank text⟩

/-- The path of certificates, where connections are to be verified. -/
def certificateDemand (s : Settings) : Demand :=
  ⟨.missing "tls.ca_cert_path",
    s.tls.enabled = true → s.tls.verifyCert = true → s.tls.caCertPath ≠ none⟩

/-- An attempt at the least. -/
def attemptDemand (s : Settings) : Demand := ⟨.noAttempts, 1 ≤ s.supervisor.dialAttempts.toNat⟩

/-- What is asked of settings, in order. -/
def demands (s : Settings) : List Demand := [
  textDemand "database.url" s.database.url,
  textDemand "lega.connection" s.lega.connection,
  textDemand "lega.exchange" s.lega.exchange,
  textDemand "lega.queue" s.lega.queue,
  textDemand "cega.connection" s.cega.connection,
  textDemand "cega.exchange" s.cega.exchange,
  textDemand "cega.queue" s.cega.queue,
  s.certificateDemand,
  s.attemptDemand]

variable {s : Settings}

theorem demands_eq (s : Settings) :
    s.demands = s.requiredTexts.map (fun entry => textDemand entry.1 entry.2) ++
      [s.certificateDemand, s.attemptDemand] := rfl

/-- **The defect is that of the first demand that is not met.** -/
theorem defect?_eq (s : Settings) :
    s.defect? = (s.demands.find? fun d => ¬d.met).map Demand.defect := by
  have hunmet : ((fun d : Demand => decide ¬d.met) ∘ fun entry => textDemand entry.1 entry.2) =
      fun entry : String × String => Text.isBlankText entry.2 := by
    funext entry
    show decide (¬NotBlank entry.2) = _
    simp only [notBlank_iff, Bool.not_eq_false, Bool.decide_eq_true]
  rw [demands_eq, List.find?_append, List.find?_map, hunmet, defect?]
  cases s.requiredTexts.find? fun entry => Text.isBlankText entry.2 with
  | some entry => rfl
  | none =>
    have hpath : (s.tls.enabled = true ∧ s.tls.verifyCert = true ∧ s.tls.caCertPath = none) ↔
        ¬s.certificateDemand.met := by
      simp only [certificateDemand, ne_eq, Classical.not_imp, Classical.not_not]
    have hattempts : s.supervisor.dialAttempts = 0 ↔ ¬s.attemptDemand.met := by
      rw [← UInt32.toNat_inj, UInt32.toNat_zero, attemptDemand]
      omega
    simp only [hpath, hattempts, Option.map_none, Option.none_or, List.find?_cons, List.find?_nil]
    by_cases hpath : s.certificateDemand.met <;> by_cases hattempts : s.attemptDemand.met <;>
      simp [hpath, hattempts] <;> rfl

theorem defect?_eq_none_iff : s.defect? = none ↔ ∀ d ∈ s.demands, d.met := by
  simp only [defect?_eq, Option.map_eq_none_iff, List.find?_eq_none, decide_eq_true_eq,
    Classical.not_not]

theorem defect?_eq_some_iff {defect : SettingsDefect} :
    s.defect? = some defect ↔ ∃ before d after, s.demands = before ++ d :: after ∧
      (∀ b ∈ before, b.met) ∧ ¬d.met ∧ d.defect = defect := by
  rw [defect?_eq, Option.map_eq_some_iff]
  simp only [List.find?_eq_some_iff_append, decide_eq_true_eq, Bool.not_eq_true',
    decide_eq_false_iff_not, Classical.not_not]
  constructor
  · rintro ⟨d, ⟨hunmet, before, after, hsplit, hbefore⟩, hdefect⟩
    exact ⟨before, d, after, hsplit, hbefore, hunmet, hdefect⟩
  · rintro ⟨before, d, after, hsplit, hbefore, hunmet, hdefect⟩
    exact ⟨d, ⟨hunmet, before, after, hsplit, hbefore⟩, hdefect⟩

/-! ## 2. What is relied upon -/

theorem notBlank_of_mem (h : s.defect? = none) (key : String) {text : String}
    (hmem : (key, text) ∈ s.requiredTexts) : NotBlank text :=
  defect?_eq_none_iff.mp h (textDemand key text) <|
    demands_eq s ▸ List.mem_append_left _ (List.mem_map.mpr ⟨_, hmem, rfl⟩)

theorem caCertPath_ne_none (h : s.defect? = none) (henabled : s.tls.enabled = true)
    (hverify : s.tls.verifyCert = true) : s.tls.caCertPath ≠ none :=
  defect?_eq_none_iff.mp h s.certificateDemand (by simp [demands]) henabled hverify

theorem one_le_dialAttempts (h : s.defect? = none) : 1 ≤ s.supervisor.dialAttempts.toNat :=
  defect?_eq_none_iff.mp h s.attemptDemand (by simp [demands])

end Settings

theorem loadCaBundle_ne_missing (files : FileTree) (path : String) :
    loadCaBundle files path ≠ .error .missingCaCert := by
  unfold loadCaBundle
  split
  · exact nofun
  · split <;> exact nofun

/-- TLS misses the path of its certificates just where it is asked to verify without one. -/
theorem tlsMode_eq_missing_iff {files : FileTree} {t : TlsSettings} :
    tlsMode files t = .error .missingCaCert ↔
      t.enabled = true ∧ t.verifyCert = true ∧ t.caCertPath = none := by
  constructor
  · intro hmode
    unfold tlsMode at hmode
    split at hmode
    · cases hmode
    · rename_i henabled
      split at hmode
      · cases hmode
      · rename_i hverify
        split at hmode
        · rename_i hpath
          exact ⟨Classical.not_not.mp henabled, Classical.not_not.mp hverify, hpath⟩
        · rename_i path _
          cases hload : loadCaBundle files path with
          | error e =>
            rw [hload] at hmode
            exact absurd (hload.trans (congrArg _ (Except.error.inj hmode)))
              (loadCaBundle_ne_missing files path)
          | ok bundle =>
            rw [hload] at hmode
            cases hmode
  · rintro ⟨henabled, hverify, hpath⟩
    exact tlsMode_of_missing henabled hverify hpath

/-- **All attempts of accepted settings are made**: as many as they say, when all of them fail. -/
theorem retry_ofSettings {ε α : Type} {d : SupervisorSettings} (h : 1 ≤ d.dialAttempts.toNat)
    (what : String) (describe : ε → String) {operation : Nat → Except ε α}
    (hfails : ∀ k, 1 ≤ k → k ≤ d.dialAttempts.toNat → ∃ e, operation k = .error e) :
    (retry (.ofSettings d) what describe operation).attempts =
        (List.range d.dialAttempts.toNat).map (fun k =>
          ⟨k + 1, k * (d.dialIntervalSecs.toNat * 1000)⟩) ∧
      (retry (.ofSettings d) what describe operation).result =
        operation d.dialAttempts.toNat := by
  obtain ⟨errors, -, hle, hend, hrun⟩ :=
    exists_retry_eq (.ofSettings d) what describe operation
  have hmost : (RetryPolicy.ofSettings d).most = d.dialAttempts.toNat := Nat.max_eq_left h
  rw [hmost] at hle hend
  have hlast : errors.length + 1 = d.dialAttempts.toNat := by
    obtain hlast | ⟨a, ha⟩ := hend
    · exact hlast
    · obtain ⟨e, he⟩ := hfails (errors.length + 1) (Nat.succ_pos _) hle
      rw [he] at ha
      cases ha
  rw [hrun, hlast]
  exact ⟨rfl, rfl⟩

/-! ## 3. Accepted settings -/

/-- Names of a rule that lead somewhere: its queue, its exchange, and the routing key of every
message to LEGA and of every message that has no type. -/
structure RoutingRule.Leads (rule : RoutingRule) (r : Router) : Prop where
  queue : NotBlank rule.queue
  exchange : NotBlank rule.exchange
  routingKey : ∀ t : Transformed, rule.direction = .cegaToLega ∨ t.messageType = none →
    NotBlank (r.routingKey rule t)

/-- The rule of a status queue leads somewhere, if its queue and its default key do. -/
theorem RoutingRule.leads_status {s : Settings} (h : s.defect? = none) (resolver : Resolver)
    {queue key : String} (hqueue : NotBlank queue) (hkey : NotBlank key) :
    RoutingRule.Leads ⟨queue, .legaToCega, s.cega.exchange, key⟩ (.ofSettings resolver s) where
  queue := hqueue
  exchange := Settings.notBlank_of_mem h "cega.exchange" (by simp [Settings.requiredTexts])
  routingKey t ht := by
    have hnone : t.messageType = none := ht.resolve_left nofun
    show NotBlank (t.messageType.getD key)
    rw [hnone]
    exact hkey

theorem RoutingRule.leads_standard {s : Settings} (h : s.defect? = none) (resolver : Resolver)
    {rule : RoutingRule} (hrule : rule ∈ RoutingRule.standard s) :
    rule.Leads (.ofSettings resolver s) := by
  obtain rfl | hstatus := RoutingRule.mem_standard_iff.mp hrule
  · exact {
      queue := Settings.notBlank_of_mem h "cega.queue" (by simp [Settings.requiredTexts])
      exchange := Settings.notBlank_of_mem h "lega.exchange" (by simp [Settings.requiredTexts])
      routingKey := fun t _ =>
        show NotBlank s.lega.queue from
          Settings.notBlank_of_mem h "lega.queue" (by simp [Settings.requiredTexts]) }
  · obtain rfl | rfl | rfl | rfl := hstatus <;>
      exact RoutingRule.leads_status h resolver (by decide) (by decide)

/-- **Settings that are accepted can be started with.**

* They are accepted just when every demand is met; otherwise the defect is that of the first demand
  that is not.
* With accepted settings TLS does not miss a path, whatever the files are; an operation that always
  fails is tried as often as they say; and the names of every rule lead somewhere.
* Settings that are loaded are accepted. -/
theorem Settings.accepted_start (s : Settings) :
    (s.defect? = none ↔ ∀ d ∈ s.demands, d.met) ∧
      (∀ defect, s.defect? = some defect ↔ ∃ before d after, s.demands = before ++ d :: after ∧
        (∀ b ∈ before, b.met) ∧ ¬d.met ∧ d.defect = defect) ∧
      (s.defect? = none →
        (∀ files, tlsMode files s.tls ≠ .error .missingCaCert) ∧
        (∀ (ε α : Type) (what : String) (describe : ε → String) (operation : Nat → Except ε α),
          (∀ k, 1 ≤ k → k ≤ s.supervisor.dialAttempts.toNat → ∃ e, operation k = .error e) →
            (retry (.ofSettings s.supervisor) what describe operation).attempts.map (·.number) =
              (List.range s.supervisor.dialAttempts.toNat).map (· + 1)) ∧
        ∀ resolver, ∀ rule ∈ RoutingRule.standard s, rule.Leads (.ofSettings resolver s)) ∧
      ∀ surroundings path, Config.load surroundings path = .ok s → s.defect? = none := by
  refine ⟨defect?_eq_none_iff, fun _ => defect?_eq_some_iff, fun h => ⟨?_, ?_, ?_⟩, ?_⟩
  · intro files hmissing
    obtain ⟨henabled, hverify, hpath⟩ := tlsMode_eq_missing_iff.mp hmissing
    exact caCertPath_ne_none h henabled hverify hpath
  · intro ε α what describe operation hfails
    rw [(retry_ofSettings (one_le_dialAttempts h) what describe hfails).1, List.map_map]
    rfl
  · intro resolver rule hrule
    exact RoutingRule.leads_standard h resolver hrule
  · intro surroundings path hload
    obtain ⟨-, -, -, -, hnone⟩ := Config.exists_of_load_eq_ok hload
    exact hnone

/-- Settings with three attempts, which have the paths and the names that they need. -/
def startable : Settings where
  database := { url := "postgres://db" }
  tls := { enabled := true, caCertPath := some "ca.pem" }
  lega := { connection := "amqps://lega", exchange := "sda", queue := "files" }
  cega := { connection := "amqps://cega", exchange := "localega.v1", queue := "v1.files" }
  supervisor := { dialAttempts := 3 }

/-- Three attempts fail, and the two names of an exchange that are blank are told in their order. -/
theorem Settings.startable_starts :
    startable.defect? = none ∧
      tlsMode {} startable.tls ≠ .error .missingCaCert ∧
      (retry (.ofSettings startable.supervisor) "connect" id fun _ =>
        (.error "refused" : Except String Unit)).attempts.map (·.number) = [1, 2, 3] ∧
      { startable with
        lega := { startable.lega with exchange := " \t" }
        cega := { startable.cega with exchange := "" } }.defect? =
        some (.missing "lega.exchange") := by
  have haccepted : startable.defect? = none := ((accepted_start _).1).mpr (by decide)
  obtain ⟨htls, hattempts, -⟩ := (accepted_start startable).2.2.1 haccepted
  refine ⟨haccepted, htls {}, hattempts _ _ _ _ _ fun _ _ _ => ⟨_, rfl⟩, ?_⟩
  exact ((accepted_start _).2.1 _).mpr ⟨_ :: [_], _, _, rfl, by decide, by decide, rfl⟩

end BrokerBridge
