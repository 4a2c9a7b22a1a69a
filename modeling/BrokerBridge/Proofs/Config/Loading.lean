import Mathlib
import BrokerBridge.Proofs.Config.Layers

/-!
# Loading layered settings

* **`load_layered`**: where a file and an environment give settings that can be converted
  (`Gives`), loading decides every setting on its own: by its legacy variable, its structured
  variable, the file and the default, in this order.  What is loaded is accepted or has a defect as
  a whole; a source of one setting that comes, goes or changes (`AgreeBut`) leaves the value of every
  other one as it is.

This holds with any formats and on any walk.  A file that says no setting twice gives the same on
every walk (`Gives.any_walk`).  Values that are overruled need not be such that they can be
converted.
-/
namespace BrokerBridge.Config

/-! ## 1. Sources of one setting -/

/-- The entries of two files and two environments that say the same of all settings but one. -/
structure AgreeBut (τ : Setting) (file file' : List (String × Node))
    (environment environment' : Environment) : Prop where
  file : ∀ key, key ≠ τ.key → (flat file).get? key = (flat file').get? key
  environment : ∀ name, name ≠ τ.structuredVariable → τ.legacyVariable? ≠ some name →
    environment.get? name = environment'.get? name

theorem legacyNode?_congr {environment environment' : Environment} {name : String}
    (h : environment.get? name = environment'.get? name) :
    legacyNode? environment name = legacyNode? environment' name := by
  rw [legacyNode?, legacyNode?, h]

theorem AgreeBut.source?_eq {τ σ : Setting} {file file' : List (String × Node)}
    {environment environment' : Environment} (h : AgreeBut τ file file' environment environment')
    (hne : σ ≠ τ) : σ.source? file environment = σ.source? file' environment' := by
  have hlegacy : σ.legacyVariable?.bind (legacyNode? environment) =
      σ.legacyVariable?.bind (legacyNode? environment') := by
    cases hname : σ.legacyVariable? with
    | none => rfl
    | some name =>
      refine legacyNode?_congr (h.environment name ?_ fun hτ => ?_)
      · rintro rfl
        exact σ.legacyVariable?_ne τ hname
      · exact hne (Setting.legacyVariable?_injective hname hτ)
  have hstructured : environment.get? σ.structuredVariable =
      environment'.get? σ.structuredVariable :=
    h.environment _ (fun heq => hne (Setting.structuredVariable_injective heq))
      (τ.legacyVariable?_ne σ)
  rw [Setting.source?, Setting.source?, hlegacy, hstructured,
    h.file σ.key fun heq => hne (Setting.key_injective heq)]

/-! ## 2. Loading -/

/-- A file that a path leads to holds what its format reads of its text. -/
theorem fileSource_eq_ok {s : Surroundings} {path plain : String} {format : Format}
    {content : Bytes} {entries : Assoc Node}
    (hfile : locate s.formats s.content? s.directory path = .ok ⟨format, plain, content⟩)
    (hread : format.read plain (Utf8.lossy (dropMark content)) = some entries) :
    fileSource s (some path) = .ok entries := by
  rw [fileSource, hfile]
  show ConfigFile.read ⟨format, plain, content⟩ = _
  rw [ConfigFile.read, hread]

/-- Settings that the bridge can start with, or what is wrong with them. -/
def checked (settings : Settings) : Except ConfigError Settings :=
  match settings.defect? with
  | some d => .error (.defect d)
  | none => .ok settings

/-- Loading reads the file, then the tree of all layers, and then checks what it has read. -/
theorem load_eq (s : Surroundings) (path : Option String) :
    load s path = ((fileSource s path).mapError .source).bind fun file =>
      ((readSettings s.walk (layers s.walk file s.environment)).mapError .tree).bind fun given =>
        checked (given.over {}) := rfl

theorem checked_eq_ok {settings accepted : Settings} (h : checked settings = .ok accepted) :
    settings.defect? = none ∧ settings = accepted := by
  rw [checked] at h
  split at h
  · cases h
  · rename_i hnone
    exact ⟨hnone, Except.ok.inj h⟩

/-- Settings that are loaded were read from the tree of all layers and have no defect. -/
theorem exists_of_load_eq_ok {s : Surroundings} {path : Option String} {settings : Settings}
    (h : load s path = .ok settings) :
    ∃ file given, readSettings s.walk (layers s.walk file s.environment) = .ok given ∧
      given.over {} = settings ∧ settings.defect? = none := by
  rw [load_eq] at h
  cases hfile : fileSource s path with
  | error fault =>
    rw [hfile] at h
    cases h
  | ok file =>
    rw [hfile] at h
    change ((readSettings s.walk (layers s.walk file s.environment)).mapError
      ConfigError.tree).bind _ = _ at h
    cases hread : readSettings s.walk (layers s.walk file s.environment) with
    | error fault =>
      rw [hread] at h
      cases h
    | ok given =>
      rw [hread] at h
      obtain ⟨hnone, rfl⟩ := checked_eq_ok (h : checked (given.over {}) = .ok settings)
      exact ⟨file, given, hread, rfl, hnone⟩

/-- The settings of some values, with the defaults for what has none. -/
def settingsOf (given : Values) : Settings := given.toPartial.over {}

/-- The entries of a configuration file as they are met. -/
def Surroundings.fileEntries (s : Surroundings) (file : Assoc Node) : List (String × Node) :=
  s.walk.entries .file file

/-- Surroundings and a path that give settings and nothing else: the file holds only settings, the
structured variables are those of settings, and for every setting the node that counts can be
converted to the value that is given. -/
structure Gives (s : Surroundings) (path : Option String) (file : Assoc Node) (given : Values) :
    Prop where
  file_eq : fileSource s path = .ok file
  holds : ∀ e ∈ file, HoldsSettings e
  proper : s.environment.Proper
  value : ∀ σ : Setting, σ.valueOf (σ.source? (s.fileEntries file) s.environment) = .ok (given σ)

variable {s s' : Surroundings} {path path' : Option String} {file file' : Assoc Node}
  {given given' : Values}

theorem Gives.read_layers (h : Gives s path file given) (σ : Setting) :
    σ.read (layers s.walk file s.environment) = .ok (given σ) := by
  refine (tabular_layers h.holds h.proper s.walk).read_eq_ok ?_
  rw [node?_layers h.holds h.proper]
  exact h.value σ

theorem Gives.load_eq (h : Gives s path file given) : load s path = checked (settingsOf given) := by
  have hread : readSettings s.walk (layers s.walk file s.environment) = .ok given.toPartial :=
    readSettings_ok h.read_layers s.walk
  rw [Config.load_eq, h.file_eq]
  show ((readSettings s.walk (layers s.walk file s.environment)).mapError
    ConfigError.tree).bind _ = _
  rw [hread]
  rfl

/-- **A file that says no setting twice gives the same on every walk.** -/
theorem Gives.any_walk (h : Gives s path file given) (hkeys : (Assoc.keys file).Nodup)
    (honce : (Assoc.keys (file.flatMap spread)).Nodup) (w : Walk) :
    Gives { s with walk := w } path file given where
  file_eq := h.file_eq
  holds := h.holds
  proper := h.proper
  value σ := by
    have hsame : (flat (w.entries .file file)).get? σ.key =
        (flat (s.walk.entries .file file)).get? σ.key :=
      (get?_flat_entries hkeys honce w .file σ.key).trans
        (get?_flat_entries hkeys honce s.walk .file σ.key).symm
    rw [← h.value σ]
    simp only [Setting.source?, Surroundings.fileEntries, hsame]

theorem AgreeBut.given_eq {τ σ : Setting} (h : Gives s path file given)
    (h' : Gives s' path' file' given')
    (hagree : AgreeBut τ (s.fileEntries file) (s'.fileEntries file') s.environment s'.environment)
    (hne : σ ≠ τ) : given' σ = given σ :=
  Except.ok.inj <| calc
    .ok (given' σ) = σ.valueOf (σ.source? (s'.fileEntries file') s'.environment) :=
      (h'.value σ).symm
    _ = σ.valueOf (σ.source? (s.fileEntries file) s.environment) := by rw [hagree.source?_eq hne]
    _ = .ok (given σ) := h.value σ

/-- **Every setting is decided on its own.**  Loading gives the settings in which each has the value
of its legacy variable, or else of its structured variable, or else of the file, or else its
default, or the defect of these settings.  Where the files and the environments of two loads differ
in the sources of one setting at most, the settings differ in its value at most. -/
theorem load_layered (h : Gives s path file given) :
    (∀ σ : Setting, σ.get (settingsOf given) = (given σ).or (σ.get {})) ∧
    load s path = checked (settingsOf given) ∧
    ∀ s' path' file' given' τ, Gives s' path' file' given' →
      AgreeBut τ (s.fileEntries file) (s'.fileEntries file') s.environment s'.environment →
      load s' path' = checked (settingsOf given') ∧
        ∀ σ, σ ≠ τ → σ.get (settingsOf given') = σ.get (settingsOf given) := by
  refine ⟨Setting.get_over given {}, h.load_eq, ?_⟩
  intro s' path' file' given' τ h' hagree
  refine ⟨h'.load_eq, fun σ hne => ?_⟩
  rw [settingsOf, settingsOf, Setting.get_over, Setting.get_over, hagree.given_eq h h' hne]

/-- A configuration file with settings of three sections. -/
def threeSections : String :=
  "[database]\nurl = \"postgres://db\"\n[lega]\nconnection = \"amqp://lega\"\n" ++
    "queue = \"stored\"\n[cega]\nconnection = \"amqp://cega\"\n"

/-- The top table of the file of three sections. -/
def threeTables : Assoc Node :=
  let text s := Node.scalar (.text s) (some "bridge.toml")
  [("database", .table [("url", text "postgres://db")] (some "bridge.toml")),
    ("lega", .table [("connection", text "amqp://lega"), ("queue", text "stored")]
      (some "bridge.toml")),
    ("cega", .table [("connection", text "amqp://cega")] (some "bridge.toml"))]

/-- The file of three sections under a structured variable, a legacy variable that is empty, one
that counts if there is one, and a variable that is no setting. -/
def layered (more : Bool) : Surroundings where
  content? path := if path = "bridge.toml" then some (Utf8.ofString threeSections) else none
  environment :=
    (if more then [("CEGA_MQ_QUEUE", "v2.files")] else []) ++
      [("INTERCEPTOR__LEGA__QUEUE", "inbound"), ("LEGA_MQ_QUEUE", ""), ("HOME", "/root")]

/-- The values that the file of three sections and its environment give. -/
def layeredValues (more : Bool) : Values
  | .databaseUrl => some "postgres://db"
  | .legaConnection => some "amqp://lega"
  | .legaQueue => some "inbound"
  | .cegaConnection => some "amqp://cega"
  | .cegaQueue => if more then some "v2.files" else none
  | .maxConnections | .tlsEnabled | .caCertPath | .verifyCert => none
  | .legaExchange | .cegaExchange | .dialAttempts | .dialIntervalSecs | .logLevel => none

theorem fileSource_layered (more : Bool) :
    fileSource (layered more) (some "bridge.toml") = .ok threeTables := by
  have hformat : formatOf? Format.known "bridge.toml" = some .toml := by cbv
  have hpath : plainPath "bridge.toml" = "bridge.toml" := by decide +kernel
  have htext : Utf8.lossy (dropMark (Utf8.ofString threeSections)) = threeSections := by
    decide +kernel
  have hread : Format.toml.read "bridge.toml" (Utf8.lossy (dropMark (Utf8.ofString threeSections))) =
      some threeTables := by
    rw [htext]
    cbv
  refine fileSource_eq_ok ?_ hread
  simp only [locate, layered, if_pos, hformat, hpath]

theorem gives_layered (more : Bool) :
    Gives (layered more) (some "bridge.toml") threeTables (layeredValues more) where
  file_eq := fileSource_layered more
  holds := by
    simp only [threeTables, List.forall_mem_cons]
    refine ⟨.table .databaseUrl _ _ ?_, .table .legaConnection _ _ ?_, .table .cegaConnection _ _ ?_,
      List.forall_mem_nil _⟩
    · exact List.forall_mem_singleton.mpr ⟨⟨.databaseUrl, rfl, rfl⟩, _, _, rfl⟩
    · exact List.forall_mem_cons.mpr ⟨⟨⟨.legaConnection, rfl, rfl⟩, _, _, rfl⟩,
        List.forall_mem_singleton.mpr ⟨⟨.legaQueue, rfl, rfl⟩, _, _, rfl⟩⟩
    · exact List.forall_mem_singleton.mpr ⟨⟨.cegaConnection, rfl, rfl⟩, _, _, rfl⟩
  proper := by
    have hqueue : structuredKey? "CEGA_MQ_QUEUE" = none := by decide +kernel
    have hempty : structuredKey? "LEGA_MQ_QUEUE" = none := by decide +kernel
    have hother : structuredKey? "HOME" = none := by decide +kernel
    constructor
    · cases more <;> decide
    · cases more <;>
        simp [layered, Assoc.keys, hqueue, hempty, hother]
      all_goals exact fun _ => ⟨.legaQueue, by decide⟩
  value σ := by cases more <;> cases σ <;> rfl

/-- With the legacy variable for the queue of CEGA and without it. -/
theorem threeSections_loaded :
    load (layered true) (some "bridge.toml") = .ok {
      database := { url := "postgres://db" }
      lega := { connection := "amqp://lega", exchange := "sda", queue := "inbound" }
      cega := { connection := "amqp://cega", exchange := "localega.v1", queue := "v2.files" } } ∧
    load (layered false) (some "bridge.toml") = .ok {
      database := { url := "postgres://db" }
      lega := { connection := "amqp://lega", exchange := "sda", queue := "inbound" }
      cega := { connection := "amqp://cega", exchange := "localega.v1", queue := "v1.files" } } ∧
    ∀ σ : Setting, σ ≠ .cegaQueue →
      σ.get (settingsOf (layeredValues false)) = σ.get (settingsOf (layeredValues true)) := by
  have hagree : AgreeBut .cegaQueue ((layered true).fileEntries threeTables)
      ((layered false).fileEntries threeTables) (layered true).environment
      (layered false).environment := by
    refine ⟨fun _ _ => rfl, fun name _ hname => ?_⟩
    show Assoc.get? name (("CEGA_MQ_QUEUE", "v2.files") :: _) = _
    rw [Assoc.get?, if_neg fun h => hname (congrArg some h)]
    rfl
  have hwith : (settingsOf (layeredValues true)).defect? = none := by decide
  have hwithout : (settingsOf (layeredValues false)).defect? = none := by decide
  obtain ⟨-, hload, hothers⟩ := load_layered (gives_layered true)
  obtain ⟨hload', hsame⟩ := hothers _ _ _ _ _ (gives_layered false) hagree
  rw [checked, hwith] at hload
  rw [checked, hwithout] at hload'
  exact ⟨hload, hload', hsame⟩

end BrokerBridge.Config
