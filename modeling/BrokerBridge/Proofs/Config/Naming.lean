import BrokerBridge.Proofs.Config.Guessing
import BrokerBridge.Proofs.Config.Loading

/-!
# Two names of a setting

Most settings have a legacy variable beside their structured one.  Here a variable of either name is
set in some surroundings, to the same text, and what may come of loading them is compared
(`Loads`): maps are walked and formats are tried in any order, so that of several faults any one
may be told.

* A variable of a setting leaves what is read of all others as it is, whatever the file holds, and
  makes a table of its section under either name (`Sets.section_cases`, `Sets.read_other`).  So what
  may come of a load depends on the node of that setting alone (`Sets.loads_iff`).
* **`loads_either_name`**: for a setting that is a text, the structured variable means what the
  legacy one means for the text that its value is written as; this is the value itself where that is
  not taken for a flag or a number.  For a flag both mean the same where they name one.

Nothing is asked of the file: a section in it may be a list or a scalar, and it may say a setting
twice.
-/
namespace BrokerBridge.Config

/-! ## 1. Sections -/

variable {environment environment' : Environment} {σ τ : Setting} {tree tree' : Tree}
  {file : Assoc Node} {w : Walk}

theorem Setting.source?_nil (σ : Setting) (environment : Environment) :
    σ.source? [] environment = σ.setNode? environment := by
  have hnone : Assoc.get? σ.key (flat []) = none := rfl
  rw [Setting.source?, hnone, Option.or_none, Setting.setNode?]

/-- A setting that has a node stands in a section that is a table. -/
theorem exists_table_of_node? {node : Node} (h : σ.node? tree = some node) :
    ∃ entries origin, tree.get? σ.area = some (.table entries origin) := by
  rw [Setting.node?, Tree.setting?] at h
  split at h
  · exact ⟨_, _, ‹_›⟩
  · cases h

/-- A variable of one of its settings makes a table of a section. -/
theorem exists_table_of_setNode? (henvironment : environment.Proper)
    (h : σ.setNode? environment ≠ none) (w : Walk) (file : Assoc Node) :
    ∃ entries origin, (layers w file environment).get? σ.area = some (.table entries origin) := by
  obtain ⟨node, hnode⟩ := Option.ne_none_iff_exists'.mp h
  refine exists_table_of_node? (?_ : _ = some node)
  rw [node?_layers_setNode henvironment, hnode]
  rfl

/-- What is read of a setting depends on its section only. -/
theorem read_congr (h : tree.get? σ.area = tree'.get? σ.area) : σ.read tree = σ.read tree' := by
  rw [Setting.area] at h
  rw [Setting.read, Setting.read, SectionShape.body, SectionShape.body, h]

/-- A source without settings of a section leaves the section as it is. -/
theorem get?_addSource_of_ne {source : List (String × Node)} {area : String}
    (h : ∀ e ∈ source, ∃ τ : Setting, e.1 = τ.key ∧ τ.area ≠ area) (tree : Tree) :
    (Tree.addSource source tree).get? area = tree.get? area := by
  induction source generalizing tree with
  | nil => rfl
  | cons e source ih =>
    obtain ⟨⟨τ, hkey, harea⟩, hrest⟩ := List.forall_mem_cons.mp h
    show (Tree.addSource source (tree.set (KeyPath.ofKey e.1) e.2)).get? area = _
    rw [ih hrest, Tree.get?_set, hkey, Setting.path_key, if_neg harea]

theorem Setting.setNode?_ne_none (h : σ.structuredVariable ∈ Assoc.keys environment) :
    σ.setNode? environment ≠ none := by
  intro hnone
  rw [Setting.setNode?, Option.or_eq_none_iff, Option.map_eq_none_iff] at hnone
  exact Assoc.get?_eq_none_iff.mp hnone.2 h

/-- **A section none of whose settings has a variable is that of the file.** -/
theorem get?_layers (henvironment : environment.Proper) {area : String}
    (h : ∀ τ : Setting, τ.area = area → τ.setNode? environment = none) (w : Walk)
    (file : Assoc Node) :
    (layers w file environment).get? area =
      (Tree.addSource (w.entries .file file) []).get? area := by
  have hstructured : ∀ e ∈ w.entries .structured (structuredSource environment),
      ∃ τ : Setting, e.1 = τ.key ∧ τ.area ≠ area := by
    intro e he
    obtain ⟨τ, value, rfl, hset⟩ := henvironment.exists_setting (Walk.mem_of_mem_entries he)
    exact ⟨τ, rfl, fun harea => τ.setNode?_ne_none hset (h τ harea)⟩
  have hlegacy : ∀ e ∈ w.entries .legacy (legacySource environment),
      ∃ τ : Setting, e.1 = τ.key ∧ τ.area ≠ area := by
    intro e he
    obtain ⟨τ, value, rfl, hset⟩ := exists_setting_of_mem_legacySource (Walk.mem_of_mem_entries he)
    refine ⟨τ, rfl, fun harea => ?_⟩
    have hnone := h τ harea
    rw [Setting.setNode?, hset, Option.some_or] at hnone
    cases hnone
  rw [layers_eq, get?_addSource_of_ne hlegacy, get?_addSource_of_ne hstructured]

/-! ## 2. One setting from a variable -/

/-- An environment that gives a setting a node by a variable and is another environment for all
other settings. -/
structure Sets (σ : Setting) (base environment : Environment) (node : Node) : Prop where
  proper : environment.Proper
  setNode?_eq : σ.setNode? environment = some node
  others : ∀ τ : Setting, τ ≠ σ → τ.setNode? environment = τ.setNode? base

variable {base : Environment} {node node' : Node}

theorem Sets.read_self (h : Sets σ base environment node) (w : Walk) (file : Assoc Node) :
    σ.read (layers w file environment) =
      (optional σ.convert node).mapError (.mismatch σ.key) := by
  have hnode : σ.node? (layers w file environment) = some node := by
    rw [node?_layers_setNode h.proper, h.setNode?_eq]
    rfl
  obtain ⟨entries, origin, htable⟩ := exists_table_of_node? hnode
  rw [Setting.read_of_table htable, hnode]
  rfl

/-- A section is a table in the trees of both environments, by some variable, or it is that of the
file in both. -/
theorem Sets.section_cases (h : Sets σ base environment node)
    (h' : Sets σ base environment' node') (w : Walk) (file : Assoc Node) (area : String) :
    ((∃ entries origin, (layers w file environment).get? area = some (.table entries origin)) ∧
      ∃ entries origin, (layers w file environment').get? area = some (.table entries origin)) ∨
    (layers w file environment').get? area = (layers w file environment).get? area := by
  have hset (υ : Setting) : υ.setNode? environment' = none ↔ υ.setNode? environment = none := by
    by_cases hυ : υ = σ
    · rw [hυ, h.setNode?_eq, h'.setNode?_eq]
      exact ⟨nofun, nofun⟩
    · rw [h'.others υ hυ, h.others υ hυ]
  by_cases hsection : ∀ υ : Setting, υ.area = area → υ.setNode? environment = none
  · refine .inr ?_
    rw [get?_layers h.proper hsection,
      get?_layers h'.proper fun υ harea => (hset υ).mpr (hsection υ harea)]
  · simp only [not_forall] at hsection
    obtain ⟨υ, rfl, hυ⟩ := hsection
    exact .inl ⟨exists_table_of_setNode? h.proper hυ w file,
      exists_table_of_setNode? h'.proper (fun hnone => hυ ((hset υ).mp hnone)) w file⟩

/-- **A variable of one setting leaves what is read of the others as it is**, whichever of its two
names it has. -/
theorem Sets.read_other (h : Sets σ base environment node) (h' : Sets σ base environment' node')
    (hne : τ ≠ σ) (w : Walk) (file : Assoc Node) :
    τ.read (layers w file environment') = τ.read (layers w file environment) := by
  have hnode : τ.node? (layers w file environment') = τ.node? (layers w file environment) := by
    rw [node?_layers_setNode h'.proper, node?_layers_setNode h.proper, h'.others τ hne,
      h.others τ hne]
  obtain ⟨⟨_, _, htable⟩, ⟨_, _, htable'⟩⟩ | hsame := h.section_cases h' w file τ.area
  · rw [Setting.read_of_table htable, Setting.read_of_table htable', hnode]
  · exact read_congr hsame

/-- **Under either name the same can be read**, where the nodes of the setting say the same up to how
faults are told. -/
theorem Sets.readsAs (h : Sets σ base environment node) (h' : Sets σ base environment' node')
    {tell : TreeFault → TreeFault}
    (hself : (optional σ.convert node').mapError (.mismatch σ.key) =
      ((optional σ.convert node).mapError (.mismatch σ.key)).mapError tell)
    (hothers : ∀ (τ : Setting) (tree : Tree), τ ≠ σ → (τ.read tree).mapError tell = τ.read tree)
    (w : Walk) (file : Assoc Node) :
    ReadsAs tell (layers w file environment) (layers w file environment') where
  read τ := by
    by_cases hτ : τ = σ
    · subst hτ
      rw [h.read_self, h'.read_self, hself]
    · rw [h.read_other h' hτ, hothers τ _ hτ]
  list area := by
    obtain ⟨⟨_, _, htable⟩, ⟨_, _, htable'⟩⟩ | hsame := h.section_cases h' w file area
    · rw [htable, htable']
      exact ⟨nofun, nofun⟩
    · rw [hsame]

/-! ## 3. Faults with their origin -/

/-- A fault in the value of a setting told with the origin that structured variables have. -/
def TreeFault.placed (key : String) : TreeFault → TreeFault
  | .mismatch k m =>
    .mismatch k (if k = key then { m with origin := some environmentOrigin } else m)
  | .badSection shape fault => .badSection shape fault

theorem exists_of_mapError_optional {α : Type} {convert : Conversion α} {node : Node} {key : String}
    {fault : TreeFault} (h : (optional convert node).mapError (.mismatch key) = .error fault) :
    ∃ m, fault = .mismatch key m := by
  cases hvalue : optional convert node with
  | ok v =>
    rw [hvalue] at h
    cases h
  | error m =>
    rw [hvalue] at h
    exact ⟨m, (Except.error.inj h).symm⟩

/-- A fault of a section, or a mismatch at the key of the setting or at an index. -/
theorem exists_of_read_eq_error {fault : TreeFault} (h : τ.read tree = .error fault) :
    (∃ shape f, fault = .badSection shape f) ∨
      ∃ key m, fault = .mismatch key m ∧ (key = τ.key ∨ '[' ∈ key.toList) := by
  rw [Setting.read] at h
  cases hbody : τ.shape.body tree with
  | error f =>
    rw [hbody] at h
    cases h
    unfold SectionShape.body at hbody
    split at hbody <;> cases hbody
    exact .inl ⟨_, _, rfl⟩
  | ok body =>
    rw [hbody] at h
    change τ.shape.field body τ.name τ.convert = .error fault at h
    cases body with
    | absent => cases h
    | fields entries =>
      rw [SectionShape.field] at h
      cases hnode : Assoc.get? τ.name entries with
      | none =>
        rw [hnode] at h
        cases h
      | some node =>
        rw [hnode] at h
        obtain ⟨m, hm⟩ := exists_of_mapError_optional h
        exact .inr ⟨_, m, hm, .inl rfl⟩
    | items nodes =>
      rw [SectionShape.field] at h
      split at h
      · exact .inl ⟨_, _, (Except.error.inj h).symm⟩
      · obtain ⟨m, hm⟩ := exists_of_mapError_optional h
        refine .inr ⟨_, m, hm, .inr ?_⟩
        simp only [String.toList_append, List.mem_append]
        exact .inl (.inl (.inr (List.mem_singleton_self _)))

theorem bracket_notMem_key (σ : Setting) : '[' ∉ σ.key.toList := by
  cases σ <;> decide

/-- A fault that is met at another setting is told as it is. -/
theorem read_mapError_placed (hne : τ ≠ σ) (tree : Tree) :
    (τ.read tree).mapError (TreeFault.placed σ.key) = τ.read tree := by
  cases hread : τ.read tree with
  | ok v => rfl
  | error fault =>
    obtain ⟨shape, f, rfl⟩ | ⟨key, m, rfl, hkey⟩ := exists_of_read_eq_error hread
    · rfl
    · have hother : key ≠ σ.key := by
        rintro rfl
        obtain hkey | hbracket := hkey
        · exact hne (Setting.key_injective hkey.symm)
        · exact bracket_notMem_key σ hbracket
      show Except.error (TreeFault.mismatch key (if _ then _ else _)) = _
      rw [if_neg hother]

/-! ## 4. Loading -/

/-- What may come of a load: maps may be walked, and formats tried, in any order. -/
def Loads (s : Surroundings) (path : Option String) (r : Except ConfigError Settings) : Prop :=
  ∃ (walk : Walk) (formats : List Format), formats.Perm s.formats ∧
    load { s with walk, formats } path = r

/-- An error with another way to tell faults of the tree. -/
def ConfigError.mapTree (tell : TreeFault → TreeFault) : ConfigError → ConfigError
  | .tree fault => .tree (tell fault)
  | .source fault => .source fault
  | .defect d => .defect d

variable {s : Surroundings} {path : Option String}

/-- Where the same is read of the trees up to how faults are told, the same is loaded. -/
theorem load_mapError {s s' : Surroundings} {tell : TreeFault → TreeFault}
    (hfile : fileSource s' path = fileSource s path)
    (hread : ∀ file, fileSource s path = .ok file →
      readSettings s'.walk (layers s'.walk file s'.environment) =
        (readSettings s.walk (layers s.walk file s.environment)).mapError tell) :
    load s' path = (load s path).mapError (.mapTree tell) := by
  rw [Config.load_eq, Config.load_eq, hfile]
  cases hsource : fileSource s path with
  | error fault => rfl
  | ok file =>
    show Except.bind ((readSettings _ _).mapError ConfigError.tree) _ =
      (Except.bind ((readSettings _ _).mapError ConfigError.tree) _).mapError _
    rw [hread file hsource]
    cases readSettings s.walk (layers s.walk file s.environment) with
    | error fault => rfl
    | ok given =>
      show checked (given.over {}) = (checked (given.over {})).mapError _
      rw [checked]
      split <;> rfl

theorem layers_congr {w' : Walk} (h : w'.SourcesAs w) (file : Assoc Node)
    (environment : Environment) : layers w' file environment = layers w file environment := by
  simp only [layers_eq, Walk.entries, h.file, h.structured, h.legacy]

/-- A walk may depend on the file, if there is one. -/
theorem exists_walk_of_file {P : Walk → Assoc Node → Prop} (w : Walk)
    (source : Except SourceFault (Assoc Node)) (h : ∀ file, ∃ w', P w' file) :
    ∃ w', ∀ file, source = .ok file → P w' file := by
  cases source with
  | error fault => exact ⟨w, nofun⟩
  | ok file =>
    obtain ⟨w', hw'⟩ := h file
    exact ⟨w', fun _ hfile => Except.ok.inj hfile ▸ hw'⟩

/-- **Trees that read alike give loads with the same results.** -/
theorem loads_iff_of_readsAs {tell : TreeFault → TreeFault}
    (h : ∀ w file, ReadsAs tell (layers w file environment) (layers w file environment'))
    (r' : Except ConfigError Settings) :
    Loads { s with environment := environment' } path r' ↔
      ∃ r, Loads { s with environment := environment } path r ∧
        r' = r.mapError (.mapTree tell) := by
  constructor
  · rintro ⟨w, formats, hformats, rfl⟩
    obtain ⟨w', hw'⟩ := exists_walk_of_file w
      (fileSource { s with walk := w, formats, environment } path) fun file => by
        obtain ⟨w', hsources, hw'⟩ := (h w file).exists_walk' w
        rw [← layers_congr hsources file environment] at hw'
        exact ⟨w', hw'⟩
    exact ⟨_, ⟨w', formats, hformats, rfl⟩, load_mapError rfl hw'⟩
  · rintro ⟨_, ⟨w, formats, hformats, rfl⟩, rfl⟩
    obtain ⟨w', hw'⟩ := exists_walk_of_file w
      (fileSource { s with walk := w, formats, environment } path) fun file => by
        obtain ⟨w', hsources, hw'⟩ := (h w file).exists_walk w
        rw [← layers_congr hsources file environment'] at hw'
        exact ⟨w', hw'⟩
    exact ⟨w', formats, hformats, load_mapError rfl hw'⟩

theorem mapError_id {ε α : Type} (x : Except ε α) : x.mapError id = x := by
  cases x <;> rfl

theorem mapError_mapTree_id (r : Except ConfigError Settings) :
    r.mapError (.mapTree id) = r := by
  rcases r with (_ | _ | _) | _ <;> rfl

/-- **What may come of a load depends on the node that counts for a setting**, and not on the name
of its variable. -/
theorem Sets.loads_iff (h : Sets σ base environment node) (h' : Sets σ base environment' node')
    (hnode : optional σ.convert node' = optional σ.convert node)
    (r : Except ConfigError Settings) :
    Loads { s with environment := environment' } path r ↔
      Loads { s with environment := environment } path r := by
  have hreads (w : Walk) (file : Assoc Node) :
      ReadsAs id (layers w file environment) (layers w file environment') :=
    h.readsAs h' (by rw [hnode, mapError_id]) (fun τ tree _ => mapError_id _) w file
  refine (loads_iff_of_readsAs hreads r).trans ?_
  simp only [mapError_mapTree_id, exists_eq_right']

/-- Where only the origin of a fault is another one, it is told. -/
theorem Sets.loads_placed (h : Sets σ base environment node) (h' : Sets σ base environment' node')
    {m : Mismatch} (hnode : optional σ.convert node = .error m)
    (hnode' : optional σ.convert node' = .error { m with origin := some environmentOrigin })
    (r' : Except ConfigError Settings) :
    Loads { s with environment := environment' } path r' ↔
      ∃ r, Loads { s with environment := environment } path r ∧
        r' = r.mapError (.mapTree (.placed σ.key)) := by
  refine loads_iff_of_readsAs (h.readsAs h' ?_ fun τ tree hτ => read_mapError_placed hτ tree) r'
  rw [hnode, hnode']
  show Except.error (TreeFault.mismatch _ _) = .error (.mismatch _ (if _ then _ else _))
  rw [if_pos rfl]

/-- A value that can be converted is that of the setting. -/
theorem Sets.get_of_loads (h : Sets σ base environment node) {v : σ.Value}
    (hnode : optional σ.convert node = .ok (some v)) {settings : Settings}
    (hload : Loads { s with environment := environment } path (.ok settings)) :
    σ.get settings = some v := by
  obtain ⟨w, formats, -, hload⟩ := hload
  obtain ⟨file, given, hread, rfl, -⟩ := exists_of_load_eq_ok hload
  obtain ⟨given, hgiven, rfl⟩ := exists_of_readSettings_eq_ok hread
  have hself := h.read_self w file
  rw [hnode, hgiven σ] at hself
  rw [Setting.get_over, Except.ok.inj (hself : Except.ok (given σ) = Except.ok (some v))]
  rfl

/-- With a value that cannot be converted nothing is loaded. -/
theorem Sets.not_loads_ok (h : Sets σ base environment node) {m : Mismatch}
    (hnode : optional σ.convert node = .error m) (settings : Settings) :
    ¬ Loads { s with environment := environment } path (.ok settings) := by
  rintro ⟨w, formats, -, hload⟩
  obtain ⟨file, given, hread, -, -⟩ := exists_of_load_eq_ok hload
  obtain ⟨given, hgiven, -⟩ := exists_of_readSettings_eq_ok hread
  have hself := h.read_self w file
  rw [hnode] at hself
  rw [hgiven σ] at hself
  cases hself

/-! ## 5. The two names -/

theorem Environment.Proper.put (h : base.Proper) {name : String} (value : String)
    (hname : structuredKey? name ≠ none → ∃ σ : Setting, name = σ.structuredVariable) :
    Environment.Proper (base.put name value) where
  nodup := Assoc.nodup_keys_put h.nodup
  known other hother := by
    rw [Assoc.keys_put] at hother
    split at hother
    · exact h.known other hother
    · obtain hother | hother := List.mem_append.mp hother
      · exact h.known other hother
      · rw [List.mem_singleton.mp hother]
        exact hname

/-- The variables of one setting say nothing of the others. -/
theorem setNode?_put_of_ne {name : String} (value : String)
    (hname : σ.legacyVariable? = some name ∨ name = σ.structuredVariable) (hne : τ ≠ σ) :
    τ.setNode? (base.put name value) = τ.setNode? base := by
  have hagree : AgreeBut σ [] [] (base.put name value) base := by
    refine ⟨fun _ _ => rfl, fun other hstructured hlegacy => Assoc.get?_put_of_ne ?_ value base⟩
    rintro rfl
    exact hname.elim hlegacy hstructured
  rw [← Setting.source?_nil, ← Setting.source?_nil, hagree.source?_eq hne]

theorem sets_legacy (hbase : base.Proper) {name v : String} (hname : σ.legacyVariable? = some name)
    (hv : v ≠ "") : Sets σ base (base.put name v) (.scalar (.text v) none) where
  proper := hbase.put v fun h => absurd (Setting.structuredKey?_legacyVariable hname) h
  setNode?_eq := by
    have hnode : legacyNode? (base.put name v) name = some (.scalar (.text v) none) := by
      rw [legacyNode?, Assoc.get?_put_self, Option.filter_some, if_pos (by simpa using hv)]
      rfl
    rw [Setting.setNode?, hname, Option.bind_some, hnode, Option.some_or]
  others τ hne := setNode?_put_of_ne v (.inl hname) hne

theorem sets_structured (hbase : base.Proper) {name : String} (v : String)
    (hname : σ.legacyVariable? = some name) (hunset : base.get? name = none) :
    Sets σ base (base.put σ.structuredVariable v) (structuredNode v) where
  proper := hbase.put v fun _ => ⟨σ, rfl⟩
  setNode?_eq := by
    have hne : σ.structuredVariable ≠ name := fun heq => σ.legacyVariable?_ne σ (heq ▸ hname)
    have hnode : legacyNode? (base.put σ.structuredVariable v) name = none := by
      rw [legacyNode?, Assoc.get?_put_of_ne hne, hunset]
      rfl
    rw [Setting.setNode?, hname, Option.bind_some, hnode, Assoc.get?_put_self]
    rfl
  others τ hne := setNode?_put_of_ne v (.inr rfl) hne

/-- Whether a setting is a flag. -/
def Setting.isFlag : Setting → Bool
  | tlsEnabled | verifyCert => true
  | _ => false

/-- The text of a setting that is one. -/
def Setting.text? (settings : Settings) : Setting → Option String
  | databaseUrl => some settings.database.url
  | caCertPath => settings.tls.caCertPath
  | legaConnection => some settings.lega.connection
  | legaExchange => some settings.lega.exchange
  | legaQueue => some settings.lega.queue
  | cegaConnection => some settings.cega.connection
  | cegaExchange => some settings.cega.exchange
  | cegaQueue => some settings.cega.queue
  | logLevel => some settings.logging.level
  | maxConnections | tlsEnabled | verifyCert | dialAttempts | dialIntervalSecs => none

/-- The surroundings with a variable set. -/
def Surroundings.setVariable (s : Surroundings) (name value : String) : Surroundings :=
  { s with environment := s.environment.put name value }

theorem optional_eq_map {α : Type} {convert : Conversion α} (value : Scalar)
    {origin : Option String} (h : value ≠ .null) :
    optional convert (.scalar value origin) = (convert (.scalar value origin)).map some := by
  cases value with
  | null => exact absurd rfl h
  | _ => rfl

theorem optional_asText_structuredNode (v : String) :
    optional asText (structuredNode v) =
      optional asText (.scalar (.text (Scalar.guess v).written) none) := by
  rw [structuredNode, optional_eq_map _ (guess_ne_null v), asText_guess]
  rfl

theorem optional_asFlag_of_flag? (value : Scalar) {b : Bool} (h : value.flag? = some b)
    (origin : Option String) : optional asFlag (.scalar value origin) = .ok (some b) := by
  have hnull : value ≠ .null := by
    rintro rfl
    cases h
  rw [optional_eq_map _ hnull, asFlag_of_flag? h]
  rfl

section

variable {name v : String}

/-- A setting with a legacy variable that is no flag is a text. -/
theorem optional_convert_text (hname : σ.legacyVariable? = some name) (hflag : σ.isFlag = false)
    (h : optional asText node' = optional asText node) :
    optional σ.convert node' = optional σ.convert node := by
  cases σ <;> first
    | exact h
    | exact absurd hflag (by decide)
    | cases hname

theorem optional_convert_flag (hflag : σ.isFlag = true)
    (h : optional asFlag node' = optional asFlag node) :
    optional σ.convert node' = optional σ.convert node := by
  cases σ <;> first | exact h | exact absurd hflag (by decide)

theorem optional_convert_eq_error (hflag : σ.isFlag = true) {m : Mismatch}
    (h : optional asFlag node = .error m) : optional σ.convert node = .error m := by
  cases σ <;> first | exact h | exact absurd hflag (by decide)

/-- What is loaded with a text is the text. -/
theorem Sets.text?_of_loads (h : Sets σ base environment (.scalar (.text v) none))
    (hname : σ.legacyVariable? = some name) (hflag : σ.isFlag = false) {settings : Settings}
    (hload : Loads { s with environment := environment } path (.ok settings)) :
    σ.text? settings = some v := by
  cases σ <;> first
    | exact h.get_of_loads (v := v) rfl hload
    | exact absurd hflag (by decide)
    | cases hname

end

/-- **What the two names of a setting mean.**  A variable of either name is set to the same text,
where the legacy one has none otherwise, and what may come of loading is compared.

* A setting that is a text arrives as it is through the legacy name, and as it is written after the
  guess through the structured one; both names mean the same where it is taken for a text, as every
  text with a colon is.
* A flag is the same under both names where the text names one.  Another text is refused under the
  legacy name.  Under the structured name it is the flag of the number that it writes, or refused
  with the same errors but for the origin that is told. -/
theorem loads_either_name (s : Surroundings) (path : Option String) (σ : Setting)
    (name v : String) (hproper : s.environment.Proper) (hname : σ.legacyVariable? = some name)
    (hunset : s.environment.get? name = none) (hv : v ≠ "") :
    (σ.isFlag = false →
      (∀ settings, Loads (s.setVariable name v) path (.ok settings) →
        σ.text? settings = some v) ∧
      (∀ settings, Loads (s.setVariable σ.structuredVariable v) path (.ok settings) →
        σ.text? settings = some (Scalar.guess v).written) ∧
      (∀ r, Loads (s.setVariable σ.structuredVariable v) path r ↔
        Loads (s.setVariable name (Scalar.guess v).written) path r) ∧
      (Scalar.guess v = .text v → ∀ r, Loads (s.setVariable σ.structuredVariable v) path r ↔
        Loads (s.setVariable name v) path r) ∧
      (':' ∈ v.toList → Scalar.guess v = .text v)) ∧
    (σ.isFlag = true →
      (flag? (Text.lower v) ≠ none → ∀ r, Loads (s.setVariable σ.structuredVariable v) path r ↔
        Loads (s.setVariable name v) path r) ∧
      (flag? (Text.lower v) = none →
        ∀ settings, ¬ Loads (s.setVariable name v) path (.ok settings)) ∧
      (∀ b, (Scalar.guess v).flag? = some b →
        ∀ r, Loads (s.setVariable σ.structuredVariable v) path r ↔
          Loads (s.setVariable name (if b then "true" else "false")) path r) ∧
      (flag? (Text.lower v) = none → Scalar.guess v = .text v →
        ∀ r, Loads (s.setVariable σ.structuredVariable v) path r ↔
          ∃ r', Loads (s.setVariable name v) path r' ∧
            r = r'.mapError (.mapTree (.placed σ.key)))) := by
  have hstructured := sets_structured hproper v hname hunset
  have hlegacy {text : String} (htext : text ≠ "") := sets_legacy hproper hname htext
  refine ⟨fun hflag => ?_, fun hflag => ?_⟩
  · have hwritten := written_guess_ne_empty hv
    have hsame : ∀ r, Loads (s.setVariable σ.structuredVariable v) path r ↔
        Loads (s.setVariable name (Scalar.guess v).written) path r :=
      (hlegacy hwritten).loads_iff hstructured <|
        optional_convert_text hname hflag (optional_asText_structuredNode v)
    refine ⟨fun _ => (hlegacy hv).text?_of_loads hname hflag, fun _ hload => ?_, hsame,
      fun hguess => ?_, guess_of_colon⟩
    · exact (hlegacy hwritten).text?_of_loads hname hflag ((hsame _).mp hload)
    · rw [hguess] at hsame
      exact hsame
  · -- Whatever the guess is, its flag has a name that both take for the same.
    have hnumber : ∀ b, (Scalar.guess v).flag? = some b →
        ∀ r, Loads (s.setVariable σ.structuredVariable v) path r ↔
          Loads (s.setVariable name (if b then "true" else "false")) path r := by
      intro b hb
      have hname' : flag? (Text.lower (if b then "true" else "false")) = some b := by
        cases b <;> decide +kernel
      have htext : (if b then "true" else "false") ≠ "" := by cases b <;> decide
      refine (hlegacy htext).loads_iff hstructured (optional_convert_flag hflag ?_)
      rw [structuredNode, optional_asFlag_of_flag? _ hb,
        optional_asFlag_of_flag? (.text _) hname']
    have hrefused (hnone : flag? (Text.lower v) = none) (origin : Option String) :
        optional σ.convert (.scalar (.text v) origin) =
          .error ⟨.text (Text.lower v), "a boolean", origin⟩ := by
      refine optional_convert_eq_error hflag ?_
      rw [optional_eq_map (.text v) nofun, asFlag_text hnone]
      rfl
    refine ⟨fun hsome => ?_, fun hnone => ?_, hnumber, fun hnone hguess => ?_⟩
    · obtain ⟨b, hb⟩ := Option.ne_none_iff_exists'.mp hsome
      refine (hlegacy hv).loads_iff hstructured (optional_convert_flag hflag ?_)
      rw [structuredNode, optional_asFlag_of_flag? _ (flag?_guess hb),
        optional_asFlag_of_flag? (.text v) hb]
    · exact (hlegacy hv).not_loads_ok (hrefused hnone none)
    · refine (hlegacy hv).loads_placed hstructured (hrefused hnone none) ?_
      rw [structuredNode, hguess]
      exact hrefused hnone _

/-- Three connections and nothing else, by their legacy variables. -/
def threeConnections : Surroundings where
  environment := [("POSTGRES_CONNECTION", "postgres://db"), ("LEGA_MQ_CONNECTION", "amqp://lega"),
    ("CEGA_MQ_CONNECTION", "amqp://cega")]

theorem threeConnections_proper : threeConnections.environment.Proper where
  nodup := by decide
  known := by
    have hkeys : ∀ name ∈ Assoc.keys threeConnections.environment, structuredKey? name = none := by
      decide +kernel
    exact fun name hmem hkey => absurd (hkeys name hmem) hkey

/-- The settings of three connections with another queue of LEGA. -/
def threeConnectionsWith (queue : String) : Settings where
  database := { url := "postgres://db" }
  lega := { connection := "amqp://lega", exchange := "sda", queue }
  cega := { connection := "amqp://cega", exchange := "localega.v1", queue := "v1.files" }

/-- A queue that is named by digits arrives under the legacy name and does not under the structured
one; a flag that is a number other than zero and one is refused under the legacy name only. -/
theorem digits_by_either_name :
    threeConnections.environment.Proper ∧
      Loads (threeConnections.setVariable "LEGA_MQ_QUEUE" "007") none
        (.ok (threeConnectionsWith "007")) ∧
      Loads (threeConnections.setVariable "INTERCEPTOR__LEGA__QUEUE" "007") none
        (.ok (threeConnectionsWith "7")) ∧
      (∀ settings, Loads (threeConnections.setVariable "INTERCEPTOR__LEGA__QUEUE" "007") none
        (.ok settings) → settings.lega.queue ≠ "007") ∧
      (∀ r, Loads (threeConnections.setVariable "INTERCEPTOR__TLS__ENABLED" "2") none r ↔
        Loads (threeConnections.setVariable "ENABLE_TLS" "true") none r) ∧
      ∀ settings, ¬ Loads (threeConnections.setVariable "ENABLE_TLS" "2") none (.ok settings) := by
  obtain ⟨hqueue, -⟩ := loads_either_name threeConnections none .legaQueue
    "LEGA_MQ_QUEUE" "007" threeConnections_proper rfl rfl (by decide)
  obtain ⟨-, hflag⟩ := loads_either_name threeConnections none .tlsEnabled
    "ENABLE_TLS" "2" threeConnections_proper rfl rfl (by decide)
  have hguess : (Scalar.guess "007").written = "7" := by decide +kernel
  have hqueueName : Setting.legaQueue.structuredVariable = "INTERCEPTOR__LEGA__QUEUE" := by decide
  have hflagName : Setting.tlsEnabled.structuredVariable = "INTERCEPTOR__TLS__ENABLED" := by decide
  obtain ⟨-, htext, hwritten, -⟩ := hqueue rfl
  obtain ⟨-, hrefused, hnumber, -⟩ := hflag rfl
  rw [hguess, hqueueName] at hwritten
  rw [hguess, hqueueName] at htext
  rw [hflagName] at hnumber
  have hloads (queue : String) (h : load (threeConnections.setVariable "LEGA_MQ_QUEUE" queue) none =
      .ok (threeConnectionsWith queue)) :
      Loads (threeConnections.setVariable "LEGA_MQ_QUEUE" queue) none
        (.ok (threeConnectionsWith queue)) := ⟨_, _, .refl _, h⟩
  refine ⟨threeConnections_proper, hloads "007" (by decide +kernel),
    (hwritten _).mpr (hloads "7" (by decide +kernel)), fun settings hload heq => ?_,
    hnumber true (by decide +kernel), hrefused (by decide +kernel)⟩
  have hseven := htext settings hload
  exact absurd (Option.some.inj hseven ▸ heq : "7" = "007") (by decide)

end BrokerBridge.Config
