import BrokerBridge.Config.Load
import BrokerBridge.Proofs.Config.Walking

/-!
# Layers of settings

A source may hold a setting under its key, or in the table of its section; `flat` brings both to one
map from keys to nodes.  Where a source holds nothing but settings (`HoldsSettings`), laying it over
a tree changes the node of a setting to the one it has for it, and leaves it where it has none
(`node?_addSource`).  The structured and the legacy variables are such sources, in which no setting
stands twice, so that the order in which they are walked does not matter
(`get?_flat_structuredSource`, `get?_flat_legacySource`).

* **`node?_layers`**: in the tree of all layers the node of a setting is that of its legacy
  variable, or else that of its structured variable, or else that of the file.  Of a file that says
  a setting twice it is what is met last; of any other file it is the same on every walk
  (`get?_flat_entries`).

Since tables are merged entry by entry, every top entry of such a tree is a table (`Tabular`), and
there a setting can be read where its node can be converted (`read_eq_ok`).
-/
namespace BrokerBridge.Config

variable {tree : Tree} {source : List (String × Node)} {environment : Environment} {w : Walk}

/-- The node of a setting in a tree. -/
def Setting.node? (tree : Tree) (σ : Setting) : Option Node := tree.setting? σ.area σ.name

/-- Setting a scalar changes the node of one setting. -/
theorem node?_set_scalar (σ τ : Setting) (value : Scalar) (origin : Option String) (tree : Tree) :
    τ.node? (tree.set ⟨σ.area, [.key σ.name]⟩ (.scalar value origin)) =
      if σ = τ then some (.scalar value origin) else τ.node? tree := by
  rw [Setting.node?, Tree.setting?_set_scalar]
  by_cases h : σ = τ
  · subst h
    rw [if_pos ⟨rfl, rfl⟩, if_pos rfl]
  · rw [if_neg fun hplace => h (Setting.eq_of_place hplace.1 hplace.2), if_neg h]
    rfl

/-! ## 1. Sources -/

/-- The nodes of a top entry under the keys of settings. -/
def spread : String × Node → List (String × Node)
  | (area, .table fields _) => fields.map fun e => (Setting.keyIn area e.1, e.2)
  | entry => [entry]

/-- The nodes of a source under the keys of settings. -/
def flat (source : List (String × Node)) : Assoc Node := Assoc.ofEntries (source.flatMap spread)

/-- Whether a node is a scalar. -/
def Node.IsScalar (node : Node) : Prop := ∃ value origin, node = .scalar value origin

/-- An entry of the table of a section that holds a setting. -/
structure HoldsField (area : String) (e : String × Node) : Prop where
  exists_setting : ∃ σ : Setting, σ.area = area ∧ σ.name = e.1
  isScalar : e.2.IsScalar

/-- A top entry that holds settings and nothing else. -/
inductive HoldsSettings : String × Node → Prop
  /-- One setting under its key. -/
  | single (σ : Setting) (value : Scalar) (origin : Option String) :
    HoldsSettings (σ.key, .scalar value origin)
  /-- Settings of one section in a table. -/
  | table (σ : Setting) (fields : List (String × Node)) (origin : Option String)
    (hfields : ∀ e ∈ fields, HoldsField σ.area e) :
    HoldsSettings (σ.area, .table fields origin)

/-- Entries with scalars are written one after another. -/
theorem overlayEntries_eq_putAll (here : Assoc Node) {fields : List (String × Node)}
    (h : ∀ e ∈ fields, e.2.IsScalar) :
    Node.overlayEntries here fields = Assoc.putAll here fields := by
  induction fields generalizing here with
  | nil => rw [Node.overlayEntries]; rfl
  | cons e fields ih =>
    obtain ⟨key, node⟩ := e
    obtain ⟨⟨value, origin, rfl⟩, hrest⟩ := List.forall_mem_cons.mp h
    rw [Node.overlayEntries, Node.overlay, ih _ hrest, Assoc.putAll_cons]

/-- The nodes of the table of a section are those of settings of the section. -/
theorem get?_spread_table {σ τ : Setting} {fields : List (String × Node)} {origin : Option String}
    (hfields : ∀ e ∈ fields, HoldsField σ.area e) :
    Assoc.get? τ.key (spread (σ.area, .table fields origin)).reverse =
      if σ.area = τ.area then Assoc.get? τ.name fields.reverse else none := by
  rw [spread, ← List.map_reverse]
  split
  · rename_i harea
    rw [Setting.key, ← harea]
    exact Assoc.get?_mapKeys fields.reverse fun e _ h => (String.append_right_inj _).mp h
  · rename_i harea
    rw [Assoc.get?_eq_none_iff]
    intro hmem
    obtain ⟨d, hd, hkey⟩ := List.mem_map.mp hmem
    obtain ⟨e, he, rfl⟩ := List.mem_map.mp hd
    obtain ⟨⟨υ, hυ, hname⟩, -⟩ := hfields e (List.mem_reverse.mp he)
    dsimp only at hkey
    rw [← hυ, ← hname] at hkey
    rw [← hυ] at harea
    exact harea (congrArg Setting.area (Setting.key_injective hkey))

/-- **Laying an entry over a tree** changes the nodes of the settings that it holds. -/
theorem node?_set {e : String × Node} (h : HoldsSettings e) (tree : Tree) (τ : Setting) :
    τ.node? (tree.set (KeyPath.ofKey e.1) e.2) =
      (Assoc.get? τ.key (spread e).reverse).or (τ.node? tree) := by
  cases h with
  | single σ value origin =>
    show τ.node? (tree.set (KeyPath.ofKey σ.key) (.scalar value origin)) =
      (if σ.key = τ.key then some (.scalar value origin) else none).or (τ.node? tree)
    rw [Setting.path_key, node?_set_scalar]
    by_cases h : σ = τ
    · rw [if_pos h, if_pos (congrArg Setting.key h)]
      rfl
    · rw [if_neg h, if_neg fun hkey => h (Setting.key_injective hkey)]
      rfl
  | table σ fields origin hfields =>
    have hscalars : ∀ e ∈ fields, e.2.IsScalar := fun e he => (hfields e he).isScalar
    rw [Setting.path_area, get?_spread_table hfields, Setting.node?, Setting.node?,
      Tree.setting?_eq, Tree.setting?_eq, Tree.get?_set]
    by_cases harea : σ.area = τ.area
    · rw [if_pos harea, if_pos harea, ← harea]
      show Assoc.get? τ.name (Node.overlayEntries _ fields) = _
      rw [overlayEntries_eq_putAll _ hscalars, Assoc.get?_putAll, Assoc.get?_append]
    · rw [if_neg harea, if_neg harea]
      rfl

/-- **Laying a source over a tree**: the node of a setting is that of the source, if it has one. -/
theorem node?_addSource (h : ∀ e ∈ source, HoldsSettings e) (tree : Tree) (τ : Setting) :
    τ.node? (Tree.addSource source tree) = ((flat source).get? τ.key).or (τ.node? tree) := by
  rw [flat, Assoc.get?_ofEntries]
  induction source generalizing tree with
  | nil => rfl
  | cons e source ih =>
    obtain ⟨hhead, hrest⟩ := List.forall_mem_cons.mp h
    show τ.node? (Tree.addSource source (tree.set (KeyPath.ofKey e.1) e.2)) = _
    rw [ih hrest, node?_set hhead, List.flatMap_cons, List.reverse_append, Assoc.get?_append,
      Option.or_assoc]

theorem spread_eq_self (hscalars : ∀ e ∈ source, e.2.IsScalar) :
    source.flatMap spread = source := by
  induction source with
  | nil => rfl
  | cons e source ih =>
    obtain ⟨key, node⟩ := e
    obtain ⟨⟨value, origin, rfl⟩, hrest⟩ := List.forall_mem_cons.mp hscalars
    rw [List.flatMap_cons, ih hrest]
    rfl

/-- A source of scalars is flat. -/
theorem flat_eq_self (hscalars : ∀ e ∈ source, e.2.IsScalar)
    (hnodup : (Assoc.keys source).Nodup) : flat source = source := by
  rw [flat, spread_eq_self hscalars, Assoc.ofEntries_eq_self hnodup]

theorem HoldsSettings.entries {place : Walked} (h : ∀ e ∈ source, HoldsSettings e) :
    ∀ e ∈ w.entries place source, HoldsSettings e :=
  fun e he => h e (Walk.mem_of_mem_entries he)

/-- **Where no setting stands twice, a walk through a source changes nothing.** -/
theorem get?_flat_entries (hkeys : (Assoc.keys source).Nodup)
    (h : (Assoc.keys (source.flatMap spread)).Nodup) (w : Walk) (place : Walked) (q : String) :
    (flat (w.entries place source)).get? q = (flat source).get? q := by
  have hperm : (w.entries place source).Perm source := Walk.perm_entries hkeys
  have hspread := hperm.flatMap_right spread
  rw [flat, flat, Assoc.ofEntries_eq_self h,
    Assoc.ofEntries_eq_self ((hspread.map Prod.fst).nodup_iff.mpr h)]
  exact Assoc.get?_eq_of_perm hspread h q

/-- A walk through a source of scalars changes nothing. -/
theorem get?_flat_entries_of_scalars (hscalars : ∀ e ∈ source, e.2.IsScalar)
    (hnodup : (Assoc.keys source).Nodup) (w : Walk) (place : Walked) (q : String) :
    (flat (w.entries place source)).get? q = Assoc.get? q source := by
  have hspread : (Assoc.keys (source.flatMap spread)).Nodup := by
    rw [spread_eq_self hscalars]
    exact hnodup
  rw [get?_flat_entries hnodup hspread, flat_eq_self hscalars hnodup]

/-! ## 2. Variables -/

/-- The node of the value of a structured variable. -/
def structuredNode (value : String) : Node := .scalar (.guess value) (some environmentOrigin)

/-- An environment in which no variable is set twice and the structured variables are those of
settings, in capitals. -/
structure Environment.Proper (environment : Environment) : Prop where
  nodup : (Assoc.keys environment).Nodup
  known : ∀ name ∈ Assoc.keys environment, structuredKey? name ≠ none →
    ∃ σ : Setting, name = σ.structuredVariable

theorem Environment.Proper.eq_structuredVariable (h : environment.Proper) {name : String}
    (hmem : name ∈ Assoc.keys environment) {τ : Setting}
    (hkey : structuredKey? name = some τ.key) : name = τ.structuredVariable := by
  obtain ⟨σ, rfl⟩ := h.known _ hmem (hkey ▸ Option.some_ne_none _)
  rw [Setting.structuredKey?_structuredVariable] at hkey
  rw [Setting.key_injective (Option.some.inj hkey)]

/-- The structured variables are settings. -/
theorem Environment.Proper.exists_setting (h : environment.Proper) {e : String × Node}
    (he : e ∈ structuredSource environment) :
    ∃ (σ : Setting) (value : String), e = (σ.key, structuredNode value) ∧
      σ.structuredVariable ∈ Assoc.keys environment := by
  obtain ⟨⟨name, value⟩, hmem, hentry⟩ := List.mem_filterMap.mp (Assoc.subset_ofEntries _ he)
  obtain ⟨key, hkey, rfl⟩ := Option.map_eq_some_iff.mp hentry
  have hname : name ∈ Assoc.keys environment := List.mem_map_of_mem hmem
  obtain ⟨σ, rfl⟩ := h.known name hname (hkey ▸ Option.some_ne_none _)
  rw [Setting.structuredKey?_structuredVariable] at hkey
  rw [← Option.some.inj hkey]
  exact ⟨σ, value, rfl, hname⟩

theorem Environment.Proper.holdsSettings (h : environment.Proper) :
    ∀ e ∈ structuredSource environment, HoldsSettings e := by
  intro e he
  obtain ⟨σ, value, rfl, -⟩ := h.exists_setting he
  exact .single σ _ _

/-- The entry of a variable in the source of the structured variables. -/
def structuredEntry? (e : String × String) : Option (String × Node) :=
  (structuredKey? e.1).map fun key => (key, structuredNode e.2)

theorem structuredSource_eq (environment : Environment) :
    structuredSource environment = Assoc.ofEntries (environment.filterMap structuredEntry?) := rfl

theorem get?_structuredEntries {τ : Setting} {entries : Environment}
    (h : ∀ name ∈ Assoc.keys entries, structuredKey? name = some τ.key →
      name = τ.structuredVariable) :
    Assoc.get? τ.key (entries.filterMap structuredEntry?) =
      (entries.get? τ.structuredVariable).map structuredNode := by
  induction entries with
  | nil => rfl
  | cons e entries ih =>
    obtain ⟨name, value⟩ := e
    obtain ⟨hhead, hrest⟩ := List.forall_mem_cons.mp h
    rw [List.filterMap_cons, structuredEntry?, Assoc.get?]
    by_cases hname : name = τ.structuredVariable
    · subst hname
      rw [Setting.structuredKey?_structuredVariable, if_pos rfl]
      show (if τ.key = τ.key then _ else _) = _
      rw [if_pos rfl]
      rfl
    · rw [if_neg hname]
      cases hkey : structuredKey? name with
      | none => exact ih hrest
      | some key =>
        show (if key = τ.key then _ else _) = _
        rw [if_neg fun heq => hname (hhead (by rw [hkey, heq]))]
        exact ih hrest

/-- **The node of a setting among the structured variables** is that of its variable. -/
theorem Environment.Proper.get?_flat_structuredSource (h : environment.Proper) (w : Walk)
    (place : Walked) (τ : Setting) :
    (flat (w.entries place (structuredSource environment))).get? τ.key =
      (environment.get? τ.structuredVariable).map structuredNode := by
  have hscalars : ∀ e ∈ structuredSource environment, e.2.IsScalar := by
    intro e he
    obtain ⟨d, -, hentry⟩ := List.mem_filterMap.mp (Assoc.subset_ofEntries _ he)
    obtain ⟨key, -, rfl⟩ := Option.map_eq_some_iff.mp hentry
    exact ⟨_, _, rfl⟩
  have hreverse : ∀ name ∈ Assoc.keys environment.reverse, structuredKey? name = some τ.key →
      name = τ.structuredVariable := by
    intro name hname
    rw [Assoc.keys, List.map_reverse, List.mem_reverse] at hname
    exact h.eq_structuredVariable hname
  calc (flat (w.entries place (structuredSource environment))).get? τ.key
      = Assoc.get? τ.key (structuredSource environment) :=
        get?_flat_entries_of_scalars hscalars (Assoc.nodup_keys_ofEntries _) w place τ.key
    _ = Assoc.get? τ.key (environment.reverse.filterMap structuredEntry?) := by
        rw [structuredSource_eq, Assoc.get?_ofEntries, List.filterMap_reverse]
    _ = (Assoc.get? τ.structuredVariable environment.reverse).map structuredNode :=
        get?_structuredEntries hreverse
    _ = (Assoc.get? τ.structuredVariable environment).map structuredNode := by
        rw [Assoc.get?_eq_of_perm (List.reverse_perm environment) h.nodup]

/-- The legacy variables are those of settings, and stand for their keys. -/
theorem exists_setting_of_mem : ∀ entry ∈ legacyVariables,
    ∃ τ ∈ Setting.all, τ.legacyVariable? = some entry.1 ∧ τ.key = entry.2 := by
  decide +kernel

/-- The legacy variables that count are settings. -/
theorem exists_setting_of_mem_legacySource {e : String × Node} (h : e ∈ legacySource environment) :
    ∃ (σ : Setting) (value : String), e = (σ.key, .scalar (.text value) none) ∧
      σ.legacyVariable?.bind (legacyNode? environment) = some e.2 := by
  obtain ⟨⟨name, key⟩, hmem, hentry⟩ := List.mem_filterMap.mp h
  obtain ⟨node, hnode, rfl⟩ := Option.map_eq_some_iff.mp hentry
  obtain ⟨value, -, rfl⟩ := Option.map_eq_some_iff.mp hnode
  obtain ⟨σ, -, hname, rfl⟩ := exists_setting_of_mem _ hmem
  exact ⟨σ, value, rfl, by rw [hname]; exact hnode⟩

theorem holdsSettings_legacySource (environment : Environment) :
    ∀ e ∈ legacySource environment, HoldsSettings e := by
  intro e he
  obtain ⟨σ, value, rfl, -⟩ := exists_setting_of_mem_legacySource he
  exact .single σ _ _

theorem nodup_keys_legacySource (environment : Environment) :
    (Assoc.keys (legacySource environment)).Nodup := by
  have hkeys : legacyVariables.Pairwise fun e e' => e.2 ≠ e'.2 := by decide
  rw [Assoc.keys, legacySource, List.map_filterMap]
  refine hkeys.filterMap _ fun e e' hne key hkey key' hkey' heq => hne ?_
  simp only [Option.map_map, Option.map_eq_some_iff] at hkey hkey'
  obtain ⟨_, -, rfl⟩ := hkey
  obtain ⟨_, -, rfl⟩ := hkey'
  exact heq

theorem get?_filterMap_find? {α : Type} (f : String → Option α) {entries : List (String × String)}
    (h : entries.Pairwise fun e e' => e.2 ≠ e'.2) (q : String) :
    Assoc.get? q (entries.filterMap fun e => (f e.1).map fun a => (e.2, a)) =
      ((entries.find? fun e => e.2 = q).map Prod.fst).bind f := by
  induction entries with
  | nil => rfl
  | cons e entries ih =>
    obtain ⟨hhead, hrest⟩ := List.pairwise_cons.mp h
    rw [List.filterMap_cons, List.find?_cons]
    by_cases hq : e.2 = q
    · subst hq
      -- The other keys are different ones, so nothing is found among them.
      have hnone : entries.find? (fun d => d.2 = e.2) = none :=
        List.find?_eq_none.mpr fun d hd => by simpa using (hhead d hd).symm
      have hrest := ih hrest
      rw [hnone] at hrest
      cases hvalue : f e.1 <;> simp [hvalue, Assoc.get?]
      exact hrest
    · cases hvalue : f e.1 <;> simp [hq, Assoc.get?]
      all_goals simpa using ih hrest

/-- **The node of a setting among the legacy variables** is that of its variable. -/
theorem get?_flat_legacySource (environment : Environment) (w : Walk) (place : Walked)
    (τ : Setting) :
    (flat (w.entries place (legacySource environment))).get? τ.key =
      τ.legacyVariable?.bind (legacyNode? environment) := by
  have hscalars : ∀ e ∈ legacySource environment, e.2.IsScalar := by
    intro e he
    obtain ⟨σ, value, rfl, -⟩ := exists_setting_of_mem_legacySource he
    exact ⟨_, _, rfl⟩
  rw [get?_flat_entries_of_scalars hscalars (nodup_keys_legacySource environment),
    Setting.legacyVariable?_eq]
  exact get?_filterMap_find? _ (by decide) τ.key

/-! ## 3. All layers -/

/-- The node that the variables of a setting give it. -/
def Setting.setNode? (σ : Setting) (environment : Environment) : Option Node :=
  (σ.legacyVariable?.bind (legacyNode? environment)).or
    ((environment.get? σ.structuredVariable).map structuredNode)

/-- The layers lie over one another in the order of their rank. -/
theorem layers_eq (w : Walk) (file : Assoc Node) (environment : Environment) :
    layers w file environment =
      Tree.addSource (w.entries .legacy (legacySource environment))
        (Tree.addSource (w.entries .structured (structuredSource environment))
          (Tree.addSource (w.entries .file file) [])) := rfl

/-- In the tree of all layers a setting has the node of its variables, or else that of the file,
whatever the file holds. -/
theorem node?_layers_setNode (henvironment : environment.Proper) (w : Walk) (file : Assoc Node)
    (σ : Setting) :
    σ.node? (layers w file environment) =
      (σ.setNode? environment).or (σ.node? (Tree.addSource (w.entries .file file) [])) := by
  rw [layers_eq, node?_addSource (HoldsSettings.entries (holdsSettings_legacySource environment)),
    node?_addSource (HoldsSettings.entries henvironment.holdsSettings), get?_flat_legacySource,
    henvironment.get?_flat_structuredSource, ← Option.or_assoc, Setting.setNode?]

/-- The node of a setting over all layers: that of its legacy variable, or else that of its
structured variable, or else that of the entries of the file. -/
def Setting.source? (σ : Setting) (file : List (String × Node)) (environment : Environment) :
    Option Node :=
  (σ.legacyVariable?.bind (legacyNode? environment)).or <|
    ((environment.get? σ.structuredVariable).map structuredNode).or <|
      (flat file).get? σ.key

/-- **In the tree of all layers a setting has the node of the first layer from above that has
one.** -/
theorem node?_layers {file : Assoc Node} (hfile : ∀ e ∈ file, HoldsSettings e)
    (henvironment : environment.Proper) (w : Walk) (σ : Setting) :
    σ.node? (layers w file environment) = σ.source? (w.entries .file file) environment := by
  have hempty : σ.node? [] = none := rfl
  rw [node?_layers_setNode henvironment, node?_addSource (HoldsSettings.entries hfile), hempty,
    Option.or_none, Setting.setNode?, Setting.source?, Option.or_assoc]

/-! ## 4. Reading -/

/-- Whether every top entry of a tree is a table. -/
def Tabular (tree : Tree) : Prop :=
  ∀ area node, tree.get? area = some node → ∃ entries origin, node = .table entries origin

theorem tabular_nil : Tabular [] := nofun

theorem Tabular.set (h : Tabular tree) {path : KeyPath} {node : Node}
    (hnode : ∀ here : Node, ∃ entries origin,
      here.alter (fun below => below.overlay node) path.steps = .table entries origin) :
    Tabular (tree.set path node) := by
  intro area below hbelow
  rw [Tree.get?_set] at hbelow
  split at hbelow
  · rw [← Option.some.inj hbelow]
    exact hnode _
  · exact h area below hbelow

/-- A node at a key of a section leaves the section a table. -/
theorem Tabular.set_key (h : Tabular tree) (area name : String) (node : Node) :
    Tabular (tree.set ⟨area, [.key name]⟩ node) :=
  h.set fun _ => ⟨_, _, rfl⟩

theorem Tabular.set_entry (h : Tabular tree) {e : String × Node} (he : HoldsSettings e) :
    Tabular (tree.set (KeyPath.ofKey e.1) e.2) := by
  cases he with
  | single σ value origin =>
    rw [Setting.path_key]
    exact h.set_key σ.area σ.name _
  | table σ fields origin _ =>
    rw [Setting.path_area]
    exact h.set fun _ => ⟨_, _, rfl⟩

theorem Tabular.addSource (h : Tabular tree) (hsource : ∀ e ∈ source, HoldsSettings e) :
    Tabular (Tree.addSource source tree) := by
  induction source generalizing tree with
  | nil => exact h
  | cons e source ih =>
    obtain ⟨hhead, hrest⟩ := List.forall_mem_cons.mp hsource
    exact ih (h.set_entry hhead) hrest

/-- **In the tree of all layers every section is a table.** -/
theorem tabular_layers {file : Assoc Node} (hfile : ∀ e ∈ file, HoldsSettings e)
    (henvironment : environment.Proper) (w : Walk) : Tabular (layers w file environment) :=
  ((tabular_nil.addSource (HoldsSettings.entries hfile)).addSource
    (HoldsSettings.entries henvironment.holdsSettings)).addSource
      (HoldsSettings.entries (holdsSettings_legacySource environment))

/-- The value of a setting whose node is known; a null is none. -/
def Setting.valueOf (σ : Setting) : Option Node → Except Mismatch (Option σ.Value)
  | none => .ok none
  | some node => optional σ.convert node

/-- In a section that is a table a setting is read from its node. -/
theorem Setting.read_of_table {σ : Setting} {entries : Assoc Node} {origin : Option String}
    (h : tree.get? σ.area = some (.table entries origin)) :
    σ.read tree = (σ.valueOf (σ.node? tree)).mapError (.mismatch σ.key) := by
  have hnode : σ.node? tree = Assoc.get? σ.name entries := by
    rw [Setting.node?, Tree.setting?, h]
  have hbody : σ.shape.body tree = .ok (.fields entries) := by
    rw [Setting.area] at h
    rw [SectionShape.body, h]
  rw [hnode, Setting.read, hbody]
  show σ.shape.field (.fields entries) σ.name σ.convert = _
  rw [SectionShape.field]
  cases Assoc.get? σ.name entries <;> rfl

/-- **A setting can be read where its node can be converted.** -/
theorem Tabular.read_eq_ok (h : Tabular tree) {σ : Setting} {v : Option σ.Value}
    (hv : σ.valueOf (σ.node? tree) = .ok v) : σ.read tree = .ok v := by
  cases hsection : tree.get? σ.area with
  | none =>
    rw [Setting.node?, Tree.setting?, hsection] at hv
    obtain rfl : none = v := Except.ok.inj hv
    rw [Setting.area] at hsection
    rw [Setting.read, SectionShape.body, hsection]
    rfl
  | some section_ =>
    obtain ⟨entries, origin, rfl⟩ := h _ _ hsection
    rw [Setting.read_of_table hsection, hv]
    rfl

end BrokerBridge.Config
