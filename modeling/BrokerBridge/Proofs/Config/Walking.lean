import BrokerBridge.Proofs.Assoc
import BrokerBridge.Proofs.Config.Setting
import BrokerBridge.Proofs.Except
import Mathlib.Data.List.Basic
import Mathlib.Tactic.Choose

/-!
# What a walk may meet

The entries that a walk meets are those of the map, in another order (`Walk.perm_entries`).

* **`readSettings_ok`**: where the value of every setting of a tree can be read, the settings are
  these values on every walk.
* **`readSettings_first`**, **`exists_of_readSettings_eq_error`**: a fault is told on some walk where
  it is met by one setting and nothing has to be read before it that is a fault as well
  (`MetFirst`), and no other fault is told.  In a table nothing has to be read before a setting; in
  a list everything in front of it has.
-/
namespace BrokerBridge.Config

/-! ## 1. Entries -/

section

variable {α : Type} {m : Assoc α} {w : Walk} {place : Walked}

theorem Walk.mem_of_mem_entries {e : String × α} (h : e ∈ w.entries place m) : e ∈ m := by
  obtain ⟨key, -, hvalue⟩ := List.mem_filterMap.mp h
  obtain ⟨a, ha, rfl⟩ := Option.map_eq_some_iff.mp hvalue
  exact Assoc.mem_of_get? ha

/-- **A walk meets the entries of a map in another order.** -/
theorem Walk.perm_entries (h : (Assoc.keys m).Nodup) : (w.entries place m).Perm m := by
  have hentry : ∀ e ∈ m, (Assoc.get? e.1 m).map (fun a => (e.1, a)) = some e := fun e he => by
    rw [(Assoc.get?_eq_some_iff h).mpr he]
    rfl
  calc (w.entries place m).Perm
        ((Assoc.keys m).filterMap fun key => (Assoc.get? key m).map fun a => (key, a)) :=
        (w.perm place _).filterMap _
    _ = m := by
        rw [Assoc.keys, List.filterMap_map]
        exact (List.filterMap_congr hentry).trans List.filterMap_some

end

/-! ## 2. Reading -/

variable {tree : Tree} {given start : Values} {σs : List Setting} {σ τ : Setting} {w : Walk}
  {e : TreeFault}

/-- Settings that can all be read have the values that are read of them, and the others keep theirs. -/
theorem foldlM_add_ok (h : ∀ σ ∈ σs, σ.read tree = .ok (given σ)) (start : Values) :
    σs.foldlM (Values.add tree) start =
      .ok fun σ => if σ ∈ σs then given σ else start σ := by
  induction σs generalizing start with
  | nil => rfl
  | cons σ σs ih =>
    obtain ⟨hhead, hrest⟩ := List.forall_mem_cons.mp h
    rw [List.foldlM_cons, Values.add, hhead]
    refine (ih hrest (start.set σ (given σ))).trans (congrArg Except.ok (funext fun τ => ?_))
    by_cases hτ : σ = τ
    · subst hτ
      simp [Values.set]
    · simp [Values.set, hτ, Ne.symm hτ]

/-- Of the settings that are read one after another the first fault is told. -/
theorem foldlM_add_eq_error_iff :
    σs.foldlM (Values.add tree) start = .error e ↔
      ∃ before σ after, σs = before ++ σ :: after ∧ (∀ τ ∈ before, ∃ v, τ.read tree = .ok v) ∧
        σ.read tree = .error e := by
  induction σs generalizing start with
  | nil => simp [pure, Except.pure]
  | cons σ σs ih =>
    rw [List.foldlM_cons, Values.add]
    cases hread : σ.read tree with
    | error e' =>
      show Except.error e' = Except.error e ↔ _
      refine ⟨fun h => ⟨[], σ, σs, rfl, List.forall_mem_nil _, Except.error.inj h ▸ hread⟩, ?_⟩
      rintro ⟨before, υ, after, hsplit, hbefore, hυ⟩
      obtain _ | ⟨τ, before⟩ := before
      · obtain ⟨rfl, rfl⟩ := List.cons.inj hsplit
        rw [← Except.error.inj (hread.symm.trans hυ)]
      · obtain ⟨rfl, -⟩ := List.cons.inj hsplit
        obtain ⟨v, hv⟩ := hbefore σ List.mem_cons_self
        rw [hread] at hv
        cases hv
    | ok v =>
      refine ih.trans ⟨?_, ?_⟩
      · rintro ⟨before, υ, after, rfl, hbefore, hυ⟩
        exact ⟨σ :: before, υ, after, rfl, List.forall_mem_cons.mpr ⟨⟨v, hread⟩, hbefore⟩, hυ⟩
      · rintro ⟨before, υ, after, hsplit, hbefore, hυ⟩
        obtain _ | ⟨τ, before⟩ := before
        · obtain ⟨rfl, -⟩ := List.cons.inj hsplit
          rw [hread] at hυ
          cases hυ
        · obtain ⟨rfl, rfl⟩ := List.cons.inj hsplit
          exact ⟨before, υ, after, rfl, (List.forall_mem_cons.mp hbefore).2, hυ⟩

theorem metIn_of_table {area : String} {entries : Assoc Node} {origin : Option String}
    (h : tree.get? area = some (.table entries origin)) :
    metIn w tree area =
      (w.order (.fields area) (Assoc.keys entries)).filterMap (Setting.at? area) := by
  rw [metIn, h]

theorem metIn_of_no_table {area : String} {node : Node} (h : tree.get? area = some node)
    (hnode : ∀ entries origin, node ≠ .table entries origin) :
    metIn w tree area = Setting.ofArea area := by
  rw [metIn, h]
  cases node with
  | table entries origin => exact absurd rfl (hnode entries origin)
  | _ => rfl

theorem Setting.mem_ofArea {area : String} : σ ∈ Setting.ofArea area ↔ σ.area = area := by
  have hall : σ ∈ Setting.all := by cases σ <;> decide
  simp [Setting.ofArea, hall]

/-- The settings that are met in a section are its own. -/
theorem area_of_mem_metIn {area : String} (h : σ ∈ metIn w tree area) : σ.area = area := by
  rw [metIn] at h
  split at h
  · cases h
  · obtain ⟨name, -, hname⟩ := List.mem_filterMap.mp h
    exact Setting.mem_ofArea.mp (List.mem_of_find?_eq_some hname)
  · exact Setting.mem_ofArea.mp h

theorem mem_met {node : Node} (h : tree.get? σ.area = some node) (hmem : σ ∈ metIn w tree σ.area) :
    σ ∈ met w tree :=
  List.mem_flatMap.mpr
    ⟨σ.area, (w.perm _ _).mem_iff.mpr (List.mem_map_of_mem (Assoc.mem_of_get? h)), hmem⟩

/-- The only settings that are not met are those of which a tree says nothing. -/
theorem read_of_notMem_met (h : σ ∉ met w tree) : σ.read tree = .ok none := by
  rw [Setting.read, SectionShape.body, ← Setting.area]
  cases hsection : tree.get? σ.area with
  | none => rfl
  | some node =>
    by_cases htable : ∃ entries origin, node = .table entries origin
    · obtain ⟨entries, origin, rfl⟩ := htable
      show σ.shape.field (.fields entries) σ.name σ.convert = .ok none
      rw [SectionShape.field]
      cases hvalue : Assoc.get? σ.name entries with
      | none => rfl
      | some node =>
        refine (h (mem_met hsection ?_)).elim
        rw [metIn_of_table hsection]
        have hname := List.mem_map_of_mem (f := Prod.fst) (Assoc.mem_of_get? hvalue)
        exact List.mem_filterMap.mpr ⟨σ.name, (w.perm _ _).mem_iff.mpr hname, σ.at?_place⟩
    · refine (h (mem_met hsection ?_)).elim
      rw [metIn_of_no_table hsection fun entries origin hnode => htable ⟨entries, origin, hnode⟩]
      exact Setting.mem_ofArea.mpr rfl

/-- **The settings of a tree in which every setting can be read are what is read of each.** -/
theorem readSettings_ok (h : ∀ σ : Setting, σ.read tree = .ok (given σ)) (w : Walk) :
    readSettings w tree = .ok given.toPartial := by
  have hgiven : (fun σ => if σ ∈ met w tree then given σ else Values.none σ) = given := by
    funext σ
    split
    · rfl
    · rename_i hmet
      exact Except.ok.inj ((read_of_notMem_met hmet).symm.trans (h σ))
  rw [readSettings, foldlM_add_ok (fun σ _ => h σ), hgiven]
  rfl

theorem exists_of_foldlM_add_eq_ok {result : Values}
    (h : σs.foldlM (Values.add tree) start = .ok result) : ∀ σ ∈ σs, ∃ v, σ.read tree = .ok v := by
  induction σs generalizing start with
  | nil => exact List.forall_mem_nil _
  | cons σ σs ih =>
    rw [List.foldlM_cons, bind_eq_ok] at h
    obtain ⟨middle, hhead, hrest⟩ := h
    obtain ⟨v, hread, -⟩ := bind_eq_ok.mp hhead
    exact List.forall_mem_cons.mpr ⟨⟨v, hread⟩, ih hrest⟩

/-- Each setting of settings that are read has the value that is read for it. -/
theorem exists_of_readSettings_eq_ok {p : PartialSettings} (h : readSettings w tree = .ok p) :
    ∃ given : Values, (∀ σ : Setting, σ.read tree = .ok (given σ)) ∧ p = given.toPartial := by
  have hread (σ : Setting) : ∃ v, σ.read tree = .ok v := by
    obtain ⟨result, hresult, -⟩ := bind_eq_ok.mp h
    by_cases hmet : σ ∈ met w tree
    · exact exists_of_foldlM_add_eq_ok hresult σ hmet
    · exact ⟨none, read_of_notMem_met hmet⟩
  choose given hgiven using hread
  rw [readSettings_ok hgiven] at h
  exact ⟨given, hgiven, (Except.ok.inj h).symm⟩

/-! ## 3. Faults -/

theorem readSettings_eq_error_iff :
    readSettings w tree = .error e ↔
      ∃ before σ after, met w tree = before ++ σ :: after ∧
        (∀ τ ∈ before, ∃ v, τ.read tree = .ok v) ∧ σ.read tree = .error e := by
  rw [← foldlM_add_eq_error_iff, readSettings]
  cases (met w tree).foldlM (Values.add tree) .none with
  | error e' => exact ⟨fun h => congrArg _ (Except.error.inj h), fun h => congrArg _ (Except.error.inj h)⟩
  | ok result => exact ⟨nofun, nofun⟩

/-- Whether everything that stands in front of a setting can be read: only a list is read from its
front. -/
def MetFirst (tree : Tree) (σ : Setting) : Prop :=
  ∀ nodes origin, tree.get? σ.area = some (.list nodes origin) →
    ∀ before after, Setting.ofArea σ.area = before ++ σ :: after →
      ∀ τ ∈ before, ∃ v, τ.read tree = .ok v

/-- A list of keys with one that it has put in front. -/
def toFront (key : String) (keys : List String) : List String :=
  if key ∈ keys then key :: keys.erase key else keys

theorem toFront_of_mem {key : String} {keys : List String} (h : key ∈ keys) :
    toFront key keys = key :: keys.erase key := if_pos h

theorem toFront_perm (key : String) (keys : List String) : (toFront key keys).Perm keys := by
  rw [toFront]
  split
  · exact (List.perm_cons_erase ‹_›).symm
  · exact .refl keys

/-- The walk that meets the sources as another one does, and in the tree the section of a setting
first and there the setting. -/
def Walk.first (w : Walk) (σ : Setting) : Walk where
  order
    | .tree => toFront σ.area
    | .fields _ => toFront σ.name
    | place => w.order place
  perm
    | .tree => toFront_perm σ.area
    | .fields _ => toFront_perm σ.name
    | .file => w.perm .file
    | .structured => w.perm .structured
    | .legacy => w.perm .legacy

theorem exists_met_first {node : Node} (h : tree.get? σ.area = some node) :
    ∃ rest, met (w.first σ) tree = metIn (w.first σ) tree σ.area ++ rest := by
  have hkey : σ.area ∈ Assoc.keys tree := List.mem_map_of_mem (Assoc.mem_of_get? h)
  refine ⟨((Assoc.keys tree).erase σ.area).flatMap (metIn (w.first σ) tree), ?_⟩
  show (toFront σ.area (Assoc.keys tree)).flatMap _ = _
  rw [toFront_of_mem hkey, List.flatMap_cons]

/-- The settings of a section that is a scalar have the fault of the section, or nothing is said of
them. -/
theorem read_eq_of_scalar {value : Scalar} {origin : Option String}
    (h : tree.get? σ.area = some (.scalar value origin)) (hread : σ.read tree = .error e)
    (harea : τ.area = σ.area) : τ.read tree = .error e := by
  rw [Setting.area] at h
  rw [Setting.read, SectionShape.body, h] at hread
  rw [Setting.read, Setting.shape_eq_of_area harea, SectionShape.body, h]
  cases value with
  | null => cases hread
  | _ => exact congrArg Except.error (Except.error.inj hread)

/-- A setting of which a table says something is met first there by the walk that puts it first. -/
theorem exists_metIn_first {entries : Assoc Node} {origin : Option String}
    (h : tree.get? σ.area = some (.table entries origin)) (hread : σ.read tree = .error e) :
    ∃ after, metIn (w.first σ) tree σ.area = σ :: after := by
  have hname : σ.name ∈ Assoc.keys entries := by
    by_contra hname
    rw [Setting.area] at h
    rw [Setting.read, SectionShape.body, h] at hread
    change σ.shape.field (.fields entries) σ.name σ.convert = _ at hread
    rw [SectionShape.field, Assoc.get?_eq_none_iff.mpr hname] at hread
    cases hread
  refine ⟨((Assoc.keys entries).erase σ.name).filterMap (Setting.at? σ.area), ?_⟩
  rw [metIn_of_table h]
  show (toFront σ.name (Assoc.keys entries)).filterMap _ = _
  rw [toFront_of_mem hname, List.filterMap_cons, σ.at?_place]

/-- **A fault that nothing has to be read before is told on some walk.** -/
theorem readSettings_first (hfirst : MetFirst tree σ) (hread : σ.read tree = .error e) (w : Walk) :
    readSettings (w.first σ) tree = .error e := by
  -- It is enough to meet the fault first in the section.
  suffices hsection : ∃ node, tree.get? σ.area = some node ∧
      ∃ before τ after, metIn (w.first σ) tree σ.area = before ++ τ :: after ∧
        (∀ υ ∈ before, ∃ v, υ.read tree = .ok v) ∧ τ.read tree = .error e by
    obtain ⟨node, hnode, before, τ, after, hmet, hbefore, hτ⟩ := hsection
    obtain ⟨rest, hrest⟩ := exists_met_first (w := w) hnode
    refine readSettings_eq_error_iff.mpr ⟨before, τ, after ++ rest, ?_, hbefore, hτ⟩
    rw [hrest, hmet, List.append_assoc]
    rfl
  obtain ⟨before, after, hown⟩ := List.append_of_mem (Setting.mem_ofArea.mpr (rfl : σ.area = σ.area))
  cases hnode : tree.get? σ.area with
  | none =>
    rw [Setting.area] at hnode
    rw [Setting.read, SectionShape.body, hnode] at hread
    cases hread
  | some node =>
    refine ⟨node, rfl, ?_⟩
    cases node with
    | scalar value origin =>
      have hmet := metIn_of_no_table (w := w.first σ) hnode nofun
      cases hsettings : Setting.ofArea σ.area with
      | nil => exact absurd (hown.symm.trans hsettings) (List.append_ne_nil_of_right_ne_nil _ nofun)
      | cons τ rest =>
        have harea : τ.area = σ.area := Setting.mem_ofArea.mp (hsettings ▸ List.mem_cons_self)
        exact ⟨[], τ, rest, hmet.trans hsettings, List.forall_mem_nil _,
          read_eq_of_scalar hnode hread harea⟩
    | list nodes origin =>
      exact ⟨before, σ, after, (metIn_of_no_table hnode nofun).trans hown,
        hfirst nodes origin hnode before after hown, hread⟩
    | table entries origin =>
      obtain ⟨after, hmet⟩ := exists_metIn_first (w := w) hnode hread
      exact ⟨[], σ, after, hmet, List.forall_mem_nil _, hread⟩

/-- What is met before a setting in its section is met before it. -/
theorem exists_of_flatMap_eq {α β : Type} {f : α → List β} {areas : List α} {before after : List β}
    {b : β} (h : areas.flatMap f = before ++ b :: after) :
    ∃ area ∈ areas, ∃ front back, f area = front ++ b :: back ∧ front ⊆ before := by
  induction areas generalizing before with
  | nil => exact absurd h.symm (List.append_ne_nil_of_right_ne_nil _ nofun)
  | cons area areas ih =>
    have later (before' : List β) (hrest : areas.flatMap f = before' ++ b :: after)
        (hsubset : before' ⊆ before) : ∃ a ∈ area :: areas, ∃ front back,
          f a = front ++ b :: back ∧ front ⊆ before := by
      obtain ⟨a, ha, front, back, hfront, hbefore⟩ := ih hrest
      exact ⟨a, List.mem_cons_of_mem _ ha, front, back, hfront,
        List.Subset.trans hbefore hsubset⟩
    rw [List.flatMap_cons, List.append_eq_append_iff] at h
    obtain ⟨rest, rfl, hrest⟩ | ⟨rest, harea, hrest⟩ := h
    · exact later rest hrest (List.subset_append_right _ _)
    · cases rest with
      | nil => exact later [] hrest.symm (List.nil_subset _)
      | cons b' back =>
        obtain ⟨rfl, -⟩ := List.cons.inj hrest
        exact ⟨area, List.mem_cons_self, before, back, harea, List.Subset.refl _⟩

/-- **A fault that is told is that of a setting that nothing has to be read before.** -/
theorem exists_of_readSettings_eq_error (h : readSettings w tree = .error e) :
    ∃ σ, MetFirst tree σ ∧ σ.read tree = .error e := by
  obtain ⟨before, σ, after, hmet, hbefore, hread⟩ := readSettings_eq_error_iff.mp h
  refine ⟨σ, fun nodes origin hlist front back hown τ hτ => hbefore τ ?_, hread⟩
  obtain ⟨area, -, front', back', harea, hsubset⟩ := exists_of_flatMap_eq hmet
  obtain rfl : σ.area = area :=
    area_of_mem_metIn (harea ▸ List.mem_append_right _ List.mem_cons_self)
  rw [metIn_of_no_table hlist nofun, hown] at harea
  -- No setting stands twice in its section, so that both ways to part it at this one are the same.
  have hnodup : (front ++ σ :: back).Nodup := by
    rw [← hown]
    exact (by decide : Setting.all.Nodup).filter _
  obtain ⟨-, hback, hdisjoint⟩ := List.nodup_append.mp hnodup
  obtain ⟨rfl, -⟩ := (List.append_cons_inj_of_notMem
    (fun hmem => hdisjoint σ hmem σ List.mem_cons_self rfl)
    (List.nodup_cons.mp hback).1).mp harea
  exact hsubset hτ

/-! ## 4. Trees that read alike -/

/-- Walks that meet the entries of the sources in the same order. -/
structure Walk.SourcesAs (w' w : Walk) : Prop where
  file : w'.order .file = w.order .file
  structured : w'.order .structured = w.order .structured
  legacy : w'.order .legacy = w.order .legacy

theorem Walk.SourcesAs.refl (w : Walk) : w.SourcesAs w := ⟨rfl, rfl, rfl⟩

theorem Walk.first_sourcesAs (w : Walk) (σ : Setting) : (w.first σ).SourcesAs w := ⟨rfl, rfl, rfl⟩

/-- A tree of which the same is read as of another one, up to how faults are told, and which has the
same sections in lists. -/
structure ReadsAs (tell : TreeFault → TreeFault) (tree tree' : Tree) : Prop where
  read : ∀ σ : Setting, σ.read tree' = (σ.read tree).mapError tell
  list : ∀ area, (∃ nodes origin, tree'.get? area = some (.list nodes origin)) ↔
    ∃ nodes origin, tree.get? area = some (.list nodes origin)

section

variable {tell : TreeFault → TreeFault} {tree' : Tree}

theorem ReadsAs.metFirst_iff (h : ReadsAs tell tree tree') : MetFirst tree' σ ↔ MetFirst tree σ := by
  have hread (τ : Setting) : (∃ v, τ.read tree' = .ok v) ↔ ∃ v, τ.read tree = .ok v := by
    simp only [h.read τ, mapError_eq_ok_iff]
  simp only [MetFirst, hread]
  refine ⟨fun hfirst nodes origin hlist => ?_, fun hfirst nodes origin hlist => ?_⟩
  · obtain ⟨nodes', origin', hlist'⟩ := (h.list _).mpr ⟨nodes, origin, hlist⟩
    exact hfirst nodes' origin' hlist'
  · obtain ⟨nodes', origin', hlist'⟩ := (h.list _).mp ⟨nodes, origin, hlist⟩
    exact hfirst nodes' origin' hlist'

/-- Settings that are read of one tree are read of the other one on every walk. -/
theorem ReadsAs.readSettings_eq_ok_iff (h : ReadsAs tell tree tree') {p : PartialSettings}
    {w' : Walk} : readSettings w' tree' = .ok p ↔ readSettings w tree = .ok p := by
  refine ⟨fun hp => ?_, fun hp => ?_⟩
  · obtain ⟨given, hgiven, rfl⟩ := exists_of_readSettings_eq_ok hp
    exact readSettings_ok (fun σ => mapError_eq_ok_iff.mp ((h.read σ).symm.trans (hgiven σ))) w
  · obtain ⟨given, hgiven, rfl⟩ := exists_of_readSettings_eq_ok hp
    exact readSettings_ok (fun σ => (h.read σ).trans (mapError_eq_ok_iff.mpr (hgiven σ))) w'

/-- **What may be told of one tree may be told of the other one**, by a walk that meets the sources in
the same order. -/
theorem ReadsAs.exists_walk (h : ReadsAs tell tree tree') (w : Walk) :
    ∃ w' : Walk, w'.SourcesAs w ∧
      readSettings w' tree' = (readSettings w tree).mapError tell := by
  cases hread : readSettings w tree with
  | ok p => exact ⟨w, .refl w, h.readSettings_eq_ok_iff.mpr hread⟩
  | error e =>
    obtain ⟨σ, hfirst, hσ⟩ := exists_of_readSettings_eq_error hread
    refine ⟨w.first σ, w.first_sourcesAs σ, readSettings_first (h.metFirst_iff.mpr hfirst) ?_ w⟩
    rw [h.read σ, hσ]
    rfl

theorem ReadsAs.exists_walk' (h : ReadsAs tell tree tree') (w : Walk) :
    ∃ w' : Walk, w'.SourcesAs w ∧
      readSettings w tree' = (readSettings w' tree).mapError tell := by
  cases hread : readSettings w tree' with
  | ok p =>
    refine ⟨w, .refl w, ?_⟩
    rw [h.readSettings_eq_ok_iff.mp hread]
    rfl
  | error e' =>
    obtain ⟨σ, hfirst, hσ⟩ := exists_of_readSettings_eq_error hread
    rw [h.read σ] at hσ
    obtain ⟨e, he, rfl⟩ := mapError_eq_error_iff.mp hσ
    refine ⟨w.first σ, w.first_sourcesAs σ, ?_⟩
    rw [readSettings_first (h.metFirst_iff.mp hfirst) he w]
    rfl

end

end BrokerBridge.Config
