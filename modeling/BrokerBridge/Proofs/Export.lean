import BrokerBridge.Proofs.Fifo
import BrokerBridge.Proofs.Json.Records
import Mathlib.Data.List.Nodup

/-!
# The export of a broker

A broker exports its definitions as one JSON object.  A channel in memory is made of two of its
members, and of each exchange and each binding in them of one or two members; all others may be
anything.

* `Tree.IsExport` says which texts are an export of which definitions, by their members and by
  nothing that a reader does: their order, their white space and what else they hold is free.
* **`Definitions.decode_isExport`**: an export is read as its definitions, and
  `MemoryChannel.ofDefinitions?_isExport` says which channel that makes.
* `Definitions.decode_encode`: so all definitions have an export, the one that is written of them.
-/
namespace BrokerBridge

open Json

namespace Json.Tree

/-! ## 1. Exports -/

/-- A member of the object is a string for the text. -/
def HasText (t : Tree) (name s : String) : Prop :=
  ∃ pieces, (some name, .quoted pieces) ∈ t.members ∧ text? pieces = some s

/-- A member of the object is an array for the list.  An empty list may have no member. -/
def HasList {α : Type} (t : Tree) (name : String) (R : Tree → α → Prop) (as : List α) : Prop :=
  (∃ u, (some name, u) ∈ t.members ∧ u.IsArray ∧ List.Forall₂ R u.items as) ∨
    (some name ∉ t.members.map Prod.fst ∧ as = [])

/-- The export of an exchange. -/
structure IsExchange (t : Tree) (name : String) : Prop where
  isRecord : t.IsRecord
  name : t.HasText "name" name

/-- The export of a binding. -/
structure IsBinding (t : Tree) (b : BindingDefinition) : Prop where
  isRecord : t.IsRecord
  routingKey : t.HasText "routing_key" b.routingKey
  destination : t.HasText "destination" b.destination

/-- The export of a broker. -/
structure IsExport (t : Tree) (d : Definitions) : Prop where
  isRecord : t.IsRecord
  exchanges : t.HasList "exchanges" IsExchange d.exchanges
  bindings : t.HasList "bindings" IsBinding d.bindings

/-- A record has one value under a name. -/
theorem IsRecord.eq_of_mem {t u v : Tree} {name : Option String} (h : t.IsRecord)
    (hu : (name, u) ∈ t.members) (hv : (name, v) ∈ t.members) : u = v :=
  congrArg Prod.snd (List.inj_on_of_nodup_map h.distinct hu hv rfl)

theorem HasText.mem_names {t : Tree} {name s : String} (h : t.HasText name s) :
    some name ∈ t.members.map Prod.fst := by
  obtain ⟨pieces, hmem, -⟩ := h
  exact List.mem_map_of_mem hmem

/-- A text under a name is taken as that text. -/
theorem HasText.takes {t u : Tree} {name s : String} (h : t.HasText name s) (ht : t.IsRecord)
    (hu : (some name, u) ∈ t.members) (expected : String) : Takes (readTextAs expected) u s := by
  obtain ⟨pieces, hmem, hs⟩ := h
  rw [ht.eq_of_mem hu hmem]
  exact takes_readTextAs hs expected

/-- A list under a name is taken as that list. -/
theorem HasList.takes {α : Type} {item : Reader α} {R : Tree → α → Prop} {t u : Tree}
    {name : String} {as : List α} (h : t.HasList name R as) (ht : t.IsRecord)
    (hitem : ∀ {v a}, R v a → Takes item v a) (hu : (some name, u) ∈ t.members) :
    Takes (readList item) u as := by
  obtain ⟨v, hmem, harray, has⟩ | ⟨hnone, -⟩ := h
  · rw [ht.eq_of_mem hu hmem]
    exact takes_readList harray (has.imp fun _ _ => hitem)
  · exact absurd (List.mem_map_of_mem hu) hnone

/-- A list that is not empty has a member. -/
theorem HasList.eq_nil {α : Type} {R : Tree → α → Prop} {t : Tree} {name : String} {as : List α}
    (h : t.HasList name R as) (hnone : some name ∉ t.members.map Prod.fst) : as = [] := by
  obtain ⟨u, hmem, -⟩ | ⟨-, hnil⟩ := h
  · exact absurd (List.mem_map_of_mem hmem) hnone
  · exact hnil

/-! ### Written objects -/

theorem mem_members_objectTree {members : Members} {e : String × Value} (h : e ∈ members) :
    (some e.1, e.2.tree) ∈ (Value.object members).tree.members := by
  have further : ∀ {members : Members}, e ∈ members →
      (some e.1, e.2.tree) ∈ (memberTrees members).members := by
    intro members h
    induction members with
    | nil => cases h
    | cons e' members ih =>
      rw [memberTrees, Entries.members, Key.text?_ofName]
      obtain rfl | h := List.mem_cons.mp h
      · exact List.mem_cons_self
      · exact List.mem_cons_of_mem _ (ih h)
  cases members with
  | nil => cases h
  | cons e' members => exact further h

theorem isRecord_objectTree {members : Members} (h : (Assoc.keys members).Nodup) :
    (Value.object members).tree.IsRecord where
  isObject := by cases members <;> trivial
  paired m hm := by
    have hname := List.mem_map_of_mem (f := Prod.fst) hm
    rw [names_objectTree] at hname
    obtain ⟨key, -, hkey⟩ := List.mem_map.mp hname
    rw [← hkey]
    rfl
  distinct := nodup_names_objectTree h

theorem hasText_objectTree {members : Members} {key s : String} (h : (key, .text s) ∈ members) :
    (Value.object members).tree.HasText key s :=
  ⟨quotedPieces s, mem_members_objectTree h, text?_quotedPieces s⟩

theorem hasList_objectTree {α : Type} {R : Tree → α → Prop} {members : Members} {key : String}
    {as : List α} {value : α → Value} (h : (key, .array (as.map value)) ∈ members)
    (hvalue : ∀ a, R (value a).tree a) : (Value.object members).tree.HasList key R as := by
  refine Or.inl ⟨_, mem_members_objectTree h, ?_, ?_⟩
  · cases as <;> trivial
  · rw [items_arrayTree, List.map_map, List.forall₂_map_left_iff, List.forall₂_same]
    exact fun a _ => hvalue a

end Json.Tree

/-! ## 2. Reading an export -/

namespace Definitions

open Json.Tree

/-- What is known of an exchange when some fields have come. -/
def exchangeDraft (name : String) (seen : List String) : Option String :=
  if "name" ∈ seen then some name else none

theorem takes_exchange {t : Tree} {name : String} (h : t.IsExchange name) :
    Takes exchangeShape.read t name := by
  refine Shape.takes_read (exchangeDraft name) h.isRecord rfl (fun slot hslot u hu seen _ => ?_)
    (fun seen hseen => ?_)
  · obtain rfl := List.mem_singleton.mp hslot
    have hdraft : exchangeDraft name ("name" :: seen) = some name := if_pos List.mem_cons_self
    exact hdraft ▸ (h.name.takes h.isRecord hu _).slot _ _ _
  · have hname : "name" ∈ seen := (hseen _ List.mem_cons_self).mpr h.name.mem_names
    rw [exchangeDraft, if_pos hname]
    rfl

/-- What is known of a binding when some fields have come. -/
def bindingDraft (b : BindingDefinition) (seen : List String) : Option String × Option String :=
  (if "routing_key" ∈ seen then some b.routingKey else none,
    if "destination" ∈ seen then some b.destination else none)

theorem takes_binding {t : Tree} {b : BindingDefinition} (h : t.IsBinding b) :
    Takes bindingShape.read t b := by
  refine Shape.takes_read (bindingDraft b) h.isRecord rfl (fun slot hslot u hu seen _ => ?_)
    (fun seen hseen => ?_)
  · obtain rfl | hslot := List.mem_cons.mp hslot
    · have hdraft : bindingDraft b ("routing_key" :: seen) =
          (some b.routingKey, (bindingDraft b seen).2) := by simp [bindingDraft]
      exact hdraft ▸ (h.routingKey.takes h.isRecord hu _).slot _ _ _
    · obtain rfl := List.mem_singleton.mp hslot
      have hdraft : bindingDraft b ("destination" :: seen) =
          ((bindingDraft b seen).1, some b.destination) := by simp [bindingDraft]
      exact hdraft ▸ (h.destination.takes h.isRecord hu _).slot _ _ _
  · have hkey : "routing_key" ∈ seen :=
      (hseen _ List.mem_cons_self).mpr h.routingKey.mem_names
    have hqueue : "destination" ∈ seen :=
      (hseen _ (List.mem_cons_of_mem _ List.mem_cons_self)).mpr h.destination.mem_names
    rw [bindingDraft, if_pos hkey, if_pos hqueue]
    rfl

/-- What is known of definitions when some fields have come. -/
def draft (d : Definitions) (seen : List String) : Definitions where
  exchanges := if "exchanges" ∈ seen then d.exchanges else []
  bindings := if "bindings" ∈ seen then d.bindings else []

theorem takes_export {t : Tree} {d : Definitions} (h : t.IsExport d) : Takes shape.read t d := by
  refine Shape.takes_read d.draft h.isRecord rfl (fun slot hslot u hu seen _ => ?_)
    (fun seen hseen => ?_)
  · obtain rfl | hslot := List.mem_cons.mp hslot
    · have hdraft : d.draft ("exchanges" :: seen) =
          { d.draft seen with exchanges := d.exchanges } := by simp [draft]
      exact hdraft ▸ (h.exchanges.takes h.isRecord takes_exchange hu).slot _ _ _
    · obtain rfl := List.mem_singleton.mp hslot
      have hdraft : d.draft ("bindings" :: seen) = { d.draft seen with bindings := d.bindings } := by
        simp [draft]
      exact hdraft ▸ (h.bindings.takes h.isRecord takes_binding hu).slot _ _ _
  · -- a list whose member has not come is empty
    have hexchanges : (d.draft seen).exchanges = d.exchanges := by
      refine ite_eq_left_iff.mpr fun hnot => (h.exchanges.eq_nil fun hmem => hnot ?_).symm
      exact (hseen _ List.mem_cons_self).mpr hmem
    have hbindings : (d.draft seen).bindings = d.bindings := by
      refine ite_eq_left_iff.mpr fun hnot => (h.bindings.eq_nil fun hmem => hnot ?_).symm
      exact (hseen _ (List.mem_cons_of_mem _ List.mem_cons_self)).mpr hmem
    show Except.ok (Definitions.mk (d.draft seen).exchanges (d.draft seen).bindings) = .ok d
    rw [hexchanges, hbindings]

/-- **An export is read as its definitions.** -/
theorem decode_isExport {doc : Document} {d : Definitions} (h : doc.tree.IsExport d) :
    shape.decode doc.bytes = .ok d := (takes_export h).readWholeText

/-! ## 3. Writing an export -/

/-- An exchange as it is written. -/
def exchangeValue (name : String) : Value := .object [("name", .text name)]

/-- A binding as it is written. -/
def bindingValue (b : BindingDefinition) : Value :=
  .object [("routing_key", .text b.routingKey), ("destination", .text b.destination)]

/-- Definitions as they are written. -/
def members (d : Definitions) : Members :=
  [("exchanges", .array (d.exchanges.map exchangeValue)),
    ("bindings", .array (d.bindings.map bindingValue))]

theorem nodup_exchangeKeys : ["name"].Nodup := List.nodup_singleton _

theorem nodup_bindingKeys : ["routing_key", "destination"].Nodup := by decide

theorem nodup_keys : ["exchanges", "bindings"].Nodup := by decide

theorem regular_exchangeValue (name : String) : (exchangeValue name).Regular :=
  .object nodup_exchangeKeys (by rintro _ ⟨⟩; rfl) (by simpa using .text name)

theorem regular_bindingValue (b : BindingDefinition) : (bindingValue b).Regular :=
  .object nodup_bindingKeys (by rintro _ ⟨⟩; rfl) (by simpa using ⟨.text _, .text _⟩)

theorem regular_members (d : Definitions) : d.members.Regular where
  keys_nodup := nodup_keys
  values := List.forall_mem_cons.mpr
    ⟨.array (List.forall_mem_map.mpr fun n _ => regular_exchangeValue n),
      List.forall_mem_singleton.mpr
        (.array (List.forall_mem_map.mpr fun b _ => regular_bindingValue b))⟩

theorem isExchange_tree (name : String) : (exchangeValue name).tree.IsExchange name where
  isRecord := isRecord_objectTree nodup_exchangeKeys
  name := hasText_objectTree List.mem_cons_self

theorem isBinding_tree (b : BindingDefinition) : (bindingValue b).tree.IsBinding b where
  isRecord := isRecord_objectTree nodup_bindingKeys
  routingKey := hasText_objectTree List.mem_cons_self
  destination := hasText_objectTree (List.mem_cons_of_mem _ List.mem_cons_self)

/-- What is written of definitions is an export of them. -/
theorem isExport_document (d : Definitions) : d.members.document.tree.IsExport d where
  isRecord := isRecord_objectTree nodup_keys
  exchanges := hasList_objectTree List.mem_cons_self isExchange_tree
  bindings := hasList_objectTree (List.mem_cons_of_mem _ List.mem_cons_self) isBinding_tree

/-- **Definitions that are written are read again.** -/
theorem decode_encode (d : Definitions) : shape.decode d.members.encode = .ok d := by
  rw [← d.regular_members.bytes_document]
  exact decode_isExport d.isExport_document

end Definitions

/-- **An export makes the channel of its last exchange with its bindings.** -/
theorem MemoryChannel.ofDefinitions?_isExport {doc : Document} {d : Definitions}
    (h : doc.tree.IsExport d) :
    ofDefinitions? (String.ofList doc.chars) = .ok (made (d.exchanges.getLast?.getD "")
      (d.bindings.map fun b => (b.routingKey, b.destination))) :=
  ofDefinitions?_eq_ok_iff.mpr ⟨d, by rw [ofString_ofList]; exact Definitions.decode_isExport h, rfl⟩

end BrokerBridge
