import BrokerBridge.Assoc
import Mathlib.Data.List.Forall2

/-!
# Ordered maps read from lists of entries

A list of entries makes a map whose keys stand in the order in which they first came, each with the
value that came last (`head?_keys_ofEntries`, `get?_ofEntries`).  Such a map has no key twice
(`nodup_keys_ofEntries`), and a list that has none is a map already (`ofEntries_eq_self`).

Where the values of two lists are related entry by entry, so are those of their maps, place by place
(`forall₂_ofEntries`).
-/
namespace BrokerBridge.Assoc

universe u v

variable {α : Type u} {β : Type v} {key q : String} {a : α} {m : Assoc α}
  {entries : List (String × α)}

@[simp] theorem keys_cons (e : String × α) (m : Assoc α) : keys (e :: m) = e.1 :: keys m := rfl

theorem keys_append (m m' : Assoc α) : keys (m ++ m') = keys m ++ keys m' := List.map_append

theorem get?_append (q : String) (m m' : Assoc α) :
    get? q (m ++ m') = (get? q m).or (get? q m') := by
  induction m with
  | nil => rfl
  | cons e m ih =>
    rw [List.cons_append, get?, get?]
    split
    · rfl
    · exact ih

/-- Keys may be renamed where no other key gets the name that is looked for. -/
theorem get?_mapKeys {f : String → String} {q : String} (m : Assoc α)
    (hf : ∀ e ∈ m, f e.1 = f q → e.1 = q) :
    get? (f q) (m.map fun e => (f e.1, e.2)) = get? q m := by
  induction m with
  | nil => rfl
  | cons e m ih =>
    have ih' := ih fun d hd => hf d (List.mem_cons_of_mem _ hd)
    rw [List.map_cons, get?, get?, ih']
    by_cases hkey : e.1 = q
    · rw [if_pos (congrArg f hkey), if_pos hkey]
    · rw [if_neg fun h => hkey (hf e List.mem_cons_self h), if_neg hkey]

/-- A map has no value exactly where it has no key. -/
theorem get?_eq_none_iff : get? q m = none ↔ q ∉ keys m := by
  induction m with
  | nil => simp [keys]
  | cons e m ih =>
    rw [get?, keys_cons, List.mem_cons, not_or]
    split
    · rename_i h
      exact iff_of_false (Option.some_ne_none _) fun hne => hne.1 h.symm
    · rename_i h
      rw [ih]
      exact ⟨fun hmem => ⟨Ne.symm h, hmem⟩, fun hmem => hmem.2⟩

theorem mem_of_get? (h : get? q m = some a) : (q, a) ∈ m := by
  induction m with
  | nil => cases h
  | cons e m ih =>
    rw [get?] at h
    split at h
    · rename_i hkey
      rw [← hkey, ← Option.some.inj h]
      exact List.mem_cons_self
    · exact List.mem_cons_of_mem _ (ih h)

/-- A map that has no key twice has just the values of its entries. -/
theorem get?_eq_some_iff (hnodup : (keys m).Nodup) : get? q m = some a ↔ (q, a) ∈ m := by
  refine ⟨mem_of_get?, fun h => ?_⟩
  induction m with
  | nil => cases h
  | cons e m ih =>
    obtain ⟨hhead, htail⟩ := List.nodup_cons.mp hnodup
    rw [get?]
    obtain rfl | hm := List.mem_cons.mp h
    · exact if_pos rfl
    · have hq : q ∈ keys m := List.mem_map_of_mem (f := Prod.fst) hm
      rw [if_neg fun hkey : e.1 = q => hhead (hkey ▸ hq), ih htail hm]

/-- In a map that has no key twice the order does not matter. -/
theorem get?_eq_of_perm {m m' : Assoc α} (h : m.Perm m') (hnodup : (keys m').Nodup) (q : String) :
    get? q m = get? q m' := by
  have hnodup' : (keys m).Nodup := (h.map Prod.fst).nodup_iff.mpr hnodup
  ext a
  rw [get?_eq_some_iff hnodup', get?_eq_some_iff hnodup, h.mem_iff]

/-! ## 1. Writes -/

/-- A write to a key that a map does not have stands behind everything else. -/
theorem put_of_notMem (h : key ∉ keys m) : put key a m = m ++ [(key, a)] := by
  induction m with
  | nil => rfl
  | cons e m ih =>
    rw [keys_cons, List.mem_cons, not_or] at h
    rw [put, if_neg (Ne.symm h.1), ih h.2]
    rfl

/-- The map with another value in the place of `key`. -/
def replace (key : String) (a : α) (m : Assoc α) : Assoc α :=
  m.map fun e => if e.1 = key then (e.1, a) else e

/-- A write to a key that a map has only changes its value. -/
theorem put_of_mem (hnodup : (keys m).Nodup) (h : key ∈ keys m) :
    put key a m = replace key a m := by
  induction m with
  | nil => cases h
  | cons e m ih =>
    obtain ⟨hhead, htail⟩ := List.nodup_cons.mp hnodup
    rw [put, replace, List.map_cons]
    by_cases hk : e.1 = key
    · have hrest : ∀ d ∈ m, (if d.1 = key then (d.1, a) else d) = d := fun d hd =>
        if_neg fun hkey => hhead (List.mem_map.mpr ⟨d, hd, hkey.trans hk.symm⟩)
      rw [if_pos hk, if_pos hk, List.map_congr_left hrest, List.map_id']
    · rw [if_neg hk, if_neg hk, ih htail ((List.mem_cons.mp h).resolve_left (Ne.symm hk)), replace]

/-- Of two writes to one key the later one decides. -/
theorem put_put (key : String) (a b : α) (m : Assoc α) : put key a (put key b m) = put key a m := by
  induction m with
  | nil => simp [put]
  | cons e m ih =>
    rw [put, put]
    split
    · rename_i hk
      rw [put, if_pos hk]
    · rename_i hk
      rw [put, if_neg hk, ih]

/-- A write of the value that is there changes nothing. -/
theorem put_eq_self (h : get? key m = some a) : put key a m = m := by
  induction m with
  | nil => cases h
  | cons e m ih =>
    rw [get?] at h
    rw [put]
    split at h
    · rename_i hk
      rw [if_pos hk, ← Option.some.inj h]
    · rename_i hk
      rw [if_neg hk, ih h]

theorem nodup_keys_put (h : (keys m).Nodup) : (keys (put key a m)).Nodup := by
  rw [keys_put]
  split
  · exact h
  · rename_i hmem
    rw [List.nodup_append]
    refine ⟨h, List.nodup_cons.mpr ⟨List.not_mem_nil, List.nodup_nil⟩, ?_⟩
    rintro x hx y hy rfl
    exact hmem (List.mem_singleton.mp hy ▸ hx)

/-- A write brings no entry but its own. -/
theorem eq_or_mem_of_mem_put {e : String × α} (h : e ∈ put key a m) : e = (key, a) ∨ e ∈ m := by
  induction m with
  | nil => exact Or.inl (List.mem_singleton.mp h)
  | cons d m ih =>
    rw [put] at h
    split at h
    · rename_i hkey
      obtain rfl | hm := List.mem_cons.mp h
      · exact Or.inl (congrArg (·, a) hkey)
      · exact Or.inr (List.mem_cons_of_mem _ hm)
    · obtain rfl | hm := List.mem_cons.mp h
      · exact Or.inr List.mem_cons_self
      · exact (ih hm).imp_right (List.mem_cons_of_mem _)

/-! ## 2. Maps of entries -/

/-- The writes of a list of entries, one after another. -/
def putAll (m : Assoc α) (entries : List (String × α)) : Assoc α :=
  entries.foldl (fun m e => put e.1 e.2 m) m

theorem putAll_cons (m : Assoc α) (e : String × α) (entries : List (String × α)) :
    putAll m (e :: entries) = putAll (put e.1 e.2 m) entries := rfl

theorem ofEntries_eq_putAll (entries : List (String × α)) : ofEntries entries = putAll [] entries :=
  rfl

/-- Writes keep the order of the keys that are there. -/
theorem keys_prefix_putAll (m : Assoc α) (entries : List (String × α)) :
    keys m <+: keys (putAll m entries) := by
  induction entries generalizing m with
  | nil => exact List.prefix_rfl
  | cons e entries ih =>
    refine List.IsPrefix.trans ?_ (ih (put e.1 e.2 m))
    rw [keys_put]
    split
    · exact List.prefix_rfl
    · exact List.prefix_append _ _

/-- The first key of a map is the first that was written. -/
theorem head?_keys_ofEntries (e : String × α) (entries : List (String × α)) :
    (keys (ofEntries (e :: entries))).head? = some e.1 := by
  obtain ⟨more, hmore⟩ := keys_prefix_putAll (put e.1 e.2 []) entries
  rw [ofEntries_eq_putAll, putAll_cons, ← hmore]
  rfl

theorem nodup_keys_putAll (h : (keys m).Nodup) : (keys (putAll m entries)).Nodup := by
  induction entries generalizing m with
  | nil => exact h
  | cons e entries ih => exact ih (nodup_keys_put h)

/-- A map of entries has no key twice. -/
theorem nodup_keys_ofEntries (entries : List (String × α)) : (keys (ofEntries entries)).Nodup :=
  nodup_keys_putAll List.nodup_nil

theorem get?_putAll (q : String) (m : Assoc α) (entries : List (String × α)) :
    get? q (putAll m entries) = get? q (entries.reverse ++ m) := by
  induction entries generalizing m with
  | nil => rfl
  | cons e entries ih =>
    rw [putAll_cons, ih, List.reverse_cons, List.append_assoc, get?_append, get?_append, get?_put]
    rfl

/-- **A map has the value that was written last.** -/
theorem get?_ofEntries (q : String) (entries : List (String × α)) :
    get? q (ofEntries entries) = get? q entries.reverse := by
  rw [ofEntries_eq_putAll, get?_putAll, List.append_nil]

theorem putAll_eq_append (h : (keys (m ++ entries)).Nodup) : putAll m entries = m ++ entries := by
  induction entries generalizing m with
  | nil => exact (List.append_nil m).symm
  | cons e entries ih =>
    have hkey : e.1 ∉ keys m := by
      intro hmem
      rw [keys_append] at h
      exact (List.nodup_append.mp h).2.2 _ hmem _ List.mem_cons_self rfl
    have hsplit : m ++ e :: entries = (m ++ [(e.1, e.2)]) ++ entries := by
      rw [List.append_assoc]
      rfl
    rw [putAll_cons, put_of_notMem hkey, ih (hsplit ▸ h), hsplit]

/-- A list of entries that has no key twice is a map already. -/
theorem ofEntries_eq_self (h : (keys m).Nodup) : ofEntries m = m := putAll_eq_append (m := []) h

theorem subset_putAll (m : Assoc α) (entries : List (String × α)) :
    putAll m entries ⊆ m ++ entries := by
  induction entries generalizing m with
  | nil => exact List.subset_append_left m []
  | cons e entries ih =>
    intro d hd
    obtain hput | hrest := List.mem_append.mp (ih (put e.1 e.2 m) hd)
    · obtain rfl | hm := eq_or_mem_of_mem_put hput
      · exact List.mem_append_right _ List.mem_cons_self
      · exact List.mem_append_left _ hm
    · exact List.mem_append_right _ (List.mem_cons_of_mem _ hrest)

/-- The entries of a map are among those that it is made of. -/
theorem subset_ofEntries (entries : List (String × α)) : ofEntries entries ⊆ entries :=
  subset_putAll [] entries

/-! ## 3. Maps of values -/

/-- The map with every value replaced by its image. -/
def mapValues (f : α → β) (m : Assoc α) : Assoc β := m.map fun e => (e.1, f e.2)

@[simp] theorem keys_mapValues (f : α → β) (m : Assoc α) : keys (mapValues f m) = keys m := by
  rw [keys, mapValues, List.map_map]
  rfl

theorem mapValues_put (f : α → β) (key : String) (a : α) (m : Assoc α) :
    mapValues f (put key a m) = put key (f a) (mapValues f m) := by
  induction m with
  | nil => rfl
  | cons e m ih =>
    show mapValues f (put key a (e :: m)) = put key (f a) ((e.1, f e.2) :: mapValues f m)
    rw [put, put]
    split
    · rfl
    · exact congrArg (_ :: ·) ih

theorem mapValues_putAll (f : α → β) (m : Assoc α) (entries : List (String × α)) :
    mapValues f (putAll m entries) = putAll (mapValues f m) (mapValues f entries) := by
  induction entries generalizing m with
  | nil => rfl
  | cons e entries ih =>
    rw [putAll_cons, ih, mapValues_put]
    rfl

/-- Values may be replaced before the map is made or after. -/
theorem mapValues_ofEntries (f : α → β) (entries : List (String × α)) :
    mapValues f (ofEntries entries) = ofEntries (mapValues f entries) :=
  mapValues_putAll f [] entries

/-! ## 4. Maps side by side -/

/-- Two entries have one key and related values. -/
def Related (R : α → β → Prop) (e : String × α) (e' : String × β) : Prop :=
  e.1 = e'.1 ∧ R e.2 e'.2

section

variable {R : α → β → Prop} {b : β} {m' : Assoc β} {entries' : List (String × β)}

theorem forall₂_put (hm : List.Forall₂ (Related R) m m') (hab : R a b) :
    List.Forall₂ (Related R) (put key a m) (put key b m') := by
  induction hm with
  | nil => exact .cons ⟨rfl, hab⟩ .nil
  | @cons e e' _ _ he hm ih =>
    rw [put, put, ← he.1]
    split
    · exact .cons ⟨rfl, hab⟩ hm
    · exact .cons ⟨rfl, he.2⟩ ih

/-- **Entries that are related make maps that are related.** -/
theorem forall₂_ofEntries (h : List.Forall₂ (Related R) entries entries') :
    List.Forall₂ (Related R) (ofEntries entries) (ofEntries entries') := by
  refine List.rel_foldl (R := Related R) (P := List.Forall₂ (Related R)) ?_ .nil h
  rintro m m' hm ⟨key, a⟩ ⟨_, b⟩ ⟨rfl, hab⟩
  exact forall₂_put hm hab

end

end BrokerBridge.Assoc
