/-!
# Association lists keyed by text

An ordered finite map is the list of its entries in the order in which their keys first came.
`Assoc.put` gives a key its latest value and leaves the key where it first stood, so a map read
entry by entry keeps the first place and the last value of every key.

The view is `Assoc.get?`; `get?_put` says what a write does to it, `keys_put` what it does to the
order.  Queues, bindings, mapping rows, JSON members and configuration tables all use it.
-/
namespace BrokerBridge

/-- A finite map from texts, in the order in which its keys first came. -/
abbrev Assoc (α : Type u) := List (String × α)

namespace Assoc

variable {α : Type u}

/-! ## 1. Operations -/

/-- The value of `key`. -/
def get? (key : String) : Assoc α → Option α
  | [] => none
  | (k, a) :: rest => if k = key then some a else get? key rest

/-- Gives `key` the value `a`: in its place when it has one, at the end otherwise. -/
def put (key : String) (a : α) : Assoc α → Assoc α
  | [] => [(key, a)]
  | (k, b) :: rest => if k = key then (k, a) :: rest else (k, b) :: put key a rest

/-- The keys, in order. -/
def keys (m : Assoc α) : List String := m.map Prod.fst

/-- The map of a list of entries: of those with one key the last value, in the place of the
first. -/
def ofEntries (entries : List (String × α)) : Assoc α :=
  entries.foldl (fun m e => put e.1 e.2 m) []

/-! ## 2. The view -/

@[simp] theorem get?_nil (key : String) : get? key ([] : Assoc α) = none := rfl

theorem get?_put (key q : String) (a : α) (m : Assoc α) :
    get? q (put key a m) = if key = q then some a else get? q m := by
  induction m with
  | nil => simp [put, get?]
  | cons e rest ih =>
    obtain ⟨k, b⟩ := e
    by_cases hk : k = key
    · subst hk
      by_cases hq : k = q <;> simp [put, get?, hq]
    · by_cases hq : k = q
      · subst hq
        simp [put, get?, hk, Ne.symm hk]
      · simp [put, get?, hk, hq, ih]

@[simp] theorem get?_put_self (key : String) (a : α) (m : Assoc α) :
    get? key (put key a m) = some a := by simp [get?_put]

theorem get?_put_of_ne {key q : String} (h : key ≠ q) (a : α) (m : Assoc α) :
    get? q (put key a m) = get? q m := by simp [get?_put, h]

/-- A write keeps the order of the keys and adds a new one at the end. -/
theorem keys_put (key : String) (a : α) (m : Assoc α) :
    keys (put key a m) = if key ∈ keys m then keys m else keys m ++ [key] := by
  induction m with
  | nil => simp [put, keys]
  | cons e rest ih =>
    obtain ⟨k, b⟩ := e
    by_cases hk : k = key
    · simp [put, keys, hk]
    · have hk' : key ≠ k := fun h => hk h.symm
      have ih' := ih
      simp only [keys] at ih'
      by_cases hm : key ∈ rest.map Prod.fst
      · simp [put, keys, hk, hm] at ih' ⊢
        exact ih'
      · simp [put, keys, hk, hk', hm] at ih' ⊢
        exact ih'

end Assoc

end BrokerBridge
