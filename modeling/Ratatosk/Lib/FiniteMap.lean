import Ratatosk.Lib.HashMap

/-!
# Finite maps without an order

Operations on Mathlib's `Finmap` that hash maps have and it lacks.

* `lookup_retain`, `lookup_mapValues`, `lookup_eraseAll` — what they store.
* `insert_eq_self` — when nothing changes.
-/

namespace Ratatosk.Lib.FiniteMap

open Option Finmap

variable {κ ν μ : Type}

lemma nodupKeys_filter (p : (Σ _ : κ, ν) → Bool) (m : Finmap fun _ : κ => ν) :
    (m.entries.filter fun e => p e = true).NodupKeys := by
  rw [← Multiset.nodup_keys]
  exact Multiset.nodup_of_le (Multiset.map_le_map (Multiset.filter_le _ _))
    (Multiset.nodup_keys.mpr m.nodupKeys)

/-- The entries that pass a test. -/
def retain (p : κ → ν → Bool) (m : Finmap fun _ : κ => ν) : Finmap fun _ : κ => ν where
  entries := m.entries.filter fun e => p e.1 e.2 = true
  nodupKeys := nodupKeys_filter (fun e => p e.1 e.2) m

lemma nodupKeys_map (f : ν → μ) (m : Finmap fun _ : κ => ν) :
    (m.entries.map fun e => (⟨e.1, f e.2⟩ : Σ _ : κ, μ)).NodupKeys := by
  rw [← Multiset.nodup_keys]
  have hkeys : (m.entries.map fun e => (⟨e.1, f e.2⟩ : Σ _ : κ, μ)).keys = m.entries.keys := by
    simp [Multiset.keys, Multiset.map_map]
  rw [hkeys]
  exact Multiset.nodup_keys.mpr m.nodupKeys

/-- The same keys, with their values mapped. -/
def mapValues (f : ν → μ) (m : Finmap fun _ : κ => ν) : Finmap fun _ : κ => μ where
  entries := m.entries.map fun e => ⟨e.1, f e.2⟩
  nodupKeys := nodupKeys_map f m

variable [DecidableEq κ]

lemma lookup_retain (p : κ → ν → Bool) (m : Finmap fun _ : κ => ν) (k : κ) :
    (retain p m).lookup k = (m.lookup k).filter (p k) := by
  apply Option.ext
  intro v
  have hleft : (retain p m).lookup k = some v ↔ ⟨k, v⟩ ∈ (retain p m).entries :=
    lookup_eq_some_iff
  have hright : m.lookup k = some v ↔ ⟨k, v⟩ ∈ m.entries := lookup_eq_some_iff
  rw [filter_eq_some_iff, hleft, hright]
  exact Multiset.mem_filter

lemma lookup_mapValues (f : ν → μ) (m : Finmap fun _ : κ => ν) (k : κ) :
    (mapValues f m).lookup k = (m.lookup k).map f := by
  apply Option.ext
  intro w
  have hleft : (mapValues f m).lookup k = some w ↔ ⟨k, w⟩ ∈ (mapValues f m).entries :=
    lookup_eq_some_iff
  have hright : ∀ v, m.lookup k = some v ↔ ⟨k, v⟩ ∈ m.entries :=
    fun v => lookup_eq_some_iff
  rw [map_eq_some_iff, hleft]
  simp only [hright, mapValues, Multiset.mem_map]
  constructor
  · rintro ⟨⟨a, v⟩, hmem, heq⟩
    cases heq
    exact ⟨v, hmem, rfl⟩
  · rintro ⟨v, hmem, rfl⟩
    exact ⟨⟨k, v⟩, hmem, rfl⟩

/-- Inserting what is stored. -/
lemma insert_eq_self {m : Finmap fun _ : κ => ν} {k : κ} {v : ν} (h : m.lookup k = some v) :
    m.insert k v = m := by
  apply ext_lookup
  intro k'
  by_cases hk : k' = k
  · rw [hk, lookup_insert, h]
  · rw [lookup_insert_of_ne _ hk]

/-- The map without the keys of a list, removed one after the other. -/
def eraseAll (m : Finmap fun _ : κ => ν) (keys : List κ) : Finmap fun _ : κ => ν :=
  keys.foldl (fun m k => m.erase k) m

lemma lookup_eraseAll (m : Finmap fun _ : κ => ν) (keys : List κ) (k : κ) :
    (eraseAll m keys).lookup k = if k ∈ keys then none else m.lookup k := by
  induction keys generalizing m with
  | nil => rfl
  | cons head keys ih =>
    have hstep : eraseAll m (head :: keys) = eraseAll (m.erase head) keys := rfl
    rw [hstep, ih]
    by_cases hk : k = head
    · rw [hk, if_pos List.mem_cons_self, lookup_erase, ite_self]
    · rw [lookup_erase_ne hk]
      simp [hk]

end Ratatosk.Lib.FiniteMap
