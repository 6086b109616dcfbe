import Mathlib.Data.Finmap

/-!
# Hash maps as association lists

A hash map together with the order in which it is iterated is an association list with distinct
keys, Mathlib's `AList`; what it stores, order apart, is its `Finmap`.

* `HashMap`, `HashSet` — names for the two container types.
* `filterMapValues` — the entries whose values have an image under a partial function;
  `lookup_collect_filterMapValues` says what collecting them stores.
-/

namespace Ratatosk.Lib

open List Option AList

/-- A hash map with its iteration order. -/
abbrev HashMap (κ ν : Type) := AList fun _ : κ => ν

/-- A hash set with its iteration order. -/
abbrev HashSet (κ : Type) := HashMap κ Unit

namespace HashMap

variable {κ ν μ : Type}

/-- The same keys, in the same order, with their values mapped. -/
def mapValues (f : ν → μ) (m : HashMap κ ν) : HashMap κ μ where
  entries := m.entries.map fun e => ⟨e.1, f e.2⟩
  nodupKeys := by
    have hkeys : (m.entries.map fun e => (⟨e.1, f e.2⟩ : Σ _ : κ, μ)).keys = m.entries.keys := by
      simp [List.keys]
    rw [List.NodupKeys, hkeys]
    exact m.nodupKeys

/-- The entries whose values have an image, with it. -/
def filterMapValues (f : ν → Option μ) (entries : List (Σ _ : κ, ν)) : List (Σ _ : κ, μ) :=
  entries.filterMap fun e => (f e.2).map fun v => ⟨e.1, v⟩

lemma filterMapValues_cons (f : ν → Option μ) (a : κ) (b : ν) (entries : List (Σ _ : κ, ν)) :
    filterMapValues f (⟨a, b⟩ :: entries) =
      match f b with
      | none => filterMapValues f entries
      | some v => ⟨a, v⟩ :: filterMapValues f entries := by
  rw [filterMapValues, filterMap_cons]
  cases f b with
  | none => rfl
  | some v => rfl

lemma keys_filterMapValues_sublist (f : ν → Option μ) (entries : List (Σ _ : κ, ν)) :
    (filterMapValues f entries).keys.Sublist entries.keys := by
  induction entries with
  | nil => exact .refl _
  | cons e entries ih =>
    obtain ⟨a, b⟩ := e
    rw [filterMapValues_cons]
    split
    · exact ih.cons a
    · exact ih.cons_cons a

variable [DecidableEq κ]

/-- The map that an iterator is collected into, later entries replacing earlier ones. -/
def collect (entries : List (Σ _ : κ, ν)) : HashMap κ ν :=
  entries.foldl (fun m e => m.insert e.1 e.2) ∅

lemma dlookup_cons_of_ne {k a : κ} (h : k ≠ a) (b : ν) (entries : List (Σ _ : κ, ν)) :
    List.dlookup k (⟨a, b⟩ :: entries) = List.dlookup k entries :=
  dlookup_cons_ne entries (⟨a, b⟩ : Σ _ : κ, ν) h

lemma lookup_mapValues (f : ν → μ) (m : HashMap κ ν) (k : κ) :
    (mapValues f m).lookup k = (m.lookup k).map f := by
  obtain ⟨entries, hnodup⟩ := m
  simp only [mapValues, AList.lookup]
  clear hnodup
  induction entries with
  | nil => rfl
  | cons e entries ih =>
    obtain ⟨a, b⟩ := e
    by_cases h : k = a
    · subst h
      simp
    · rw [map_cons, dlookup_cons_of_ne h, dlookup_cons_of_ne h]
      exact ih

/-- Inserting entries with distinct keys: a key's value is the entry's, or what was there. -/
lemma lookup_foldl_insert {entries : List (Σ _ : κ, ν)} (hnodup : entries.NodupKeys)
    (m : HashMap κ ν) (k : κ) :
    (entries.foldl (fun m e => m.insert e.1 e.2) m).lookup k =
      (entries.dlookup k).or (m.lookup k) := by
  induction entries generalizing m with
  | nil => rfl
  | cons e entries ih =>
    obtain ⟨a, b⟩ := e
    obtain ⟨hfresh, hnodup⟩ := nodupKeys_cons.mp hnodup
    rw [foldl_cons, ih hnodup]
    by_cases h : k = a
    · subst h
      rw [dlookup_eq_none.mpr hfresh, dlookup_cons_eq, lookup_insert]
      rfl
    · rw [lookup_insert_ne h, dlookup_cons_of_ne h]

lemma lookup_collect (m : HashMap κ ν) (k : κ) : (collect m.entries).lookup k = m.lookup k := by
  rw [collect, lookup_foldl_insert m.nodupKeys, lookup_empty, or_none]
  rfl

/-- Collecting what a map iterates over stores what the map stores. -/
theorem toFinmap_collect (m : HashMap κ ν) : (collect m.entries).toFinmap = m.toFinmap := by
  apply Finmap.ext_lookup
  intro k
  rw [Finmap.lookup_toFinmap, Finmap.lookup_toFinmap, lookup_collect]

lemma dlookup_filterMapValues (f : ν → Option μ) {entries : List (Σ _ : κ, ν)}
    (hnodup : entries.NodupKeys) (k : κ) :
    (filterMapValues f entries).dlookup k = (entries.dlookup k).bind f := by
  induction entries with
  | nil => rfl
  | cons e entries ih =>
    obtain ⟨a, b⟩ := e
    obtain ⟨hfresh, hnodup⟩ := nodupKeys_cons.mp hnodup
    rw [filterMapValues_cons]
    by_cases h : k = a
    · subst h
      have hnone : (filterMapValues f entries).dlookup k = none :=
        dlookup_eq_none.mpr fun hk =>
          hfresh ((keys_filterMapValues_sublist f entries).mem hk)
      rw [dlookup_cons_eq, bind_some]
      cases f b with
      | none => exact hnone
      | some v => exact dlookup_cons_eq _ _ _
    · rw [dlookup_cons_of_ne h, ← ih hnodup]
      cases f b with
      | none => rfl
      | some v => exact dlookup_cons_of_ne h v _

/-- Collecting the images of the values of a map. -/
lemma lookup_collect_filterMapValues (f : ν → Option μ) (m : HashMap κ ν) (k : κ) :
    (collect (filterMapValues f m.entries)).lookup k = (m.lookup k).bind f := by
  have hnodup : (filterMapValues f m.entries).NodupKeys :=
    List.Nodup.sublist (keys_filterMapValues_sublist f m.entries) m.nodupKeys
  rw [collect, lookup_foldl_insert hnodup, lookup_empty, or_none,
    dlookup_filterMapValues f m.nodupKeys]
  rfl

/-- Mapping the values of a map that was collected with mapped values. -/
lemma toFinmap_mapValues_collect {ξ : Type} {f : μ → ξ} {g : ν → μ} {f' : ν → ξ}
    {m : HashMap κ ν} (h : ∀ e ∈ m.entries, f (g e.2) = f' e.2) :
    (mapValues f (collect (mapValues g m).entries)).toFinmap = (mapValues f' m).toFinmap := by
  apply Finmap.ext_lookup
  intro k
  rw [Finmap.lookup_toFinmap, Finmap.lookup_toFinmap, lookup_mapValues, lookup_collect,
    lookup_mapValues, lookup_mapValues, Option.map_map]
  apply Option.map_congr
  intro v hv
  exact h ⟨k, v⟩ (mem_lookup_iff.mp hv)

/-- A stored pair, and the pairs left when its key is erased. -/
lemma entries_perm_cons_erase {m : HashMap κ ν} {k : κ} {v : ν} (h : m.lookup k = some v) :
    m.entries.Perm (⟨k, v⟩ :: (m.erase k).entries) := by
  have hkey : k ∈ m.entries.keys := lookup_isSome.mp (isSome_of_mem h)
  obtain ⟨w, before, after, -, hentries, herase⟩ := exists_of_kerase hkey
  have hw : w = v := by
    have hmem : (⟨k, w⟩ : Σ _ : κ, ν) ∈ m.entries := by simp [hentries]
    exact Option.some.inj ((mem_lookup_iff.mpr hmem).symm.trans h)
  subst hw
  change m.entries.Perm (⟨k, w⟩ :: List.kerase k m.entries)
  rw [herase, hentries]
  exact perm_middle

lemma entries_erase_of_lookup_eq_none {m : HashMap κ ν} {k : κ} (h : m.lookup k = none) :
    (m.erase k).entries = m.entries :=
  kerase_of_notMem_keys (lookup_eq_none.mp h)

lemma length_keys_insert_of_lookup_eq_none {m : HashMap κ ν} {k : κ} (v : ν)
    (h : m.lookup k = none) : (m.insert k v).keys.length = m.keys.length + 1 := by
  have hkey : k ∉ m := lookup_eq_none.mp h
  rw [keys_insert, length_cons, erase_of_not_mem hkey]

lemma length_keys_insert_of_lookup_eq_some {m : HashMap κ ν} {k : κ} {w : ν} (v : ν)
    (h : m.lookup k = some w) : (m.insert k v).keys.length = m.keys.length := by
  have hkey : k ∈ m.keys := lookup_isSome.mp (isSome_of_mem h)
  rw [keys_insert, length_cons, length_erase_add_one hkey]

lemma length_keys_erase_of_lookup_eq_some {m : HashMap κ ν} {k : κ} {w : ν}
    (h : m.lookup k = some w) : (m.erase k).keys.length + 1 = m.keys.length := by
  have hkey : k ∈ m.keys := lookup_isSome.mp (isSome_of_mem h)
  rw [keys_erase, length_erase_add_one hkey]

lemma mem_foldl_insert {entries : List (Σ _ : κ, ν)} {m : HashMap κ ν} {k : κ} :
    k ∈ entries.foldl (fun m e => m.insert e.1 e.2) m ↔ k ∈ entries.keys ∨ k ∈ m := by
  induction entries generalizing m with
  | nil => simp
  | cons e entries ih =>
    rw [foldl_cons, ih, mem_insert, keys_cons, mem_cons]
    tauto

/-- Inserting entries adds at most as many, and none that is not one of them. -/
lemma entries_foldl_insert (entries : List (Σ _ : κ, ν)) (m : HashMap κ ν) :
    (entries.foldl (fun m e => m.insert e.1 e.2) m).entries.length ≤
        entries.length + m.entries.length ∧
      ∀ e ∈ (entries.foldl (fun m e => m.insert e.1 e.2) m).entries, e ∈ entries ∨ e ∈ m.entries := by
  induction entries generalizing m with
  | nil => exact ⟨(Nat.zero_add _).ge, fun e he => .inr he⟩
  | cons first entries ih =>
    obtain ⟨hlength, hmem⟩ := ih (m.insert first.1 first.2)
    have hsub : (m.erase first.1).entries.Sublist m.entries := kerase_sublist _ _
    rw [entries_insert, length_cons] at hlength
    refine ⟨?_, ?_⟩
    · have hle : (List.kerase first.1 m.entries).length ≤ m.entries.length := hsub.length_le
      rw [foldl_cons, length_cons]
      omega
    · intro e he
      rcases hmem e he with hrest | hfirst
      · exact .inl (mem_cons_of_mem _ hrest)
      · rw [entries_insert, mem_cons] at hfirst
        rcases hfirst with rfl | hold
        · exact .inl mem_cons_self
        · exact .inr (hsub.mem hold)

/-- A collected set has the members that were collected. -/
theorem keys_collect_unit (members : List κ) :
    (collect (members.map fun k => ⟨k, ()⟩)).toFinmap.keys = members.toFinset := by
  apply Finset.ext
  intro k
  rw [Finmap.mem_keys, Finmap.mem_toFinmap, collect, mem_foldl_insert, List.mem_toFinset]
  simp [List.keys, notMem_empty]

lemma toFinset_keys {β : Type} (m : HashMap κ β) : m.keys.toFinset = m.toFinmap.keys := by
  apply Finset.ext
  intro k
  rw [List.mem_toFinset, Finmap.mem_keys, Finmap.mem_toFinmap, AList.mem_keys]

end HashMap

end Ratatosk.Lib
