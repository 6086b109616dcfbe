import Ratatosk.Lib.HashMap

/-!
# Hash maps in the order of their keys

An encoder that must not depend on the order in which a hash map is iterated sorts the entries by
their keys first.

* `lookup_foldl_insert_inOrder`, `toFinmap_collect_inOrder` — inserted one after the other they
  store what the map stores.
-/

namespace Ratatosk.Lib.HashMap

variable {κ ν : Type}

/-- The entries, sorted by their keys. -/
def inOrder (le : κ → κ → Bool) (m : HashMap κ ν) : List (Σ _ : κ, ν) :=
  m.entries.mergeSort fun a b => le a.1 b.1

lemma perm_inOrder (le : κ → κ → Bool) (m : HashMap κ ν) : (m.inOrder le).Perm m.entries :=
  List.mergeSort_perm _ _

lemma mem_inOrder {le : κ → κ → Bool} {m : HashMap κ ν} {e : Σ _ : κ, ν} :
    e ∈ m.inOrder le ↔ e ∈ m.entries := (perm_inOrder le m).mem_iff

lemma nodupKeys_inOrder (le : κ → κ → Bool) (m : HashMap κ ν) : (m.inOrder le).NodupKeys :=
  (List.perm_nodupKeys (perm_inOrder le m)).mpr m.nodupKeys

variable [DecidableEq κ]

lemma dlookup_inOrder (le : κ → κ → Bool) (m : HashMap κ ν) (k : κ) :
    (m.inOrder le).dlookup k = m.lookup k :=
  List.perm_dlookup k (nodupKeys_inOrder le m) (perm_inOrder le m)

/-- Inserted one after the other with their values mapped. -/
lemma lookup_foldl_insert_inOrder {μ : Type} (le : κ → κ → Bool) (g : ν → μ) (m : HashMap κ ν)
    (k : κ) :
    ((m.inOrder le).foldl (fun acc e => acc.insert e.1 (g e.2)) (∅ : HashMap κ μ)).lookup k =
      (m.lookup k).map g := by
  have hcollect : (m.inOrder le).foldl (fun acc e => acc.insert e.1 (g e.2)) (∅ : HashMap κ μ) =
      collect (mapValues g ⟨m.inOrder le, nodupKeys_inOrder le m⟩).entries := by
    rw [collect, mapValues, List.foldl_map]
  rw [hcollect, lookup_collect, lookup_mapValues]
  exact congrArg (Option.map g) (dlookup_inOrder le m k)

/-- Inserted one after the other, the entries store what the map stores. -/
theorem toFinmap_collect_inOrder (le : κ → κ → Bool) (m : HashMap κ ν) :
    (collect (m.inOrder le)).toFinmap = m.toFinmap := by
  apply Finmap.ext_lookup
  intro k
  rw [Finmap.lookup_toFinmap, Finmap.lookup_toFinmap, collect,
    lookup_foldl_insert (nodupKeys_inOrder le m), AList.lookup_empty, Option.or_none,
    dlookup_inOrder]

/-- Entries under distinct keys that the map does not have. -/
structure Fresh {μ : Type} (m : HashMap κ μ) (entries : List (Σ _ : κ, ν)) : Prop where
  nodupKeys : entries.NodupKeys
  missing : ∀ e ∈ entries, m.lookup e.1 = none

lemma fresh_inOrder {μ : Type} (le : κ → κ → Bool) (m : HashMap κ ν) :
    Fresh (∅ : HashMap κ μ) (m.inOrder le) :=
  ⟨nodupKeys_inOrder le m, fun e _ => AList.lookup_empty e.1⟩

/-- The first entry stored, the others are still fresh. -/
lemma Fresh.insert {μ : Type} {m : HashMap κ μ} {e : Σ _ : κ, ν} {entries : List (Σ _ : κ, ν)}
    (h : Fresh m (e :: entries)) (v : μ) : Fresh (m.insert e.1 v) entries := by
  obtain ⟨hnew, hnodup⟩ := List.nodupKeys_cons.mp h.nodupKeys
  refine ⟨hnodup, fun x hx => ?_⟩
  have hne : x.1 ≠ e.1 := by
    intro heq
    rw [← heq] at hnew
    exact hnew (List.mem_keys_of_mem hx)
  rw [AList.lookup_insert_ne hne]
  exact h.missing x (List.mem_cons_of_mem _ hx)

end Ratatosk.Lib.HashMap
