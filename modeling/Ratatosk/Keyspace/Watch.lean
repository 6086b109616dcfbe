import Mathlib.Data.Fintype.Card
import Mathlib.Data.Set.Card
import Ratatosk.Keyspace.Value
import Ratatosk.Lib.HashMap

/-!
# The tables behind `WATCH`

The versions and registrations of watched keys, from `DbShard` and `DataState` of
`ratatosk-engine/src/keyspace.rs`.

* `WatchTables` — the versions of watched keys, the number of registrations of each, the next
  version and the number of distinct watched keys. The shards' tables are one map each, by
  database and key.
* `WatchTables.Versioned` — only registered keys have a version.
* `WatchTables.Exact` — the invariant: registrations are counted, and for each client that
  watches a key the current version is the one it noted exactly if the key was not recorded as
  modified since. One lemma per operation says that it is kept.

The next version is a `u64` that wraps around. A version is forgotten with the last registration
of its key, so the invariant is about registered keys only.
-/

namespace Ratatosk.Keyspace

open Lib List Option AList

/-- A key of one of the databases. -/
abbrev DbKey := Fin dbCount × Bytes

/-- Source: `DbShard`, `DataState` -/
structure WatchTables where
  keyVersions : HashMap DbKey UInt64
  /-- How many clients watch each key. -/
  watchRefs : HashMap DbKey Nat
  nextKeyVersion : UInt64
  /-- How many keys are watched. -/
  watchedKeys : Nat
  /-- History variable, which nothing reads: every key whose modification was to be recorded,
  oldest first. -/
  history : List DbKey

namespace WatchTables

/-! ## Operations -/

/-- Source: `DataState::new` -/
def new : WatchTables := ⟨∅, ∅, 1, 0, []⟩

/-- Source: `ServerState::key_version` -/
def keyVersion (t : WatchTables) (key : DbKey) : UInt64 := (t.keyVersions.lookup key).getD 0

/-- The next version, given to a key. -/
def stamp (t : WatchTables) (key : DbKey) : WatchTables :=
  { t with
    keyVersions := t.keyVersions.insert key t.nextKeyVersion
    nextKeyVersion := t.nextKeyVersion + 1
    history := t.history ++ [key] }

/-- A modification of a key that nobody watches. -/
def skip (t : WatchTables) (key : DbKey) : WatchTables := { t with history := t.history ++ [key] }

/-- Source: `DbShard::record_modification` -/
def recordModification (t : WatchTables) (key : DbKey) : WatchTables :=
  if (t.watchRefs.lookup key).isSome then t.stamp key else t.skip key

/-- The watched keys that a database stores.
Source: `DbShard::record_watched_existing` -/
def watchedExisting (t : WatchTables) (index : Fin dbCount) (db : Db) : List DbKey :=
  t.watchRefs.keys.filter fun key => key.1 = index ∧ key.2 ∈ db

/-- Source: `DbShard::record_watched_existing` -/
def recordWatchedExisting (index : Fin dbCount) (db : Db) (t : WatchTables) : WatchTables :=
  (t.watchedExisting index db).foldl stamp t

/-- Source: `ServerState::touch_key_version` -/
def touchKeyVersion (t : WatchTables) (key : DbKey) : WatchTables :=
  if t.watchedKeys = 0 then t.skip key else t.recordModification key

/-- Source: `DataState::watch_key` -/
def watchKey (t : WatchTables) (key : DbKey) : WatchTables × UInt64 :=
  let refs := (t.watchRefs.lookup key).getD 0
  ({ t with
    watchRefs := t.watchRefs.insert key (refs + 1)
    watchedKeys := if refs = 0 then t.watchedKeys + 1 else t.watchedKeys },
    t.keyVersion key)

/-- Source: `DataState::unwatch_key` -/
def unwatchKey (t : WatchTables) (key : DbKey) : WatchTables :=
  match t.watchRefs.lookup key with
  | none => t
  | some refs =>
    if refs - 1 = 0 then
      { t with
        watchRefs := t.watchRefs.erase key
        keyVersions := t.keyVersions.erase key
        watchedKeys := t.watchedKeys - 1 }
    else { t with watchRefs := t.watchRefs.insert key (refs - 1) }

/-! ## Versions -/

lemma keyVersion_stamp_self (t : WatchTables) (key : DbKey) :
    (t.stamp key).keyVersion key = t.nextKeyVersion := by
  simp [keyVersion, stamp]

lemma keyVersion_stamp_of_ne (t : WatchTables) {key other : DbKey} (h : other ≠ key) :
    (t.stamp key).keyVersion other = t.keyVersion other := by
  simp [keyVersion, stamp, lookup_insert_ne h]

/-! ## Which keys have a version -/

section versioned

variable {t : WatchTables}

/-- Only registered keys have a version. -/
def Versioned (t : WatchTables) : Prop := ∀ key ∈ t.keyVersions, key ∈ t.watchRefs

namespace Versioned

variable (h : t.Versioned)
include h

lemma stamp {key : DbKey} (hkey : key ∈ t.watchRefs) : (t.stamp key).Versioned := by
  intro other hother
  obtain rfl | hother := (mem_insert _).mp hother
  · exact hkey
  · exact h other hother

lemma recordModification (key : DbKey) : (t.recordModification key).Versioned := by
  rw [WatchTables.recordModification]
  split_ifs with hsome
  · exact h.stamp (lookup_isSome.mp hsome)
  · exact h

lemma touchKeyVersion (key : DbKey) : (t.touchKeyVersion key).Versioned := by
  rw [WatchTables.touchKeyVersion]
  split_ifs
  · exact h
  · exact h.recordModification key

lemma recordWatchedExisting (index : Fin dbCount) (db : Db) :
    (t.recordWatchedExisting index db).Versioned := by
  have hstamped := List.foldlRecOn (t.watchedExisting index db) WatchTables.stamp
    (motive := fun after => after.Versioned ∧ after.watchRefs = t.watchRefs) ⟨h, rfl⟩
  refine (hstamped fun after hafter key hkey => ⟨hafter.1.stamp ?_, hafter.2⟩).1
  rw [hafter.2]
  exact mem_of_mem_filter hkey

lemma watchKey (key : DbKey) : (t.watchKey key).1.Versioned := by
  intro other hother
  exact (mem_insert _).mpr (.inr (h other hother))

/-- A version is forgotten with the last registration. -/
lemma unwatchKey (key : DbKey) : (t.unwatchKey key).Versioned := by
  rw [WatchTables.unwatchKey]
  split
  · exact h
  split_ifs
  · intro other hother
    obtain ⟨hne, hother⟩ := mem_erase.mp hother
    exact mem_erase.mpr ⟨hne, h other hother⟩
  · intro other hother
    exact (mem_insert _).mpr (.inr (h other hother))

end Versioned

end versioned

/-! ## Who watches a key -/

section watchers

variable {n : Nat}

/-- What each client watches, with the version it noted. -/
abbrev Watched (n : Nat) := Fin n → DbKey → Option UInt64

/-- How many clients watch a key. -/
def watchers (watched : Watched n) (key : DbKey) : Nat :=
  (Finset.univ.filter fun c => (watched c key).isSome).card

/-- One entry of what one client watches, replaced. -/
def setWatch (watched : Watched n) (c : Fin n) (key : DbKey) (noted : Option UInt64) : Watched n :=
  Function.update watched c (Function.update (watched c) key noted)

lemma setWatch_apply (watched : Watched n) (c client : Fin n) (key other : DbKey)
    (noted : Option UInt64) : setWatch watched c key noted client other =
      if client = c ∧ other = key then noted else watched client other := by
  by_cases hc : client = c
  · subst hc
    simp [setWatch, Function.update_apply]
  · simp [setWatch, hc]

lemma watchers_eq_zero_iff {watched : Watched n} {key : DbKey} :
    watchers watched key = 0 ↔ ∀ c, watched c key = none := by
  rw [watchers, Finset.card_eq_zero, Finset.filter_eq_empty_iff]
  simp

lemma watchers_setWatch_of_ne (watched : Watched n) (c : Fin n) {key other : DbKey}
    (noted : Option UInt64) (h : other ≠ key) :
    watchers (setWatch watched c key noted) other = watchers watched other := by
  simp only [watchers, setWatch_apply, h, and_false, if_false]

lemma watchers_setWatch_some {watched : Watched n} {c : Fin n} {key : DbKey} (version : UInt64)
    (h : watched c key = none) :
    watchers (setWatch watched c key (some version)) key = watchers watched key + 1 := by
  have hfresh : c ∉ Finset.univ.filter fun c => (watched c key).isSome := by simp [h]
  rw [watchers, watchers, ← Finset.card_insert_of_notMem hfresh]
  congr 1
  ext client
  by_cases hc : client = c
  · simp [setWatch_apply, hc]
  · simp [setWatch_apply, hc]

lemma watchers_setWatch_none {watched : Watched n} {c : Fin n} {key : DbKey}
    (h : (watched c key).isSome) :
    watchers (setWatch watched c key none) key + 1 = watchers watched key := by
  obtain ⟨version, hversion⟩ := isSome_iff_exists.mp h
  have hnone : setWatch watched c key none c key = none := by simp [setWatch_apply]
  rw [← watchers_setWatch_some version hnone]
  congr 1
  funext client other
  rw [setWatch_apply, setWatch_apply]
  split_ifs with hboth
  · rw [hboth.1, hboth.2, hversion]
  · rfl

end watchers

/-! ## The invariant -/

section exact

variable {n : Nat}

/-- The version that a client noted, against the current one: they are numbered by the
modifications that were recorded, and the current number is larger exactly if the key was
recorded as modified since. -/
def Noted (t : WatchTables) (stamps since : Nat) (key : DbKey) (version : UInt64) : Prop :=
  since ≤ t.history.length ∧
    ∃ noted current, noted ≤ current ∧ current ≤ stamps ∧
      version = UInt64.ofNat noted ∧ t.keyVersion key = UInt64.ofNat current ∧
      (noted < current ↔ key ∈ t.history.drop since)

/-- The tables fit what the clients watch. `since` is the length of the history when a client
watched a key, and `stamps` the number of versions that were given. -/
structure Exact (t : WatchTables) (watched : Watched n) (since : Fin n → DbKey → Nat)
    (stamps : Nat) : Prop where
  refs : ∀ key, (t.watchRefs.lookup key).getD 0 = watchers watched key
  refs_ne_zero : ∀ key, t.watchRefs.lookup key ≠ some 0
  count : t.watchedKeys = t.watchRefs.keys.length
  stamps_le : stamps ≤ t.history.length
  next : t.nextKeyVersion = UInt64.ofNat (stamps + 1)
  version : ∀ key, ∃ current ≤ stamps, t.keyVersion key = UInt64.ofNat current
  noted : ∀ c key version, watched c key = some version →
    t.Noted stamps (since c key) key version

lemma exact_new (since : Fin n → DbKey → Nat) : new.Exact (fun _ _ => none) since 0 where
  refs key := by simp [new, watchers]
  refs_ne_zero key := by simp [new]
  count := rfl
  stamps_le := Nat.zero_le _
  next := rfl
  version key := ⟨0, le_rfl, rfl⟩
  noted c key version h := by simp at h

namespace Exact

variable {t : WatchTables} {watched : Watched n} {since : Fin n → DbKey → Nat} {stamps : Nat}

section tables

variable (h : t.Exact watched since stamps)
include h

/-- Registered keys have a positive count. -/
lemma refs_pos_iff (key : DbKey) : 0 < (t.watchRefs.lookup key).getD 0 ↔ key ∈ t.watchRefs := by
  have hne := h.refs_ne_zero key
  rw [← lookup_isSome]
  cases hlookup : t.watchRefs.lookup key with
  | none => simp
  | some refs =>
    rw [hlookup] at hne
    simp only [getD_some, isSome_some, iff_true, Nat.pos_iff_ne_zero]
    rintro rfl
    exact hne rfl

/-- A key is registered exactly if a client watches it. -/
lemma isSome_refs_iff (key : DbKey) :
    (t.watchRefs.lookup key).isSome ↔ ∃ c, (watched c key).isSome := by
  rw [lookup_isSome, ← h.refs_pos_iff, h.refs, Nat.pos_iff_ne_zero, Ne, watchers_eq_zero_iff]
  simp [isSome_iff_ne_none]

/-- The number of watched keys is the number of keys with a positive count. -/
lemma watchedKeys_eq :
    t.watchedKeys = {key | 0 < (t.watchRefs.lookup key).getD 0}.ncard := by
  have hset : {key | 0 < (t.watchRefs.lookup key).getD 0} =
      (t.watchRefs.keys.toFinset : Set DbKey) := by
    ext key
    rw [coe_toFinset]
    exact h.refs_pos_iff key
  rw [h.count, hset, Set.ncard_coe_finset, toFinset_card_of_nodup t.watchRefs.keys_nodup]

/-- What a client watches can be given up: neither count is zero. -/
lemma counts_pos {c : Fin n} {key : DbKey} (hsome : (watched c key).isSome) :
    0 < (t.watchRefs.lookup key).getD 0 ∧ 0 < t.watchedKeys := by
  have hkey : key ∈ t.watchRefs := lookup_isSome.mp ((h.isSome_refs_iff key).mpr ⟨c, hsome⟩)
  refine ⟨(h.refs_pos_iff key).mpr hkey, ?_⟩
  rw [h.count]
  exact length_pos_of_mem hkey

/-- **Comparing versions decides whether a watched key was modified**, as long as fewer than
`2 ^ 64` modifications were recorded. -/
theorem keyVersion_eq_iff (hbound : t.history.length < 2 ^ 64)
    {c : Fin n} {key : DbKey} {version : UInt64} (hwatched : watched c key = some version) :
    t.keyVersion key ≠ version ↔ key ∈ t.history.drop (since c key) := by
  obtain ⟨-, noted, current, hle, hcurrent, rfl, hversion, hmodified⟩ := h.noted c key _ hwatched
  have hlt : current < 2 ^ 64 := lt_of_le_of_lt (hcurrent.trans h.stamps_le) hbound
  have hinj : UInt64.ofNat current = UInt64.ofNat noted ↔ current = noted := by
    rw [← UInt64.toNat_inj, UInt64.toNat_ofNat_of_lt' hlt,
      UInt64.toNat_ofNat_of_lt' (lt_of_le_of_lt hle hlt)]
  rw [hversion, ← hmodified, Ne, hinj]
  omega

/-- A modification of a registered key gets the next version. -/
lemma stamp (key : DbKey) : (t.stamp key).Exact watched since (stamps + 1) where
  refs := h.refs
  refs_ne_zero := h.refs_ne_zero
  count := h.count
  stamps_le := by
    have := h.stamps_le
    simpa [WatchTables.stamp] using this
  next := by
    change t.nextKeyVersion + 1 = _
    rw [h.next]
    exact (UInt64.ofNat_add (stamps + 1) 1).symm
  version other := by
    by_cases hkey : other = key
    · subst hkey
      exact ⟨stamps + 1, le_rfl, (keyVersion_stamp_self t other).trans h.next⟩
    · obtain ⟨current, hcurrent, hversion⟩ := h.version other
      exact ⟨current, by omega, (keyVersion_stamp_of_ne t hkey).trans hversion⟩
  noted c other version hwatched := by
    obtain ⟨hsince, noted, current, hle, hcurrent, hnoted, hversion, hmodified⟩ :=
      h.noted c other version hwatched
    have hdrop : (t.stamp key).history.drop (since c other) =
        t.history.drop (since c other) ++ [key] := drop_append_of_le_length hsince
    refine ⟨by simpa [WatchTables.stamp] using Nat.le_succ_of_le hsince, noted, ?_⟩
    rw [hdrop]
    by_cases hkey : other = key
    · subst hkey
      refine ⟨stamps + 1, by omega, le_rfl, hnoted,
        (keyVersion_stamp_self t other).trans h.next, ?_⟩
      exact iff_of_true (by omega) (by simp)
    · refine ⟨current, hle, by omega, hnoted, (keyVersion_stamp_of_ne t hkey).trans hversion, ?_⟩
      rw [hmodified]
      simp [hkey]

/-- A modification of a key that nobody watches leaves the versions alone. -/
lemma skip {key : DbKey} (hfree : ∀ c, watched c key = none) :
    (t.skip key).Exact watched since stamps where
  refs := h.refs
  refs_ne_zero := h.refs_ne_zero
  count := h.count
  stamps_le := by
    have := h.stamps_le
    simpa [WatchTables.skip] using Nat.le_succ_of_le this
  next := h.next
  version := h.version
  noted c other version hwatched := by
    obtain ⟨hsince, noted, current, hle, hcurrent, hnoted, hversion, hmodified⟩ :=
      h.noted c other version hwatched
    have hkey : other ≠ key := by
      rintro rfl
      simp [hfree c] at hwatched
    have hdrop : (t.skip key).history.drop (since c other) =
        t.history.drop (since c other) ++ [key] := drop_append_of_le_length hsince
    refine ⟨by simpa [WatchTables.skip] using Nat.le_succ_of_le hsince,
      noted, current, hle, hcurrent, hnoted, hversion, ?_⟩
    rw [hdrop, hmodified]
    simp [hkey]

lemma recordModification (key : DbKey) :
    ∃ stamps, (t.recordModification key).Exact watched since stamps := by
  rw [WatchTables.recordModification]
  split_ifs with hsome
  · exact ⟨stamps + 1, h.stamp key⟩
  · refine ⟨stamps, h.skip ?_⟩
    rw [h.isSome_refs_iff, not_exists] at hsome
    intro c
    exact not_isSome_iff_eq_none.mp (hsome c)

/-- The early exit of `touch_key_version` is sound: nobody watches anything. -/
lemma touchKeyVersion (key : DbKey) :
    ∃ stamps, (t.touchKeyVersion key).Exact watched since stamps := by
  rw [WatchTables.touchKeyVersion]
  split_ifs with hzero
  · refine ⟨stamps, h.skip fun c => ?_⟩
    have hempty : t.watchRefs.keys = [] :=
      length_eq_zero_iff.mp (h.count.symm.trans hzero)
    have hnone : t.watchRefs.lookup key = none := by
      rw [lookup_eq_none, AList.mem_keys, hempty]
      exact not_mem_nil
    have hfree : watchers watched key = 0 := by rw [← h.refs key, hnone, getD_none]
    exact watchers_eq_zero_iff.mp hfree c
  · exact h.recordModification key

omit h in
lemma foldl_stamp (keys : List DbKey) (h : t.Exact watched since stamps) :
    (keys.foldl WatchTables.stamp t).Exact watched since (stamps + keys.length) := by
  induction keys generalizing t stamps with
  | nil => exact h
  | cons key keys ih =>
    rw [foldl_cons, length_cons, Nat.add_comm keys.length 1, ← Nat.add_assoc]
    exact ih (h.stamp key)

lemma recordWatchedExisting (index : Fin dbCount) (db : Db) :
    ∃ stamps, (t.recordWatchedExisting index db).Exact watched since stamps :=
  ⟨_, h.foldl_stamp _⟩

lemma congr_since {since' : Fin n → DbKey → Nat}
    (hsince : ∀ c key, (watched c key).isSome → since' c key = since c key) :
    t.Exact watched since' stamps where
  __ := h
  noted c key version hwatched := by
    rw [hsince c key (by simp [hwatched])]
    exact h.noted c key version hwatched

/-- A new registration notes the current version. -/
lemma watchKey {c : Fin n} {key : DbKey}
    (hfree : watched c key = none) (hsince : since c key = t.history.length) :
    (t.watchKey key).1.Exact (setWatch watched c key (some (t.watchKey key).2)) since stamps where
  refs other := by
    by_cases hkey : other = key
    · subst hkey
      rw [watchers_setWatch_some _ hfree, ← h.refs other]
      simp [WatchTables.watchKey]
    · rw [watchers_setWatch_of_ne _ _ _ hkey, ← h.refs other]
      simp [WatchTables.watchKey, lookup_insert_ne hkey]
  refs_ne_zero other := by
    by_cases hkey : other = key
    · subst hkey
      simp [WatchTables.watchKey]
    · simpa [WatchTables.watchKey, lookup_insert_ne hkey] using h.refs_ne_zero other
  count := by
    have hcount := h.count
    have hne := h.refs_ne_zero key
    simp only [WatchTables.watchKey]
    cases hlookup : t.watchRefs.lookup key with
    | none =>
      rw [HashMap.length_keys_insert_of_lookup_eq_none _ hlookup]
      simp [hcount]
    | some refs =>
      rw [HashMap.length_keys_insert_of_lookup_eq_some _ hlookup]
      have hrefs : refs ≠ 0 := by
        rintro rfl
        exact hne hlookup
      simp [hrefs, hcount]
  stamps_le := h.stamps_le
  next := h.next
  version := h.version
  noted client other version hwatched := by
    by_cases hboth : client = c ∧ other = key
    · obtain ⟨rfl, rfl⟩ := hboth
      rw [setWatch_apply, if_pos ⟨rfl, rfl⟩, Option.some.injEq] at hwatched
      obtain ⟨current, hcurrent, hversion⟩ := h.version other
      refine ⟨hsince.le, current, current, le_rfl, hcurrent, ?_, hversion, ?_⟩
      · rw [← hwatched]
        exact hversion
      · rw [hsince]
        simp [WatchTables.watchKey]
    · rw [setWatch_apply, if_neg hboth] at hwatched
      exact h.noted client other version hwatched

/-- A registration that is dropped. The version goes with the last one, when nobody needs it. -/
lemma unwatchKey {c : Fin n} {key : DbKey} (hsome : (watched c key).isSome) :
    (t.unwatchKey key).Exact (setWatch watched c key none) since stamps := by
  have hwatchers := watchers_setWatch_none hsome
  have hrefs := h.refs key
  have hother : ∀ {other}, other ≠ key → watchers (setWatch watched c key none) other =
      watchers watched other := fun hkey => watchers_setWatch_of_ne _ _ _ hkey
  -- What is still watched was watched before.
  have hold : ∀ {client other version}, setWatch watched c key none client other = some version →
      watched client other = some version := by
    intro client other version hwatched
    rw [setWatch_apply] at hwatched
    split_ifs at hwatched
    exact hwatched
  cases hlookup : t.watchRefs.lookup key with
  | none =>
    rw [hlookup, getD_none] at hrefs
    omega
  | some refs =>
    rw [hlookup, getD_some] at hrefs
    simp only [WatchTables.unwatchKey, hlookup]
    split_ifs with hlast
    · have hnobody : watchers (setWatch watched c key none) key = 0 := by omega
      have hfree := watchers_eq_zero_iff.mp hnobody
      have hversion : ∀ {other}, other ≠ key →
          ((t.keyVersions.erase key).lookup other).getD 0 = t.keyVersion other := by
        intro other hkey
        rw [lookup_erase_ne hkey]
        rfl
      exact
        { refs := by
            intro other
            by_cases hkey : other = key
            · subst hkey
              simp [hnobody]
            · rw [hother hkey, ← h.refs other]
              simp [lookup_erase_ne hkey]
          refs_ne_zero := by
            intro other
            by_cases hkey : other = key
            · subst hkey
              simp
            · simpa [lookup_erase_ne hkey] using h.refs_ne_zero other
          count := by
            change t.watchedKeys - 1 = _
            rw [h.count, ← HashMap.length_keys_erase_of_lookup_eq_some hlookup,
              Nat.add_sub_cancel]
          stamps_le := h.stamps_le
          next := h.next
          version := by
            intro other
            by_cases hkey : other = key
            · subst hkey
              exact ⟨0, Nat.zero_le _, by simp [keyVersion]⟩
            · obtain ⟨current, hcurrent, heq⟩ := h.version other
              exact ⟨current, hcurrent, (hversion hkey).trans heq⟩
          noted := by
            intro client other version hwatched
            have hkey : other ≠ key := by
              rintro rfl
              simp [hfree client] at hwatched
            obtain ⟨hsince, noted, current, hle, hcurrent, hnoted, heq, hmodified⟩ :=
              h.noted client other version (hold hwatched)
            exact ⟨hsince, noted, current, hle, hcurrent, hnoted,
              (hversion hkey).trans heq, hmodified⟩ }
    · exact
        { refs := by
            intro other
            by_cases hkey : other = key
            · subst hkey
              simp only [lookup_insert, getD_some]
              omega
            · rw [hother hkey, ← h.refs other]
              simp [lookup_insert_ne hkey]
          refs_ne_zero := by
            intro other
            by_cases hkey : other = key
            · subst hkey
              simpa using hlast
            · simpa [lookup_insert_ne hkey] using h.refs_ne_zero other
          count := by
            rw [HashMap.length_keys_insert_of_lookup_eq_some _ hlookup]
            exact h.count
          stamps_le := h.stamps_le
          next := h.next
          version := h.version
          noted := by
            intro client other version hwatched
            exact h.noted client other version (hold hwatched) }

end tables

lemma foldl_unwatchKey {c : Fin n} (keys : List DbKey) (hnodup : keys.Nodup)
    (h : t.Exact watched since stamps) (hsome : ∀ key ∈ keys, (watched c key).isSome) :
    (keys.foldl WatchTables.unwatchKey t).Exact
      (keys.foldl (fun watched key => setWatch watched c key none) watched) since stamps := by
  induction keys generalizing t watched with
  | nil => exact h
  | cons key keys ih =>
    obtain ⟨hfresh, hnodup⟩ := nodup_cons.mp hnodup
    refine ih hnodup (h.unwatchKey (hsome key (mem_cons_self ..))) ?_
    intro other hmem
    have hne : other ≠ key := by
      rintro rfl
      exact hfresh hmem
    change (setWatch watched c key none c other).isSome
    rw [setWatch_apply, if_neg fun h => hne h.2]
    exact hsome other (mem_cons_of_mem _ hmem)

end Exact

end exact

end WatchTables

end Ratatosk.Keyspace
