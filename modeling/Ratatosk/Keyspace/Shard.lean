import Ratatosk.Keyspace.Stored

/-!
# A database with its indexes

`DbShard`, `DbWriteGuard` and `DataState` of `ratatosk-engine/src/keyspace.rs`: the stored values of
each database, the index of those that expire, and the counter of estimated memory; with
`active_expire_cycle` of `expiry.rs` and `estimate_object_memory` of `eviction.rs`.

* `DbShard.insert`, `remove`, `rename`, `takeWithEstimate`, `insertWithEstimate`, `mutateString`,
  `setKeyExpiry`, `purgeExpiredKey`, … — the operations that keep index and counter up to date.
* `GuardedOp.apply` — one operation on the databases; `Indexed.…` — one lemma for each says that it
  keeps the invariant; `GuardedOp.run` — any sequence of them.
* `keyspace_indexed` — **after any operations every database is indexed**, as long as no sum of
  estimates outgrows the counter.

The counter is a `usize`: adding wraps around, subtracting stops at zero. The tables behind `WATCH`
are in `Keyspace.Watch`; the operations here do not read them.
-/

namespace Ratatosk.Keyspace

open Lib Option AList Function

/-! ## The memory estimate -/

/-- `usize::saturating_add` -/
def satAdd (a b : Nat) : Nat := min (a + b) (usizeLimit - 1)

/-- `usize::saturating_mul` -/
def satMul (a b : Nat) : Nat := min (a * b) (usizeLimit - 1)

/-- What the groups of a stream take. `size_of::<StreamId>()` is 16. -/
def groupsMemory (groups : HashMap Bytes StreamGroup) : Nat :=
  groups.entries.foldl (fun total g =>
    let consumers := g.2.consumers.entries.foldl (fun total c =>
      satAdd (satAdd (satAdd total 96) c.1.length) (satMul c.2.pending.keys.length 16)) 0
    let pending := g.2.pending.entries.foldl (fun total p =>
      satAdd (satAdd (satAdd total 64) 16) p.2.consumer.length) 0
    satAdd (satAdd (satAdd (satAdd total 256) g.1.length) consumers) pending) 0

/-- What the data of a value takes. -/
def ValueData.memory : ValueData → Nat
  | .string s => s.length
  | .stringInt _ => 8
  | .list l => l.length * 24 + (l.map List.length).sum
  | .hash h => (h.entries.map fun f => f.1.length + f.2.value.length + 64).sum
  | .set s => (s.keys.map fun m => m.length + 48).sum
  | .setInt s => s.length * 8
  | .sortedSet z =>
    satAdd (satMul z.byMember.keys.length 128)
      (z.byMember.keys.foldl (fun total member => satAdd total member.length) 0)
  | .stream entries groups _ =>
    (entries.map fun e => 32 + (e.fields.map fun f => f.1.length + f.2.length + 48).sum).sum +
      groupsMemory groups

/-- `size_of::<StoredValue>()` is 24, the overhead of a hash table entry is taken as 64.
Source: `eviction.rs` `estimate_object_memory` -/
def estimateObjectMemory (key : Bytes) (value : StoredValue) : Nat :=
  64 + key.length + value.data.memory + 24

/-! ## Operations on one database -/

/-- Source: `keyspace.rs` `DbShard`; the memory counter is in `DataState`. -/
structure DbShard where
  data : HashMap Bytes StoredValue
  expires : HashMap Bytes Int64
  memory : Nat

namespace DbShard

/-- Source: `keyspace.rs` `DbShard` `Default` -/
def empty : DbShard := ⟨∅, ∅, 0⟩

/-- Source: `keyspace.rs` `DataState::add_memory` -/
def addMemory (s : DbShard) (bytes : Nat) : DbShard :=
  { s with memory := (s.memory + bytes) % usizeLimit }

/-- Source: `keyspace.rs` `DataState::sub_memory` -/
def subMemory (s : DbShard) (bytes : Nat) : DbShard := { s with memory := s.memory - bytes }

/-- The counter, moved from one estimate to another. -/
def moveMemory (s : DbShard) (old new : Nat) : DbShard :=
  if old ≤ new then s.addMemory (new - old) else s.subMemory (old - new)

/-- Source: `keyspace.rs` `DbShard::sync_expires` -/
def syncExpires (s : DbShard) (key : Bytes) (expireAtMs : Option Int64) : DbShard :=
  { s with
    expires := match expireAtMs.filter fun ms => decide (0 < ms) with
      | some ms => s.expires.insert key ms
      | none => s.expires.erase key }

/-- Source: `keyspace.rs` `DbWriteGuard::insert` -/
def insert (s : DbShard) (key : Bytes) (value : StoredValue) : DbShard × Option StoredValue :=
  let newMem := estimateObjectMemory key value
  let old := s.data.lookup key
  let s := s.syncExpires key value.expireAtMs
  let s := { s with data := s.data.insert key value }
  match old with
  | some oldValue => (s.moveMemory (estimateObjectMemory key oldValue) newMem, old)
  | none => (s.addMemory newMem, old)

/-- Source: `keyspace.rs` `DbWriteGuard::take_with_estimate` -/
def takeWithEstimate (s : DbShard) (key : Bytes) : DbShard × Option (StoredValue × Nat) :=
  match s.data.lookup key with
  | none => (s, none)
  | some value =>
    let freed := estimateObjectMemory key value
    let s := { s with data := s.data.erase key, expires := s.expires.erase key }
    (s.subMemory freed, some (value, freed))

/-- Source: `keyspace.rs` `DbWriteGuard::remove` -/
def remove (s : DbShard) (key : Bytes) : DbShard × Option StoredValue :=
  ((s.takeWithEstimate key).1, s.data.lookup key)

/-- Source: `keyspace.rs` `DbWriteGuard::insert_with_estimate` -/
def insertWithEstimate (s : DbShard) (key : Bytes) (value : StoredValue) (estimate : Nat) :
    DbShard :=
  let s := s.syncExpires key value.expireAtMs
  let s := { s with data := s.data.insert key value }
  s.addMemory estimate

/-- Source: `keyspace.rs` `DbWriteGuard::rename` -/
def rename (s : DbShard) (source target : Bytes) : DbShard × Bool :=
  match s.data.lookup source with
  | none => (s, false)
  | some value =>
    let s := { s with data := s.data.erase source, expires := s.expires.erase source }
    let s := (s.remove target).1
    let s := s.moveMemory source.length target.length
    let s := s.syncExpires target value.expireAtMs
    ({ s with data := s.data.insert target value }, true)

/-- The bytes of a string value. -/
def stringBytes : ValueData → Option Bytes
  | .string bytes => some bytes
  | .stringInt n => some (decimalInt n.toInt)
  | _ => none

/-- The edit answers with a result and with the new bytes, or `none` if it leaves them as they are.
Source: `keyspace.rs` `DbWriteGuard::mutate_string` -/
def mutateString {ρ : Type} (s : DbShard) (key : Bytes) (f : Bytes → ρ × Option Bytes) :
    DbShard × Option ρ :=
  match s.data.lookup key with
  | none =>
    match f [] with
    | (result, none) => (s, some result)
    | (result, some bytes) => ((s.insert key (.string bytes none)).1, some result)
  | some entry =>
    match stringBytes entry.data with
    | none => (s, none)
    | some bytes =>
      match f bytes with
      | (result, none) => (s, some result)
      | (result, some bytes) =>
        let data : ValueData := match parseIntString bytes with
          | some n => .stringInt n
          | none => .string bytes
        let entry' := { entry with data := data }
        let s' := { s with data := s.data.insert key entry' }
        (s'.moveMemory (estimateObjectMemory key entry) (estimateObjectMemory key entry'),
          some result)

/-- The string at a key, as it is read.
Source: `keyspace.rs` `StoredValue::as_string_bytes` -/
def storedString (s : DbShard) (key : Bytes) : Option Bytes :=
  (s.data.lookup key).bind fun entry => stringBytes entry.data

/-- Source: `keyspace.rs` `DbWriteGuard::set_key_expiry` -/
def setKeyExpiry (s : DbShard) (key : Bytes) (expireAtMs : Option Int64) : DbShard × Bool :=
  match s.data.lookup key with
  | none => (s, false)
  | some entry =>
    let s := { s with data := s.data.insert key { entry with rawExpireAtMs := expireAtMs.getD 0 } }
    (s.syncExpires key expireAtMs, true)

/-- The value has expired. -/
def hasExpired (value : StoredValue) (now : Int64) : Bool :=
  value.expireAtMs.any fun ms => ms ≤ now

/-- Source: `keyspace.rs` `DbWriteGuard::purge_expired_key` -/
def purgeExpiredKey (s : DbShard) (key : Bytes) (now : Int64) : DbShard × Bool :=
  if (s.data.lookup key).any fun value => hasExpired value now then ((s.remove key).1, true)
  else (s, false)

/-- Source: `keyspace.rs` `DbWriteGuard::purge_expired_keys` -/
def purgeExpiredKeys (s : DbShard) (now : Int64) : DbShard :=
  let expired := (s.data.entries.filter fun e => hasExpired e.2 now).map Sigma.fst
  expired.foldl (fun s key => (s.remove key).1) s

/-- The check of one sampled key, which takes the lock for itself.
Source: `expiry.rs` `active_expire_cycle` -/
def activeExpireKey (now : Int64) (s : DbShard) (key : Bytes) : DbShard :=
  if (s.data.lookup key).any fun value => hasExpired value now then (s.remove key).1
  else if (s.data.lookup key).isNone then { s with expires := s.expires.erase key }
  else s

/-- Source: `keyspace.rs` `ServerState::clear_db`, `ServerState::lazy_free_flush_db` -/
def clear : DbShard := empty

/-- Source: `keyspace.rs` `ServerState::lazy_free_del` -/
def lazyFreeDel (s : DbShard) (key : Bytes) : DbShard × Bool :=
  match s.takeWithEstimate key with
  | (s, none) => (s, false)
  | (s, some _) => (s, true)

/-- What is stored in a loaded database, indexed anew.
Source: `keyspace.rs` `DataState::load_from_snapshot` -/
def load (data : HashMap Bytes StoredValue) : DbShard where
  data := data
  expires := HashMap.collect (HashMap.filterMapValues StoredValue.expireAtMs data.entries)
  memory := (data.entries.map fun e => estimateObjectMemory e.1 e.2).sum

end DbShard

/-! ## Operations on the databases -/

/-- Source: `keyspace.rs` `DataState` -/
abbrev Shards := Fin dbCount → DbShard

namespace Shards

/-- A key is taken from one database and put into another that does not have it.
Source: `cmd_key.rs` `cmd_move` -/
def moveKey (dbs : Shards) (source target : Fin dbCount) (key : Bytes) : Shards :=
  if ((dbs target).data.lookup key).isSome then dbs
  else match (dbs source).takeWithEstimate key with
    | (_, none) => dbs
    | (taken, some (value, estimate)) =>
      let dbs := Function.update dbs source taken
      Function.update dbs target ((dbs target).insertWithEstimate key value estimate)

/-- Source: `keyspace.rs` `ServerState::swap_dbs`; the databases are distinct. -/
def swapDbs (dbs : Shards) (left right : Fin dbCount) : Shards :=
  fun i => dbs (Equiv.swap left right i)

/-- The random sample of each database is given.
Source: `expiry.rs` `active_expire_cycle` -/
def activeExpireCycle (dbs : Shards) (samples : Fin dbCount → List Bytes) (now : Int64) : Shards :=
  fun i => (samples i).foldl (DbShard.activeExpireKey now) (dbs i)

/-- Source: `keyspace.rs` `DataState::load_from_snapshot` -/
def loadFromSnapshot (dbs : Shards) (snapshot : DbSnapshot) : Shards :=
  fun i => (snapshot[i.val]?.map DbShard.load).getD (dbs i)

end Shards

/-- An operation that keeps the index and the counter up to date. -/
inductive GuardedOp where
  | insert (index : Fin dbCount) (key : Bytes) (value : StoredValue)
  | remove (index : Fin dbCount) (key : Bytes)
  | rename (index : Fin dbCount) (source target : Bytes)
  | moveKey (source target : Fin dbCount) (key : Bytes)
  | mutateString (index : Fin dbCount) (key : Bytes) (edit : Bytes → Option Bytes)
  | setKeyExpiry (index : Fin dbCount) (key : Bytes) (expireAtMs : Option Int64)
  | purgeExpiredKey (index : Fin dbCount) (key : Bytes) (now : Int64)
  | purgeExpiredKeys (index : Fin dbCount) (now : Int64)
  | activeExpireCycle (samples : Fin dbCount → List Bytes) (now : Int64)
  | lazyFreeDel (index : Fin dbCount) (key : Bytes)
  | clearDb (index : Fin dbCount)
  | clearAllDbs
  | swapDbs (left right : Fin dbCount)
  | loadFromSnapshot (snapshot : DbSnapshot)

/-- The databases after an operation. -/
def GuardedOp.apply (dbs : Shards) : GuardedOp → Shards
  | .insert i key value => Function.update dbs i ((dbs i).insert key value).1
  | .remove i key => Function.update dbs i ((dbs i).remove key).1
  | .rename i source target => Function.update dbs i ((dbs i).rename source target).1
  | .moveKey source target key => dbs.moveKey source target key
  | .mutateString i key edit =>
    Function.update dbs i ((dbs i).mutateString key fun bytes => ((), edit bytes)).1
  | .setKeyExpiry i key expireAtMs => Function.update dbs i ((dbs i).setKeyExpiry key expireAtMs).1
  | .purgeExpiredKey i key now => Function.update dbs i ((dbs i).purgeExpiredKey key now).1
  | .purgeExpiredKeys i now => Function.update dbs i ((dbs i).purgeExpiredKeys now)
  | .activeExpireCycle samples now => dbs.activeExpireCycle samples now
  | .lazyFreeDel i key => Function.update dbs i ((dbs i).lazyFreeDel key).1
  | .clearDb i => Function.update dbs i DbShard.clear
  | .clearAllDbs => fun _ => DbShard.clear
  | .swapDbs left right => dbs.swapDbs left right
  | .loadFromSnapshot snapshot => dbs.loadFromSnapshot snapshot

/-- The databases after some operations. -/
def GuardedOp.run (ops : List GuardedOp) (dbs : Shards) : Shards := ops.foldl GuardedOp.apply dbs

/-! ## Sums of estimates -/

/-- The sum of the estimates of what is stored. -/
def totalMemory (data : HashMap Bytes StoredValue) : Nat :=
  (data.entries.map fun e => estimateObjectMemory e.1 e.2).sum

section totalMemory

variable {data : HashMap Bytes StoredValue} {key : Bytes} {value : StoredValue}

lemma totalMemory_insert (data : HashMap Bytes StoredValue) (key : Bytes) (value : StoredValue) :
    totalMemory (data.insert key value) =
      estimateObjectMemory key value + totalMemory (data.erase key) := rfl

lemma totalMemory_of_lookup_eq_some (h : data.lookup key = some value) :
    totalMemory data = estimateObjectMemory key value + totalMemory (data.erase key) := by
  have hperm := (HashMap.entries_perm_cons_erase h).map fun e => estimateObjectMemory e.1 e.2
  exact hperm.sum_eq

lemma totalMemory_erase_of_lookup_eq_none (h : data.lookup key = none) :
    totalMemory (data.erase key) = totalMemory data := by
  rw [totalMemory, HashMap.entries_erase_of_lookup_eq_none h, totalMemory]

end totalMemory

/-! ## The invariant -/

namespace DbShard

/-- The index has the expiry of every value that has one, and the counter is the sum of the
estimates and of that of a value on its way. -/
structure Tracks (s : DbShard) (onItsWay : Nat) : Prop where
  expires : ∀ key, s.expires.lookup key = (s.data.lookup key).bind StoredValue.expireAtMs
  memory : s.memory = onItsWay + totalMemory s.data

/-- The index and the counter are right. -/
def Indexed (s : DbShard) : Prop := s.Tracks 0

section tracks

variable {s : DbShard} {onItsWay : Nat} {key : Bytes} {value : StoredValue}

lemma indexed_empty : empty.Indexed where
  expires := fun _ => rfl
  memory := rfl

lemma filter_expireAtMs (value : StoredValue) :
    value.expireAtMs.filter (fun ms => decide (0 < ms)) = value.expireAtMs := by
  rw [StoredValue.expireAtMs]
  split_ifs with hpos
  · exact filter_some_pos (decide_eq_true hpos)
  · rfl

lemma expires_syncExpires (s : DbShard) (key : Bytes) (expireAtMs : Option Int64) (k : Bytes) :
    (s.syncExpires key expireAtMs).expires.lookup k =
      if k = key then expireAtMs.filter (fun ms => decide (0 < ms)) else s.expires.lookup k := by
  rw [syncExpires]
  cases expireAtMs.filter fun ms => decide (0 < ms) with
  | none =>
    dsimp only
    split_ifs with hk
    · rw [hk, AList.lookup_erase]
    · exact AList.lookup_erase_ne hk
  | some ms =>
    dsimp only
    split_ifs with hk
    · rw [hk, lookup_insert]
    · exact lookup_insert_ne hk

/-- A key is taken out of both tables. -/
lemma Tracks.lookup_erase (h : s.Tracks onItsWay) (key k : Bytes) :
    (s.expires.erase key).lookup k =
      ((s.data.erase key).lookup k).bind StoredValue.expireAtMs := by
  by_cases hk : k = key
  · rw [hk, AList.lookup_erase, AList.lookup_erase]
    rfl
  · rw [AList.lookup_erase_ne hk, AList.lookup_erase_ne hk]
    exact h.expires k

lemma Indexed.memory_eq (h : s.Indexed) (hvalue : s.data.lookup key = some value) :
    s.memory = estimateObjectMemory key value + totalMemory (s.data.erase key) := by
  rw [h.memory, Nat.zero_add, totalMemory_of_lookup_eq_some hvalue]

/-- A value is put at a key: the index has its expiry there, and the counter its estimate. -/
lemma tracks_put {s' : DbShard} (hkept : ∀ k, k ≠ key →
      s.expires.lookup k = (s.data.lookup k).bind StoredValue.expireAtMs)
    (hdata : s'.data = s.data.insert key value)
    (hexpires : ∀ k, s'.expires.lookup k =
      if k = key then value.expireAtMs else s.expires.lookup k)
    (hmemory : s'.memory = onItsWay + totalMemory s'.data) : s'.Tracks onItsWay where
  expires := by
    intro k
    rw [hexpires k, hdata]
    split_ifs with hk
    · rw [hk, lookup_insert]
      rfl
    · rw [lookup_insert_ne hk]
      exact hkept k hk
  memory := hmemory

lemma memory_moveMemory {old new : Nat} (h : s.memory = old + onItsWay)
    (hfits : new + onItsWay < usizeLimit) : (s.moveMemory old new).memory = new + onItsWay := by
  rw [moveMemory]
  split_ifs with hle
  · rw [addMemory, h]
    dsimp only
    rw [Nat.mod_eq_of_lt]
    · omega
    · omega
  · rw [subMemory, h]
    dsimp only
    omega

lemma data_moveMemory (old new : Nat) : (s.moveMemory old new).data = s.data := by
  rw [moveMemory]
  split_ifs
  · rfl
  · rfl

lemma expires_moveMemory (old new : Nat) : (s.moveMemory old new).expires = s.expires := by
  rw [moveMemory]
  split_ifs
  · rfl
  · rfl

lemma memory_addMemory {bytes : Nat} (hfits : bytes + s.memory < usizeLimit) :
    (s.addMemory bytes).memory = bytes + s.memory := by
  rw [addMemory, Nat.add_comm bytes]
  rw [Nat.add_comm bytes] at hfits
  exact Nat.mod_eq_of_lt hfits

/-! ### One lemma for each operation -/

lemma Indexed.insertWithEstimate (h : s.Indexed) (habsent : s.data.lookup key = none)
    (hfits : totalMemory (s.data.insert key value) < usizeLimit) :
    (s.insertWithEstimate key value (estimateObjectMemory key value)).Indexed := by
  rw [totalMemory_insert, totalMemory_erase_of_lookup_eq_none habsent] at hfits
  have hmemory := h.memory
  rw [Nat.zero_add] at hmemory
  have hsync := fun k => expires_syncExpires s key value.expireAtMs k
  simp only [filter_expireAtMs] at hsync
  refine tracks_put (fun k _ => h.expires k) rfl hsync ?_
  refine (memory_addMemory ?_).trans ?_
  · change _ + s.memory < _
    rw [hmemory]
    exact hfits
  · change _ + s.memory = 0 + totalMemory (s.data.insert key value)
    rw [hmemory, totalMemory_insert, totalMemory_erase_of_lookup_eq_none habsent, Nat.zero_add]

/-- Inserting keeps the indexes in step. -/
lemma Indexed.insert (h : s.Indexed) (key : Bytes) (value : StoredValue)
    (hfits : totalMemory (s.data.insert key value) < usizeLimit) :
    (s.insert key value).1.Indexed := by
  rw [DbShard.insert]
  cases hold : s.data.lookup key with
  | none => exact h.insertWithEstimate hold hfits
  | some oldValue =>
    rw [totalMemory_insert] at hfits
    refine tracks_put (fun k _ => h.expires k) (data_moveMemory _ _) ?_ ?_
    · intro k
      rw [expires_moveMemory]
      refine (expires_syncExpires s key value.expireAtMs k).trans ?_
      rw [filter_expireAtMs]
    · rw [data_moveMemory, Nat.zero_add]
      exact memory_moveMemory (h.memory_eq hold) hfits

lemma data_insert (s : DbShard) (key : Bytes) (value : StoredValue) :
    (s.insert key value).1.data = s.data.insert key value := by
  rw [DbShard.insert]
  split
  · exact data_moveMemory _ _
  · rfl

/-- Taking a key's value away, whatever else is on its way. -/
lemma Tracks.takeWithEstimate (h : s.Tracks onItsWay) (key : Bytes) :
    (s.takeWithEstimate key).1.Tracks onItsWay ∧
      (s.takeWithEstimate key).1.data.lookup key = none ∧
      totalMemory (s.takeWithEstimate key).1.data ≤ totalMemory s.data := by
  rw [DbShard.takeWithEstimate]
  cases hvalue : s.data.lookup key with
  | none => exact ⟨h, hvalue, le_rfl⟩
  | some value =>
    have hmemory := h.memory
    have htotal := totalMemory_of_lookup_eq_some hvalue
    refine ⟨⟨h.lookup_erase key, ?_⟩, AList.lookup_erase key s.data, ?_⟩
    · change s.memory - estimateObjectMemory key value = onItsWay + totalMemory (s.data.erase key)
      omega
    · change totalMemory (s.data.erase key) ≤ _
      omega

/-- So does removing. -/
lemma Indexed.remove (h : s.Indexed) (key : Bytes) : (s.remove key).1.Indexed :=
  (Tracks.takeWithEstimate h key).1

/-- So does renaming. -/
lemma Indexed.rename (h : s.Indexed) (source target : Bytes)
    (hfits : totalMemory (s.rename source target).1.data < usizeLimit) :
    (s.rename source target).1.Indexed := by
  rw [DbShard.rename] at hfits ⊢
  cases hvalue : s.data.lookup source with
  | none => exact h
  | some value =>
    rw [hvalue] at hfits
    dsimp only at hfits ⊢
    -- the value is on its way while the old value of the target is removed
    have htaken : Tracks { s with data := s.data.erase source, expires := s.expires.erase source }
        (estimateObjectMemory source value) := ⟨Tracks.lookup_erase h source, h.memory_eq hvalue⟩
    obtain ⟨hcleared, habsent, -⟩ := htaken.takeWithEstimate target
    rw [DbShard.remove] at hfits ⊢
    generalize (DbShard.takeWithEstimate _ target).1 = cleared at hcleared habsent hfits ⊢
    have hmemory := hcleared.memory
    have hdata : ((cleared.moveMemory source.length target.length).syncExpires target
        value.expireAtMs).data = cleared.data := data_moveMemory _ _
    refine tracks_put (fun k _ => hcleared.expires k) (congrArg (AList.insert target value) hdata) ?_ ?_
    · intro k
      change ((cleared.moveMemory source.length target.length).syncExpires target
        value.expireAtMs).expires.lookup k = _
      rw [expires_syncExpires, filter_expireAtMs, expires_moveMemory]
    · change (cleared.moveMemory source.length target.length).memory =
        0 + totalMemory (AList.insert target value _)
      rw [hdata] at hfits ⊢
      rw [totalMemory_insert, totalMemory_erase_of_lookup_eq_none habsent,
        estimateObjectMemory] at hfits ⊢
      rw [estimateObjectMemory] at hmemory
      have hmoved : (cleared.moveMemory source.length target.length).memory =
          target.length + (64 + value.data.memory + 24 + totalMemory cleared.data) :=
        memory_moveMemory (by omega) (by omega)
      omega

/-- So does editing a string. -/
lemma Indexed.mutateString {ρ : Type} (h : s.Indexed) (key : Bytes) (f : Bytes → ρ × Option Bytes)
    (hfits : totalMemory (s.mutateString key f).1.data < usizeLimit) :
    (s.mutateString key f).1.Indexed := by
  rw [DbShard.mutateString] at hfits ⊢
  cases hentry : s.data.lookup key with
  | none =>
    rw [hentry] at hfits
    dsimp only at hfits ⊢
    generalize f [] = out at hfits ⊢
    obtain ⟨result, _ | bytes⟩ := out
    · exact h
    · dsimp only at hfits ⊢
      rw [data_insert] at hfits
      exact h.insert key _ hfits
  | some entry =>
    rw [hentry] at hfits
    dsimp only at hfits ⊢
    cases hstring : stringBytes entry.data with
    | none => exact h
    | some old =>
      rw [hstring] at hfits
      dsimp only at hfits ⊢
      generalize f old = out at hfits ⊢
      obtain ⟨result, _ | bytes⟩ := out
      · exact h
      · dsimp only at hfits ⊢
        rw [data_moveMemory] at hfits
        generalize hedited : ({ entry with data := _ } : StoredValue) = entry' at hfits ⊢
        have hexpiry : entry'.expireAtMs = entry.expireAtMs := by
          rw [← hedited]
          rfl
        refine tracks_put (fun k _ => h.expires k) (data_moveMemory _ _) ?_ ?_
        · intro k
          rw [expires_moveMemory]
          split_ifs with hk
          · rw [hk, hexpiry]
            refine (h.expires key).trans ?_
            rw [hentry]
            rfl
          · rfl
        · rw [data_moveMemory, Nat.zero_add]
          exact memory_moveMemory (h.memory_eq hentry) hfits

lemma stringBytes_string (value : Bytes) (expireAtMs : Option Int64) :
    stringBytes (StoredValue.string value expireAtMs).data = some value := by
  rw [StoredValue.string]
  split
  · next n hn => exact congrArg some (decimalInt_of_parseIntString hn)
  · rfl

/-- **The integer encoding is lossless.** A string is read back as it was stored, and an edit leaves
what it makes of the stored string. A missing key is edited as the empty string, and a value that is
no string stays. -/
theorem storedString_eq {ρ : Type} (s : DbShard) (key value : Bytes) (expireAtMs : Option Int64)
    (f : Bytes → ρ × Option Bytes) :
    (s.insert key (.string value expireAtMs)).1.storedString key = some value ∧
      (s.mutateString key f).1.storedString key =
        match s.data.lookup key with
        | none => (f []).2
        | some entry => (stringBytes entry.data).map fun old => (f old).2.getD old := by
  have hinsert (value : Bytes) (expireAtMs : Option Int64) :
      (s.insert key (.string value expireAtMs)).1.storedString key = some value := by
    rw [storedString, data_insert, lookup_insert, bind_some, stringBytes_string]
  refine ⟨hinsert value expireAtMs, ?_⟩
  rw [mutateString]
  cases hentry : s.data.lookup key with
  | none =>
    dsimp only
    generalize f [] = out
    obtain ⟨result, _ | bytes⟩ := out
    · simp [storedString, hentry]
    · exact hinsert bytes none
  | some entry =>
    dsimp only
    cases hstring : stringBytes entry.data with
    | none => simp [storedString, hentry, hstring]
    | some old =>
      dsimp only [map_some]
      generalize f old = out
      obtain ⟨result, _ | bytes⟩ := out
      · simp [storedString, hentry, hstring]
      · dsimp only
        rw [storedString, data_moveMemory, lookup_insert, bind_some]
        refine (congrArg stringBytes ?_).trans (stringBytes_string bytes none)
        rw [StoredValue.string]
        cases parseIntString bytes <;> rfl

/-- So does a new expiry. -/
lemma Indexed.setKeyExpiry (h : s.Indexed) (key : Bytes) (expireAtMs : Option Int64) :
    (s.setKeyExpiry key expireAtMs).1.Indexed := by
  rw [DbShard.setKeyExpiry]
  cases hentry : s.data.lookup key with
  | none => exact h
  | some entry =>
    dsimp only
    have hexpiry : StoredValue.expireAtMs { entry with rawExpireAtMs := expireAtMs.getD 0 } =
        expireAtMs.filter fun ms => decide (0 < ms) := by
      rw [StoredValue.expireAtMs, Option.filter.eq_def]
      cases expireAtMs with
      | none => rfl
      | some ms => simp
    refine tracks_put (fun k _ => h.expires k) rfl ?_ ?_
    · intro k
      rw [hexpiry]
      exact expires_syncExpires _ key expireAtMs k
    · exact (h.memory_eq hentry).trans (Nat.zero_add _).symm

lemma Indexed.purgeExpiredKey (h : s.Indexed) (key : Bytes) (now : Int64) :
    (s.purgeExpiredKey key now).1.Indexed := by
  rw [DbShard.purgeExpiredKey]
  split_ifs
  · exact h.remove key
  · exact h

/-- So does dropping what has expired. -/
lemma Indexed.purgeExpiredKeys (h : s.Indexed) (now : Int64) : (s.purgeExpiredKeys now).Indexed := by
  rw [DbShard.purgeExpiredKeys]
  exact List.foldlRecOn (motive := Indexed) _ _ h fun _ hs key _ => hs.remove key

/-- A key that is not stored has no entry in the index, so there is nothing to heal. -/
lemma Indexed.activeExpireKey (h : s.Indexed) (now : Int64) (key : Bytes) :
    (s.activeExpireKey now key).Indexed := by
  rw [DbShard.activeExpireKey]
  split_ifs with hexpired habsent
  · exact h.remove key
  · rw [isNone_iff_eq_none] at habsent
    refine ⟨fun k => ?_, h.memory⟩
    change (s.expires.erase key).lookup k = _
    by_cases hk : k = key
    · rw [hk, AList.lookup_erase, habsent]
      rfl
    · rw [AList.lookup_erase_ne hk]
      exact h.expires k
  · exact h

lemma Indexed.lazyFreeDel (h : s.Indexed) (key : Bytes) : (s.lazyFreeDel key).1.Indexed := by
  have htaken := (Tracks.takeWithEstimate h key).1
  rw [DbShard.lazyFreeDel]
  split
  · rename_i heq
    rw [heq] at htaken
    exact htaken
  · rename_i heq
    rw [heq] at htaken
    exact htaken

/-- A loaded shard has them in step. -/
lemma indexed_load (data : HashMap Bytes StoredValue) : (load data).Indexed where
  expires := HashMap.lookup_collect_filterMapValues StoredValue.expireAtMs data
  memory := (Nat.zero_add _).symm

end tracks

end DbShard

/-! ## Runs -/

section runs

variable {dbs : Shards}

lemma indexed_update (h : ∀ i, (dbs i).Indexed) {index : Fin dbCount} {s : DbShard}
    (hs : s.Indexed) (i : Fin dbCount) : (Function.update dbs index s i).Indexed :=
  (forall_update_iff dbs fun _ s => s.Indexed).mpr ⟨hs, fun i _ => h i⟩ i

lemma indexed_moveKey (h : ∀ i, (dbs i).Indexed) (source target : Fin dbCount) (key : Bytes)
    (hfits : totalMemory (dbs.moveKey source target key target).data < usizeLimit) (i : Fin dbCount) :
    (dbs.moveKey source target key i).Indexed := by
  rw [Shards.moveKey] at hfits ⊢
  split_ifs at hfits ⊢ with hpresent
  · exact h i
  · have htaken := (DbShard.Tracks.takeWithEstimate (h source) key).1
    cases hvalue : (dbs source).data.lookup key with
    | none =>
      rw [DbShard.takeWithEstimate, hvalue]
      exact h i
    | some value =>
      rw [DbShard.takeWithEstimate, hvalue] at hfits htaken ⊢
      dsimp only at hfits htaken ⊢
      have hne : target ≠ source := by
        rintro rfl
        rw [hvalue] at hpresent
        exact hpresent rfl
      rw [update_self, update_of_ne hne] at hfits
      refine indexed_update (indexed_update h htaken) ?_ i
      rw [update_of_ne hne]
      exact (h target).insertWithEstimate (not_isSome_iff_eq_none.mp hpresent) hfits

/-- **One operation keeps every database indexed**, if what is stored then still fits. -/
lemma indexed_apply (h : ∀ i, (dbs i).Indexed) (op : GuardedOp)
    (hfits : ∀ i, totalMemory (op.apply dbs i).data < usizeLimit) (i : Fin dbCount) :
    (op.apply dbs i).Indexed := by
  cases op with
  | insert index key value =>
    have hindex := hfits index
    rw [GuardedOp.apply, update_self, DbShard.data_insert] at hindex
    exact indexed_update h ((h index).insert key value hindex) i
  | remove index key => exact indexed_update h ((h index).remove key) i
  | rename index source target =>
    have hindex := hfits index
    rw [GuardedOp.apply, update_self] at hindex
    exact indexed_update h ((h index).rename source target hindex) i
  | moveKey source target key => exact indexed_moveKey h source target key (hfits target) i
  | mutateString index key edit =>
    have hindex := hfits index
    rw [GuardedOp.apply, update_self] at hindex
    exact indexed_update h ((h index).mutateString key _ hindex) i
  | setKeyExpiry index key expireAtMs =>
    exact indexed_update h ((h index).setKeyExpiry key expireAtMs) i
  | purgeExpiredKey index key now => exact indexed_update h ((h index).purgeExpiredKey key now) i
  | purgeExpiredKeys index now => exact indexed_update h ((h index).purgeExpiredKeys now) i
  | activeExpireCycle samples now =>
    exact List.foldlRecOn (motive := DbShard.Indexed) _ _ (h i) fun _ hs key _ =>
      hs.activeExpireKey now key
  | lazyFreeDel index key => exact indexed_update h ((h index).lazyFreeDel key) i
  | clearDb index => exact indexed_update h DbShard.indexed_empty i
  | clearAllDbs => exact DbShard.indexed_empty
  | swapDbs left right => exact h _
  | loadFromSnapshot snapshot =>
    rw [GuardedOp.apply, Shards.loadFromSnapshot]
    cases snapshot[i.val]? with
    | none => exact h i
    | some data => exact DbShard.indexed_load data

/-- **Any operations do.** -/
lemma indexed_run (h : ∀ i, (dbs i).Indexed) (ops : List GuardedOp)
    (hfits : ∀ n i, totalMemory (GuardedOp.run (ops.take n) dbs i).data < usizeLimit)
    (i : Fin dbCount) : (GuardedOp.run ops dbs i).Indexed := by
  induction ops generalizing dbs with
  | nil => exact h i
  | cons op ops ih =>
    have hop := indexed_apply h op (hfits 1)
    exact ih hop fun n => hfits (n + 1)

end runs

/-- **The keyspace keeps its index and its counter.** Start from empty databases and apply any
guarded operations, such that the estimates of what a database stores never sum up to more than a
`usize` holds. Then in every database the index maps a key to a time exactly if the key's value
expires at that time, and the counter is the sum of the estimates. -/
theorem keyspace_indexed (ops : List GuardedOp) (index : Fin dbCount)
    (hfits : ∀ n i, totalMemory (GuardedOp.run (ops.take n) (fun _ => .empty) i).data <
      usizeLimit) :
    let s := GuardedOp.run ops (fun _ => .empty) index
    (∀ key t, s.expires.lookup key = some t ↔
      ∃ value, s.data.lookup key = some value ∧ value.expireAtMs = some t) ∧
    s.memory = totalMemory s.data := by
  intro s
  have h : s.Indexed := indexed_run (fun _ => DbShard.indexed_empty) ops hfits index
  refine ⟨fun key t => ?_, h.memory.trans (Nat.zero_add _)⟩
  rw [h.expires key, bind_eq_some_iff]

/-- A value that expires is stored and renamed over another. -/
def renamedOverAnother : List GuardedOp :=
  [.insert ⟨0, dbCount_pos⟩ (ascii "a") (.string (ascii "text") (some 7)),
    .insert ⟨0, dbCount_pos⟩ (ascii "long") (.string (ascii "12") none),
    .rename ⟨0, dbCount_pos⟩ (ascii "a") (ascii "long")]

/-- The index follows the value, and the counter its new name. -/
theorem keyspace_indexed_renamed :
    let s := GuardedOp.run renamedOverAnother (fun _ => .empty) ⟨0, by decide⟩
    s.expires.lookup (ascii "long") = some 7 ∧ s.expires.lookup (ascii "a") = none ∧
      (∀ key t, s.expires.lookup key = some t ↔
        ∃ value, s.data.lookup key = some value ∧ value.expireAtMs = some t) ∧
      s.memory = totalMemory s.data := by
  have hfits : ∀ n i, totalMemory (GuardedOp.run (renamedOverAnother.take n)
      (fun _ => .empty) i).data < usizeLimit := by
    intro n
    match n with
    | 0 => decide +kernel
    | 1 => decide +kernel
    | 2 => decide +kernel
    | n + 3 =>
      rw [List.take_of_length_le (Nat.le_add_left 3 n)]
      decide +kernel
  exact ⟨by decide +kernel, by decide +kernel,
    keyspace_indexed renamedOverAnother ⟨0, by decide⟩ hfits⟩

end Ratatosk.Keyspace
