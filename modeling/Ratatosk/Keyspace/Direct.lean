import Ratatosk.Keyspace.Shard
import Ratatosk.Keyspace.Watch

/-!
# The embedded string API

The string operations of `DirectDb` in `ratatosk-engine/src/direct.rs`, which work on the stored
values without a command.

* `DirectDb.set`, `get`, `getset`, `append`, `strlen` — the operations; each purges the key if it
  has expired and reports its change to the tables behind `WATCH`.
* `readsYourWrites_iff` — **they see what was written exactly if it is not stored as an integer**:
  `as_string` has no answer for the integer encoding, so a canonical decimal text reads as absent
  and is overwritten by `append`.
-/

namespace Ratatosk.Keyspace

open Lib

/-! ## The operations -/

/-- A database, with the tables behind `WATCH`.
Source: `direct.rs` `DirectDb` -/
structure DirectDb where
  index : Fin dbCount
  shard : DbShard
  tables : WatchTables

/-- Source: `keyspace.rs` `StoredValue::as_string` -/
def StoredValue.asString (value : StoredValue) : Option Bytes :=
  match value.data with
  | .string bytes => some bytes
  | _ => none

namespace DirectDb

/-- Source: `direct.rs` `DirectDb::touch_version` -/
def touchVersion (d : DirectDb) (key : Bytes) : DirectDb :=
  { d with tables := d.tables.touchKeyVersion (d.index, key) }

/-- A write always asks; a read asks only if the key has expired, with the same result.
Source: `direct.rs` `DirectDb::purge_if_expired_write`, `DirectDb::purge_if_expired_read` -/
def purgeIfExpired (d : DirectDb) (key : Bytes) (now : Int64) : DirectDb :=
  match d.shard.purgeExpiredKey key now with
  | (shard, true) =>
    { d with shard := shard, tables := d.tables.recordModification (d.index, key) }
  | (_, false) => d

/-- What is stored at a key. -/
def stored (d : DirectDb) (key : Bytes) : Option StoredValue := d.shard.data.lookup key

/-- Source: `direct.rs` `DirectDb::set` -/
def set (d : DirectDb) (key value : Bytes) (now : Int64) : DirectDb :=
  let d := d.purgeIfExpired key now
  touchVersion { d with shard := (d.shard.insert key (.string value none)).1 } key

/-- Source: `direct.rs` `DirectDb::get` -/
def get (d : DirectDb) (key : Bytes) (now : Int64) : DirectDb × Option Bytes :=
  let d := d.purgeIfExpired key now
  (d, (d.stored key).bind StoredValue.asString)

/-- Source: `direct.rs` `DirectDb::getset` -/
def getset (d : DirectDb) (key value : Bytes) (now : Int64) : DirectDb × Option Bytes :=
  let d := d.purgeIfExpired key now
  let (shard, old) := d.shard.insert key (.string value none)
  (touchVersion { d with shard := shard } key, old.bind StoredValue.asString)

/-- The bytes of an existing string are replaced in place, with neither the integer encoding nor
the memory counter seeing it.
Source: `direct.rs` `DirectDb::append` -/
def append (d : DirectDb) (key value : Bytes) (now : Int64) : DirectDb × Nat :=
  let d := d.purgeIfExpired key now
  match (d.stored key).bind fun entry => entry.asString.map fun existing => (entry, existing) with
  | some (entry, existing) =>
    let entry := { entry with data := .string (existing ++ value) }
    let shard := { d.shard with data := d.shard.data.insert key entry }
    (touchVersion { d with shard := shard } key, (existing ++ value).length)
  | none =>
    let shard := (d.shard.insert key (.string value none)).1
    (touchVersion { d with shard := shard } key, value.length)

/-- Source: `direct.rs` `DirectDb::strlen` -/
def strlen (d : DirectDb) (key : Bytes) (now : Int64) : DirectDb × Nat :=
  let d := d.purgeIfExpired key now
  (d, (((d.stored key).bind StoredValue.asString).map List.length).getD 0)

/-- After a `set`, the key reads as what was written, `getset` answers with it and `append` appends
to it. The calls come at any times. -/
structure ReadsYourWrites (d : DirectDb) (key value more : Bytes) (writtenAt readAt againAt : Int64) :
    Prop where
  get : ((d.set key value writtenAt).get key readAt).2 = some value
  strlen : ((d.set key value writtenAt).strlen key readAt).2 = value.length
  getset : ((d.set key value writtenAt).getset key more readAt).2 = some value
  appendLength : ((d.set key value writtenAt).append key more readAt).2 =
    value.length + more.length
  append : (((d.set key value writtenAt).append key more readAt).1.get key againAt).2 =
    some (value ++ more)

/-! ## What they answer -/

section answers

variable (d : DirectDb) (key value more : Bytes) (writtenAt readAt againAt : Int64)

lemma purgeIfExpired_of_timeless {d : DirectDb} {key : Bytes} {entry : StoredValue}
    (hstored : d.stored key = some entry) (htimeless : entry.expireAtMs = none) (now : Int64) :
    d.purgeIfExpired key now = d := by
  have hlive : d.shard.purgeExpiredKey key now = (d.shard, false) := by
    rw [DbShard.purgeExpiredKey]
    rw [stored] at hstored
    rw [hstored, Option.any_some, DbShard.hasExpired, htimeless, Option.any_none]
    rfl
  rw [purgeIfExpired, hlive]

lemma expireAtMs_string : (StoredValue.string value none).expireAtMs = none := by
  rw [StoredValue.string]
  split
  · rfl
  · rfl

/-- A string reads back unless it is stored as an integer. -/
lemma asString_string :
    (StoredValue.string value none).asString =
      if (parseIntString value).isNone then some value else none := by
  rw [StoredValue.string]
  cases parseIntString value with
  | none => rfl
  | some n => rfl

lemma stored_set : (d.set key value writtenAt).stored key = some (.string value none) := by
  change ((d.purgeIfExpired key writtenAt).shard.insert key _).1.data.lookup key = _
  rw [DbShard.data_insert]
  exact AList.lookup_insert _

lemma purgeIfExpired_set :
    (d.set key value writtenAt).purgeIfExpired key readAt = d.set key value writtenAt :=
  purgeIfExpired_of_timeless (stored_set d key value writtenAt) (expireAtMs_string value) readAt

lemma get_set :
    ((d.set key value writtenAt).get key readAt).2 =
      if (parseIntString value).isNone then some value else none := by
  rw [DirectDb.get, purgeIfExpired_set, stored_set, Option.bind_some, asString_string]

lemma strlen_set :
    ((d.set key value writtenAt).strlen key readAt).2 =
      if (parseIntString value).isNone then value.length else 0 := by
  rw [DirectDb.strlen, purgeIfExpired_set, stored_set, Option.bind_some, asString_string]
  split_ifs
  · rfl
  · rfl

lemma getset_set :
    ((d.set key value writtenAt).getset key more readAt).2 =
      if (parseIntString value).isNone then some value else none := by
  have hold : ((d.set key value writtenAt).shard.insert key (.string more none)).2 =
      (d.set key value writtenAt).stored key := by
    rw [DbShard.insert, stored]
    cases (d.set key value writtenAt).shard.data.lookup key with
    | none => rfl
    | some old => rfl
  rw [DirectDb.getset, purgeIfExpired_set]
  change (((d.set key value writtenAt).shard.insert key _).2).bind _ = _
  rw [hold, stored_set, Option.bind_some, asString_string]

/-- `append` appends to a text that is not stored as an integer. -/
lemma append_set_of_eq_none (h : parseIntString value = none) :
    ((d.set key value writtenAt).append key more readAt).2 = value.length + more.length ∧
      (((d.set key value writtenAt).append key more readAt).1.get key againAt).2 =
        some (value ++ more) := by
  have hread : (StoredValue.string value none).asString = some value := by
    rw [asString_string, h]
    rfl
  rw [DirectDb.append, purgeIfExpired_set, stored_set, Option.bind_some, hread]
  dsimp only [Option.map_some]
  refine ⟨List.length_append, ?_⟩
  -- the value that was replaced in place still has no expiry
  generalize hedited : ({ StoredValue.string value none with data := _ } : StoredValue) = entry
  have hstored : ∀ shard : DbShard, (touchVersion { d.set key value writtenAt with
      shard := { shard with data := shard.data.insert key entry } } key).stored key =
        some entry := fun shard => AList.lookup_insert _
  have htimeless : entry.expireAtMs = none := by
    rw [← hedited]
    exact expireAtMs_string value
  rw [DirectDb.get, purgeIfExpired_of_timeless (hstored _) htimeless, hstored, ← hedited]
  rfl

/-- **Read your writes, exactly if no integer was written.** -/
theorem readsYourWrites_iff :
    d.ReadsYourWrites key value more writtenAt readAt againAt ↔ parseIntString value = none := by
  constructor
  · intro h
    have hget := h.get
    rw [get_set] at hget
    split_ifs at hget with hnone
    exact Option.isNone_iff_eq_none.mp hnone
  · intro h
    obtain ⟨hlength, happend⟩ := append_set_of_eq_none d key value more writtenAt readAt againAt h
    refine ⟨?_, ?_, ?_, hlength, happend⟩
    · rw [get_set, h]
      rfl
    · rw [strlen_set, h]
      rfl
    · rw [getset_set, h]
      rfl

end answers

/-- `12` is stored as an integer: it reads as absent and of length zero, and `append` with `x` leaves
`x` alone. -/
theorem direct_loses_integer :
    let d : DirectDb := ⟨⟨0, by decide⟩, .empty, .new⟩
    let written := d.set (ascii "k") (ascii "12") 1
    (written.get (ascii "k") 2).2 = none ∧ (written.strlen (ascii "k") 2).2 = 0 ∧
      (written.getset (ascii "k") (ascii "w") 2).2 = none ∧
      (written.append (ascii "k") (ascii "x") 2).2 = 1 ∧
      ((written.append (ascii "k") (ascii "x") 2).1.get (ascii "k") 3).2 = some (ascii "x") := by
  decide +kernel

end DirectDb

end Ratatosk.Keyspace
