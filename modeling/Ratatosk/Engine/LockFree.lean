import Ratatosk.Engine.Dispatch

/-!
# Reads without the metadata lock

`try_execute_lock_free_fast_command` of `ratatosk-server/src/client/readonly_batch.rs`: commands
that hold the lock of one database for as long as they read it, and not the lock under which other
commands and `EXEC` run.

* `FastQuery` — what such a command does: it drops the keys it asks for if they have expired, and
  answers from what is left of them.

The commands on sorted sets, `BITCOUNT`, `HMGET`, `HGETALL`, `HKEYS`, `HVALS` and `TIME` are in
`Engine.LockFreeReads`, with the table of all of them; each of the others is a query here. The
conditions on the user that let a client take this path, and the statistics, are left out.
-/

namespace Ratatosk.Engine

open Lib Keyspace Resp

/-! ## Queries -/

/-- What a command does under the lock of its database. -/
inductive FastQuery where
  /-- It reads no key. -/
  | reply (response : RespFrame)
  /-- It reads keys, each after it was dropped if it had expired. -/
  | keys (names : List Bytes) (answer : List (Option Entry) → RespFrame)
  /-- It counts the keys, after dropping all that have expired. -/
  | dbsize

section run

variable {σ κ : Type} (b : Backend σ κ) (now : Int64) (index : Fin dbCount)

/-- The loop over the keys. -/
def readKeys : List Bytes → Store σ → Store σ × List (Option Entry)
  | [], store => (store, [])
  | key :: rest, store =>
    let store := purgeWatched b now index store key
    let entry := (store.dbs index).lookup key
    let (store, entries) := readKeys rest store
    (store, entry :: entries)

/-- The keys of a database that have expired. -/
def expiredKeys (db : Db) (now : Int64) : List Bytes :=
  (db.keys.filter fun key => isExpired db key now).sort (· ≤ ·)

/-- The store and the answer after a query.
Source: `readonly_batch.rs` `try_execute_lock_free_fast_command` -/
def FastQuery.run (query : FastQuery) (store : Store σ) : Store σ × RespFrame :=
  match query with
  | .reply response => (store, response)
  | .keys names answer =>
    let (store, entries) := readKeys b now index names store
    (store, answer entries)
  | .dbsize =>
    let store := (expiredKeys (store.dbs index) now).foldl (purgeWatched b now index) store
    (store, .integer (Int64.ofNat (store.dbs index).keys.card))

end run

/-! ## Answers -/

/-- A query of one key. -/
def oneKeyQuery (key : Bytes) (answer : Option Entry → RespFrame) : FastQuery :=
  .keys [key] fun entries => answer (entries.head?.bind id)

/-- Source: `readonly_batch.rs` `wrong_arity_response` -/
def fastArity (command : String) : FastQuery := .reply (.error (wrongArityText (ascii command)))

/-- A number of elements. -/
def countReply (n : Nat) : RespFrame := .integer (clampI64 n)

/-- A truth value. -/
def flagReply (flag : Bool) : RespFrame := .integer (if flag then 1 else 0)

/-- An answer from a string. -/
def fromString (absent : RespFrame) (answer : Bytes → RespFrame) : Option Entry → RespFrame
  | none => absent
  | some entry => ((asStringBytes entry).map answer).getD wrongtype

/-- An answer from a hash. -/
def fromHash (absent : RespFrame) (answer : (Finmap fun _ : Bytes => HashFieldEntry) → RespFrame) :
    Option Entry → RespFrame
  | none => absent
  | some entry =>
    match entry.value with
    | .hash fields => answer fields
    | _ => wrongtype

/-- An answer from a set. -/
def fromSet (absent : RespFrame) (answer : Finset Bytes → RespFrame) : Option Entry → RespFrame
  | none => absent
  | some entry =>
    match entry.value with
    | .set members => answer members
    | _ => wrongtype

/-- An answer from a list. -/
def fromList (absent : RespFrame) (answer : List Bytes → RespFrame) : Option Entry → RespFrame
  | none => absent
  | some entry =>
    match entry.value with
    | .list items => answer items
    | _ => wrongtype

/-- A field of a hash, unless it has expired.
Source: `keyspace.rs` `HashFieldEntry::is_expired` -/
def liveField (fields : Finmap fun _ : Bytes => HashFieldEntry) (field : Bytes) (now : Int64) :
    Option HashFieldEntry :=
  (fields.lookup field).filter fun entry => !entry.expireAtMs.any (· ≤ now)

/-- Source: `object.rs` `normalize_range` -/
def normalizeRange (len : Nat) (start stop : Int64) : Option (Nat × Nat) :=
  if 2 ^ 63 ≤ len then none
  else
    let len := Int64.ofNat len
    let start := if start < 0 then max (saturatingAdd start len) 0 else start
    let stop := if stop < 0 then saturatingAdd stop len else stop
    if stop < start ∨ len ≤ start then none
    else some (start.toInt.toNat, (min stop (len - 1)).toInt.toNat)

/-- Source: `object.rs` `clamp_index_range` -/
def clampIndexRange (len : Nat) (start stop : Int64) : Option (Nat × Nat) :=
  if 2 ^ 63 ≤ len ∨ len = 0 then none
  else
    let len := Int64.ofNat len
    let start := if start < 0 then max (saturatingAdd start len) 0 else start
    let stop := min (if stop < 0 then max (saturatingAdd stop len) 0 else stop) (len - 1)
    if stop < start then none else some (start.toInt.toNat, stop.toInt.toNat)

/-- Source: `object.rs` `normalize_string_range` -/
def normalizeStringRange (len : Nat) (start stop : Int64) : Option (Nat × Nat) :=
  if start < 0 ∧ stop < 0 ∧ stop < start then none else clampIndexRange len start stop

/-- The elements of a range, ends included. -/
def slice {α : Type} (items : List α) (range : Nat × Nat) : List α :=
  (items.drop range.1).take (range.2 - range.1 + 1)

/-- Source: `readonly_batch.rs` `get_bit` -/
def getBit (data : Bytes) (offset : Nat) : Nat :=
  (data[offset / 8]?.elim 0 fun byte => byte.toNat / 2 ^ (7 - offset % 8) % 2)

/-- Source: `keyspace.rs` `StoredValue::type_name` -/
def typeName : Value → String
  | .string _ => "string"
  | .hash _ => "hash"
  | .list _ => "list"
  | .set _ => "set"
  | .sortedSet _ => "zset"
  | .stream _ _ _ => "stream"

/-- The reply to a number that does not parse. -/
def notIntegerReply : FastQuery := .reply (.error notIntegerText)

/-! ## Commands -/

/-- `PING`, unless it asks about health. -/
def fastPing (args : List Bytes) : Option FastQuery :=
  match args with
  | [] => some (.reply (.simpleStr "PONG"))
  | [message] =>
    if eqIgnoreCase message "HEALTH" then none else some (.reply (.bulkString (some message)))
  | _ => some (fastArity "ping")

/-- `ECHO`. -/
def fastEcho : List Bytes → FastQuery
  | [message] => .reply (.bulkString (some message))
  | _ => fastArity "echo"

/-- `DBSIZE`. -/
def fastDbsize : List Bytes → FastQuery
  | [] => .dbsize
  | _ => fastArity "dbsize"

/-- `TYPE`. -/
def fastType : List Bytes → FastQuery
  | [key] => oneKeyQuery key fun entry => .simpleStr (entry.elim "none" fun e => typeName e.value)
  | _ => fastArity "type"

/-- `GET`. -/
def fastGet : List Bytes → FastQuery
  | [key] => oneKeyQuery key (fromString (.bulkString none) fun s => .bulkString (some s))
  | _ => fastArity "get"

/-- `MGET`. -/
def fastMget : List Bytes → FastQuery
  | [] => fastArity "mget"
  | keys => .keys keys fun entries =>
    .array (entries.map fun entry => .bulkString (entry.bind asStringBytes))

/-- `STRLEN`. -/
def fastStrlen : List Bytes → FastQuery
  | [key] => oneKeyQuery key (fromString (.integer 0) fun s => countReply s.length)
  | _ => fastArity "strlen"

/-- `GETBIT`. -/
def fastGetbit : List Bytes → FastQuery
  | [key, raw] =>
    match (parseI64 raw).filter (0 ≤ ·) with
    | none => .reply (.errorStr "ERR bit offset is not an integer or out of range")
    | some offset =>
      oneKeyQuery key (fromString (.integer 0) fun s => countReply (getBit s offset.toInt.toNat))
  | _ => fastArity "getbit"

/-- `GETRANGE` and `SUBSTR`. -/
def fastGetrange : List Bytes → FastQuery
  | [key, startRaw, stopRaw] =>
    match parseI64 startRaw, parseI64 stopRaw with
    | some start, some stop =>
      oneKeyQuery key (fromString (.bulkString (some [])) fun s =>
        .bulkString (some ((normalizeStringRange s.length start stop).elim [] (slice s))))
    | _, _ => notIntegerReply
  | _ => fastArity "getrange"

/-- `HGET`. -/
def fastHget (now : Int64) : List Bytes → FastQuery
  | [key, field] =>
    oneKeyQuery key (fromHash (.bulkString none) fun fields =>
      .bulkString ((liveField fields field now).map HashFieldEntry.value))
  | _ => fastArity "hget"

/-- `HEXISTS`. -/
def fastHexists (now : Int64) : List Bytes → FastQuery
  | [key, field] =>
    oneKeyQuery key (fromHash (.integer 0) fun fields =>
      flagReply (liveField fields field now).isSome)
  | _ => fastArity "hexists"

/-- `HLEN`. -/
def fastHlen (now : Int64) : List Bytes → FastQuery
  | [key] =>
    oneKeyQuery key (fromHash (.integer 0) fun fields =>
      countReply (fields.keys.filter fun field => (liveField fields field now).isSome).card)
  | _ => fastArity "hlen"

/-- `HSTRLEN`. -/
def fastHstrlen (now : Int64) : List Bytes → FastQuery
  | [key, field] =>
    oneKeyQuery key (fromHash (.integer 0) fun fields =>
      countReply ((liveField fields field now).elim 0 fun entry => entry.value.length))
  | _ => fastArity "hstrlen"

/-- `SISMEMBER`. -/
def fastSismember : List Bytes → FastQuery
  | [key, member] =>
    oneKeyQuery key (fromSet (.integer 0) fun members => flagReply (member ∈ members))
  | _ => fastArity "sismember"

/-- `SMISMEMBER`. -/
def fastSmismember : List Bytes → FastQuery
  | key :: first :: more =>
    oneKeyQuery key (fromSet (.array ((first :: more).map fun _ => .integer 0)) fun members =>
      .array ((first :: more).map fun member => flagReply (member ∈ members)))
  | _ => fastArity "smismember"

/-- `SCARD`. -/
def fastScard : List Bytes → FastQuery
  | [key] => oneKeyQuery key (fromSet (.integer 0) fun members => countReply members.card)
  | _ => fastArity "scard"

/-- `LLEN`. -/
def fastLlen : List Bytes → FastQuery
  | [key] => oneKeyQuery key (fromList (.integer 0) fun items => countReply items.length)
  | _ => fastArity "llen"

/-- `LINDEX`. -/
def fastLindex : List Bytes → FastQuery
  | [key, raw] =>
    match parseI64 raw with
    | none => notIntegerReply
    | some raw =>
      oneKeyQuery key (fromList (.bulkString none) fun items =>
        let len := clampI64 items.length
        let index := if raw < 0 then saturatingAdd len raw else raw
        if index < 0 ∨ len ≤ index then .bulkString none
        else .bulkString items[index.toInt.toNat]?)
  | _ => fastArity "lindex"

/-- `LRANGE`. -/
def fastLrange : List Bytes → FastQuery
  | [key, startRaw, stopRaw] =>
    match parseI64 startRaw, parseI64 stopRaw with
    | some start, some stop =>
      oneKeyQuery key (fromList (.array []) fun items =>
        .array (((normalizeRange items.length start stop).elim [] (slice items)).map fun item =>
          .bulkString (some item)))
    | _, _ => notIntegerReply
  | _ => fastArity "lrange"

/-- The commands about the expiry of a key. -/
def fastExpiry (command : String) (answer : Int64 → Int64) : List Bytes → FastQuery
  | [key] => oneKeyQuery key fun entry =>
    .integer (entry.elim (-2) fun entry => entry.expireAtMs.elim (-1) answer)
  | _ => fastArity command

/-- The time that is left to a key; one that has none left was dropped before. -/
def remainingMs (now expireAtMs : Int64) : Int64 := clampI64 (expireAtMs.toInt - now.toInt)

/-- `TTL`. -/
def fastTtl (now : Int64) : List Bytes → FastQuery :=
  fastExpiry "ttl" fun expireAtMs =>
    if remainingMs now expireAtMs ≤ 0 then -2 else remainingMs now expireAtMs / 1000

/-- `PTTL`. -/
def fastPttl (now : Int64) : List Bytes → FastQuery :=
  fastExpiry "pttl" fun expireAtMs =>
    if remainingMs now expireAtMs ≤ 0 then -2 else remainingMs now expireAtMs

/-- `EXPIRETIME`. -/
def fastExpiretime : List Bytes → FastQuery := fastExpiry "expiretime" (· / 1000)

/-- `PEXPIRETIME`. -/
def fastPexpiretime : List Bytes → FastQuery := fastExpiry "pexpiretime" id

/-- `EXISTS`. -/
def fastExists : List Bytes → FastQuery
  | [] => fastArity "exists"
  | keys => .keys keys fun entries => .integer (Int64.ofNat (entries.countP Option.isSome))

end Ratatosk.Engine
