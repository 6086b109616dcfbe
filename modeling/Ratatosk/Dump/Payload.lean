import Ratatosk.Keyspace.Shard
import Ratatosk.Lib.DecoderLoops
import Ratatosk.Lib.KeyOrder
import Ratatosk.Engine.DataCommands

/-!
# The payload of `DUMP`

`DUMP` and `RESTORE` of `ratatosk-engine/src/command/cmd_generic_dump.rs`: the bytes a value is
written to, and how they are read back.

* `takeU32`, `takeBytes`, … — the primitive readers, `deserializeStoredValue` — a value. A payload
  of any of the three versions is read; the loops fail as those of the source do, on an ID that does
  not increase, a name that comes twice or a pending entry without its consumer.
-/

namespace Ratatosk.Dump

open Lib Keyspace Resp Engine

/-! ## Constants -/

/-- Source: `RESTORE_MAX_PAYLOAD_BYTES` -/
def restoreMaxPayloadBytes : Nat := 64 * 1024 * 1024

/-- Source: `RESTORE_MAX_COLLECTION_ITEMS` -/
def restoreMaxCollectionItems : Nat := 1000000

/-- Source: `RESTORE_MAX_STREAM_FIELDS_PER_ENTRY` -/
def restoreMaxStreamFieldsPerEntry : Nat := 1000000

/-- Source: `DUMP_MAGIC_CURRENT` -/
def dumpMagicCurrent : Bytes := ascii "RATSK3"

/-- Source: `DUMP_MAGIC_V2` -/
def dumpMagicV2 : Bytes := ascii "RATSK2"

/-- Source: `DUMP_MAGIC_V1` -/
def dumpMagicV1 : Bytes := ascii "RATSK1"

/-- Source: `DUMP_MAGIC_LEGACY` -/
def dumpMagicLegacy : Bytes := [0x41, 0x58, 0x4f, 0x4e, 0x44, 0x31]

/-! ## Writers -/

/-- Source: `put_u32` -/
def putU32 (value : Nat) : Bytes := leBytes 4 (min value (2 ^ 32 - 1))

/-- Source: `put_i64` -/
def putI64 (value : Int64) : Bytes := leBytes 8 value.toUInt64.toNat

/-- Source: `put_bytes` -/
def putBytes (value : Bytes) : Bytes := putU32 value.length ++ value

/-- Source: `put_optional_i64` -/
def putOptionalI64 : Option Int64 → Bytes
  | some value => 1 :: putI64 value
  | none => [0]

/-- Source: `put_stream_id` -/
def putStreamId (id : StreamId) : Bytes := putI64 id.ms ++ putI64 id.seq

/-- A count and the items. -/
def putCounted {α : Type} (put : α → Bytes) (items : List α) : Bytes :=
  putU32 items.length ++ items.flatMap put

/-- A field of a hash. -/
def putHashField (field : Σ _ : Bytes, HashFieldEntry) : Bytes :=
  putBytes field.1 ++ putBytes field.2.value ++ putOptionalI64 field.2.expireAtMs

/-- A member of a sorted set, with the bits of its score. -/
def putScored (entry : SortedSetEntry) : Bytes :=
  putBytes entry.member ++ putI64 entry.score.toInt64

/-- A field of an entry of a stream. -/
def putStreamField (field : Bytes × Bytes) : Bytes := putBytes field.1 ++ putBytes field.2

/-- An entry of a stream. -/
def putStreamEntry (entry : StreamEntry) : Bytes :=
  putStreamId entry.id ++ putCounted putStreamField entry.fields

/-- A consumer. Its pending IDs are those of the group. -/
def putConsumer (consumer : Σ _ : Bytes, StreamConsumer) : Bytes :=
  putBytes consumer.1 ++ putI64 consumer.2.seenTimeMs

/-- A pending entry. -/
def putPending (pending : Σ _ : StreamId, StreamPendingEntry) : Bytes :=
  putStreamId pending.1 ++ putBytes pending.2.consumer ++ putI64 pending.2.deliveries ++
    putI64 pending.2.lastDeliveredMs

/-- The order of byte strings. -/
def bytesLe (a b : Bytes) : Bool := a ≤ b

/-- A consumer group. -/
def putGroup (group : Σ _ : Bytes, StreamGroup) : Bytes :=
  putBytes group.1 ++ putStreamId group.2.lastDeliveredId ++
    putCounted putConsumer (group.2.consumers.inOrder bytesLe) ++
    putCounted putPending (group.2.pending.inOrder StreamId.le)

/-- The number of entries ever added, as far as an `i64` goes. -/
def clampAdded (entriesAdded : UInt64) : Int64 := Int64.ofNat (min entriesAdded.toNat (2 ^ 63 - 1))

/-- The metadata of a stream. -/
def putMeta (metadata : StreamMeta) : Bytes :=
  putStreamId metadata.lastId ++ putI64 (clampAdded metadata.entriesAdded) ++
    putStreamId metadata.maxDeletedId

/-- The byte that names the type of a value. -/
def kindByte : ValueData → UInt8
  | .string _ | .stringInt _ => 115
  | .hash _ => 104
  | .list _ => 108
  | .set _ | .setInt _ => 116
  | .sortedSet _ => 122
  | .stream _ _ _ => 114

/-- What follows it. -/
def putData : ValueData → Bytes
  | .string bytes => putBytes bytes
  | .stringInt n => putBytes (decimalInt n.toInt)
  | .hash fields => putCounted putHashField (fields.inOrder bytesLe)
  | .list items => putCounted putBytes items
  | .set members => putCounted putBytes (members.keys.mergeSort bytesLe)
  | .setInt members => putCounted (fun n => putBytes (decimalInt n.toInt)) members
  | .sortedSet zset => putU32 zset.byMember.keys.length ++ zset.byScore.flatMap putScored
  | .stream entries groups metadata =>
    putCounted putStreamEntry entries ++ putCounted putGroup (groups.inOrder bytesLe) ++
      putMeta metadata

/-- Source: `serialize_stored_value` -/
def serializeStoredValue (data : ValueData) : Bytes :=
  dumpMagicCurrent ++ kindByte data :: putData data

/-! ## Readers -/

/-- A reader of a payload. Whatever is wrong, there is no value. -/
abbrev Taker (α : Type) := Decoder () Unit α

/-- The payload has no digest. -/
def noDigest (_ : Unit) (_ : UInt8) : Unit := ()

/-- The next bytes. -/
def takeRaw (n : Nat) : Taker Bytes := .read noDigest n

/-- Source: `take_u32` -/
def takeU32 : Taker Nat := do
  let tmp ← takeRaw 4
  return ofLeBytes tmp

/-- Source: `take_i64` -/
def takeI64 : Taker Int64 := do
  let tmp ← takeRaw 8
  return (UInt64.ofNat (ofLeBytes tmp)).toInt64

/-- Source: `take_bytes` -/
def takeBytes : Taker Bytes := do
  let len ← takeU32
  takeRaw len

/-- Source: `take_optional_i64` -/
def takeOptionalI64 : Taker (Option Int64) := do
  let flag ← takeRaw 1
  if flag = [0] then return none
  else if flag = [1] then do
    let value ← takeI64
    return some value
  else .fail ()

/-- Source: `take_stream_id` -/
def takeStreamId : Taker StreamId := do
  let ms ← takeI64
  let seq ← takeI64
  if 0 ≤ ms ∧ 0 ≤ seq then return ⟨ms, seq⟩ else .fail ()

/-- Source: `take_count` -/
def takeCount : Taker Nat := do
  let count ← takeU32
  if 1 ≤ count ∧ count ≤ restoreMaxCollectionItems then return count else .fail ()

/-- The body of the loop over the fields of a hash. -/
def takeHashField (version : Nat) (fields : HashMap Bytes HashFieldEntry) :
    Taker (HashMap Bytes HashFieldEntry) := do
  let field ← takeBytes
  let value ← takeBytes
  let expireAtMs ← if 2 ≤ version then takeOptionalI64 else pure none
  return fields.insert field ⟨value, expireAtMs⟩

/-- The body of the loop over the members of a set. -/
def takeMember (members : HashSet Bytes) : Taker (HashSet Bytes) := do
  let member ← takeBytes
  return members.insert member ()

/-- The body of the loop over the members of a sorted set. -/
def takeScored (zset : SortedSet) : Taker SortedSet := do
  let member ← takeBytes
  let bits ← takeI64
  let score : Score := bits.toUInt64
  if score.isNan then .fail () else return zset.insert member score

/-- A field of an entry of a stream. -/
def takeStreamField : Taker (Bytes × Bytes) := do
  let field ← takeBytes
  let value ← takeBytes
  return (field, value)

/-- The body of the loop over the entries of a stream.
Source: `take_stream` -/
def takeStreamEntry (entries : List StreamEntry) : Taker (List StreamEntry) := do
  let id ← takeStreamId
  if entries.getLast?.any fun last => id.le last.id then .fail ()
  else do
    let fieldCount ← takeU32
    if restoreMaxStreamFieldsPerEntry < fieldCount then .fail ()
    else do
      let fields ← takeStreamField.replicate fieldCount
      return entries ++ [⟨id, fields⟩]

/-- The body of the loop over the consumers of a group.
Source: `take_stream` -/
def takeConsumer (consumers : HashMap Bytes StreamConsumer) :
    Taker (HashMap Bytes StreamConsumer) := do
  let name ← takeBytes
  let seenTimeMs ← takeI64
  if (consumers.lookup name).isSome then .fail ()
  else return consumers.insert name ⟨seenTimeMs, ∅⟩

/-- The consumers and the pending entries of a group that is read. -/
abbrev PendingState := HashMap Bytes StreamConsumer × HashMap StreamId StreamPendingEntry

/-- The body of the loop over the pending entries of a group.
Source: `take_stream` -/
def takePending (s : PendingState) : Taker PendingState := do
  let id ← takeStreamId
  let consumer ← takeBytes
  let deliveries ← takeI64
  let lastDeliveredMs ← takeI64
  match s.1.lookup consumer with
  | none => .fail ()
  | some owner =>
    if (s.2.lookup id).isSome then .fail ()
    else return (s.1.insert consumer { owner with pending := owner.pending.insert id () },
      s.2.insert id ⟨consumer, deliveries, lastDeliveredMs⟩)

/-- The body of the loop over the groups of a stream.
Source: `take_stream` -/
def takeGroup (groups : HashMap Bytes StreamGroup) : Taker (HashMap Bytes StreamGroup) := do
  let name ← takeBytes
  let lastDeliveredId ← takeStreamId
  let consumerCount ← takeU32
  let consumers ← Decoder.iterate takeConsumer consumerCount ∅
  let pendingCount ← takeU32
  let (consumers, pending) ← Decoder.iterate takePending pendingCount (consumers, ∅)
  if (groups.lookup name).isSome then .fail ()
  else return groups.insert name ⟨lastDeliveredId, consumers, pending⟩

/-- The metadata of a stream.
Source: `take_stream` -/
def takeMeta (entries : List StreamEntry) : Taker StreamMeta := do
  let lastId ← takeStreamId
  let added ← takeI64
  if added < 0 then .fail ()
  else do
    let maxDeletedId ← takeStreamId
    let metadata : StreamMeta := ⟨lastId, added.toUInt64, maxDeletedId⟩
    if metadata.isValidFor entries then return metadata else .fail ()

/-- Source: `take_stream` -/
def takeStream (version : Nat) : Taker StoredValue := do
  let count ← takeU32
  if restoreMaxCollectionItems < count then .fail ()
  else do
    let entries ← Decoder.iterate takeStreamEntry count []
    if version < 2 then return .new (.stream entries ∅ (.derivedFrom entries)) none
    else do
      let groupCount ← takeU32
      let groups ← Decoder.iterate takeGroup groupCount ∅
      if version < 3 then return .new (.stream entries groups (.derivedFrom entries)) none
      else do
        let metadata ← takeMeta entries
        return .new (.stream entries groups metadata) none

/-- A value of a type.
Source: `deserialize_stored_value` -/
def takeValue (version : Nat) (kind : UInt8) : Taker StoredValue :=
  if kind = 115 then do
    let bytes ← takeBytes
    return .string bytes none
  else if kind = 104 then do
    let count ← takeCount
    let fields ← Decoder.iterate (takeHashField version) count ∅
    return .new (.hash fields) none
  else if kind = 108 then do
    let count ← takeCount
    let items ← takeBytes.replicate count
    return .new (.list items) none
  else if kind = 116 then do
    let count ← takeCount
    let members ← Decoder.iterate takeMember count ∅
    return .set members none
  else if kind = 122 then do
    let count ← takeCount
    let zset ← Decoder.iterate takeScored count .empty
    return .new (.sortedSet zset) none
  else if kind = 114 then takeStream version
  else .fail ()

/-- The version that the first bytes of a payload name. -/
def payloadVersion (magic : Bytes) : Option Nat :=
  if magic = dumpMagicCurrent then some 3
  else if magic = dumpMagicV2 then some 2
  else if magic = dumpMagicV1 ∨ magic = dumpMagicLegacy then some 1
  else none

/-- Source: `deserialize_stored_value` -/
def deserializeStoredValue (payload : Bytes) : Option StoredValue :=
  match payloadVersion (payload.take dumpMagicCurrent.length),
      payload.drop dumpMagicCurrent.length with
  | some version, kind :: rest =>
    match (takeValue version kind).run ⟨(), rest⟩ with
    | .ok (value, ⟨(), []⟩) => some value
    | _ => none
  | _, _ => none

/-! ## Handlers -/

section handlers

variable (err : Bytes → RespFrame)

/-- Source: `cmd_dump` -/
def cmdDump (args : List Bytes) (now : Int64) (s : DbShard) : DbShard × RespFrame :=
  match args with
  | [key] =>
    let s := (s.purgeExpiredKey key now).1
    match s.data.lookup key with
    | none => (s, .bulkString none)
    | some entry => (s, .bulkString (some (serializeStoredValue entry.data)))
  | _ => (s, err (wrongArityText (ascii "dump")))

/-- The options of `RESTORE`: whether a value is replaced, and whether the time is a time of the
clock. -/
structure RestoreOptions where
  replace : Bool
  absttl : Bool
  deriving Repr, DecidableEq

/-- The loop over the options. -/
def restoreOptions : List Bytes → RestoreOptions → Option RestoreOptions
  | [], o => some o
  | option :: rest, o =>
    if toUppercase option = ascii "REPLACE" then restoreOptions rest { o with replace := true }
    else if toUppercase option = ascii "ABSTTL" then restoreOptions rest { o with absttl := true }
    else none

/-- The time that a restored value expires at. -/
def restoreExpiry (ttlMs : Int64) (absttl : Bool) (now : Int64) : Option Int64 :=
  if ttlMs = 0 then none
  else if absttl then some ttlMs
  else some (saturatingAdd now ttlMs)

/-- Source: `cmd_restore` -/
def cmdRestore (args : List Bytes) (now : Int64) (s : DbShard) : DbShard × RespFrame :=
  match args with
  | key :: ttlRaw :: payload :: options =>
    match parseI64 ttlRaw with
    | none => (s, err notIntegerText)
    | some ttlMs =>
      if ttlMs < 0 then (s, err (ascii "ERR value is out of range"))
      else match restoreOptions options ⟨false, false⟩ with
        | none => (s, err syntaxErrorText)
        | some o =>
          if restoreMaxPayloadBytes < payload.length then
            (s, err (ascii "ERR DUMP payload is too large"))
          else match deserializeStoredValue payload with
            | none => (s, err (ascii "ERR DUMP payload version or checksum are wrong"))
            | some value =>
              let s := (s.purgeExpiredKey key now).1
              if (s.data.lookup key).isSome && !o.replace then
                (s, err (ascii "BUSYKEY Target key name already exists."))
              else
                let expireAtMs := restoreExpiry ttlMs o.absttl now
                if expireAtMs.any (· ≤ now) then ((s.remove key).1, .ok)
                else
                  let value := { value with rawExpireAtMs := expireAtMs.getD 0 }
                  ((s.insert key value).1, .ok)
  | _ => (s, err (wrongArityText (ascii "restore")))

end handlers

end Ratatosk.Dump
