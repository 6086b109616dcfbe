import Ratatosk.Keyspace.Stored

/-!
# The RDB writer

`ratatosk-persist/src/rdb/saver.rs`, with the constants of `format.rs` and the checksum of
`checksum.rs`. A writer function is the bytes it passes to `write_bytes`; the digest runs over
all of them, and only the checksum itself is written past it.

* `crc64Step` — CRC-64/ECMA-182 by the byte; the digest of a byte string is its fold.

I/O errors are not modelled: a write either happens or the program stops there, which is what the
crash model of `Persist` adds.
-/

namespace Ratatosk.Rdb

open Lib Keyspace

/-! ## Constants -/

/-- Source: `format.rs` `RDB_MAGIC` -/
def magic : Bytes := ascii "REDIS"

/-- Source: `format.rs` `RDB_VERSION` -/
def rdbVersion : Nat := 12

/-- Source: `format.rs` `RDB_VERSION_STR` -/
def versionStr : Bytes := ascii "0012"

/-! ## Checksum -/

/-- One bit of CRC-64/ECMA-182. -/
def crc64Bit (crc : UInt64) : UInt64 :=
  if crc &&& 0x8000000000000000 = 0 then crc <<< 1 else (crc <<< 1) ^^^ 0x42F0E1EBA9EA3693

/-- One byte of the digest.
Source: `checksum.rs` `Crc64Digest::update` -/
def crc64Step (crc : UInt64) (b : UInt8) : UInt64 :=
  crc64Bit^[8] (crc ^^^ (b.toUInt64 <<< 56))

/-- The digest of a byte string.
Source: `checksum.rs` `Crc64Digest` -/
def crc64 (bytes : Bytes) : UInt64 := bytes.foldl crc64Step 0

/-! ## Primitive writers -/

/-- Source: `saver.rs` `write_length` -/
def writeLength (len : Nat) : Bytes :=
  if len < 64 then [UInt8.ofNat len]
  else if len < 16384 then [0x40 ||| UInt8.ofNat (len / 256), UInt8.ofNat (len % 256)]
  else if len ≤ 0xFFFFFFFF then 0x80 :: beBytes 4 len
  else 0x81 :: beBytes 8 len

/-- Source: `saver.rs` `write_string` -/
def writeString (s : Bytes) : Bytes := writeLength s.length ++ s

/-- `i64::to_le_bytes`. -/
def writeI64 (n : Int64) : Bytes := leBytes 8 n.toUInt64.toNat

/-- `u64::to_le_bytes`. -/
def writeU64 (n : UInt64) : Bytes := leBytes 8 n.toNat

/-- The two halves of a stream ID. -/
def writeStreamId (id : StreamId) : Bytes := writeI64 id.ms ++ writeI64 id.seq

/-- A counted sequence: the length, then each item. -/
def writeCounted {α : Type} (write : α → Bytes) (items : List α) : Bytes :=
  writeLength items.length ++ items.flatMap write

/-! ## Values -/

/-- The fields of a hash; with any field expiry, each field has a marker and its deadline. -/
def writeHashField (hasTtl : Bool) (field : Σ _ : Bytes, HashFieldEntry) : Bytes :=
  writeString field.1 ++ writeString field.2.value ++
    if hasTtl then
      match field.2.expireAtMs with
      | none => [0]
      | some deadline => 1 :: writeI64 deadline
    else []

/-- A member and its score. -/
def writeScored (entry : SortedSetEntry) : Bytes := writeString entry.member ++ writeU64 entry.score

/-- A field of a stream entry. -/
def writeStreamField (field : Bytes × Bytes) : Bytes := writeString field.1 ++ writeString field.2

/-- A stream entry. -/
def writeStreamEntry (entry : StreamEntry) : Bytes :=
  writeStreamId entry.id ++ writeCounted writeStreamField entry.fields

/-- A consumer of a group. -/
def writeConsumer (consumer : Σ _ : Bytes, StreamConsumer) : Bytes :=
  writeString consumer.1 ++ writeI64 consumer.2.seenTimeMs ++
    writeCounted writeStreamId consumer.2.pending.keys

/-- A pending entry of a group. -/
def writePending (pending : Σ _ : StreamId, StreamPendingEntry) : Bytes :=
  writeStreamId pending.1 ++ writeString pending.2.consumer ++ writeI64 pending.2.deliveries ++
    writeI64 pending.2.lastDeliveredMs

/-- A consumer group. -/
def writeGroup (group : Σ _ : Bytes, StreamGroup) : Bytes :=
  writeString group.1 ++ writeStreamId group.2.lastDeliveredId ++
    writeCounted writeConsumer group.2.consumers.entries ++
    writeCounted writePending group.2.pending.entries

/-- Stream metadata. -/
def writeStreamMeta (m : StreamMeta) : Bytes :=
  writeStreamId m.lastId ++ writeU64 m.entriesAdded ++ writeStreamId m.maxDeletedId

/-- Whether a hash has a field that expires. -/
def hasTtl (fields : HashMap Bytes HashFieldEntry) : Bool :=
  fields.entries.any fun field => field.2.expireAtMs.isSome

/-- The type byte of a value.
Source: `format.rs` `RDB_TYPE_*`, as `saver.rs` `write_key_value` picks them -/
def typeByte : ValueData → UInt8
  | .string _ => 0
  | .stringInt _ => 0
  | .list _ => 1
  | .set _ => 2
  | .setInt _ => 2
  | .hash fields => if hasTtl fields then 128 else 4
  | .sortedSet _ => 5
  | .stream entries _ metadata => if metadata = .derivedFrom entries then 129 else 130

/-- The payload of a value, after its key. -/
def writePayload : ValueData → Bytes
  | .string s => writeString s
  | .stringInt n => writeString (decimalInt n.toInt)
  | .list items => writeCounted writeString items
  | .set members => writeCounted writeString members.keys
  | .setInt members => writeCounted (fun n => writeString (decimalInt n.toInt)) members
  | .hash fields => writeCounted (writeHashField (hasTtl fields)) fields.entries
  | .sortedSet zset =>
    -- the count is taken from the other index
    writeLength zset.byMember.keys.length ++ zset.byScore.flatMap writeScored
  | .stream entries groups metadata =>
    writeCounted writeStreamEntry entries ++ writeCounted writeGroup groups.entries ++
      if metadata = .derivedFrom entries then [] else writeStreamMeta metadata

/-- Source: `saver.rs` `write_key_value` -/
def writeKeyValue (item : Σ _ : Bytes, StoredValue) : Bytes :=
  (match item.2.expireAtMs with
    | some expireMs => 0xFC :: writeI64 expireMs
    | none => []) ++
    typeByte item.2.data :: (writeString item.1 ++ writePayload item.2.data)

/-! ## Files -/

/-- Source: `saver.rs` `write_aux` -/
def writeAux (key value : Bytes) : Bytes := 0xFA :: (writeString key ++ writeString value)

/-- Source: `saver.rs` `write_preamble` -/
def writePreamble : Bytes :=
  magic ++ versionStr ++ writeAux (ascii "redis-ver") (ascii "7.0.0") ++
    writeAux (ascii "ratatosk-ver") (ascii "0.1.0")

/-- Source: `saver.rs` `write_db` -/
def writeDb (dbIdx : Nat) (db : HashMap Bytes StoredValue) : Bytes :=
  0xFE :: writeLength dbIdx ++
    (0xFB :: (writeLength db.keys.length ++
      writeLength (db.entries.countP fun item => item.2.expireAtMs.isSome))) ++
    db.entries.flatMap writeKeyValue

/-- The databases from index `dbIdx` on; empty ones are skipped. -/
def writeDbs : (dbIdx : Nat) → DbSnapshot → Bytes
  | _, [] => []
  | dbIdx, db :: dbs =>
    (if db.entries = [] then [] else writeDb dbIdx db) ++ writeDbs (dbIdx + 1) dbs

/-- Everything before the checksum. -/
def snapshotBody (snapshot : DbSnapshot) : Bytes :=
  writePreamble ++ writeDbs 0 snapshot ++ [0xFF]

/-- Source: `saver.rs` `save_snapshot` -/
def saveSnapshot (snapshot : DbSnapshot) : Bytes :=
  snapshotBody snapshot ++ writeU64 (crc64 (snapshotBody snapshot))

end Ratatosk.Rdb
