import Ratatosk.Lib.Decoder
import Ratatosk.Rdb.Saver

/-!
# The RDB reader

`ratatosk-persist/src/rdb/loader.rs`, written in the sequential decoders of `Lib.Decoder`: every
byte goes through `read` and the digest, except the stored checksum.

* `loadLoop` — the opcode loop of `skip_aux_fields`, on a fuel that bounds the opcodes.

`loadLoop_mono` says that more fuel never changes a success.
-/

namespace Ratatosk.Rdb

open Lib Keyspace

/-! ## Errors and primitive readers -/

/-- Source: `error.rs` `PersistError` -/
inductive PersistError where
  | invalidMagic
  | unsupportedVersion (version : Nat)
  | crcMismatch (expected actual : UInt64)
  | corrupt (reason : Bytes)
  | unexpectedEof
  | unknownType (typeByte : UInt8)
  deriving Repr, DecidableEq

/-- A reader of RDB bytes; a short read is `unexpectedEof`. -/
abbrev Reader (α : Type) := Decoder PersistError.unexpectedEof UInt64 α

/-- `PersistError::corrupt` with a fixed text. -/
def corrupt {α : Type} (reason : String) : Reader α := .fail (.corrupt (ascii reason))

/-- The two hexadecimal digits of a byte. -/
def hexByte (b : UInt8) : Bytes :=
  [b / 16, b % 16].map fun d => if d < 10 then 48 + d else 87 + d

/-- Source: `loader.rs` `read_bytes` -/
def readBytes (n : Nat) : Reader Bytes := .read crc64Step n

/-- Source: `loader.rs` `read_byte` -/
def readByte : Reader UInt8 := do
  let buf ← readBytes 1
  return buf.headD 0

/-- Source: `loader.rs` `read_i64` -/
def readI64 : Reader Int64 := do
  let buf ← readBytes 8
  return (UInt64.ofNat (ofLeBytes buf)).toInt64

/-- `u64::from_le_bytes` of the next eight bytes. -/
def readU64 : Reader UInt64 := do
  let buf ← readBytes 8
  return UInt64.ofNat (ofLeBytes buf)

/-- Source: `loader.rs` `read_stream_id` -/
def readStreamId : Reader StreamId := do
  let ms ← readI64
  let seq ← readI64
  return ⟨ms, seq⟩

/-- The length announced by a first byte that is not a special encoding; `bad` is the failure of
a byte that announces neither a 32-bit nor a 64-bit length. -/
def readLengthAfter (first : UInt8) (bad : Reader Nat) : Reader Nat :=
  if (first &&& 0xC0) >>> 6 = 0 then return (first &&& 0x3F).toNat
  else if (first &&& 0xC0) >>> 6 = 1 then do
    let second ← readByte
    return (first &&& 0x3F).toNat <<< 8 ||| second.toNat
  else if first = 0x80 then do
    let buf ← readBytes 4
    return ofBeBytes buf
  else if first = 0x81 then do
    let buf ← readBytes 8
    return ofBeBytes buf
  else bad

/-- Source: `loader.rs` `read_length` -/
def readLength : Reader Nat := do
  let first ← readByte
  if (first &&& 0xC0) >>> 6 = 3 then
    if first &&& 0x3F < 3 then corrupt "special encoding in length context not supported"
    else .fail (.corrupt (ascii "unknown special encoding: " ++ decimal (first &&& 0x3F).toNat))
  else
    readLengthAfter first
      (.fail (.corrupt (ascii "unexpected length encoding byte: 0x" ++ hexByte first)))

/-- A signed little-endian integer of `n` bytes. -/
def signedLe (buf : Bytes) : Int :=
  let v := ofLeBytes buf
  if 2 * v < 256 ^ buf.length then v else v - 256 ^ buf.length

/-- Source: `loader.rs` `read_string` -/
def readString : Reader Bytes := do
  let first ← readByte
  if (first &&& 0xC0) >>> 6 = 3 then
    if first &&& 0x3F = 0 then do
      let buf ← readBytes 1
      return decimalInt (signedLe buf)
    else if first &&& 0x3F = 1 then do
      let buf ← readBytes 2
      return decimalInt (signedLe buf)
    else if first &&& 0x3F = 2 then do
      let buf ← readBytes 4
      return decimalInt (signedLe buf)
    else .fail (.corrupt (ascii "unknown integer encoding: " ++ decimal (first &&& 0x3F).toNat))
  else do
    let len ← readLengthAfter first (corrupt "unexpected string length byte")
    readBytes len

/-- A counted sequence. -/
def readCounted {α : Type} (item : Reader α) : Reader (List α) := do
  let len ← readLength
  item.replicate len

/-! ## Values -/

/-- A field of a hash; `withTtl` says whether fields carry an expiry marker. -/
def readHashField (withTtl : Bool) : Reader (Σ _ : Bytes, HashFieldEntry) := do
  let field ← readString
  let value ← readString
  if withTtl then
    let marker ← readByte
    if marker = 0 then return ⟨field, value, none⟩
    else if marker = 1 then do
      let deadline ← readI64
      return ⟨field, value, some deadline⟩
    else corrupt "invalid hash field expiry marker"
  else return ⟨field, value, none⟩

/-- A member and its score; NaN is refused. -/
def readScored : Reader (Bytes × Score) := do
  let member ← readString
  let score ← readU64
  if Score.isNan score then corrupt "sorted set score is NaN"
  else return (member, score)

/-- The sorted set that the members are inserted into, one after the other. -/
def collectScored (scored : List (Bytes × Score)) : SortedSet :=
  scored.foldl (fun z e => z.insert e.1 e.2) .empty

/-- A field of a stream entry. -/
def readStreamField : Reader (Bytes × Bytes) := do
  let key ← readString
  let value ← readString
  return (key, value)

/-- A stream entry. -/
def readStreamEntry : Reader StreamEntry := do
  let id ← readStreamId
  let fields ← readCounted readStreamField
  return ⟨id, fields⟩

/-- A consumer of a group. -/
def readConsumer : Reader (Σ _ : Bytes, StreamConsumer) := do
  let name ← readString
  let seenTimeMs ← readI64
  let pending ← readCounted readStreamId
  return ⟨name, seenTimeMs, HashMap.collect (pending.map fun id => ⟨id, ()⟩)⟩

/-- A pending entry of a group. -/
def readPending : Reader (Σ _ : StreamId, StreamPendingEntry) := do
  let id ← readStreamId
  let consumer ← readString
  let deliveries ← readI64
  let lastDeliveredMs ← readI64
  return ⟨id, consumer, deliveries, lastDeliveredMs⟩

/-- A consumer group. -/
def readGroup : Reader (Σ _ : Bytes, StreamGroup) := do
  let name ← readString
  let lastDeliveredId ← readStreamId
  let consumers ← readCounted readConsumer
  let pending ← readCounted readPending
  return ⟨name, lastDeliveredId, HashMap.collect consumers, HashMap.collect pending⟩

/-- Stream metadata. -/
def readStreamMeta : Reader StreamMeta := do
  let lastId ← readStreamId
  let entriesAdded ← readU64
  let maxDeletedId ← readStreamId
  return ⟨lastId, entriesAdded, maxDeletedId⟩

/-- A stream; the oldest encoding has no groups and only the newest has metadata. -/
def readStream (type : UInt8) (expireMs : Option Int64) : Reader StoredValue := do
  let entries ← readCounted readStreamEntry
  let groups ← if type = 19 then pure [] else readCounted readGroup
  if type = 130 then
    let metadata ← readStreamMeta
    if metadata.isValidFor entries then
      return .new (.stream entries (HashMap.collect groups) metadata) expireMs
    else corrupt "stream metadata is behind its entries"
  else return .new (.stream entries (HashMap.collect groups) (.derivedFrom entries)) expireMs

/-- The payload of a type byte.
Source: `loader.rs` `read_key_value` -/
def readValue (type : UInt8) (expireMs : Option Int64) : Reader StoredValue :=
  if type = 0 then do
    let data ← readString
    return .string data expireMs
  else if type = 1 then do
    let items ← readCounted readString
    return .new (.list items) expireMs
  else if type = 2 then do
    let members ← readCounted readString
    return .set (HashMap.collect (members.map fun m => ⟨m, ()⟩)) expireMs
  else if type = 4 ∨ type = 128 then do
    let fields ← readCounted (readHashField (type = 128))
    return .new (.hash (HashMap.collect fields)) expireMs
  else if type = 5 then do
    let scored ← readCounted readScored
    return .new (.sortedSet (collectScored scored)) expireMs
  else if type = 19 ∨ type = 129 ∨ type = 130 then readStream type expireMs
  else .fail (.unknownType type)

/-! ## Files -/

/-- The state of the opcode loop. -/
structure LoadState where
  /-- The databases filled so far. -/
  dbs : Fin dbCount → HashMap Bytes StoredValue
  currentDb : Fin dbCount
  /-- The expiry announced for the next key. -/
  nextExpireMs : Option Int64

/-- `state.db_mut(db_idx).insert(key, value)`. -/
def LoadState.insert (s : LoadState) (key : Bytes) (value : StoredValue) : LoadState :=
  { s with
    dbs := Function.update s.dbs s.currentDb ((s.dbs s.currentDb).insert key value)
    nextExpireMs := none }

/-- One opcode other than the end marker.
Source: `loader.rs` `skip_aux_fields`, `read_key_value` -/
def loadRecord (opcode : UInt8) (s : LoadState) : Reader LoadState :=
  if opcode = 0xFA then do
    let _ ← readString
    let _ ← readString
    return s
  else if opcode = 0xFE then do
    let idx ← readLength
    if h : idx < dbCount then return { s with currentDb := ⟨idx, h⟩ }
    else .fail (.corrupt (ascii "DB index " ++ decimal idx ++ ascii " out of range"))
  else if opcode = 0xFB then do
    let _ ← readLength
    let _ ← readLength
    return s
  else if opcode = 0xFC then do
    let expireMs ← readI64
    return { s with nextExpireMs := some expireMs }
  else if opcode = 0xFD then do
    let buf ← readBytes 4
    return { s with nextExpireMs := some (Int64.ofNat (ofLeBytes buf * 1000)) }
  else do
    let key ← readString
    let value ← readValue opcode s.nextExpireMs
    return s.insert key value

/-- The end of the file: the stored checksum, read past the digest.
Source: `loader.rs` `skip_aux_fields`, `RDB_OPCODE_EOF` arm -/
def loadEof (s : LoadState) : Reader LoadState := do
  let computed ← .digest
  let buf ← .readRaw 8
  let stored := UInt64.ofNat (ofLeBytes buf)
  if stored ≠ 0 ∧ stored ≠ computed then .fail (.crcMismatch stored computed)
  else return s

/-- The opcode loop. Every turn reads at least one byte, so a fuel of the bytes left is enough.
Source: `loader.rs` `skip_aux_fields` -/
def loadLoop : (fuel : Nat) → LoadState → Reader LoadState
  | 0, _ => .fail .unexpectedEof
  | fuel + 1, s => do
    let opcode ← readByte
    if opcode = 0xFF then loadEof s
    else do
      let s ← loadRecord opcode s
      loadLoop fuel s

/-- Source: `loader.rs` `read_header` -/
def readHeader : Reader Unit := do
  let found ← readBytes 5
  if found ≠ magic then .fail .invalidMagic
  else do
    let verBuf ← readBytes 4
    if validUtf8 verBuf then
      match parseNat verBuf with
      | some version =>
        if rdbVersion < version then .fail (.unsupportedVersion version) else return ()
      | none => corrupt "invalid version number"
    else corrupt "invalid version encoding"

/-- The databases before anything is loaded. -/
def LoadState.initial : LoadState := ⟨fun _ => ∅, ⟨0, dbCount_pos⟩, none⟩

/-- A file of at most `fuel` opcodes.
Source: `loader.rs` `load_into` -/
def loadFile (fuel : Nat) : Reader LoadState := do
  readHeader
  loadLoop fuel .initial

/-- The databases a file holds.
Source: `loader.rs` `load` -/
def load (file : Bytes) : Except PersistError (Fin dbCount → HashMap Bytes StoredValue) :=
  match (loadFile (file.length + 1)).run ⟨0, file⟩ with
  | .ok (s, _) => .ok s.dbs
  | .error e => .error e

/-! ## Fuel -/

/-- More fuel never changes a success. -/
lemma loadLoop_mono {fuel fuel' : Nat} (hfuel : fuel ≤ fuel') {s s' : LoadState}
    {c c' : Cursor UInt64} (h : (loadLoop fuel s).run c = .ok (s', c')) :
    (loadLoop fuel' s).run c = .ok (s', c') := by
  induction fuel generalizing fuel' s c with
  | zero => cases h
  | succ fuel ih =>
    obtain ⟨k, rfl⟩ : ∃ k, fuel' = k + 1 := ⟨fuel' - 1, by omega⟩
    unfold loadLoop at h ⊢
    obtain ⟨opcode, mid, hop, h⟩ := Decoder.run_bind_eq_ok h
    rw [Decoder.run_bind_of_ok hop]
    split_ifs at h ⊢ with hend
    · exact h
    · obtain ⟨s₁, mid₁, hrecord, h⟩ := Decoder.run_bind_eq_ok h
      rw [Decoder.run_bind_of_ok hrecord]
      exact ih (by omega) h

/-- More fuel never changes a loaded file. -/
lemma loadFile_mono {fuel fuel' : Nat} (hfuel : fuel ≤ fuel') {s : LoadState}
    {c c' : Cursor UInt64} (h : (loadFile fuel).run c = .ok (s, c')) :
    (loadFile fuel').run c = .ok (s, c') := by
  obtain ⟨_, mid, hheader, h⟩ := Decoder.run_bind_eq_ok h
  rw [loadFile, Decoder.run_bind_of_ok hheader]
  exact loadLoop_mono hfuel h

end Ratatosk.Rdb
