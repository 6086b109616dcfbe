import Mathlib.Data.Finmap
import Ratatosk.Lib.Numeral

/-!
# What a keyspace stores

The logical content of the databases of `ratatosk-engine/src/keyspace.rs`: the types clients can
observe, with equality meaning "no command that reads the content can tell them apart".

* `StreamId`, `StreamEntry`, `StreamMeta`, `StreamPendingEntry`, `HashFieldEntry` — the record
  types of the source, unchanged.
* `Value` — the six value types. A string is its bytes and a set its members, whatever encoding
  the stored value picked; a sorted set is its member-to-score map, its other index being derived.
* `Entry` — a value with its expiry; `Db` — one database; `Databases` — the sixteen of them.

`Keyspace.Stored` has the representation these abstract from.
-/

namespace Ratatosk.Keyspace

open Lib

/-- Source: `DEFAULT_DB_COUNT` -/
def dbCount : Nat := 16

lemma dbCount_pos : 0 < dbCount := by decide

/-! ## Streams -/

/-- Source: `StreamId` -/
structure StreamId where
  ms : Int64
  seq : Int64
  deriving Repr, DecidableEq

/-- The derived order of the two fields.
Source: `StreamId` `Ord` -/
def StreamId.le (a b : StreamId) : Bool :=
  a.ms < b.ms || (a.ms == b.ms && a.seq ≤ b.seq)

/-- The ID `0-0`. -/
def StreamId.zero : StreamId := ⟨0, 0⟩

/-- Source: `StreamEntry` -/
structure StreamEntry where
  id : StreamId
  fields : List (Bytes × Bytes)
  deriving Repr, DecidableEq

/-- Source: `StreamMeta` -/
structure StreamMeta where
  lastId : StreamId
  entriesAdded : UInt64
  maxDeletedId : StreamId
  deriving Repr, DecidableEq

/-- Source: `StreamMeta::derived_from` -/
def StreamMeta.derivedFrom (entries : List StreamEntry) : StreamMeta where
  lastId := (entries.getLast?.map StreamEntry.id).getD .zero
  entriesAdded := UInt64.ofNat entries.length
  maxDeletedId := .zero

/-- Source: `StreamMeta::is_valid_for` -/
def StreamMeta.isValidFor (m : StreamMeta) (entries : List StreamEntry) : Bool :=
  entries.getLast?.all (fun last => last.id.le m.lastId) &&
    UInt64.ofNat entries.length ≤ m.entriesAdded && m.maxDeletedId.le m.lastId

/-- Source: `StreamPendingEntry` -/
structure StreamPendingEntry where
  consumer : Bytes
  deliveries : Int64
  lastDeliveredMs : Int64
  deriving Repr, DecidableEq

/-- What a consumer of a group holds. -/
structure Consumer where
  seenTimeMs : Int64
  pending : Finset StreamId
  deriving DecidableEq

/-- What a consumer group holds. -/
structure Group where
  lastDeliveredId : StreamId
  consumers : Finmap fun _ : Bytes => Consumer
  pending : Finmap fun _ : StreamId => StreamPendingEntry
  deriving DecidableEq

/-! ## Values -/

/-- Source: `HashFieldEntry` -/
structure HashFieldEntry where
  value : Bytes
  expireAtMs : Option Int64
  deriving Repr, DecidableEq

/-- A score, as the bits of an `f64`. `SortedSetScore` compares with `total_cmp`, under which two
scores are equal exactly when their bits are. -/
abbrev Score := UInt64

/-- `f64::is_nan` on the bits. -/
def Score.isNan (s : Score) : Bool :=
  s &&& 0x7FF0000000000000 == 0x7FF0000000000000 && s &&& 0x000FFFFFFFFFFFFF != 0

/-- The logical content of a stored value. -/
inductive Value where
  | string (bytes : Bytes)
  | hash (fields : Finmap fun _ : Bytes => HashFieldEntry)
  | list (items : List Bytes)
  | set (members : Finset Bytes)
  | sortedSet (scores : Finmap fun _ : Bytes => Score)
  | stream (entries : List StreamEntry) (groups : Finmap fun _ : Bytes => Group)
      (metadata : StreamMeta)
  deriving DecidableEq

/-- A value and the time it expires at, if it does. -/
structure Entry where
  value : Value
  expireAtMs : Option Int64
  deriving DecidableEq

/-- One database. -/
abbrev Db := Finmap fun _ : Bytes => Entry

/-- The databases of a server. -/
abbrev Databases := Fin dbCount → Db

end Ratatosk.Keyspace
