import Ratatosk.Dump.Payload
import Ratatosk.Rdb.RoundTrip
import Ratatosk.Engine.PendingEntries

/-!
# `RESTORE` of `DUMP`

What `RESTORE` stores when it is given the payload that `DUMP` answered.

* `Encodes` — the `Decodes` relation of `Lib.Decoder` without a digest; one lemma for each writer
  says that its bytes are read back. A length is written as a `u32`; that it fits follows from the
  length of the bytes written.
* `InRange` — stream IDs are not negative and the number of entries ever added is an `i64`. The
  payload has no room for anything else: the writer clamps the number, the reader refuses the IDs.
* `restore_dump_iff` — **`RESTORE` of `DUMP` succeeds and stores an equal value exactly when the
  value is in range.**
-/

namespace Ratatosk.Dump

open Lib Keyspace Resp Engine List Option Finmap

/-- `bytes` is an encoding of `a` for the reader `d`. -/
abbrev Encodes {α : Type} (d : Taker α) (bytes : Bytes) (a : α) : Prop := Decodes noDigest d bytes a

/-! ## Primitive readers -/

section primitive

lemma encodes_takeRaw {n : Nat} {bytes : Bytes} (h : bytes.length = n) :
    Encodes (takeRaw n) bytes bytes := by
  subst h
  exact decodes_read bytes

lemma encodes_takeU32 {n : Nat} (h : n < 2 ^ 32) : Encodes takeU32 (putU32 n) n := by
  have hmin : min n (2 ^ 32 - 1) = n := by omega
  have hread := (encodes_takeRaw (length_leBytes 4 n)).bind_pure ofLeBytes
  rw [ofLeBytes_leBytes h] at hread
  rw [putU32, hmin]
  exact hread

lemma encodes_takeI64 (n : Int64) : Encodes takeI64 (putI64 n) n := by
  have hraw := encodes_takeRaw (length_leBytes 8 n.toUInt64.toNat)
  have hread := hraw.bind_pure fun buf => (UInt64.ofNat (ofLeBytes buf)).toInt64
  rw [ofLeBytes_leBytes (by simpa using n.toUInt64.toNat_lt), UInt64.ofNat_toNat] at hread
  exact hread

@[simp] lemma length_putU32 (n : Nat) : (putU32 n).length = 4 := length_leBytes 4 _

@[simp] lemma length_putBytes (s : Bytes) : (putBytes s).length = 4 + s.length := by
  rw [putBytes, length_append, length_putU32]

/-- Bytes with their length are read back. -/
lemma encodes_takeBytes {s : Bytes} (h : (putBytes s).length < 2 ^ 32) :
    Encodes takeBytes (putBytes s) s := by
  rw [length_putBytes] at h
  exact (encodes_takeU32 (by omega)).bind (encodes_takeRaw rfl)

lemma encodes_takeOptionalI64 (value : Option Int64) :
    Encodes takeOptionalI64 (putOptionalI64 value) value := by
  cases value with
  | none => exact (encodes_takeRaw rfl : Encodes (takeRaw 1) [0] [0]).bind_nil (decodes_pure none)
  | some value =>
    refine (encodes_takeRaw rfl : Encodes (takeRaw 1) [1] [1]).bind ?_
    exact (encodes_takeI64 value).bind_pure some

/-- An ID that the payload has room for. -/
def Unsigned (id : StreamId) : Prop := 0 ≤ id.ms ∧ 0 ≤ id.seq

instance (id : StreamId) : Decidable (Unsigned id) :=
  inferInstanceAs (Decidable (0 ≤ id.ms ∧ 0 ≤ id.seq))

lemma encodes_takeStreamId {id : StreamId} (h : Unsigned id) :
    Encodes takeStreamId (putStreamId id) id := by
  have hpos : 0 ≤ id.ms ∧ 0 ≤ id.seq := h
  refine (encodes_takeI64 id.ms).bind ((encodes_takeI64 id.seq).bind_nil ?_)
  rw [if_pos hpos]
  exact decodes_pure _

end primitive

/-! ## Counted items -/

section counted

variable {γ σ : Type} {put : γ → Bytes}

lemma length_le_flatMap {x : γ} {items : List γ} (hx : x ∈ items) :
    (put x).length ≤ (items.flatMap put).length := by
  rw [length_flatMap]
  exact le_sum_of_mem (List.mem_map_of_mem hx)

lemma length_items_le (hput : ∀ x, 0 < (put x).length) (items : List γ) :
    items.length ≤ (items.flatMap put).length := by
  induction items with
  | nil => exact le_rfl
  | cons x items ih =>
    have hx := hput x
    rw [length_cons, flatMap_cons, length_append]
    omega

@[simp] lemma length_putCounted (items : List γ) :
    (putCounted put items).length = 4 + (items.flatMap put).length := by
  rw [putCounted, length_append, length_putU32]

lemma encodes_count (hput : ∀ x, 0 < (put x).length) {items : List γ}
    (hshort : (putCounted put items).length < 2 ^ 32) :
    Encodes takeU32 (putU32 items.length) items.length := by
  have hlength := length_items_le hput items
  rw [length_putCounted] at hshort
  exact encodes_takeU32 (by omega)

/-- The count of a collection that is neither empty nor too large. -/
lemma encodes_takeCount {n : Nat} (hpos : 1 ≤ n) (hmax : n ≤ restoreMaxCollectionItems) :
    Encodes takeCount (putU32 n) n := by
  have hlt : n < 2 ^ 32 := by
    have hlimit : restoreMaxCollectionItems < 2 ^ 32 := by decide
    omega
  refine (encodes_takeU32 hlt).bind_nil ?_
  rw [if_pos ⟨hpos, hmax⟩]
  exact decodes_pure n

/-- The rule for the loops: bodies are asked about items with short encodings only. -/
lemma encodes_iterate {body : σ → Taker σ} {next : σ → γ → σ} (inv : σ → List γ → Prop)
    (hstep : ∀ s x items, (put x).length < 2 ^ 32 → inv s (x :: items) →
      Encodes (body s) (put x) (next s x) ∧ inv (next s x) items)
    {items : List γ} {s : σ} (hshort : (items.flatMap put).length < 2 ^ 32) (h : inv s items) :
    Encodes (Decoder.iterate body items.length s) (items.flatMap put) (items.foldl next s) := by
  refine decodes_iterate (fun s items => (items.flatMap put).length < 2 ^ 32 ∧ inv s items)
    ?_ ⟨hshort, h⟩
  rintro s x items ⟨hshort, h⟩
  rw [flatMap_cons, length_append] at hshort
  obtain ⟨hread, hrest⟩ := hstep s x items (by omega) h
  exact ⟨hread, by omega, hrest⟩

end counted

/-! ## Parts of values -/

section parts

/-- A hash field is read back. -/
lemma encodes_takeHashField {field : Σ _ : Bytes, HashFieldEntry}
    (hshort : (putHashField field).length < 2 ^ 32) (fields : HashMap Bytes HashFieldEntry) :
    Encodes (takeHashField 3 fields) (putHashField field) (fields.insert field.1 field.2) := by
  rw [putHashField, append_assoc] at hshort ⊢
  rw [length_append, length_append] at hshort
  refine (encodes_takeBytes (by omega)).bind ((encodes_takeBytes (by omega)).bind ?_)
  exact (encodes_takeOptionalI64 field.2.expireAtMs).bind_pure fun expireAtMs =>
    fields.insert field.1 ⟨field.2.value, expireAtMs⟩

/-- A scored member is read back. -/
lemma encodes_takeScored {entry : SortedSetEntry} (hshort : (putScored entry).length < 2 ^ 32)
    (hnan : entry.score.isNan = false) (zset : SortedSet) :
    Encodes (takeScored zset) (putScored entry) (zset.insert entry.member entry.score) := by
  rw [putScored, length_append] at hshort
  refine (encodes_takeBytes (by omega)).bind ((encodes_takeI64 _).bind_nil ?_)
  have hbits : entry.score.toInt64.toUInt64 = entry.score := rfl
  rw [hbits]
  dsimp only
  rw [hnan]
  exact decodes_pure _

lemma encodes_takeStreamField {field : Bytes × Bytes}
    (hshort : (putStreamField field).length < 2 ^ 32) :
    Encodes takeStreamField (putStreamField field) field := by
  rw [putStreamField, length_append] at hshort
  refine (encodes_takeBytes (by omega)).bind ?_
  exact (encodes_takeBytes (by omega)).bind_pure fun value => (field.1, value)

/-- A stream entry is read back. -/
lemma encodes_takeStreamEntry {entries : List StreamEntry} {entry : StreamEntry}
    (hshort : (putStreamEntry entry).length < 2 ^ 32) (hid : Unsigned entry.id)
    (hfields : entry.fields.length ≤ restoreMaxStreamFieldsPerEntry)
    (hlast : ∀ last ∈ entries, last.id.rank < entry.id.rank) :
    Encodes (takeStreamEntry entries) (putStreamEntry entry) (entries ++ [entry]) := by
  rw [putStreamEntry, length_append] at hshort
  have hascends : (entries.getLast?.any fun last => entry.id.le last.id) = false := by
    rw [Option.any_eq_false]
    intro last hlast'
    rw [Bool.eq_false_iff, Ne, StreamId.le_iff_rank, not_le]
    exact hlast last (mem_of_getLast? hlast')
  refine (encodes_takeStreamId hid).bind ?_
  rw [hascends]
  have hpos : ∀ field, 0 < (putStreamField field).length := fun _ => by simp [putStreamField]
  refine (encodes_count hpos (by omega)).bind ?_
  rw [if_neg (by omega)]
  have hread : Encodes (takeStreamField.replicate entry.fields.length)
      (entry.fields.flatMap putStreamField) (entry.fields.map fun field => field) := by
    refine decodes_replicate fun field hfield => encodes_takeStreamField ?_
    have hle : (putStreamField field).length ≤ _ := length_le_flatMap hfield
    rw [length_putCounted] at hshort
    omega
  rw [List.map_id'] at hread
  exact hread.bind_pure fun fields => entries ++ [⟨entry.id, fields⟩]

end parts

/-! ## Groups -/

section groups

variable {g : StreamGroup}

/-- A consumer is read back. -/
lemma encodes_takeConsumer {consumer : Σ _ : Bytes, StreamConsumer}
    (hshort : (putConsumer consumer).length < 2 ^ 32) {consumers : HashMap Bytes StreamConsumer}
    (hfresh : consumers.lookup consumer.1 = none) :
    Encodes (takeConsumer consumers) (putConsumer consumer)
      (consumers.insert consumer.1 ⟨consumer.2.seenTimeMs, ∅⟩) := by
  rw [putConsumer, length_append] at hshort
  refine (encodes_takeBytes (by omega)).bind ((encodes_takeI64 _).bind_nil ?_)
  rw [hfresh]
  exact decodes_pure _

/-- A pending entry given to its consumer. -/
def hand (consumers : HashMap Bytes StreamConsumer) (p : Σ _ : StreamId, StreamPendingEntry) :
    HashMap Bytes StreamConsumer :=
  match consumers.lookup p.2.consumer with
  | some owner =>
    consumers.insert p.2.consumer { owner with pending := owner.pending.insert p.1 () }
  | none => consumers

lemma lookup_hand (consumers : HashMap Bytes StreamConsumer)
    (p : Σ _ : StreamId, StreamPendingEntry) (name : Bytes) :
    (hand consumers p).lookup name =
      if p.2.consumer = name then
        (consumers.lookup name).map fun c => { c with pending := c.pending.insert p.1 () }
      else consumers.lookup name := by
  unfold hand
  by_cases hname : p.2.consumer = name
  · rw [if_pos hname, hname]
    cases hlookup : consumers.lookup name with
    | none => exact hlookup
    | some owner => exact AList.lookup_insert _
  · rw [if_neg hname]
    cases consumers.lookup p.2.consumer with
    | none => rfl
    | some owner => exact AList.lookup_insert_ne (Ne.symm hname)

lemma isSome_lookup_hand (consumers : HashMap Bytes StreamConsumer)
    (p : Σ _ : StreamId, StreamPendingEntry) (name : Bytes) :
    ((hand consumers p).lookup name).isSome = (consumers.lookup name).isSome := by
  rw [lookup_hand]
  split_ifs
  · exact isSome_map
  · rfl

/-- What one round of the loop over the pending entries does. -/
def nextPending (s : PendingState) (p : Σ _ : StreamId, StreamPendingEntry) : PendingState :=
  (hand s.1 p, s.2.insert p.1 p.2)

lemma foldl_nextPending (items : List (Σ _ : StreamId, StreamPendingEntry)) (s : PendingState) :
    items.foldl nextPending s =
      (items.foldl hand s.1, items.foldl (fun m p => m.insert p.1 p.2) s.2) := by
  induction items generalizing s with
  | nil => rfl
  | cons p items ih => exact ih _

/-- A pending entry is read back. -/
lemma encodes_takePending {p : Σ _ : StreamId, StreamPendingEntry}
    (hshort : (putPending p).length < 2 ^ 32) (hid : Unsigned p.1) {s : PendingState}
    (howner : (s.1.lookup p.2.consumer).isSome) (hfresh : s.2.lookup p.1 = none) :
    Encodes (takePending s) (putPending p) (nextPending s p) := by
  rw [putPending, append_assoc, append_assoc] at hshort ⊢
  rw [length_append, length_append] at hshort
  refine (encodes_takeStreamId hid).bind ((encodes_takeBytes (by omega)).bind
    ((encodes_takeI64 _).bind ((encodes_takeI64 _).bind_nil ?_)))
  obtain ⟨owner, howner⟩ := isSome_iff_exists.mp howner
  have hnext : nextPending s p =
      (s.1.insert p.2.consumer { owner with pending := owner.pending.insert p.1 () },
        s.2.insert p.1 p.2) := by
    rw [nextPending, hand, howner]
  rw [hnext, howner]
  dsimp only
  rw [hfresh]
  exact decodes_pure _

/-- The group the reader builds. -/
def restoredGroup (g : StreamGroup) : StreamGroup :=
  let consumers := (g.consumers.inOrder bytesLe).foldl
    (fun m c => m.insert c.1 (⟨c.2.seenTimeMs, ∅⟩ : StreamConsumer)) ∅
  let pending := g.pending.inOrder StreamId.le
  ⟨g.lastDeliveredId, pending.foldl hand consumers, HashMap.collect pending⟩

/-- A group whose IDs the payload has room for. -/
def GroupInRange (g : Group) : Prop :=
  Unsigned g.lastDeliveredId ∧ ∀ id p, g.pending.lookup id = some p → Unsigned id

lemma isSome_lookup_consumer (hpaired : g.content.Paired) {id : StreamId} {p : StreamPendingEntry}
    (hp : g.pending.lookup id = some p) : (g.consumers.lookup p.consumer).isSome := by
  have hcontent : g.content.pending.lookup id = some p :=
    (lookup_toFinmap id g.pending).trans hp
  obtain ⟨consumer, hconsumer, -⟩ := (hpaired id p.consumer).mpr ⟨p, hcontent, rfl⟩
  have hlookup := (lookup_toFinmap p.consumer _).symm.trans hconsumer
  rw [HashMap.lookup_mapValues] at hlookup
  obtain ⟨c, hc, -⟩ := map_eq_some_iff.mp hlookup
  exact isSome_of_mem hc

lemma encodes_consumers
    (hshort : ((g.consumers.inOrder bytesLe).flatMap putConsumer).length < 2 ^ 32) :
    Encodes (Decoder.iterate takeConsumer (g.consumers.inOrder bytesLe).length ∅)
      ((g.consumers.inOrder bytesLe).flatMap putConsumer)
      ((g.consumers.inOrder bytesLe).foldl
        (fun m c => m.insert c.1 (⟨c.2.seenTimeMs, ∅⟩ : StreamConsumer)) ∅) := by
  refine encodes_iterate (fun m items => m.Fresh items) ?_ hshort (HashMap.fresh_inOrder _ _)
  intro m c items hshort h
  exact ⟨encodes_takeConsumer hshort (h.missing c mem_cons_self), h.insert _⟩

lemma encodes_pending
    (hshort : ((g.pending.inOrder StreamId.le).flatMap putPending).length < 2 ^ 32)
    (hids : ∀ p ∈ g.pending.inOrder StreamId.le, Unsigned p.1)
    {consumers : HashMap Bytes StreamConsumer}
    (howners : ∀ p ∈ g.pending.inOrder StreamId.le, (consumers.lookup p.2.consumer).isSome) :
    Encodes (Decoder.iterate takePending (g.pending.inOrder StreamId.le).length (consumers, ∅))
      ((g.pending.inOrder StreamId.le).flatMap putPending)
      ((g.pending.inOrder StreamId.le).foldl nextPending (consumers, ∅)) := by
  -- the keys stay fresh, and no round takes a consumer away
  refine encodes_iterate (fun s items => s.2.Fresh items ∧
    ∀ p ∈ items, Unsigned p.1 ∧ (s.1.lookup p.2.consumer).isSome) ?_ hshort
    ⟨HashMap.fresh_inOrder _ _, fun p hp => ⟨hids p hp, howners p hp⟩⟩
  rintro s p items hshort ⟨hfresh, hitems⟩
  obtain ⟨hid, howner⟩ := hitems p mem_cons_self
  refine ⟨encodes_takePending hshort hid howner (hfresh.missing p mem_cons_self),
    hfresh.insert _, fun q hq => ?_⟩
  obtain ⟨hid', howner'⟩ := hitems q (mem_cons_of_mem _ hq)
  exact ⟨hid', (isSome_lookup_hand s.1 p q.2.consumer).trans howner'⟩

/-- A group is read back. -/
lemma encodes_takeGroup {group : Σ _ : Bytes, StreamGroup}
    (hshort : (putGroup group).length < 2 ^ 32) (hpaired : group.2.content.Paired)
    (hrange : GroupInRange group.2.content) {groups : HashMap Bytes StreamGroup}
    (hfresh : groups.lookup group.1 = none) :
    Encodes (takeGroup groups) (putGroup group)
      (groups.insert group.1 (restoredGroup group.2)) := by
  have hpending : ∀ p ∈ group.2.pending.inOrder StreamId.le,
      group.2.pending.lookup p.1 = some p.2 := fun p hp =>
    AList.mem_lookup_iff.mpr (HashMap.mem_inOrder.mp hp)
  rw [putGroup, append_assoc, append_assoc] at hshort ⊢
  simp only [length_append] at hshort
  refine (encodes_takeBytes (by omega)).bind ((encodes_takeStreamId hrange.1).bind ?_)
  have hcount := encodes_count (fun _ => by simp [putConsumer])
    (by omega : (putCounted putConsumer (group.2.consumers.inOrder bytesLe)).length < 2 ^ 32)
  have hcount' := encodes_count (fun _ => by simp [putPending])
    (by omega : (putCounted putPending (group.2.pending.inOrder StreamId.le)).length < 2 ^ 32)
  rw [length_putCounted, length_putCounted] at hshort
  rw [putCounted, append_assoc]
  refine hcount.bind ((encodes_consumers (by omega)).bind (hcount'.bind ?_))
  refine (encodes_pending (by omega) ?_ ?_).bind_nil ?_
  · intro p hp
    exact hrange.2 p.1 p.2 ((lookup_toFinmap _ _).trans (hpending p hp))
  · intro p hp
    rw [HashMap.lookup_foldl_insert_inOrder bytesLe
      (fun c : StreamConsumer => (⟨c.seenTimeMs, ∅⟩ : StreamConsumer)), isSome_map]
    exact isSome_lookup_consumer hpaired (hpending p hp)
  · rw [foldl_nextPending]
    dsimp only
    rw [hfresh]
    exact decodes_pure _

/-! ### The content of a group -/

/-- The pending set of a consumer that was given the entries of its name. -/
lemma content_foldl_hand (items : List (Σ _ : StreamId, StreamPendingEntry))
    (consumers : HashMap Bytes StreamConsumer) (name : Bytes) :
    ((items.foldl hand consumers).lookup name).map StreamConsumer.content =
      (consumers.lookup name).map fun c => ⟨c.seenTimeMs, c.pending.toFinmap.keys ∪
        ((items.filter fun p => p.2.consumer = name).map Sigma.fst).toFinset⟩ := by
  induction items generalizing consumers with
  | nil =>
    refine Option.map_congr fun c _ => ?_
    rw [filter_nil, map_nil, toFinset_nil, Finset.union_empty,
      StreamConsumer.content]
  | cons p items ih =>
    rw [foldl_cons, ih, lookup_hand, filter_cons]
    by_cases hname : p.2.consumer = name
    · rw [if_pos hname, Option.map_map, if_pos (decide_eq_true hname), map_cons,
        toFinset_cons]
      refine Option.map_congr fun c _ => congrArg (Consumer.mk c.seenTimeMs) ?_
      apply Finset.ext
      intro id
      simp only [Finset.mem_union, Finset.mem_insert, Finmap.mem_keys, mem_toFinmap,
        AList.mem_insert]
      tauto
    · rw [if_neg hname, if_neg (by simpa using hname)]

/-- The group read back has the same content. -/
lemma content_restoredGroup (hpaired : g.content.Paired) :
    (restoredGroup g).content = g.content := by
  have hconsumers : ((restoredGroup g).consumers.mapValues StreamConsumer.content).toFinmap =
      (g.consumers.mapValues StreamConsumer.content).toFinmap := by
    apply ext_lookup
    intro name
    rw [lookup_toFinmap, lookup_toFinmap, HashMap.lookup_mapValues,
      HashMap.lookup_mapValues, restoredGroup, content_foldl_hand,
      HashMap.lookup_foldl_insert_inOrder bytesLe
        (fun c : StreamConsumer => (⟨c.seenTimeMs, ∅⟩ : StreamConsumer)), Option.map_map]
    refine Option.map_congr fun c hc => congrArg (Consumer.mk c.seenTimeMs) ?_
    have hcontent : g.content.consumers.lookup name = some c.content := by
      refine (lookup_toFinmap _ _).trans ?_
      rw [HashMap.lookup_mapValues, hc]
      rfl
    -- the entries of the table with this name are the pending set of the consumer
    apply Finset.ext
    intro id
    have hiff := hpaired id name
    rw [hcontent] at hiff
    simp only [Option.some.injEq, exists_eq_left'] at hiff
    rw [Finset.mem_union, List.mem_toFinset, List.mem_map]
    constructor
    · rintro (hnone | ⟨p, hp, rfl⟩)
      · exact absurd (mem_toFinmap.mp (Finmap.mem_keys.mp hnone)) (AList.notMem_empty id)
      · obtain ⟨hp, howner⟩ := mem_filter.mp hp
        have hlookup := AList.mem_lookup_iff.mpr (HashMap.mem_inOrder.mp hp)
        exact hiff.mpr ⟨p.2, (lookup_toFinmap _ _).trans hlookup, of_decide_eq_true howner⟩
    · intro hid
      obtain ⟨p, hp, howner⟩ := hiff.mp hid
      have hlookup := (lookup_toFinmap id g.pending).symm.trans hp
      have hmem : ⟨id, p⟩ ∈ g.pending.inOrder StreamId.le :=
        HashMap.mem_inOrder.mpr (AList.mem_lookup_iff.mp hlookup)
      exact .inr ⟨⟨id, p⟩, mem_filter.mpr ⟨hmem, decide_eq_true howner⟩, rfl⟩
  unfold StreamGroup.content
  rw [hconsumers]
  exact congrArg (Keyspace.Group.mk g.lastDeliveredId _)
    (HashMap.toFinmap_collect_inOrder _ g.pending)

end groups

/-! ## Values -/

/-- The size of a collection that `RESTORE` accepts. -/
def Accepted (n : Nat) : Prop := 1 ≤ n ∧ n ≤ restoreMaxCollectionItems

instance (n : Nat) : Decidable (Accepted n) :=
  inferInstanceAs (Decidable (1 ≤ n ∧ n ≤ restoreMaxCollectionItems))

/-- The invariants of a stored stream, within the limits of `RESTORE`. -/
structure StreamInvariants (entries : List StreamEntry) (groups : HashMap Bytes StreamGroup)
    (metadata : StreamMeta) : Prop where
  few : entries.length ≤ restoreMaxCollectionItems
  fewFields : ∀ e ∈ entries, e.fields.length ≤ restoreMaxStreamFieldsPerEntry
  ascending : entries.Pairwise fun a b => a.id.rank < b.id.rank
  paired : ∀ g ∈ groups.entries, g.2.content.Paired
  valid : metadata.isValidFor entries = true

/-- The invariants of stored values, within the limits of `RESTORE`. -/
def Invariants : ValueData → Prop
  | .string _ | .stringInt _ => True
  | .hash fields => Accepted fields.entries.length
  | .list items => Accepted items.length
  | .set members => Accepted members.keys.length
  | .setInt members => Accepted members.length
  | .sortedSet zset => zset.WellFormed ∧ Accepted zset.byMember.keys.length
  | .stream entries groups metadata => StreamInvariants entries groups metadata

/-- Metadata that the payload has room for. -/
structure MetaInRange (metadata : StreamMeta) : Prop where
  lastId : Unsigned metadata.lastId
  added : metadata.entriesAdded.toNat < 2 ^ 63
  maxDeletedId : Unsigned metadata.maxDeletedId

/-- A value that the payload has room for: the IDs of a stream are not negative, and the number of
entries that were ever added to it is an `i64`. -/
def InRange : Value → Prop
  | .stream entries groups metadata =>
    (∀ e ∈ entries, Unsigned e.id) ∧
      (∀ name g, groups.lookup name = some g → GroupInRange g) ∧ MetaInRange metadata
  | _ => True

section values

variable {entries : List StreamEntry} {groups : HashMap Bytes StreamGroup}

lemma keys_foldl_insert {γ : Type} (member : γ → Bytes) (items : List γ) :
    (items.foldl (fun (m : HashSet Bytes) x => m.insert (member x) ()) ∅).toFinmap.keys =
      (items.map member).toFinset := by
  rw [← HashMap.keys_collect_unit, HashMap.collect, foldl_map, foldl_map]

/-- A set is read back with its members, however they were written. -/
lemma exists_encodes_set {γ : Type} {member : γ → Bytes} {items : List γ}
    (hsize : Accepted items.length)
    (hshort : (putCounted (fun x => putBytes (member x)) items).length < 2 ^ 32) :
    ∃ v, Encodes (takeValue 3 116) (putCounted (fun x => putBytes (member x)) items) v ∧
      v.data.content = .set (items.map member).toFinset := by
  rw [length_putCounted] at hshort
  have hread : Encodes (Decoder.iterate takeMember items.length ∅)
      (items.flatMap fun x => putBytes (member x))
      (items.foldl (fun (m : HashSet Bytes) x => m.insert (member x) ()) ∅) :=
    encodes_iterate (fun _ _ => True) (fun s _ _ hx _ =>
      ⟨(encodes_takeBytes hx).bind_pure fun member => s.insert member (), trivial⟩) (by omega)
      trivial
  refine ⟨_, (encodes_takeCount hsize.1 hsize.2).bind
    (hread.bind_pure fun members => StoredValue.set members none), ?_⟩
  rw [content_set, keys_foldl_insert]

/-- A hash is read back. -/
lemma exists_encodes_hash {fields : HashMap Bytes HashFieldEntry}
    (hsize : Accepted fields.entries.length)
    (hshort : (putData (.hash fields)).length < 2 ^ 32) :
    ∃ v, Encodes (takeValue 3 104) (putData (.hash fields)) v ∧
      v.data.content = .hash fields.toFinmap := by
  rw [putData, length_putCounted] at hshort
  rw [← (HashMap.perm_inOrder bytesLe fields).length_eq] at hsize
  have hread : Encodes (Decoder.iterate (takeHashField 3) (fields.inOrder bytesLe).length ∅)
      ((fields.inOrder bytesLe).flatMap putHashField) (HashMap.collect (fields.inOrder bytesLe)) :=
    encodes_iterate (fun _ _ => True) (fun s _ _ hx _ => ⟨encodes_takeHashField hx s, trivial⟩)
      (lt_of_le_of_lt (Nat.le_add_left _ 4) hshort) trivial
  refine ⟨_, (encodes_takeCount hsize.1 hsize.2).bind
    (hread.bind_pure fun fields => StoredValue.new (.hash fields) none), ?_⟩
  exact congrArg Value.hash (HashMap.toFinmap_collect_inOrder bytesLe fields)

/-- A list is read back. -/
lemma exists_encodes_list {items : List Bytes} (hsize : Accepted items.length)
    (hshort : (putData (.list items)).length < 2 ^ 32) :
    ∃ v, Encodes (takeValue 3 108) (putData (.list items)) v ∧
      v.data.content = .list items := by
  rw [putData, length_putCounted] at hshort
  have hread : Encodes (takeBytes.replicate items.length) (items.flatMap putBytes)
      (items.map fun item => item) := by
    refine decodes_replicate fun item hitem => encodes_takeBytes ?_
    have hle : (putBytes item).length ≤ _ := length_le_flatMap hitem
    omega
  rw [List.map_id'] at hread
  exact ⟨_, (encodes_takeCount hsize.1 hsize.2).bind
    (hread.bind_pure fun items => StoredValue.new (.list items) none), rfl⟩

/-- A sorted set is read back. -/
lemma exists_encodes_sortedSet {zset : SortedSet} (hwf : zset.WellFormed)
    (hsize : Accepted zset.byMember.keys.length)
    (hshort : (putData (.sortedSet zset)).length < 2 ^ 32) :
    ∃ v, Encodes (takeValue 3 122) (putData (.sortedSet zset)) v ∧
      v.data.content = .sortedSet zset.byMember.toFinmap := by
  have hlength : zset.byMember.keys.length = zset.byScore.length := by
    rw [hwf.indexes.length_eq, AList.keys, List.keys, length_map, length_map]
  rw [putData, hlength] at hshort ⊢
  rw [hlength] at hsize
  rw [length_append] at hshort
  have hread : Encodes (Decoder.iterate takeScored zset.byScore.length .empty)
      (zset.byScore.flatMap putScored)
      (zset.byScore.foldl (fun z e => z.insert e.member e.score) .empty) := by
    refine encodes_iterate (fun _ items => ∀ e ∈ items, e.score.isNan = false) ?_ (by omega)
      hwf.noNan
    intro z e items hshort h
    exact ⟨encodes_takeScored hshort (h e mem_cons_self) z,
      fun e' he' => h e' (mem_cons_of_mem _ he')⟩
  refine ⟨_, (encodes_takeCount hsize.1 hsize.2).bind
    (hread.bind_pure fun zset => StoredValue.new (.sortedSet zset) none), ?_⟩
  rw [← Rdb.toFinmap_reloadSortedSet hwf, Rdb.reloadSortedSet, Rdb.collectScored, foldl_map]
  rfl

/-! ### Streams -/

/-- Stream metadata is read back. -/
lemma encodes_takeMeta {metadata : StreamMeta} (hvalid : metadata.isValidFor entries = true)
    (h : MetaInRange metadata) : Encodes (takeMeta entries) (putMeta metadata) metadata := by
  have hadded := h.added
  have hmin : min metadata.entriesAdded.toNat (2 ^ 63 - 1) = metadata.entriesAdded.toNat := by omega
  have hint : (clampAdded metadata.entriesAdded).toInt = metadata.entriesAdded.toNat := by
    rw [clampAdded, hmin, Int64.toInt_ofNat_of_lt hadded]
  have hback : (clampAdded metadata.entriesAdded).toUInt64 = metadata.entriesAdded := by
    rw [clampAdded, hmin]
    exact UInt64.ofNat_toNat
  rw [putMeta, append_assoc]
  refine (encodes_takeStreamId h.lastId).bind ((encodes_takeI64 _).bind ?_)
  rw [if_neg (by rw [Int64.lt_iff_toInt_lt, hint]; simp)]
  refine (encodes_takeStreamId h.maxDeletedId).bind_nil ?_
  rw [hback]
  dsimp only
  rw [if_pos hvalid]
  exact decodes_pure _

lemma encodes_entries (hshort : (entries.flatMap putStreamEntry).length < 2 ^ 32)
    (hids : ∀ e ∈ entries, Unsigned e.id)
    (hfields : ∀ e ∈ entries, e.fields.length ≤ restoreMaxStreamFieldsPerEntry)
    (hascending : entries.Pairwise fun a b => a.id.rank < b.id.rank) :
    Encodes (Decoder.iterate takeStreamEntry entries.length [])
      (entries.flatMap putStreamEntry) entries := by
  have hread : Encodes (Decoder.iterate takeStreamEntry entries.length [])
      (entries.flatMap putStreamEntry) (entries.foldl (fun s e => s ++ [e]) []) := by
    refine encodes_iterate (fun s items =>
      ((s ++ items).Pairwise fun a b => a.id.rank < b.id.rank) ∧
        ∀ e ∈ items, Unsigned e.id ∧ e.fields.length ≤ restoreMaxStreamFieldsPerEntry) ?_ hshort
      ⟨hascending, fun e he => ⟨hids e he, hfields e he⟩⟩
    rintro s e items hshort ⟨hascending, hitems⟩
    obtain ⟨hid, hcount⟩ := hitems e mem_cons_self
    refine ⟨encodes_takeStreamEntry hshort hid hcount ?_, ?_, ?_⟩
    · intro last hlast
      exact (pairwise_append.mp hascending).2.2 last hlast e mem_cons_self
    · rw [append_assoc]
      exact hascending
    · intro e' he'
      exact hitems e' (mem_cons_of_mem _ he')
  rw [foldl_append_eq_append, nil_append, ← flatMap_def, flatMap_singleton']
    at hread
  exact hread

/-- The groups that the loop collects have the content they had. -/
lemma content_foldl_groups (hpaired : ∀ g ∈ groups.entries, g.2.content.Paired) :
    (HashMap.mapValues StreamGroup.content ((groups.inOrder bytesLe).foldl
        (fun m g => m.insert g.1 (restoredGroup g.2)) ∅)).toFinmap =
      (groups.mapValues StreamGroup.content).toFinmap := by
  apply ext_lookup
  intro name
  rw [lookup_toFinmap, lookup_toFinmap, HashMap.lookup_mapValues,
    HashMap.lookup_mapValues, HashMap.lookup_foldl_insert_inOrder, Option.map_map]
  apply Option.map_congr
  intro g hg
  exact content_restoredGroup (hpaired ⟨name, g⟩ (AList.mem_lookup_iff.mp hg))

lemma encodes_groups (hshort : ((groups.inOrder bytesLe).flatMap putGroup).length < 2 ^ 32)
    (hpaired : ∀ g ∈ groups.entries, g.2.content.Paired)
    (hrange : ∀ g ∈ groups.entries, GroupInRange g.2.content) :
    Encodes (Decoder.iterate takeGroup (groups.inOrder bytesLe).length ∅)
      ((groups.inOrder bytesLe).flatMap putGroup)
      ((groups.inOrder bytesLe).foldl (fun m g => m.insert g.1 (restoredGroup g.2)) ∅) := by
  refine encodes_iterate (fun m items => m.Fresh items ∧ ∀ g ∈ items, g ∈ groups.entries)
    ?_ hshort ⟨HashMap.fresh_inOrder _ _, fun g hg => HashMap.mem_inOrder.mp hg⟩
  rintro m g items hshort ⟨hfresh, hmem⟩
  have hg := hmem g mem_cons_self
  exact ⟨encodes_takeGroup hshort (hpaired g hg) (hrange g hg)
    (hfresh.missing g mem_cons_self), hfresh.insert _,
    fun g' hg' => hmem g' (mem_cons_of_mem _ hg')⟩

/-- A stream is read back. -/
lemma exists_encodes_stream {metadata : StreamMeta} (h : StreamInvariants entries groups metadata)
    (hrange : InRange (ValueData.stream entries groups metadata).content)
    (hshort : (putData (.stream entries groups metadata)).length < 2 ^ 32) :
    ∃ v, Encodes (takeValue 3 114) (putData (.stream entries groups metadata)) v ∧
      v.data.content = (ValueData.stream entries groups metadata).content := by
  obtain ⟨hids, hgroups, hmeta⟩ := hrange
  have hgroups' : ∀ g ∈ groups.entries, GroupInRange g.2.content := by
    intro g hg
    refine hgroups g.1 g.2.content ?_
    rw [lookup_toFinmap, HashMap.lookup_mapValues, AList.mem_lookup_iff.mpr hg]
    rfl
  rw [putData, append_assoc] at hshort ⊢
  rw [length_append, length_append] at hshort
  have hcount := encodes_count (fun _ => by simp [putStreamEntry])
    (by omega : (putCounted putStreamEntry entries).length < 2 ^ 32)
  have hcount' := encodes_count (fun _ => by simp [putGroup])
    (by omega : (putCounted putGroup (groups.inOrder bytesLe)).length < 2 ^ 32)
  rw [length_putCounted, length_putCounted] at hshort
  rw [putCounted, putCounted, append_assoc, append_assoc]
  refine ⟨.new (.stream entries ((groups.inOrder bytesLe).foldl
    (fun m g => m.insert g.1 (restoredGroup g.2)) ∅) metadata) none, hcount.bind ?_,
    congrArg (Value.stream entries · metadata) (content_foldl_groups h.paired)⟩
  rw [if_neg (Nat.not_lt.mpr h.few)]
  refine (encodes_entries (by omega) hids h.fewFields h.ascending).bind (hcount'.bind ?_)
  refine (encodes_groups (by omega) h.paired hgroups').bind ?_
  exact (encodes_takeMeta h.valid hmeta).bind_pure _

/-- A value in range is read back with the content it had. -/
theorem exists_encodes {data : ValueData} (h : Invariants data) (hrange : InRange data.content)
    (hshort : (putData data).length < 2 ^ 32) :
    ∃ v, Encodes (takeValue 3 (kindByte data)) (putData data) v ∧
      v.data.content = data.content := by
  cases data with
  | string bytes =>
    exact ⟨_, (encodes_takeBytes hshort).bind_pure fun bytes => StoredValue.string bytes none,
      content_string bytes none⟩
  | stringInt n =>
    exact ⟨_, (encodes_takeBytes hshort).bind_pure fun bytes => StoredValue.string bytes none,
      content_string (decimalInt n.toInt) none⟩
  | hash fields => exact exists_encodes_hash h hshort
  | list items => exact exists_encodes_list h hshort
  | set members =>
    have hperm : (members.keys.mergeSort bytesLe).Perm members.keys := mergeSort_perm _ _
    have hsize : Accepted (members.keys.mergeSort bytesLe).length := by
      rw [hperm.length_eq]
      exact h
    obtain ⟨v, hread, hcontent⟩ := @exists_encodes_set Bytes id _ hsize hshort
    refine ⟨v, hread, hcontent.trans (congrArg Value.set ?_)⟩
    rw [List.map_id, toFinset_eq_of_perm _ _ hperm, HashMap.toFinset_keys]
  | setInt members => exact exists_encodes_set h hshort
  | sortedSet zset => exact exists_encodes_sortedSet h.1 h.2 hshort
  | stream entries groups metadata => exact exists_encodes_stream h hrange hshort

end values

/-! ## What can be read -/

section results

lemma yields_takeStreamId : takeStreamId.Yields Unsigned := by
  refine yields_bind_of_forall fun ms => yields_bind_of_forall fun seq => ?_
  split_ifs with hpos
  · exact yields_pure hpos
  · exact yields_fail ()

lemma yields_takeStreamEntry {entries : List StreamEntry} (h : ∀ e ∈ entries, Unsigned e.id) :
    (takeStreamEntry entries).Yields fun entries => ∀ e ∈ entries, Unsigned e.id := by
  refine yields_takeStreamId.bind fun id hid => ?_
  split_ifs
  · exact yields_fail ()
  refine yields_bind_of_forall fun fieldCount => ?_
  split_ifs
  · exact yields_fail ()
  refine yields_bind_of_forall fun fields => yields_pure ?_
  intro e he
  rcases mem_append.mp he with he | he
  · exact h e he
  · rw [List.mem_singleton.mp he]
    exact hid

lemma yields_takePending {s : PendingState} (h : ∀ id p, s.2.lookup id = some p → Unsigned id) :
    (takePending s).Yields fun s => ∀ id p, s.2.lookup id = some p → Unsigned id := by
  refine yields_takeStreamId.bind fun id hid => yields_bind_of_forall fun consumer => ?_
  refine yields_bind_of_forall fun deliveries => yields_bind_of_forall fun lastDeliveredMs => ?_
  split
  · exact yields_fail ()
  split_ifs
  · exact yields_fail ()
  refine yields_pure ?_
  intro id' p hp
  by_cases heq : id' = id
  · rw [heq]
    exact hid
  · rw [AList.lookup_insert_ne heq] at hp
    exact h id' p hp

lemma yields_takeGroup {groups : HashMap Bytes StreamGroup}
    (h : ∀ name g, groups.lookup name = some g → GroupInRange g.content) :
    (takeGroup groups).Yields fun groups =>
      ∀ name g, groups.lookup name = some g → GroupInRange g.content := by
  refine yields_bind_of_forall fun name => yields_takeStreamId.bind fun lastId hlast => ?_
  refine yields_bind_of_forall fun consumerCount => yields_bind_of_forall fun consumers => ?_
  refine yields_bind_of_forall fun pendingCount => ?_
  refine (yields_iterate (fun s hs => yields_takePending hs) pendingCount ?_).bind fun s hs => ?_
  · intro id p hp
    cases hp
  split_ifs
  · exact yields_fail ()
  refine yields_pure ?_
  intro name' g hg
  by_cases heq : name' = name
  · rw [heq, AList.lookup_insert, Option.some.injEq] at hg
    rw [← hg]
    exact ⟨hlast, fun id p hp => hs id p ((lookup_toFinmap _ _).symm.trans hp)⟩
  · rw [AList.lookup_insert_ne heq] at hg
    exact h name' g hg

lemma toNat_toUInt64_lt {n : Int64} (h : ¬ n < 0) : n.toUInt64.toNat < 2 ^ 63 := by
  have hzero : (0 : Int64).toInt = 0 := rfl
  have hint : n.toInt = n.toBitVec.toInt := rfl
  have hnat : n.toUInt64.toNat = n.toBitVec.toNat := rfl
  have hlt := n.toBitVec.isLt
  rw [Int64.lt_iff_toInt_lt, not_lt, hzero, hint, BitVec.toInt_eq_toNat_cond] at h
  rw [hnat]
  split_ifs at h
  · omega
  · omega

lemma yields_takeMeta (entries : List StreamEntry) : (takeMeta entries).Yields MetaInRange := by
  refine yields_takeStreamId.bind fun lastId hlast => yields_bind_of_forall fun added => ?_
  split_ifs with hneg
  · exact yields_fail ()
  refine yields_takeStreamId.bind fun maxDeletedId hdeleted => ?_
  dsimp only
  split_ifs
  · exact yields_pure ⟨hlast, toNat_toUInt64_lt hneg, hdeleted⟩
  · exact yields_fail ()

/-- A stream that is read is in range. -/
lemma yields_takeStream :
    (takeStream 3).Yields fun v => InRange v.data.content ∧ v.data.Indexed := by
  refine yields_bind_of_forall fun count => ?_
  by_cases hmany : restoreMaxCollectionItems < count
  · rw [if_pos hmany]
    exact yields_fail ()
  rw [if_neg hmany]
  refine (yields_iterate (fun s hs => yields_takeStreamEntry hs) count ?_).bind fun entries he => ?_
  · intro e he
    cases he
  rw [if_neg (by decide)]
  refine yields_bind_of_forall fun groupCount => ?_
  refine (yields_iterate (fun s hs => yields_takeGroup hs) groupCount ?_).bind fun groups hg => ?_
  · intro name g hg
    cases hg
  rw [if_neg (by decide)]
  refine (yields_takeMeta entries).bind fun metadata hmeta =>
    yields_pure ⟨⟨he, ?_, hmeta⟩, trivial⟩
  intro name g hlookup
  rw [lookup_toFinmap, HashMap.lookup_mapValues] at hlookup
  obtain ⟨stored, hstored, rfl⟩ := map_eq_some_iff.mp hlookup
  exact hg name stored hstored

/-- A member of a sorted set is inserted, which keeps the indexes in step. -/
lemma yields_takeScored {zset : SortedSet} (h : zset.Indexed) :
    (takeScored zset).Yields SortedSet.Indexed := by
  refine yields_bind_of_forall fun member => yields_bind_of_forall fun bits => ?_
  dsimp only
  split_ifs
  · exact yields_fail ()
  · exact yields_pure (h.insert member _)

/-- Whatever is read from a payload of the current version is in range, and a sorted set has its
two indexes in step. -/
theorem yields_takeValue (kind : UInt8) :
    (takeValue 3 kind).Yields fun v => InRange v.data.content ∧ v.data.Indexed := by
  unfold takeValue
  split_ifs
  · refine yields_bind_of_forall fun bytes => yields_pure ⟨?_, indexed_string _ _⟩
    rw [content_string]
    trivial
  · exact yields_bind_of_forall fun _ =>
      yields_bind_of_forall fun _ => yields_pure ⟨trivial, trivial⟩
  · exact yields_bind_of_forall fun _ =>
      yields_bind_of_forall fun _ => yields_pure ⟨trivial, trivial⟩
  · refine yields_bind_of_forall fun _ => yields_bind_of_forall fun members =>
      yields_pure ⟨?_, indexed_set _ _⟩
    rw [content_set]
    trivial
  · refine yields_bind_of_forall fun count => ?_
    refine (yields_iterate (fun z hz => yields_takeScored hz) count SortedSet.indexed_empty).bind
      fun zset hzset => yields_pure ⟨trivial, hzset⟩
  · exact yields_takeStream
  · exact yields_fail ()

end results

/-! ## The commands -/

section commands

lemma deserializeStoredValue_serialize (data : ValueData) :
    deserializeStoredValue (serializeStoredValue data) =
      match (takeValue 3 (kindByte data)).run ⟨(), putData data⟩ with
      | .ok (value, ⟨(), []⟩) => some value
      | _ => none := rfl

lemma deserializeStoredValue_of_encodes {data : ValueData} {v : StoredValue}
    (h : Encodes (takeValue 3 (kindByte data)) (putData data) v) :
    deserializeStoredValue (serializeStoredValue data) = some v := by
  have hrun := h () []
  rw [append_nil] at hrun
  rw [deserializeStoredValue_serialize, hrun]

lemma inRange_of_deserializeStoredValue {data : ValueData} {v : StoredValue}
    (h : deserializeStoredValue (serializeStoredValue data) = some v) :
    InRange v.data.content ∧ v.data.Indexed := by
  rw [deserializeStoredValue_serialize] at h
  split at h
  · next value hrun =>
      rw [← Option.some.inj h]
      exact yields_takeValue _ _ _ _ hrun
  · cases h

/-- What `DUMP` answers for a key that is there and has not expired. -/
lemma cmdDump_of_live (err : Bytes → RespFrame) {key : Bytes} {now : Int64} {s : DbShard}
    {v : StoredValue} (hkey : s.data.lookup key = some v)
    (hlive : DbShard.hasExpired v now = false) :
    (cmdDump err [key] now s).2 = .bulkString (some (serializeStoredValue v.data)) := by
  have hpurge : (s.purgeExpiredKey key now).1 = s := by
    rw [DbShard.purgeExpiredKey, hkey, any_some, hlive]
    rfl
  rw [cmdDump, hpurge, hkey]

/-- A call of `RESTORE` in which nothing but the payload can be wrong, and which stores it for some
time: the key is missing or may be replaced. -/
structure Restorable (target ttlRaw : Bytes) (options : List Bytes) (now : Int64) (t : DbShard)
    (ttlMs : Int64) (o : RestoreOptions) : Prop where
  ttl : parseI64 ttlRaw = some ttlMs
  nonneg : ¬ ttlMs < 0
  options : restoreOptions options ⟨false, false⟩ = some o
  free : o.replace = true ∨ (t.purgeExpiredKey target now).1.data.lookup target = none
  future : (restoreExpiry ttlMs o.absttl now).any (· ≤ now) = false

variable {target ttlRaw : Bytes} {options : List Bytes} {now : Int64} {t : DbShard} {ttlMs : Int64}
  {o : RestoreOptions} {payload : Bytes}

/-- `RESTORE` of a payload that is read. -/
lemma cmdRestore_of_some (err : Bytes → RespFrame)
    (h : Restorable target ttlRaw options now t ttlMs o)
    (hsize : payload.length ≤ restoreMaxPayloadBytes) {v : StoredValue}
    (hread : deserializeStoredValue payload = some v) :
    cmdRestore err (target :: ttlRaw :: payload :: options) now t =
      (((t.purgeExpiredKey target now).1.insert target
        { v with rawExpireAtMs := (restoreExpiry ttlMs o.absttl now).getD 0 }).1, .ok) := by
  have hfree : (((t.purgeExpiredKey target now).1.data.lookup target).isSome && !o.replace) =
      false := by
    rcases h.free with hreplace | hnone
    · rw [hreplace, Bool.not_true, Bool.and_false]
    · rw [hnone, isSome_none, Bool.false_and]
  rw [cmdRestore, h.ttl]
  dsimp only
  rw [if_neg h.nonneg, h.options]
  dsimp only
  rw [if_neg (Nat.not_lt.mpr hsize), hread]
  dsimp only
  rw [hfree, h.future]
  rfl

/-- `RESTORE` of a payload that is not. -/
lemma cmdRestore_of_none (err : Bytes → RespFrame)
    (h : Restorable target ttlRaw options now t ttlMs o)
    (hsize : payload.length ≤ restoreMaxPayloadBytes)
    (hread : deserializeStoredValue payload = none) :
    cmdRestore err (target :: ttlRaw :: payload :: options) now t =
      (t, err (ascii "ERR DUMP payload version or checksum are wrong")) := by
  rw [cmdRestore, h.ttl]
  dsimp only
  rw [if_neg h.nonneg, h.options]
  dsimp only
  rw [if_neg (Nat.not_lt.mpr hsize), hread]

/-- `DUMP` of a key and `RESTORE` of what it answered: `RESTORE` succeeds, what it stores has the
content of the key, and the indexes of a stored sorted set are in step. An error is rendered as
some text. -/
def RestoresEqual (render : Bytes → Bytes) (key : Bytes) (nowDump : Int64) (s : DbShard)
    (target ttlRaw : Bytes) (options : List Bytes) (now : Int64) (t : DbShard) : Prop :=
  ∃ payload : Bytes, (cmdDump (.error ∘ render) [key] nowDump s).2 = .bulkString (some payload) ∧
    let restored := cmdRestore (.error ∘ render) (target :: ttlRaw :: payload :: options) now t
    restored.2 = .ok ∧
      (restored.1.data.lookup target).map (fun w => w.data.content) =
        (s.data.lookup key).map (fun v => v.data.content) ∧
      ∀ w, restored.1.data.lookup target = some w → w.data.Indexed

section roundTrip

variable {render : Bytes → Bytes} {key : Bytes} {nowDump : Int64} {s : DbShard} {v : StoredValue}

/-- Only a value in range is. -/
lemma inRange_of_restoresEqual (hkey : s.data.lookup key = some v)
    (hlive : DbShard.hasExpired v nowDump = false)
    (hsize : (serializeStoredValue v.data).length ≤ restoreMaxPayloadBytes)
    (hcall : Restorable target ttlRaw options now t ttlMs o)
    (h : RestoresEqual render key nowDump s target ttlRaw options now t) :
    InRange v.data.content := by
  obtain ⟨payload, hpayload, hreply, hcontent, -⟩ := h
  rw [cmdDump_of_live _ hkey hlive, RespFrame.bulkString.injEq, Option.some.injEq] at hpayload
  subst hpayload
  cases hread : deserializeStoredValue (serializeStoredValue v.data) with
  | none =>
    rw [cmdRestore_of_none _ hcall hsize hread] at hreply
    cases hreply
  | some w =>
    rw [cmdRestore_of_some _ hcall hsize hread, DbShard.data_insert, AList.lookup_insert, hkey,
      map_some, map_some, Option.some.injEq] at hcontent
    have hrange : InRange w.data.content := (inRange_of_deserializeStoredValue hread).1
    rw [← hcontent]
    exact hrange

/-- A value in range is restored as it was. -/
lemma restoresEqual_of_inRange (hkey : s.data.lookup key = some v)
    (hlive : DbShard.hasExpired v nowDump = false) (hinv : Invariants v.data)
    (hsize : (serializeStoredValue v.data).length ≤ restoreMaxPayloadBytes)
    (hcall : Restorable target ttlRaw options now t ttlMs o) (hrange : InRange v.data.content) :
    RestoresEqual render key nowDump s target ttlRaw options now t := by
  -- the payload is shorter than a `u32` can say, so every length in it is written as it is
  have hshort : (putData v.data).length < 2 ^ 32 := by
    have hlimit : restoreMaxPayloadBytes < 2 ^ 32 := by decide
    rw [serializeStoredValue, length_append, length_cons] at hsize
    omega
  obtain ⟨w, hw, hcontent⟩ := exists_encodes hinv hrange hshort
  have hread := deserializeStoredValue_of_encodes hw
  refine ⟨_, cmdDump_of_live _ hkey hlive, ?_, ?_, ?_⟩
  · rw [cmdRestore_of_some _ hcall hsize hread]
  · rw [cmdRestore_of_some _ hcall hsize hread, DbShard.data_insert, AList.lookup_insert, hkey]
    exact congrArg some hcontent
  · intro stored hstored
    rw [cmdRestore_of_some _ hcall hsize hread, DbShard.data_insert, AList.lookup_insert,
      Option.some.injEq] at hstored
    rw [← hstored]
    exact (inRange_of_deserializeStoredValue hread).2

end roundTrip

/-- **`RESTORE` of `DUMP`**: for a value with its invariants and a payload that is not too large,
`RESTORE` succeeds and stores an equal value, with the two indexes of a sorted set in step, exactly
when no ID is negative and the number of entries that were ever added is an `i64`. -/
theorem restore_dump_iff (render : Bytes → Bytes) {key : Bytes} {nowDump : Int64} {s : DbShard}
    {v : StoredValue} (hkey : s.data.lookup key = some v)
    (hlive : DbShard.hasExpired v nowDump = false) (hinv : Invariants v.data)
    (hsize : (serializeStoredValue v.data).length ≤ restoreMaxPayloadBytes)
    {target ttlRaw : Bytes} {options : List Bytes} {now : Int64} {t : DbShard} {ttlMs : Int64}
    {o : RestoreOptions} (hcall : Restorable target ttlRaw options now t ttlMs o) :
    RestoresEqual render key nowDump s target ttlRaw options now t ↔ InRange v.data.content := by
  constructor
  · exact inRange_of_restoresEqual hkey hlive hsize hcall
  · exact restoresEqual_of_inRange hkey hlive hinv hsize hcall

/-- A stream with one entry, of which so many are said to have been added. -/
def countedStream (entriesAdded : UInt64) : StoredValue :=
  ⟨.stream [⟨⟨1, 1⟩, [(ascii "f", ascii "v")]⟩] ∅ ⟨⟨1, 1⟩, entriesAdded, ⟨0, 0⟩⟩, 0⟩

/-- A database with that stream. -/
def countedShard (entriesAdded : UInt64) : DbShard :=
  ⟨AList.insert (ascii "s") (countedStream entriesAdded) ∅, ∅, 0⟩

lemma invariants_countedStream {entriesAdded : UInt64} (h : 1 ≤ entriesAdded) :
    Invariants (countedStream entriesAdded).data where
  few := by decide
  fewFields := by decide
  ascending := pairwise_singleton _ _
  paired := by
    intro g hg
    cases hg
  valid := by
    have hcount : (UInt64.ofNat 1 ≤ entriesAdded) := h
    simp only [StreamMeta.isValidFor, getLast?_singleton, all_some,
      length_singleton, decide_eq_true hcount]
    decide

lemma restorable_empty :
    Restorable (ascii "t") (ascii "0") [] 0 .empty 0 ⟨false, false⟩ where
  ttl := by decide +kernel
  nonneg := by decide
  options := rfl
  free := .inr rfl
  future := rfl

/-- `XSETID` sets the number of entries to `2 ^ 63 - 1` and `XADD` adds one more: `DUMP` writes
`2 ^ 63 - 1` again, and the stream that `RESTORE` stores is not the one that was dumped. -/
theorem entries_added_past_i64_is_clamped :
    Invariants (countedStream 0x8000000000000000).data ∧
      (serializeStoredValue (countedStream 0x8000000000000000).data).length ≤
        restoreMaxPayloadBytes ∧
      Restorable (ascii "t") (ascii "0") [] 0 .empty 0 ⟨false, false⟩ ∧
      ¬ RestoresEqual id (ascii "s") 0 (countedShard 0x8000000000000000) (ascii "t") (ascii "0")
        [] 0 .empty := by
  have hsize : (serializeStoredValue (countedStream 0x8000000000000000).data).length ≤
      restoreMaxPayloadBytes := by decide +kernel
  refine ⟨invariants_countedStream (by decide), hsize, restorable_empty, fun h => ?_⟩
  have hrange := inRange_of_restoresEqual (v := countedStream 0x8000000000000000)
    (AList.lookup_insert _) rfl hsize restorable_empty h
  exact absurd hrange.2.2.added (by decide)

/-- A stream to which five entries were added is restored. -/
theorem restore_dump_of_five :
    RestoresEqual id (ascii "s") 0 (countedShard 5) (ascii "t") (ascii "0") [] 0 .empty := by
  have hsize : (serializeStoredValue (countedStream 5).data).length ≤ restoreMaxPayloadBytes := by
    decide +kernel
  refine (restore_dump_iff id (AList.lookup_insert _) rfl (invariants_countedStream (by decide))
    hsize restorable_empty).mpr ⟨?_, ?_, ?_⟩
  · decide
  · intro name g hg
    cases hg
  · exact ⟨by decide, by decide, by decide⟩

end commands

end Ratatosk.Dump
