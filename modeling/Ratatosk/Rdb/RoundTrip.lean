import Ratatosk.Keyspace.SortedSet
import Ratatosk.Rdb.Loader

/-!
# RDB round trip

Reading back what the writer wrote, and reading a strict prefix of it.

* `Encodes` — the `Decodes` relation of `Lib.Decoder` at the RDB digest; one lemma for each writer
  says that its bytes encode the value for the reader of the same name.
* `DbSound` — what a loaded database keeps: the invariants of its values, and the two indexes of
  every sorted set in step.
* `load_saveSnapshot` — **round trip**, and **every strict prefix fails**.
-/

namespace Ratatosk.Rdb

open Lib Keyspace List AList Function

/-- `bytes` is an encoding of `a` for the reader `d`. -/
abbrev Encodes {α : Type} (d : Reader α) (bytes : Bytes) (a : α) : Prop :=
  Decodes crc64Step d bytes a

/-! ## Primitive readers -/

section primitive

lemma encodes_readBytes {n : Nat} {bytes : Bytes} (h : bytes.length = n) :
    Encodes (readBytes n) bytes bytes := by
  subst h
  exact decodes_read bytes

lemma encodes_readByte (b : UInt8) : Encodes readByte [b] b :=
  (encodes_readBytes rfl : Encodes (readBytes 1) [b] [b]).bind_pure fun buf => buf.headD 0

lemma encodes_readU64 (n : UInt64) : Encodes readU64 (writeU64 n) n := by
  have hraw := encodes_readBytes (length_leBytes 8 n.toNat)
  have hread := hraw.bind_pure fun buf => UInt64.ofNat (ofLeBytes buf)
  rw [ofLeBytes_leBytes (by simpa using n.toNat_lt), UInt64.ofNat_toNat] at hread
  exact hread

lemma encodes_readI64 (n : Int64) : Encodes readI64 (writeI64 n) n := by
  have hraw := encodes_readBytes (length_leBytes 8 n.toUInt64.toNat)
  have hread := hraw.bind_pure fun buf => (UInt64.ofNat (ofLeBytes buf)).toInt64
  rw [ofLeBytes_leBytes (by simpa using n.toUInt64.toNat_lt), UInt64.ofNat_toNat] at hread
  exact hread

lemma encodes_readStreamId (id : StreamId) : Encodes readStreamId (writeStreamId id) id :=
  (encodes_readI64 id.ms).bind ((encodes_readI64 id.seq).bind_pure fun seq => (⟨id.ms, seq⟩ : StreamId))

/-! ### Lengths -/

lemma shortLength_bits : ∀ n : Fin 64,
    (UInt8.ofNat n &&& 0xC0) >>> 6 = 0 ∧ (UInt8.ofNat n &&& 0x3F).toNat = n := by
  decide

lemma mediumLength_bits : ∀ n : Fin 64,
    ((0x40 ||| UInt8.ofNat n) &&& 0xC0) >>> 6 = 1 ∧
      ((0x40 ||| UInt8.ofNat n) &&& 0x3F).toNat = n := by
  decide

/-- The first byte of a written length is not a special encoding, and the rest of it is what the
first byte announces. -/
lemma writeLength_eq_cons {n : Nat} (h : n < usizeLimit) : ∃ first tail,
    writeLength n = first :: tail ∧ (first &&& 0xC0) >>> 6 ≠ 3 ∧
      ∀ bad, Encodes (readLengthAfter first bad) tail n := by
  unfold writeLength
  split_ifs with hshort hmedium hlong
  · obtain ⟨hkind, hvalue⟩ := shortLength_bits ⟨n, hshort⟩
    refine ⟨_, _, rfl, by rw [hkind]; decide, fun bad => ?_⟩
    rw [readLengthAfter, if_pos hkind, hvalue]
    exact decodes_pure n
  · have hhigh : n / 256 < 64 := by omega
    obtain ⟨hkind, hvalue⟩ := mediumLength_bits ⟨n / 256, hhigh⟩
    refine ⟨_, _, rfl, by rw [hkind]; decide, fun bad => ?_⟩
    rw [readLengthAfter, if_neg (by rw [hkind]; decide), if_pos hkind, hvalue]
    have hlow : (UInt8.ofNat (n % 256)).toNat = n % 256 := by
      rw [UInt8.toNat_ofNat']
      omega
    have hjoin : (n / 256) <<< 8 ||| (UInt8.ofNat (n % 256)).toNat = n := by
      rw [hlow, ← Nat.shiftLeft_add_eq_or_of_lt (by omega), Nat.shiftLeft_eq]
      omega
    have hread := (encodes_readByte (UInt8.ofNat (n % 256))).bind_pure fun second =>
      (n / 256) <<< 8 ||| second.toNat
    rw [hjoin] at hread
    exact hread
  · refine ⟨_, _, rfl, by decide, fun bad => ?_⟩
    have hread := (encodes_readBytes (length_beBytes 4 n)).bind_pure ofBeBytes
    rw [ofBeBytes_beBytes (by omega)] at hread
    exact hread
  · refine ⟨_, _, rfl, by decide, fun bad => ?_⟩
    have hread := (encodes_readBytes (length_beBytes 8 n)).bind_pure ofBeBytes
    rw [ofBeBytes_beBytes (by simpa [usizeLimit] using h)] at hread
    exact hread

lemma encodes_readLength {n : Nat} (h : n < usizeLimit) : Encodes readLength (writeLength n) n := by
  obtain ⟨first, tail, hbytes, hkind, htail⟩ := writeLength_eq_cons h
  rw [hbytes]
  refine (encodes_readByte first).bind ?_
  rw [if_neg hkind]
  exact htail _

lemma encodes_readString {s : Bytes} (h : Sized s) :
    Encodes readString (writeString s) s := by
  obtain ⟨first, tail, hbytes, hkind, htail⟩ := writeLength_eq_cons h
  rw [writeString, hbytes]
  refine (encodes_readByte first).bind ?_
  rw [if_neg hkind]
  exact (htail _).bind (encodes_readBytes rfl)

lemma encodes_readCounted {α β : Type} {item : Reader β} {write : α → Bytes} {value : α → β}
    {fits : α → Prop} {items : List α} (h : Counted fits items)
    (hitem : ∀ x ∈ items, fits x → Encodes item (write x) (value x)) :
    Encodes (readCounted item) (writeCounted write items) (items.map value) :=
  (encodes_readLength h.1).bind (decodes_replicate fun x hx => hitem x hx (h.2 x hx))

lemma encodes_readCounted_self {α : Type} {item : Reader α} {write : α → Bytes}
    {fits : α → Prop} {items : List α} (h : Counted fits items)
    (hitem : ∀ x ∈ items, fits x → Encodes item (write x) x) :
    Encodes (readCounted item) (writeCounted write items) items := by
  have hread := encodes_readCounted h hitem
  rw [map_id'] at hread
  exact hread

end primitive

/-! ## Parts of values -/

section parts

lemma encodes_readHashField {withTtl : Bool} {field : Σ _ : Bytes, HashFieldEntry}
    (hfits : Sized field.1 ∧ Sized field.2.value)
    (hmark : withTtl = false → field.2.expireAtMs = none) :
    Encodes (readHashField withTtl) (writeHashField withTtl field) field := by
  obtain ⟨name, value, expireAtMs⟩ := field
  rw [writeHashField, append_assoc]
  refine (encodes_readString hfits.1).bind ((encodes_readString hfits.2).bind ?_)
  cases withTtl with
  | false =>
    obtain rfl : expireAtMs = none := hmark rfl
    exact decodes_pure _
  | true =>
    cases expireAtMs with
    | none =>
      exact (encodes_readByte 0).bind_nil (decodes_pure _)
    | some deadline =>
      refine (encodes_readByte 1).bind ?_
      exact (encodes_readI64 deadline).bind_pure fun deadline =>
        (⟨name, value, some deadline⟩ : Σ _ : Bytes, HashFieldEntry)

lemma encodes_readScored {entry : SortedSetEntry} (hfits : Sized entry.member)
    (hnan : entry.score.isNan = false) :
    Encodes readScored (writeScored entry) (entry.member, entry.score) := by
  refine (encodes_readString hfits).bind ?_
  refine (encodes_readU64 entry.score).bind_nil ?_
  rw [hnan]
  exact decodes_pure _

lemma encodes_readStreamField {field : Bytes × Bytes} (hfits : Sized field.1 ∧ Sized field.2) :
    Encodes readStreamField (writeStreamField field) field :=
  (encodes_readString hfits.1).bind
    ((encodes_readString hfits.2).bind_pure fun value => (field.1, value))

lemma encodes_readStreamEntry {entry : StreamEntry}
    (hfits : Counted (fun f => Sized f.1 ∧ Sized f.2) entry.fields) :
    Encodes readStreamEntry (writeStreamEntry entry) entry := by
  have hfields := encodes_readCounted_self hfits fun f _ hf => encodes_readStreamField hf
  exact (encodes_readStreamId entry.id).bind
    (hfields.bind_pure fun fields => (⟨entry.id, fields⟩ : StreamEntry))

/-- The consumer the reader builds. -/
def reloadConsumer (c : StreamConsumer) : StreamConsumer :=
  ⟨c.seenTimeMs, HashMap.collect (c.pending.keys.map fun id => ⟨id, ()⟩)⟩

lemma encodes_readConsumer {consumer : Σ _ : Bytes, StreamConsumer}
    (hfits : Sized consumer.1 ∧ consumer.2.Fits) :
    Encodes readConsumer (writeConsumer consumer) ⟨consumer.1, reloadConsumer consumer.2⟩ := by
  have hpending := encodes_readCounted_self hfits.2 fun id _ _ => encodes_readStreamId id
  rw [writeConsumer, append_assoc]
  refine (encodes_readString hfits.1).bind ((encodes_readI64 _).bind ?_)
  exact hpending.bind_pure fun pending => (⟨consumer.1, consumer.2.seenTimeMs,
    HashMap.collect (pending.map fun id => ⟨id, ()⟩)⟩ : Σ _ : Bytes, StreamConsumer)

lemma encodes_readPending {pending : Σ _ : StreamId, StreamPendingEntry}
    (hfits : Sized pending.2.consumer) :
    Encodes readPending (writePending pending) pending := by
  rw [writePending, append_assoc, append_assoc]
  refine (encodes_readStreamId _).bind ((encodes_readString hfits).bind
    ((encodes_readI64 _).bind ?_))
  exact (encodes_readI64 _).bind_pure fun lastDeliveredMs => (⟨pending.1, pending.2.consumer,
    pending.2.deliveries, lastDeliveredMs⟩ : Σ _ : StreamId, StreamPendingEntry)

/-- The group the reader builds. -/
def reloadGroup (g : StreamGroup) : StreamGroup :=
  ⟨g.lastDeliveredId, HashMap.collect (g.consumers.mapValues reloadConsumer).entries,
    HashMap.collect g.pending.entries⟩

lemma encodes_readGroup {group : Σ _ : Bytes, StreamGroup}
    (hfits : Sized group.1 ∧ group.2.Fits) :
    Encodes readGroup (writeGroup group) ⟨group.1, reloadGroup group.2⟩ := by
  have hconsumers := encodes_readCounted hfits.2.consumers fun c _ hc => encodes_readConsumer hc
  have hpending := encodes_readCounted_self hfits.2.pending fun p _ hp => encodes_readPending hp
  rw [writeGroup, append_assoc, append_assoc]
  refine (encodes_readString hfits.1).bind ((encodes_readStreamId _).bind (hconsumers.bind ?_))
  exact hpending.bind_pure fun pending => (⟨group.1, group.2.lastDeliveredId,
    HashMap.collect (group.2.consumers.mapValues reloadConsumer).entries,
    HashMap.collect pending⟩ : Σ _ : Bytes, StreamGroup)

lemma encodes_readStreamMeta (metadata : StreamMeta) :
    Encodes readStreamMeta (writeStreamMeta metadata) metadata := by
  rw [writeStreamMeta, append_assoc]
  refine (encodes_readStreamId _).bind ((encodes_readU64 _).bind ?_)
  exact (encodes_readStreamId _).bind_pure fun maxDeletedId =>
    (⟨metadata.lastId, metadata.entriesAdded, maxDeletedId⟩ : StreamMeta)

end parts

/-! ## Values -/

section values

/-- The sorted set the reader builds from the ordered index. -/
def reloadSortedSet (z : SortedSet) : SortedSet :=
  collectScored (z.byScore.map fun e => (e.member, e.score))

/-- The stored value the reader builds from what was written. -/
def reload (expireMs : Option Int64) : ValueData → StoredValue
  | .string bytes => .string bytes expireMs
  | .stringInt n => .string (decimalInt n.toInt) expireMs
  | .list items => .new (.list items) expireMs
  | .set members => .set (HashMap.collect (members.keys.map fun m => ⟨m, ()⟩)) expireMs
  | .setInt members =>
    .set (HashMap.collect ((members.map fun n => decimalInt n.toInt).map fun m => ⟨m, ()⟩))
      expireMs
  | .hash fields => .new (.hash (HashMap.collect fields.entries)) expireMs
  | .sortedSet zset => .new (.sortedSet (reloadSortedSet zset)) expireMs
  | .stream entries groups metadata =>
    .new (.stream entries (HashMap.collect (groups.mapValues reloadGroup).entries) metadata)
      expireMs

lemma sized_decimalInt (n : Int64) : Sized (decimalInt n.toInt) :=
  (length_decimalInt_le n).trans_lt (by decide)

lemma encodes_readHash {fields : HashMap Bytes HashFieldEntry}
    (h : Counted (fun field => Sized field.1 ∧ Sized field.2.value) fields.entries) :
    Encodes (readCounted (readHashField (hasTtl fields)))
      (writeCounted (writeHashField (hasTtl fields)) fields.entries) fields.entries := by
  refine encodes_readCounted_self h fun field hmem hfits =>
    encodes_readHashField hfits fun hnone => ?_
  have hall := any_eq_false.mp hnone field hmem
  exact Option.not_isSome_iff_eq_none.mp hall

lemma encodes_readSortedSet {zset : SortedSet} (hwf : zset.WellFormed)
    (h : Counted (fun e => Sized e.member) zset.byScore) :
    Encodes (readCounted readScored) (writePayload (.sortedSet zset))
      (zset.byScore.map fun e => (e.member, e.score)) := by
  have hlength : zset.byMember.keys.length = zset.byScore.length := by
    rw [hwf.indexes.length_eq, AList.keys, List.keys, length_map, length_map]
  rw [writePayload, hlength]
  exact encodes_readCounted h fun e he hfits => encodes_readScored hfits (hwf.noNan e he)

lemma encodes_readStream {entries : List StreamEntry} {groups : HashMap Bytes StreamGroup}
    {metadata : StreamMeta} (h : (ValueData.stream entries groups metadata).WellFormed)
    (expireMs : Option Int64) :
    Encodes (readStream (typeByte (.stream entries groups metadata)) expireMs)
      (writePayload (.stream entries groups metadata))
      (reload expireMs (.stream entries groups metadata)) := by
  obtain ⟨hvalid, hentries, hgroups⟩ := h
  have hreadEntries := encodes_readCounted_self hentries fun e _ he => encodes_readStreamEntry he
  have hreadGroups := encodes_readCounted hgroups fun g _ hg => encodes_readGroup hg
  rw [writePayload, append_assoc]
  refine hreadEntries.bind ?_
  by_cases hderived : metadata = .derivedFrom entries
  · rw [typeByte, if_pos hderived, if_pos hderived, hderived]
    exact hreadGroups.bind (decodes_pure _)
  · rw [typeByte, if_neg hderived, if_neg hderived]
    refine hreadGroups.bind ((encodes_readStreamMeta metadata).bind_nil ?_)
    rw [if_pos hvalid]
    exact decodes_pure _

/-- The two hash types differ in the field reader only. -/
lemma readValue_hash (withTtl : Bool) (expireMs : Option Int64) :
    readValue (if withTtl then 128 else 4) expireMs = (do
      let fields ← readCounted (readHashField withTtl)
      return StoredValue.new (.hash (HashMap.collect fields)) expireMs) := by
  cases withTtl with
  | false => rfl
  | true => rfl

/-- Each payload is read back as the stored value `reload` names. -/
theorem encodes_readValue {data : ValueData} (h : data.WellFormed) (expireMs : Option Int64) :
    Encodes (readValue (typeByte data) expireMs) (writePayload data) (reload expireMs data) := by
  cases data with
  | string bytes => exact (encodes_readString h).bind_pure fun data => StoredValue.string data expireMs
  | stringInt n =>
    exact (encodes_readString (sized_decimalInt n)).bind_pure fun data => StoredValue.string data expireMs
  | list items =>
    have hitems := encodes_readCounted_self h fun s _ hs => encodes_readString hs
    exact hitems.bind_pure fun items => StoredValue.new (.list items) expireMs
  | set members =>
    have hmembers := encodes_readCounted_self h fun s _ hs => encodes_readString hs
    exact hmembers.bind_pure fun members =>
      StoredValue.set (HashMap.collect (members.map fun m => ⟨m, ()⟩)) expireMs
  | setInt members =>
    have hmembers := encodes_readCounted h fun n _ _ => encodes_readString (sized_decimalInt n)
    exact hmembers.bind_pure fun members =>
      StoredValue.set (HashMap.collect (members.map fun m => ⟨m, ()⟩)) expireMs
  | hash fields =>
    rw [typeByte, readValue_hash]
    exact (encodes_readHash h).bind_pure fun fields =>
      StoredValue.new (.hash (HashMap.collect fields)) expireMs
  | sortedSet zset =>
    exact (encodes_readSortedSet h.1 h.2).bind_pure fun scored =>
      StoredValue.new (.sortedSet (collectScored scored)) expireMs
  | stream entries groups metadata =>
    have hread := encodes_readStream h expireMs
    by_cases hderived : metadata = .derivedFrom entries
    · rw [typeByte, if_pos hderived] at hread ⊢
      exact hread
    · rw [typeByte, if_neg hderived] at hread ⊢
      exact hread

/-! ### The content is kept -/

lemma expireAtMs_new (data : ValueData) (v : StoredValue) :
    (StoredValue.new data v.expireAtMs).expireAtMs = v.expireAtMs := by
  by_cases h : 0 < v.rawExpireAtMs
  · rw [StoredValue.expireAtMs, StoredValue.expireAtMs, if_pos h]
    exact if_pos h
  · rw [StoredValue.expireAtMs, StoredValue.expireAtMs, if_neg h]
    rfl

lemma expireAtMs_string (bytes : Bytes) (v : StoredValue) :
    (StoredValue.string bytes v.expireAtMs).expireAtMs = v.expireAtMs := by
  unfold StoredValue.string
  split
  · exact expireAtMs_new _ v
  · exact expireAtMs_new _ v

lemma expireAtMs_set (members : HashSet Bytes) (v : StoredValue) :
    (StoredValue.set members v.expireAtMs).expireAtMs = v.expireAtMs := by
  unfold StoredValue.set
  split_ifs
  · split
    · exact expireAtMs_new _ v
    · exact expireAtMs_new _ v
  · exact expireAtMs_new _ v

lemma expireAtMs_reload (data : ValueData) (v : StoredValue) :
    (reload v.expireAtMs data).expireAtMs = v.expireAtMs := by
  cases data with
  | string | stringInt => exact expireAtMs_string _ v
  | set | setInt => exact expireAtMs_set _ v
  | list | hash | sortedSet | stream => exact expireAtMs_new _ v

lemma content_reloadConsumer (c : StreamConsumer) : (reloadConsumer c).content = c.content := by
  refine congrArg (Consumer.mk c.seenTimeMs) ?_
  exact (HashMap.keys_collect_unit c.pending.keys).trans (HashMap.toFinset_keys c.pending)

lemma content_reloadGroup (g : StreamGroup) : (reloadGroup g).content = g.content := by
  have hconsumers := HashMap.toFinmap_mapValues_collect
    fun (e : Σ _ : Bytes, StreamConsumer) (_ : e ∈ g.consumers.entries) =>
      content_reloadConsumer e.2
  unfold StreamGroup.content
  rw [reloadGroup, hconsumers, HashMap.toFinmap_collect]

/-- Inserting a score: what the map answers afterwards. -/
lemma lookup_byMember_insert (z : SortedSet) {score : Score} (hnan : score.isNan = false)
    (member key : Bytes) :
    (z.insert member score).byMember.lookup key =
      (z.byMember.insert member score).lookup key := by
  unfold SortedSet.insert
  rw [if_neg (by simp [hnan])]
  split
  · next old hold =>
      split_ifs with hsame
      · -- the score is unchanged, and so is the map
        by_cases hkey : key = member
        · rw [hkey, lookup_insert, hold, hsame]
        · rw [lookup_insert_ne hkey]
      · rfl
  · rfl

lemma lookup_byMember_foldl_insert {entries : List SortedSetEntry}
    (hnan : ∀ e ∈ entries, e.score.isNan = false) {z : SortedSet} {m : HashMap Bytes Score}
    (hsame : ∀ key, z.byMember.lookup key = m.lookup key) (key : Bytes) :
    ((entries.map fun e => (e.member, e.score)).foldl (fun z e => z.insert e.1 e.2) z).byMember.lookup
        key =
      ((entries.map fun e => (⟨e.member, e.score⟩ : Σ _ : Bytes, Score)).foldl
        (fun m e => m.insert e.1 e.2) m).lookup key := by
  induction entries generalizing z m with
  | nil => exact hsame key
  | cons e entries ih =>
    refine ih (fun e' he' => hnan e' (mem_cons_of_mem _ he')) fun key => ?_
    rw [lookup_byMember_insert z (hnan e mem_cons_self)]
    by_cases hkey : key = e.member
    · rw [hkey, lookup_insert, lookup_insert]
    · rw [lookup_insert_ne hkey, lookup_insert_ne hkey, hsame]

lemma toFinmap_reloadSortedSet {z : SortedSet} (h : z.WellFormed) :
    (reloadSortedSet z).byMember.toFinmap = z.byMember.toFinmap := by
  have hpairs : (z.byScore.map fun e => (⟨e.member, e.score⟩ : Σ _ : Bytes, Score)).Perm
      z.byMember.entries := by
    have hmap := h.indexes.map fun e => (⟨e.member, e.score⟩ : Σ _ : Bytes, Score)
    rw [map_map] at hmap
    exact hmap.trans (List.Perm.of_eq (map_id _))
  have hnodup := (perm_nodupKeys hpairs).mpr z.byMember.nodupKeys
  apply Finmap.ext_lookup
  intro key
  rw [Finmap.lookup_toFinmap, Finmap.lookup_toFinmap, reloadSortedSet, collectScored,
    lookup_byMember_foldl_insert h.noNan (fun _ => rfl), HashMap.lookup_foldl_insert hnodup,
    perm_dlookup key hnodup hpairs]
  exact Option.or_none

/-- What the reader builds has the content that was written. -/
lemma content_reload {data : ValueData} (h : data.WellFormed) (expireMs : Option Int64) :
    (reload expireMs data).data.content = data.content := by
  cases data with
  | string bytes => exact content_string bytes expireMs
  | stringInt n => exact content_string (decimalInt n.toInt) expireMs
  | list items => rfl
  | set members =>
    refine (content_set _ expireMs).trans (congrArg Value.set ?_)
    exact (HashMap.keys_collect_unit members.keys).trans (HashMap.toFinset_keys members)
  | setInt members =>
    refine (content_set _ expireMs).trans (congrArg Value.set ?_)
    exact HashMap.keys_collect_unit _
  | hash fields => exact congrArg Value.hash (HashMap.toFinmap_collect fields)
  | sortedSet zset => exact congrArg Value.sortedSet (toFinmap_reloadSortedSet h.1)
  | stream entries groups metadata =>
    exact congrArg (Value.stream entries · metadata)
      (HashMap.toFinmap_mapValues_collect fun g _ => content_reloadGroup g.2)

/-! ### The invariants are kept -/

/-- The string constructor keeps a string that fits. -/
lemma wellFormed_string {bytes : Bytes} (h : Sized bytes) (expireMs : Option Int64) :
    (StoredValue.string bytes expireMs).data.WellFormed := by
  unfold StoredValue.string
  split
  · trivial
  · exact h

lemma length_sortDedup_le (ints : List Int64) : (sortDedup ints).length ≤ ints.length :=
  (dedup_sublist _).length_le.trans (length_insertionSort _ _).le

/-- The set constructor keeps members that fit, whichever encoding it takes. -/
lemma wellFormed_set {members : HashSet Bytes} (h : Counted Sized members.keys)
    (expireMs : Option Int64) : (StoredValue.set members expireMs).data.WellFormed := by
  unfold StoredValue.set
  split_ifs with hfew
  · cases hints : members.keys.mapM bytesToIntsetMember with
    | none => exact h
    | some ints =>
      have hlength : ints.length = members.keys.length := by
        rw [← map_decimalInt_of_mapM hints, length_map]
      refine ⟨?_, fun _ _ => trivial⟩
      exact (length_sortDedup_le ints).trans_lt (hlength ▸ h.1)
  · exact h

/-- Members that fit are collected into a set that fits. -/
lemma counted_keys_collect {κ : Type} [DecidableEq κ] {fits : κ → Prop} {members : List κ}
    (h : Counted fits members) :
    Counted fits (HashMap.collect (members.map fun m => (⟨m, ()⟩ : Σ _ : κ, Unit))).keys := by
  have hentries : Counted (fun e => fits e.1)
      (members.map fun m => (⟨m, ()⟩ : Σ _ : κ, Unit)) := h.map fun _ _ hm => hm
  exact hentries.collect.map fun _ _ he => he

/-- The consumer the reader builds fits if the one that was written does. -/
lemma StreamConsumer.Fits.reload {c : StreamConsumer} (h : c.Fits) : (reloadConsumer c).Fits :=
  counted_keys_collect h

lemma StreamGroup.Fits.reload {g : StreamGroup} (h : g.Fits) : (reloadGroup g).Fits where
  consumers := (h.consumers.map fun _ _ hc => ⟨hc.1, StreamConsumer.Fits.reload hc.2⟩).collect
  pending := h.pending.collect

/-- A sorted set is rebuilt by insertions, which keep its indexes in step. -/
lemma indexed_collectScored (scored : List (Bytes × Score)) : (collectScored scored).Indexed := by
  unfold collectScored
  exact List.foldlRecOn (motive := SortedSet.Indexed) _ _ SortedSet.indexed_empty
    fun z hz e _ => hz.insert e.1 e.2

/-- The ordered index that is read back has the pairs that were written. -/
lemma byScore_reloadSortedSet {z : SortedSet} (h : z.WellFormed) :
    (reloadSortedSet z).byScore.Perm z.byScore := by
  have hpairs := (AList.toFinmap_eq.mp (toFinmap_reloadSortedSet h)).map SortedSetEntry.ofPair
  exact ((indexed_collectScored _).indexes.trans hpairs).trans h.indexes.symm

/-- What the reader builds satisfies the invariants of what was written. -/
lemma wellFormed_reload {data : ValueData} (h : data.WellFormed) (expireMs : Option Int64) :
    (reload expireMs data).data.WellFormed := by
  cases data with
  | string bytes => exact wellFormed_string h expireMs
  | stringInt n =>
    rw [reload, StoredValue.string, parseIntString_decimalInt]
    trivial
  | list items => exact h
  | set members => exact wellFormed_set (counted_keys_collect h) expireMs
  | setInt members =>
    exact wellFormed_set (counted_keys_collect (h.map fun n _ _ => sized_decimalInt n)) expireMs
  | hash fields => exact Counted.collect h
  | sortedSet zset =>
    have hperm := byScore_reloadSortedSet h.1
    refine ⟨(indexed_collectScored _).toWellFormed, ?_, ?_⟩
    · exact hperm.length_eq.trans_lt h.2.1
    · intro e he
      exact h.2.2 e (hperm.mem_iff.mp he)
  | stream entries groups metadata =>
    refine ⟨h.1, h.2.1, ?_⟩
    exact (h.2.2.map fun _ _ hg => ⟨hg.1, StreamGroup.Fits.reload hg.2⟩).collect

/-- A sorted set that the reader builds has its indexes in step. -/
lemma indexed_reload (data : ValueData) (expireMs : Option Int64) :
    (reload expireMs data).data.Indexed := by
  cases data with
  | string | stringInt => exact indexed_string _ expireMs
  | set | setInt => exact indexed_set _ expireMs
  | sortedSet zset => exact indexed_collectScored _
  | list | hash | stream => trivial

/-- A key's value and expiry, written and read back, are what they were. -/
theorem entry_reload {v : StoredValue} (h : v.data.WellFormed) :
    (reload v.expireAtMs v.data).entry = v.entry := by
  unfold StoredValue.entry
  rw [content_reload h, expireAtMs_reload]

end values

/-! ## The opcode loop -/

section opcodes

variable {s : LoadState}

/-- `bytes` takes the opcode loop from `s` to `s'`, in at most one turn a byte. -/
def Advances (bytes : Bytes) (s s' : LoadState) : Prop :=
  ∃ turns ≤ bytes.length, ∀ fuel g rest,
    (loadLoop (turns + fuel) s).run ⟨g, bytes ++ rest⟩ =
      (loadLoop fuel s').run ⟨bytes.foldl crc64Step g, rest⟩

lemma Advances.refl (s : LoadState) : Advances [] s s := by
  refine ⟨0, le_refl 0, ?_⟩
  intro fuel g rest
  rw [Nat.zero_add]
  rfl

lemma Advances.trans {bytes bytes' : Bytes} {s' s'' : LoadState} (h : Advances bytes s s')
    (h' : Advances bytes' s' s'') : Advances (bytes ++ bytes') s s'' := by
  obtain ⟨turns, hturns, hrun⟩ := h
  obtain ⟨turns', hturns', hrun'⟩ := h'
  refine ⟨turns + turns', ?_, ?_⟩
  · rw [length_append]
    exact Nat.add_le_add hturns hturns'
  · intro fuel g rest
    rw [Nat.add_assoc, append_assoc, hrun, hrun', List.foldl_append]

lemma advances_record {opcode : UInt8} {bytes : Bytes} {s' : LoadState} (hop : opcode ≠ 0xFF)
    (h : Encodes (loadRecord opcode s) bytes s') : Advances (opcode :: bytes) s s' := by
  refine ⟨1, Nat.succ_le_succ (Nat.zero_le _), ?_⟩
  intro fuel g rest
  rw [Nat.add_comm, loadLoop]
  have hbyte := encodes_readByte opcode g (bytes ++ rest)
  rw [singleton_append] at hbyte
  rw [cons_append, Decoder.run_bind_of_ok hbyte, if_neg hop, Decoder.run_bind_of_ok (h _ rest)]
  rfl

lemma advances_aux {key value : Bytes} (hkey : Sized key) (hvalue : Sized value) (s : LoadState) :
    Advances (writeAux key value) s s := by
  apply advances_record (by decide)
  exact (encodes_readString hkey).bind ((encodes_readString hvalue).bind_pure fun _ => s)

lemma advances_selectDb {idx : Nat} (hidx : idx < dbCount) (s : LoadState) :
    Advances (0xFE :: writeLength idx) s { s with currentDb := ⟨idx, hidx⟩ } := by
  apply advances_record (by decide)
  have hfits : idx < usizeLimit := hidx.trans (by decide)
  refine (encodes_readLength hfits).bind_nil ?_
  rw [dif_pos hidx]
  exact decodes_pure _

lemma advances_resizeDb {size expires : Nat} (hsize : size < usizeLimit)
    (hexpires : expires < usizeLimit) (s : LoadState) :
    Advances (0xFB :: (writeLength size ++ writeLength expires)) s s := by
  apply advances_record (by decide)
  exact (encodes_readLength hsize).bind ((encodes_readLength hexpires).bind_pure fun _ => s)

lemma advances_expireTime (deadline : Int64) (s : LoadState) :
    Advances (0xFC :: writeI64 deadline) s { s with nextExpireMs := some deadline } := by
  apply advances_record (by decide)
  exact (encodes_readI64 deadline).bind_pure fun expireMs =>
    ({ s with nextExpireMs := some expireMs } : LoadState)

/-- Type bytes are below every opcode. -/
lemma typeByte_lt (data : ValueData) : typeByte data < 0xFA := by
  unfold typeByte
  split
  case h_6 | h_8 => split_ifs <;> decide
  all_goals decide

lemma typeByte_ne {data : ValueData} {opcode : UInt8} (h : 0xFA ≤ opcode) :
    typeByte data ≠ opcode := by
  intro heq
  exact absurd (typeByte_lt data) (UInt8.not_lt.mpr (heq ▸ h))

lemma advances_typed {key : Bytes} {data : ValueData} (hkey : Sized key) (hdata : data.WellFormed)
    (s : LoadState) :
    Advances (typeByte data :: (writeString key ++ writePayload data)) s
      (s.insert key (reload s.nextExpireMs data)) := by
  apply advances_record (typeByte_ne (by decide))
  rw [loadRecord, if_neg (typeByte_ne (by decide)), if_neg (typeByte_ne (by decide)),
    if_neg (typeByte_ne (by decide)), if_neg (typeByte_ne (by decide)),
    if_neg (typeByte_ne (by decide))]
  exact (encodes_readString hkey).bind
    ((encodes_readValue hdata s.nextExpireMs).bind_pure fun value => s.insert key value)

/-- The stored value that is read back for a stored value. -/
def reloadStored (v : StoredValue) : StoredValue := reload v.expireAtMs v.data

/-- A database that was loaded: its values satisfy the invariants and the indexes of its sorted
sets are in step. -/
structure DbSound (db : HashMap Bytes StoredValue) : Prop where
  wellFormed : DbWellFormed db
  indexed : ∀ item ∈ db.entries, item.2.data.Indexed

lemma dbSound_empty : DbSound ∅ where
  wellFormed := ⟨by decide, fun _ h => absurd h not_mem_nil⟩
  indexed := fun _ h => absurd h not_mem_nil

/-- The database that is read back is sound. -/
lemma dbSound_reload {db : HashMap Bytes StoredValue} (h : DbWellFormed db) :
    DbSound (HashMap.collect (db.mapValues reloadStored).entries) where
  wellFormed := Counted.collect (h.map fun _ _ hitem => ⟨hitem.1, wellFormed_reload hitem.2 _⟩)
  indexed := by
    have hall : Counted (fun item : Σ _ : Bytes, StoredValue => item.2.data.Indexed)
        (db.mapValues reloadStored).entries := h.map fun item _ _ => indexed_reload item.2.data _
    exact hall.collect.2

lemma advances_keyValue {item : Σ _ : Bytes, StoredValue}
    (hitem : Sized item.1 ∧ item.2.data.WellFormed) (hs : s.nextExpireMs = none) :
    Advances (writeKeyValue item) s (s.insert item.1 (reloadStored item.2)) := by
  unfold writeKeyValue reloadStored
  cases item.2.expireAtMs with
  | none =>
    have htyped := advances_typed hitem.1 hitem.2 s
    rw [hs] at htyped
    exact htyped
  | some deadline =>
    exact (advances_expireTime deadline s).trans (advances_typed hitem.1 hitem.2 _)

/-- The items of a database: all of them are inserted into the current one. -/
lemma advances_items {items : List (Σ _ : Bytes, StoredValue)}
    (hitems : ∀ item ∈ items, Sized item.1 ∧ item.2.data.WellFormed) (hs : s.nextExpireMs = none) :
    Advances (items.flatMap writeKeyValue) s
      { s with dbs := Function.update s.dbs s.currentDb
                ((items.map fun e => (⟨e.1, reloadStored e.2⟩ : Σ _ : Bytes, StoredValue)).foldl
                  (fun m e => m.insert e.1 e.2) (s.dbs s.currentDb)) } := by
  induction items generalizing s with
  | nil =>
    rw [map_nil, foldl_nil, update_eq_self]
    exact Advances.refl s
  | cons item items ih =>
    have hhead := advances_keyValue (hitems item mem_cons_self) hs
    have htail := ih (fun e he => hitems e (mem_cons_of_mem _ he))
      (s := s.insert item.1 (reloadStored item.2)) rfl
    have hboth := hhead.trans htail
    simp only [LoadState.insert, update_self, update_idem] at hboth
    rw [flatMap_cons, map_cons, foldl_cons]
    rw [hs]
    exact hboth

lemma advances_db {idx : Nat} (hidx : idx < dbCount) {db : HashMap Bytes StoredValue}
    (hdb : DbWellFormed db) (hs : s.nextExpireMs = none) (hempty : s.dbs ⟨idx, hidx⟩ = ∅) :
    Advances (writeDb idx db) s
      ⟨Function.update s.dbs ⟨idx, hidx⟩ (HashMap.collect (db.mapValues reloadStored).entries),
        ⟨idx, hidx⟩, none⟩ := by
  have hsize : db.keys.length < usizeLimit := by
    rw [AList.keys, List.keys, length_map]
    exact hdb.1
  have hexpires : db.entries.countP (fun item => item.2.expireAtMs.isSome) < usizeLimit :=
    countP_le_length.trans_lt hdb.1
  have hitems := advances_items hdb.2 (s := { s with currentDb := ⟨idx, hidx⟩ }) hs
  have hall := ((advances_selectDb hidx s).trans (advances_resizeDb hsize hexpires _)).trans hitems
  simp only [hempty, hs] at hall
  exact hall

/-- The content after the databases from index `n` on: theirs, over what was there below. -/
lemma advances_dbs {dbs : DbSnapshot} {n : Nat} (hlength : n + dbs.length ≤ dbCount)
    (hdbs : ∀ db ∈ dbs, DbWellFormed db) (hs : s.nextExpireMs = none)
    (hempty : ∀ i : Fin dbCount, n ≤ i.val → s.dbs i = ∅) :
    ∃ s', Advances (writeDbs n dbs) s s' ∧
      (∀ i : Fin dbCount, i.val < n → s'.dbs i = s.dbs i) ∧
      ∀ i : Fin dbCount, n ≤ i.val →
        dbContent (s'.dbs i) = dbContent (dbs[i.val - n]?.getD ∅) ∧ DbSound (s'.dbs i) := by
  induction dbs generalizing n s with
  | nil =>
    refine ⟨s, Advances.refl s, fun _ _ => rfl, ?_⟩
    intro i hi
    rw [hempty i hi]
    exact ⟨rfl, dbSound_empty⟩
  | cons db dbs ih =>
    rw [length_cons] at hlength
    have hn : n < dbCount := by omega
    -- the state after this database, written or skipped, has its content at `n`
    obtain ⟨mid, hmid, hnext, hbelow, hat, habove⟩ : ∃ mid,
        Advances (if db.entries = [] then [] else writeDb n db) s mid ∧
        mid.nextExpireMs = none ∧ (∀ i : Fin dbCount, i.val < n → mid.dbs i = s.dbs i) ∧
        (dbContent (mid.dbs ⟨n, hn⟩) = dbContent db ∧ DbSound (mid.dbs ⟨n, hn⟩)) ∧
        ∀ i : Fin dbCount, n + 1 ≤ i.val → mid.dbs i = ∅ := by
      have hwf := hdbs db mem_cons_self
      by_cases hskip : db.entries = []
      · rw [if_pos hskip]
        have hdb : db = ∅ := AList.ext hskip
        refine ⟨s, Advances.refl s, hs, fun _ _ => rfl, ?_, ?_⟩
        · rw [hempty ⟨n, hn⟩ le_rfl, hdb]
          exact ⟨rfl, dbSound_empty⟩
        · intro i hi
          exact hempty i (by omega)
      · rw [if_neg hskip]
        refine ⟨_, advances_db hn hwf hs (hempty _ le_rfl), rfl, ?_, ?_, ?_⟩
        · intro i hi
          exact update_of_ne (Fin.ne_of_lt hi) _ _
        · simp only [update_self]
          exact ⟨HashMap.toFinmap_mapValues_collect fun e he => entry_reload (hwf.2 e he).2,
            dbSound_reload hwf⟩
        · intro i hi
          have hne : i ≠ ⟨n, hn⟩ := fun h => by
            rw [h] at hi
            exact Nat.not_succ_le_self n hi
          exact (update_of_ne hne _ _).trans (hempty i (by omega))
    obtain ⟨s', hs', hkeep, hrest⟩ := ih (n := n + 1) (by omega)
      (fun db hdb => hdbs db (mem_cons_of_mem _ hdb)) hnext habove
    refine ⟨s', hmid.trans hs', ?_, ?_⟩
    · intro i hi
      rw [hkeep i (by omega), hbelow i hi]
    · intro i hi
      rcases Nat.eq_or_lt_of_le hi with heq | hlt
      · have hi' : i = ⟨n, hn⟩ := Fin.ext heq.symm
        rw [hkeep i (by omega), hi', hat.1]
        exact ⟨by simp, hat.2⟩
      · have hsub : i.val - n = (i.val - (n + 1)) + 1 := by omega
        rw [hsub, getElem?_cons_succ]
        exact hrest i hlt

end opcodes

/-! ## Files -/

section files

variable {snapshot : DbSnapshot}

/-- The content of loaded databases. -/
def loadedContent (dbs : Fin dbCount → HashMap Bytes StoredValue) : Databases :=
  fun i => dbContent (dbs i)

lemma encodes_readHeader : Encodes readHeader (magic ++ versionStr) () := by
  have hmagic : magic.length = 5 := rfl
  have hversion : versionStr.length = 4 := rfl
  refine (encodes_readBytes hmagic).bind ?_
  rw [if_neg (by decide)]
  exact (encodes_readBytes hversion).bind_nil (decodes_pure ())

/-- The records of a file: everything between the version and the end marker. -/
def fileRecords (snapshot : DbSnapshot) : Bytes :=
  writeAux (ascii "redis-ver") (ascii "7.0.0") ++
    writeAux (ascii "ratatosk-ver") (ascii "0.1.0") ++ writeDbs 0 snapshot

lemma snapshotBody_eq (snapshot : DbSnapshot) :
    snapshotBody snapshot = (magic ++ versionStr) ++ (fileRecords snapshot ++ [0xFF]) := by
  simp only [snapshotBody, writePreamble, fileRecords, append_assoc]

lemma crc64_snapshotBody (snapshot : DbSnapshot) :
    crc64 (snapshotBody snapshot) = crc64Step
      ((fileRecords snapshot).foldl crc64Step ((magic ++ versionStr).foldl crc64Step 0)) 0xFF := by
  rw [snapshotBody_eq, crc64, List.foldl_append, List.foldl_append]
  rfl

/-- The records of a well-formed snapshot load its content, into sound databases. -/
lemma advances_fileRecords (h : SnapshotWellFormed snapshot) :
    ∃ s, Advances (fileRecords snapshot) .initial s ∧
      loadedContent s.dbs = snapshotContent snapshot ∧ ∀ i, DbSound (s.dbs i) := by
  have hlength : 0 + snapshot.length ≤ dbCount := by
    rw [Nat.zero_add]
    exact h.1
  obtain ⟨s, hs, -, hcontent⟩ := advances_dbs hlength h.2 (s := LoadState.initial) rfl
    fun _ _ => rfl
  have hredis : Advances (writeAux (ascii "redis-ver") (ascii "7.0.0")) .initial .initial :=
    advances_aux (by decide) (by decide) _
  have hserver : Advances (writeAux (ascii "ratatosk-ver") (ascii "0.1.0")) .initial .initial :=
    advances_aux (by decide) (by decide) _
  refine ⟨s, (hredis.trans hserver).trans hs, ?_, ?_⟩
  · funext i
    exact (hcontent i (Nat.zero_le _)).1
  · intro i
    exact (hcontent i (Nat.zero_le _)).2

lemma run_loadEof (s : LoadState) (g : UInt64) :
    (loadEof s).run ⟨g, writeU64 g⟩ = .ok (s, ⟨g, []⟩) := by
  have hraw : (Decoder.readRaw 8 : Reader Bytes).run ⟨g, writeU64 g ++ []⟩ =
      .ok (writeU64 g, ⟨g, []⟩) := run_readRaw (length_leBytes 8 g.toNat) g []
  rw [append_nil] at hraw
  have hstored : UInt64.ofNat (ofLeBytes (writeU64 g)) = g := by
    rw [writeU64, ofLeBytes_leBytes (by simpa using g.toNat_lt), UInt64.ofNat_toNat]
  have hdigest : (Decoder.digest : Reader UInt64).run ⟨g, writeU64 g⟩ =
      .ok (g, ⟨g, writeU64 g⟩) := rfl
  rw [loadEof, Decoder.run_bind_of_ok hdigest, Decoder.run_bind_of_ok hraw]
  simp only [hstored, ne_eq, not_true_eq_false, and_false, if_false]
  rfl

lemma run_loadLoop_eof (k : Nat) (s : LoadState) (g : UInt64) (rest : Bytes) :
    (loadLoop (k + 1) s).run ⟨g, [0xFF] ++ rest⟩ = (loadEof s).run ⟨crc64Step g 0xFF, rest⟩ := by
  rw [loadLoop, Decoder.run_bind_of_ok (encodes_readByte 0xFF g rest), if_pos rfl]
  rfl

/-- A file of a well-formed snapshot is read to its end, with any fuel above its length. -/
lemma run_loadFile (h : SnapshotWellFormed snapshot) {fuel : Nat}
    (hfuel : (saveSnapshot snapshot).length < fuel) :
    ∃ s c, (loadFile fuel).run ⟨0, saveSnapshot snapshot⟩ = .ok (s, c) ∧ c.rest = [] ∧
      loadedContent s.dbs = snapshotContent snapshot ∧ ∀ i, DbSound (s.dbs i) := by
  obtain ⟨s, ⟨turns, hturns, hrun⟩, hcontent⟩ := advances_fileRecords h
  have hbytes : saveSnapshot snapshot = (magic ++ versionStr) ++
      (fileRecords snapshot ++ ([0xFF] ++ writeU64 (crc64 (snapshotBody snapshot)))) := by
    rw [saveSnapshot]
    nth_rewrite 1 [snapshotBody_eq]
    simp only [append_assoc]
  have hlength := congrArg List.length hbytes
  simp only [length_append, length_singleton] at hlength
  obtain ⟨k, rfl⟩ : ∃ k, fuel = turns + (k + 1) := ⟨fuel - turns - 1, by omega⟩
  refine ⟨s, ⟨crc64 (snapshotBody snapshot), []⟩, ?_, rfl, hcontent⟩
  have hheader := encodes_readHeader 0
    (fileRecords snapshot ++ ([0xFF] ++ writeU64 (crc64 (snapshotBody snapshot))))
  rw [← hbytes] at hheader
  rw [loadFile, Decoder.run_bind_of_ok hheader, hrun, run_loadLoop_eof, ← crc64_snapshotBody]
  exact run_loadEof s _

/-- What is loaded back has the content that was written, in sound databases. -/
lemma load_saveSnapshot (h : SnapshotWellFormed snapshot) :
    ∃ dbs, load (saveSnapshot snapshot) = .ok dbs ∧
      loadedContent dbs = snapshotContent snapshot ∧ ∀ i, DbSound (dbs i) := by
  obtain ⟨s, c, hrun, -, hcontent⟩ := run_loadFile h (Nat.lt_succ_self _)
  refine ⟨s.dbs, ?_, hcontent⟩
  rw [load, hrun]

/-- A cut file is refused: it ends before the reader is done. -/
lemma load_strictPrefix (h : SnapshotWellFormed snapshot) {cut : Bytes}
    (hcut : StrictPrefix cut (saveSnapshot snapshot)) : ∃ e, load cut = .error e := by
  obtain ⟨s, c, hrun, hrest, -⟩ := run_loadFile h (Nat.lt_succ_self _)
  cases hload : load cut with
  | error e => exact ⟨e, rfl⟩
  | ok dbs =>
    -- a success on the cut would be one with the fuel of the whole file, which reads it all
    obtain ⟨used, hused, -, hfail⟩ := (loadFile _).sequential _ _ _ hrun
    simp only [hrest, append_nil] at hused
    have hnone := hfail cut (hused ▸ hcut)
    unfold load at hload
    split at hload
    · next s' c' hcutRun =>
        have hlength := hcut.length_lt
        have hmono := loadFile_mono (Nat.succ_le_succ hlength.le) hcutRun
        rw [hnone] at hmono
        cases hmono
    · cases hload

/-- **RDB round trip.** What `save_snapshot` writes is loaded back with the same content, every
loaded value satisfies its invariants (both indexes of a sorted set hold the same pairs, the
ordered one in order), and no strict prefix of the file is loaded at all. -/
theorem load_saveSnapshot_and_strictPrefix (snapshot : DbSnapshot)
    (h : SnapshotWellFormed snapshot) :
    (∃ dbs, load (saveSnapshot snapshot) = .ok dbs ∧
      loadedContent dbs = snapshotContent snapshot ∧ ∀ i, DbSound (dbs i)) ∧
    ∀ cut, StrictPrefix cut (saveSnapshot snapshot) → ∃ e, load cut = .error e := by
  refine ⟨load_saveSnapshot h, ?_⟩
  intro cut hcut
  exact load_strictPrefix h hcut

/-- A sorted set of two members. -/
def sampleSortedSet : SortedSet :=
  collectScored [(ascii "b", 0x3FF0000000000000), (ascii "a", 0x4000000000000000)]

/-- A hash with an expiring field, a stream with a group whose last entry was deleted, and a
sorted set. -/
def sampleSnapshot : DbSnapshot :=
  [AList.singleton (ascii "h") ⟨.hash (AList.singleton (ascii "f") ⟨ascii "v", some 7⟩), 900⟩,
    AList.singleton (ascii "s") ⟨.stream [⟨⟨1, 0⟩, [(ascii "a", ascii "b")]⟩]
      (AList.singleton (ascii "g") ⟨⟨1, 0⟩,
        AList.singleton (ascii "c") ⟨5, AList.singleton ⟨1, 0⟩ ()⟩,
        AList.singleton ⟨1, 0⟩ ⟨ascii "c", 1, 5⟩⟩)
      ⟨⟨2, 0⟩, 2, ⟨2, 0⟩⟩, 0⟩,
    AList.singleton (ascii "z") ⟨.sortedSet sampleSortedSet, 0⟩]

lemma sampleSnapshot_wellFormed : SnapshotWellFormed sampleSnapshot := by
  have hgroup : StreamGroup.Fits ⟨⟨1, 0⟩,
      AList.singleton (ascii "c") ⟨5, AList.singleton ⟨1, 0⟩ ()⟩,
      AList.singleton ⟨1, 0⟩ ⟨ascii "c", 1, 5⟩⟩ :=
    ⟨counted_singleton.mpr ⟨by decide, counted_singleton.mpr trivial⟩,
      counted_singleton.mpr (by decide)⟩
  refine ⟨by decide, ?_⟩
  intro db hdb
  rcases mem_cons.mp hdb with rfl | hdb
  · exact counted_singleton.mpr ⟨by decide, counted_singleton.mpr (by decide)⟩
  rcases mem_cons.mp hdb with rfl | hdb
  · refine counted_singleton.mpr ⟨by decide, by decide, ?_, ?_⟩
    · exact counted_singleton.mpr (counted_singleton.mpr (by decide))
    · exact counted_singleton.mpr ⟨by decide, hgroup⟩
  · obtain rfl := mem_singleton.mp hdb
    refine counted_singleton.mpr ⟨by decide, (indexed_collectScored _).toWellFormed, ?_⟩
    exact ⟨by decide, by decide⟩

theorem load_saveSnapshot_sample : ∃ dbs, load (saveSnapshot sampleSnapshot) = .ok dbs ∧
    loadedContent dbs = snapshotContent sampleSnapshot ∧ DbSound (dbs ⟨2, by decide⟩) := by
  obtain ⟨dbs, hload, hcontent, hsound⟩ :=
    (load_saveSnapshot_and_strictPrefix sampleSnapshot sampleSnapshot_wellFormed).1
  exact ⟨dbs, hload, hcontent, hsound _⟩

end files

end Ratatosk.Rdb
