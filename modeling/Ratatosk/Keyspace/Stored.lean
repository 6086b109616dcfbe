import Ratatosk.Keyspace.Value
import Ratatosk.Lib.HashMap

/-!
# The representation of stored values

`ValueData` and `StoredValue` of `ratatosk-engine/src/keyspace.rs`, with their constructors and
the logical content they stand for.

* Containers are hash maps with their iteration order (`Lib.HashMap`): what an encoder writes
  depends on the order, what a value means does not.
* `parseIntString` and `StoredValue.string` — the integer encoding of strings;
  `content_string` says it is lossless.
* `ValueData.WellFormed` — the invariants of stored values; `SortedSet.wellFormed_insert` says
  that sorted sets keep theirs.

The packed encoding tag and LRU clock of a stored value have no part in its content and are left
out.
-/

namespace Ratatosk.Keyspace

open Lib List Option

/-! ## Representation -/

/-- Source: `StreamConsumer` -/
structure StreamConsumer where
  seenTimeMs : Int64
  pending : HashSet StreamId

/-- Source: `StreamGroup` -/
structure StreamGroup where
  lastDeliveredId : StreamId
  consumers : HashMap Bytes StreamConsumer
  pending : HashMap StreamId StreamPendingEntry

/-- Source: `SortedSetEntry` -/
structure SortedSetEntry where
  score : Score
  member : Bytes
  deriving Repr, DecidableEq

/-- The bits of an `f64`, mapped so that `total_cmp` is the order of the result. -/
def Score.totalKey (s : Score) : UInt64 :=
  if s &&& 0x8000000000000000 == 0 then s ||| 0x8000000000000000 else ~~~s

/-- Source: `SortedSetEntry` `Ord` -/
def SortedSetEntry.le (a b : SortedSetEntry) : Bool :=
  if a.score.totalKey = b.score.totalKey then decide (a.member ≤ b.member)
  else a.score.totalKey ≤ b.score.totalKey

/-- Source: `SortedSet` -/
structure SortedSet where
  /-- The keys of the ordered index, in order. -/
  byScore : List SortedSetEntry
  byMember : HashMap Bytes Score

/-- Source: `ValueData` -/
inductive ValueData where
  | string (bytes : Bytes)
  /-- Integer-encoded string. -/
  | stringInt (n : Int64)
  | hash (fields : HashMap Bytes HashFieldEntry)
  | list (items : List Bytes)
  | set (members : HashSet Bytes)
  /-- Integer-encoded set. -/
  | setInt (members : List Int64)
  | sortedSet (zset : SortedSet)
  | stream (entries : List StreamEntry) (groups : HashMap Bytes StreamGroup)
      (metadata : StreamMeta)

/-- Source: `StoredValue` -/
structure StoredValue where
  data : ValueData
  /-- Expiry in milliseconds; `0` means none. -/
  rawExpireAtMs : Int64

/-- Source: `StoredValue::expire_at_ms` -/
def StoredValue.expireAtMs (v : StoredValue) : Option Int64 :=
  if 0 < v.rawExpireAtMs then some v.rawExpireAtMs else none

/-- Source: `DbSnapshot` -/
abbrev DbSnapshot := List (HashMap Bytes StoredValue)

/-! ## Constructors -/

/-- Source: `MAX_INT_STRING_LEN` -/
def maxIntStringLen : Nat := 20

/-- The integer a string value is stored as under the integer encoding.
Source: `parse_int_string` -/
def parseIntString (bytes : Bytes) : Option Int64 :=
  if bytes = [] ∨ maxIntStringLen < bytes.length then none
  else if ¬ validUtf8 bytes then none
  else if bytes.head? = some 43 ∨ (1 < bytes.length ∧ bytes.head? = some 48) ∨
      bytes.take 2 = [45, 48] then none
  else parseI64 bytes

/-- Source: `StoredValue::new` -/
def StoredValue.new (data : ValueData) (expireAtMs : Option Int64) : StoredValue :=
  ⟨data, expireAtMs.getD 0⟩

/-- Source: `StoredValue::string` -/
def StoredValue.string (value : Bytes) (expireAtMs : Option Int64) : StoredValue :=
  match parseIntString value with
  | some n => .new (.stringInt n) expireAtMs
  | none => .new (.string value) expireAtMs

/-- Source: `SET_MAX_INTSET_ENTRIES` -/
def setMaxIntsetEntries : Nat := 512

/-- Source: `bytes_to_intset_member` -/
def bytesToIntsetMember (value : Bytes) : Option Int64 :=
  if validUtf8 value then
    (parseI64 value).bind fun parsed =>
      if decimalInt parsed.toInt = value then some parsed else none
  else none

/-- Sorted without duplicates: `sort_unstable` then `dedup`. -/
def sortDedup (ints : List Int64) : List Int64 :=
  (ints.insertionSort (· ≤ ·)).dedup

/-- Source: `StoredValue::set` -/
def StoredValue.set (values : HashSet Bytes) (expireAtMs : Option Int64) : StoredValue :=
  if values.keys.length ≤ setMaxIntsetEntries then
    match values.keys.mapM bytesToIntsetMember with
    | some ints => .new (.setInt (sortDedup ints)) expireAtMs
    | none => .new (.set values) expireAtMs
  else .new (.set values) expireAtMs

/-- Inserts into both indexes; NaN is rejected.
Source: `SortedSet::insert` -/
def SortedSet.insert (z : SortedSet) (member : Bytes) (score : Score) : SortedSet :=
  if score.isNan then z
  else match z.byMember.lookup member with
    | some old =>
      if old = score then z
      else
        { byScore := (z.byScore.erase ⟨old, member⟩).orderedInsert
            (fun a b => a.le b = true) ⟨score, member⟩
          byMember := z.byMember.insert member score }
    | none =>
      { byScore := z.byScore.orderedInsert (fun a b => a.le b = true) ⟨score, member⟩
        byMember := z.byMember.insert member score }

/-- Source: `SortedSet` `Default` -/
def SortedSet.empty : SortedSet := ⟨[], ∅⟩

/-! ## Sorted sets -/

/-- The pair of a member and its score, as the ordered index has it. -/
def SortedSetEntry.ofPair (pair : Σ _ : Bytes, Score) : SortedSetEntry := ⟨pair.2, pair.1⟩

/-- The two indexes of a sorted set hold the same pairs, and no score is NaN. -/
structure SortedSet.WellFormed (z : SortedSet) : Prop where
  indexes : z.byScore.Perm (z.byMember.entries.map SortedSetEntry.ofPair)
  noNan : ∀ e ∈ z.byScore, e.score.isNan = false

lemma SortedSet.wellFormed_empty : SortedSet.empty.WellFormed :=
  ⟨List.Perm.refl [], fun _ h => absurd h not_mem_nil⟩

/-- Setting a member's score keeps the ordered index in step with the map. -/
lemma SortedSet.wellFormed_replace {z : SortedSet} (h : z.WellFormed) {rest : List SortedSetEntry}
    {member : Bytes} {score : Score} (hscore : score.isNan = false)
    (hrest : rest.Perm ((z.byMember.erase member).entries.map SortedSetEntry.ofPair))
    (hsub : ∀ e ∈ rest, e ∈ z.byScore) :
    SortedSet.WellFormed
      ⟨rest.orderedInsert (fun a b => a.le b = true) ⟨score, member⟩,
        z.byMember.insert member score⟩ where
  indexes := by
    refine (perm_orderedInsert _ _ _).trans ?_
    exact hrest.cons ⟨score, member⟩
  noNan := by
    intro e he
    rcases mem_cons.mp ((perm_orderedInsert _ _ _).mem_iff.mp he) with rfl | he
    · exact hscore
    · exact h.noNan e (hsub e he)

theorem SortedSet.wellFormed_insert {z : SortedSet} (h : z.WellFormed) (member : Bytes)
    (score : Score) : (z.insert member score).WellFormed := by
  unfold SortedSet.insert
  split_ifs with hnan
  · exact h
  have hscore : score.isNan = false := by simpa using hnan
  split
  · next old hold =>
      split_ifs
      · exact h
      · -- the old pair is the one that leaves the ordered index
        refine wellFormed_replace h hscore ?_ fun e he => mem_of_mem_erase he
        have hpairs := (HashMap.entries_perm_cons_erase hold).map SortedSetEntry.ofPair
        have herase := (h.indexes.trans hpairs).erase (⟨old, member⟩ : SortedSetEntry)
        rw [map_cons, SortedSetEntry.ofPair, erase_cons_head] at herase
        exact herase
  · next hnone =>
      refine wellFormed_replace h hscore ?_ fun e he => he
      rw [HashMap.entries_erase_of_lookup_eq_none hnone]
      exact h.indexes

/-! ## Stored-value invariants -/

/-- Lengths that a `usize` can hold. -/
def usizeLimit : Nat := 2 ^ 64

/-- A byte string that fits in memory. -/
def Sized (s : Bytes) : Prop := s.length < usizeLimit

instance (s : Bytes) : Decidable (Sized s) := Nat.decLt s.length usizeLimit

/-- A list that fits in memory, with items that do. -/
def Counted {α : Type} (fits : α → Prop) (items : List α) : Prop :=
  items.length < usizeLimit ∧ ∀ x ∈ items, fits x

lemma counted_singleton {α : Type} {fits : α → Prop} {x : α} :
    Counted fits [x] ↔ fits x := by
  constructor
  · intro h
    exact h.2 x mem_cons_self
  · intro h
    have hone : 1 < usizeLimit := by decide
    refine ⟨hone, ?_⟩
    intro y hy
    rw [mem_singleton.mp hy]
    exact h

/-- Mapping items to ones that fit. -/
lemma Counted.map {α β : Type} {fits : α → Prop} {fits' : β → Prop} {items : List α} {f : α → β}
    (h : Counted fits items) (hf : ∀ x ∈ items, fits x → fits' (f x)) :
    Counted fits' (items.map f) := by
  refine ⟨?_, ?_⟩
  · rw [length_map]
    exact h.1
  · intro y hy
    obtain ⟨x, hx, rfl⟩ := mem_map.mp hy
    exact hf x hx (h.2 x hx)

/-- A map collected from entries that fit fits. -/
lemma Counted.collect {κ ν : Type} [DecidableEq κ] {fits : (Σ _ : κ, ν) → Prop}
    {entries : List (Σ _ : κ, ν)} (h : Counted fits entries) :
    Counted fits (HashMap.collect entries).entries := by
  obtain ⟨hlength, hmem⟩ := HashMap.entries_foldl_insert entries (∅ : HashMap κ ν)
  refine ⟨hlength.trans_lt h.1, ?_⟩
  intro e he
  rcases hmem e he with hmem | hempty
  · exact h.2 e hmem
  · exact absurd hempty not_mem_nil

/-- A consumer that fits in memory. -/
def StreamConsumer.Fits (c : StreamConsumer) : Prop := Counted (fun _ => True) c.pending.keys

/-- A group that fits in memory. -/
structure StreamGroup.Fits (g : StreamGroup) : Prop where
  consumers : Counted (fun c => Sized c.1 ∧ c.2.Fits) g.consumers.entries
  pending : Counted (fun p => Sized p.2.consumer) g.pending.entries

/-- The invariants of stored data: stream metadata that is not behind the entries, sorted sets
with two indexes of the same pairs and no NaN; every length is a `usize`. -/
def ValueData.WellFormed : ValueData → Prop
  | .string bytes => Sized bytes
  | .stringInt _ => True
  | .hash fields => Counted (fun field => Sized field.1 ∧ Sized field.2.value) fields.entries
  | .list items => Counted Sized items
  | .set members => Counted Sized members.keys
  | .setInt members => Counted (fun _ => True) members
  | .sortedSet zset => zset.WellFormed ∧ Counted (fun e => Sized e.member) zset.byScore
  | .stream entries groups metadata =>
    metadata.isValidFor entries = true ∧
      Counted (fun e => Counted (fun f => Sized f.1 ∧ Sized f.2) e.fields) entries ∧
      Counted (fun g => Sized g.1 ∧ g.2.Fits) groups.entries

/-- A database whose values satisfy the invariants. -/
def DbWellFormed (db : HashMap Bytes StoredValue) : Prop :=
  Counted (fun item => Sized item.1 ∧ item.2.data.WellFormed) db.entries

/-- Source: `DEFAULT_DB_COUNT`; a snapshot has at most that many databases, all
well formed. -/
def SnapshotWellFormed (snapshot : DbSnapshot) : Prop :=
  snapshot.length ≤ dbCount ∧ ∀ db ∈ snapshot, DbWellFormed db

/-! ## Content -/

/-- What a consumer holds, iteration order apart. -/
def StreamConsumer.content (c : StreamConsumer) : Consumer :=
  ⟨c.seenTimeMs, c.pending.toFinmap.keys⟩

/-- What a group holds, iteration order apart. -/
def StreamGroup.content (g : StreamGroup) : Group :=
  ⟨g.lastDeliveredId, (g.consumers.mapValues StreamConsumer.content).toFinmap,
    g.pending.toFinmap⟩

/-- The logical content of a value. -/
def ValueData.content : ValueData → Value
  | .string bytes => .string bytes
  | .stringInt n => .string (decimalInt n.toInt)
  | .hash fields => .hash fields.toFinmap
  | .list items => .list items
  | .set members => .set members.toFinmap.keys
  | .setInt members => .set (members.map fun n => decimalInt n.toInt).toFinset
  | .sortedSet zset => .sortedSet zset.byMember.toFinmap
  | .stream entries groups metadata =>
    .stream entries (groups.mapValues StreamGroup.content).toFinmap metadata

/-- The logical content of a stored value, with its expiry. -/
def StoredValue.entry (v : StoredValue) : Entry := ⟨v.data.content, v.expireAtMs⟩

/-- The logical content of a database. -/
def dbContent (db : HashMap Bytes StoredValue) : Db := (db.mapValues StoredValue.entry).toFinmap

/-- The databases a snapshot holds; those past its end are empty. -/
def snapshotContent (snapshot : DbSnapshot) : Databases :=
  fun i => dbContent (snapshot[i.val]?.getD ∅)

/-! ## The encodings are lossless -/

/-- An integer-encoded string prints as the string it was read from. -/
lemma decimalInt_of_parseIntString {s : Bytes} {n : Int64} (h : parseIntString s = some n) :
    decimalInt n.toInt = s := by
  unfold parseIntString at h
  split_ifs at h with hsize hutf8 hlead
  push Not at hsize hlead
  obtain ⟨hplus, hzero, hminusZero⟩ := hlead
  obtain ⟨v, hv, hn⟩ := bind_eq_some_iff.mp h
  split_ifs at hn with hrange
  obtain rfl := Option.some.inj hn
  rw [Int64.toInt_ofInt_of_le hrange.1 hrange.2]
  obtain ⟨b, bs, rfl⟩ := exists_cons_of_ne_nil hsize.1
  by_cases hb : b = 45
  · subst hb
    rw [parseInt_minus] at hv
    obtain ⟨m, hm, rfl⟩ := map_eq_some_iff.mp hv
    have hhead : bs.head? ≠ some 48 := by
      intro hhead
      obtain ⟨c, cs, rfl⟩ : ∃ c cs, bs = c :: cs := by
        cases bs with
        | nil => cases hhead
        | cons c cs => exact ⟨c, cs, rfl⟩
      rw [head?_cons, Option.some.injEq] at hhead
      subst hhead
      exact hminusZero rfl
    have htext : decimal m = bs := decimal_of_parseUnsigned hm (Or.inr hhead)
    have hpos : m ≠ 0 := by
      rintro rfl
      rw [← htext] at hhead
      exact hhead rfl
    rw [decimalInt, if_pos (by omega), Int.natAbs_neg, Int.natAbs_natCast, htext]
  · rw [parseInt_of_ne_minus hb] at hv
    obtain ⟨m, hm, rfl⟩ := map_eq_some_iff.mp hv
    have hb' : b ≠ 43 := fun heq => hplus (by rw [heq]; rfl)
    have hm' : parseUnsigned (b :: bs) = some m := by simpa [parseNat, hb'] using hm
    have hcanonical : b :: bs = [48] ∨ (b :: bs).head? ≠ some 48 := by
      by_cases hlen : 1 < (b :: bs).length
      · exact Or.inr (hzero hlen)
      · have hbs : bs = [] := length_eq_zero_iff.mp (by simpa using hlen)
        subst hbs
        by_cases hb0 : b = 48
        · exact Or.inl (by rw [hb0])
        · exact Or.inr (by simpa using hb0)
    rw [decimalInt, if_neg (by omega), Int.natAbs_natCast, decimal_of_parseUnsigned hm' hcanonical]

/-- The text of an integer has no sign or zero that the encoding refuses. -/
lemma canonical_decimalInt (v : Int) :
    ¬ ((decimalInt v).head? = some 43 ∨ (1 < (decimalInt v).length ∧ (decimalInt v).head? = some 48) ∨
      (decimalInt v).take 2 = [45, 48]) := by
  obtain ⟨b, bs, hcons, hplus, hminus⟩ := decimal_eq_cons v.natAbs
  have hzero : v.natAbs = 0 ∨ b ≠ 48 := by
    by_cases hv : v.natAbs = 0
    · exact .inl hv
    · refine .inr ?_
      rintro rfl
      apply head?_decimal_ne hv
      rw [hcons, head?_cons]
  unfold decimalInt
  split_ifs with hneg
  · have hne : b ≠ 48 := hzero.resolve_left (by omega)
    rw [hcons]
    simp [hne]
  · rcases hzero with hv | hne
    · rw [hv]
      decide
    · rw [hcons]
      simp [hplus, hminus, hne]

/-- Every `i64`, as it is printed, is stored under the integer encoding. -/
theorem parseIntString_decimalInt (n : Int64) : parseIntString (decimalInt n.toInt) = some n := by
  have hne : decimalInt n.toInt ≠ [] := by
    unfold decimalInt
    split_ifs
    · exact cons_ne_nil _ _
    · exact decimal_ne_nil _
  have hfits : ¬ (decimalInt n.toInt = [] ∨ maxIntStringLen < (decimalInt n.toInt).length) := by
    rintro (hnil | hlong)
    · exact hne hnil
    · exact absurd (length_decimalInt_le n) (Nat.not_le.mpr hlong)
  rw [parseIntString, if_neg hfits, if_neg (not_not.mpr (validUtf8_decimalInt _)),
    if_neg (canonical_decimalInt _), parseI64_decimalInt]

/-- Storing a string keeps its bytes, whichever encoding is picked. -/
theorem content_string (s : Bytes) (expireAtMs : Option Int64) :
    (StoredValue.string s expireAtMs).data.content = .string s := by
  unfold StoredValue.string
  split
  · next n hn => exact congrArg Value.string (decimalInt_of_parseIntString hn)
  · rfl

lemma decimalInt_of_bytesToIntsetMember {s : Bytes} {n : Int64}
    (h : bytesToIntsetMember s = some n) : decimalInt n.toInt = s := by
  unfold bytesToIntsetMember at h
  split_ifs at h
  obtain ⟨v, -, hv⟩ := bind_eq_some_iff.mp h
  split_ifs at hv with htext
  obtain rfl := Option.some.inj hv
  exact htext

/-- Members that all encode as integers print as the members. -/
lemma map_decimalInt_of_mapM {members : List Bytes} {ints : List Int64}
    (h : members.mapM bytesToIntsetMember = some ints) :
    ints.map (fun n => decimalInt n.toInt) = members := by
  induction members generalizing ints with
  | nil =>
    simp only [mapM_nil, pure, Option.some.injEq] at h
    subst h
    rfl
  | cons m members ih =>
    rw [mapM_cons] at h
    obtain ⟨n, hn, h⟩ := bind_eq_some_iff.mp h
    obtain ⟨ns, hns, h⟩ := bind_eq_some_iff.mp h
    obtain rfl := Option.some.inj h
    rw [map_cons, decimalInt_of_bytesToIntsetMember hn, ih hns]

lemma mem_sortDedup {n : Int64} {ints : List Int64} : n ∈ sortDedup ints ↔ n ∈ ints := by
  simp [sortDedup]

/-- Storing a set keeps its members, whichever encoding is picked. -/
theorem content_set (values : HashSet Bytes) (expireAtMs : Option Int64) :
    (StoredValue.set values expireAtMs).data.content = .set values.toFinmap.keys := by
  unfold StoredValue.set
  split_ifs
  · split
    · next ints hints =>
        have hkeys := map_decimalInt_of_mapM hints
        refine congrArg Value.set (Finset.ext fun m => ?_)
        rw [List.mem_toFinset, Finmap.mem_keys, Finmap.mem_toFinmap, AList.mem_keys, ← hkeys]
        simp only [List.mem_map, mem_sortDedup]
    · rfl
  · rfl

end Ratatosk.Keyspace
