import Mathlib.Data.List.Sort
import Mathlib.Data.Nat.Bitwise
import Ratatosk.Keyspace.Stored

/-!
# Sorted sets

`SortedSet` of `ratatosk-engine/src/keyspace.rs`: the operations on its two indexes.

* `toNat_totalKey` — the key of a score, as arithmetic; `SortedSetEntry.le` is a linear order
  (`le_total`, `le_trans`, `le_antisymm`).
* `SortedSet.remove`, `removeRangeByScore`, `rank` — with `SortedSet.insert` of
  `Keyspace.Stored`, the operations of the source. A `BTreeMap` seeks: a range is what
  follows, or precedes, the first key that is not below a bound.
* `SortedSetOp.run` — any sequence of operations; `indexed_run` — they keep the indexes in step.
* `sortedSet_run` — **after any operations the two indexes hold the same pairs, one for each
  member, and the rank of a member is the number of pairs below its own**.
-/

namespace Ratatosk.Keyspace

open Lib List

/-! ## The order of entries -/

section order

variable {a b c : SortedSetEntry}

lemma and_sign_eq_zero_iff (s : Score) :
    s &&& 0x8000000000000000 = 0 ↔ s.toNat < 2 ^ 63 := by
  rw [← UInt64.toNat_inj, UInt64.toNat_and]
  change s.toNat &&& 2 ^ 63 = 0 ↔ _
  have hlt := s.toNat_lt
  rw [Nat.and_two_pow, Nat.testBit_eq_decide_div_mod_eq]
  have hbit : s.toNat / 2 ^ 63 % 2 = 1 ↔ ¬ s.toNat < 2 ^ 63 := by omega
  by_cases hsign : s.toNat < 2 ^ 63
  · rw [decide_eq_false fun h => hbit.mp h hsign]
    exact iff_of_true (Nat.zero_mul _) hsign
  · rw [decide_eq_true (hbit.mpr hsign)]
    exact iff_of_false (by decide) hsign

/-- The key of a score: positive scores go over the negative ones, whose order is turned round. -/
lemma toNat_totalKey (s : Score) :
    s.totalKey.toNat = if s.toNat < 2 ^ 63 then 2 ^ 63 + s.toNat else 2 ^ 64 - 1 - s.toNat := by
  rw [Score.totalKey]
  simp only [beq_iff_eq, and_sign_eq_zero_iff]
  split_ifs with hsign
  · rw [UInt64.toNat_or]
    have hor := Nat.two_pow_add_eq_or_of_lt hsign 1
    rw [Nat.mul_one] at hor
    rw [hor, Nat.or_comm]
    rfl
  · rw [UInt64.toNat_not]
    rfl

lemma totalKey_injective : Function.Injective Score.totalKey := by
  intro s t h
  have hkeys := congrArg UInt64.toNat h
  rw [toNat_totalKey, toNat_totalKey] at hkeys
  have hs := s.toNat_lt
  have ht := t.toNat_lt
  apply UInt64.toNat.inj
  split_ifs at hkeys <;> omega

/-- An entry comes strictly before another: by the total order of the scores, then by the bytes of
the members. -/
def SortedSetEntry.Below (a b : SortedSetEntry) : Prop :=
  a.score.totalKey < b.score.totalKey ∨
    (a.score.totalKey = b.score.totalKey ∧ a.member < b.member)

instance : DecidableRel SortedSetEntry.Below := fun _ _ =>
  inferInstanceAs (Decidable (_ ∨ (_ ∧ _)))

lemma SortedSetEntry.le_iff : a.le b = true ↔ ¬ b.Below a := by
  rw [SortedSetEntry.le, SortedSetEntry.Below]
  split_ifs with h
  · rw [decide_eq_true_iff, h]
    simp [List.not_lt]
  · rw [decide_eq_true_iff]
    have hne : b.score.totalKey ≠ a.score.totalKey := Ne.symm h
    simp [hne]

lemma SortedSetEntry.le_total (a b : SortedSetEntry) : a.le b = true ∨ b.le a = true := by
  rw [SortedSetEntry.le, SortedSetEntry.le]
  by_cases h : a.score.totalKey = b.score.totalKey
  · rw [if_pos h, if_pos h.symm, decide_eq_true_iff, decide_eq_true_iff]
    exact List.le_total a.member b.member
  · rw [if_neg h, if_neg (Ne.symm h), decide_eq_true_iff, decide_eq_true_iff]
    exact UInt64.le_total _ _

lemma SortedSetEntry.le_trans (hab : a.le b = true) (hbc : b.le c = true) : a.le c = true := by
  rw [SortedSetEntry.le] at hab hbc ⊢
  by_cases hkeys : a.score.totalKey = b.score.totalKey
  · rw [if_pos hkeys, decide_eq_true_iff] at hab
    rw [hkeys]
    split_ifs at hbc ⊢ with hbc'
    · rw [decide_eq_true_iff] at hbc ⊢
      exact List.le_trans hab hbc
    · exact hbc
  · rw [if_neg hkeys, decide_eq_true_iff] at hab
    have hlt := UInt64.lt_of_le_of_ne hab hkeys
    have hle : b.score.totalKey ≤ c.score.totalKey := by
      split_ifs at hbc with hbc'
      · rw [hbc']
        exact UInt64.le_refl _
      · exact decide_eq_true_iff.mp hbc
    have hac := UInt64.lt_of_lt_of_le hlt hle
    rw [if_neg (UInt64.ne_of_lt hac), decide_eq_true_iff]
    exact UInt64.le_of_lt hac

lemma SortedSetEntry.le_antisymm (hab : a.le b = true) (hba : b.le a = true) : a = b := by
  rw [SortedSetEntry.le] at hab hba
  by_cases h : a.score.totalKey = b.score.totalKey
  · rw [if_pos h, decide_eq_true_iff] at hab
    rw [if_pos h.symm, decide_eq_true_iff] at hba
    have hscore := totalKey_injective h
    have hmember := List.le_antisymm hab hba
    cases a
    cases b
    simp_all
  · rw [if_neg h, decide_eq_true_iff] at hab
    rw [if_neg (Ne.symm h), decide_eq_true_iff] at hba
    exact absurd (UInt64.le_antisymm hab hba) h

end order

/-! ## The operations -/

/-- Both zeros. -/
def Score.isZero (s : Score) : Bool := s &&& 0x7FFFFFFFFFFFFFFF == 0

/-- `<=` of `f64`, on the bits: NaN compares with nothing, and the two zeros are equal. -/
def Score.leValue (a b : Score) : Bool :=
  !a.isNan && !b.isNan && ((a.isZero && b.isZero) || a.totalKey ≤ b.totalKey)

/-- Source: `SortedSet::remove` -/
def SortedSet.remove (z : SortedSet) (member : Bytes) : SortedSet × Bool :=
  match z.byMember.lookup member with
  | none => (z, false)
  | some score => (⟨z.byScore.erase ⟨score, member⟩, z.byMember.erase member⟩, true)

/-- Source: `SortedSet::rank` -/
def SortedSet.rank (z : SortedSet) (member : Bytes) : Option Nat :=
  (z.byMember.lookup member).map fun score =>
    (z.byScore.takeWhile fun e => !SortedSetEntry.le ⟨score, member⟩ e).length

/-- Source: `SortedSet::remove_range_by_score` -/
def SortedSet.removeRangeByScore (z : SortedSet) (min max : Score) : SortedSet × Nat :=
  let fromMin := z.byScore.dropWhile fun e => !SortedSetEntry.le ⟨min, []⟩ e
  let members := (fromMin.takeWhile fun e => e.score.leValue max).map SortedSetEntry.member
  (members.foldl (fun z member => (z.remove member).1) z, members.length)

/-- An operation that changes a sorted set. -/
inductive SortedSetOp where
  | insert (member : Bytes) (score : Score)
  | remove (member : Bytes)
  | removeRangeByScore (min max : Score)
  deriving Repr, DecidableEq

/-- The sorted set after an operation. -/
def SortedSetOp.apply (z : SortedSet) : SortedSetOp → SortedSet
  | .insert member score => z.insert member score
  | .remove member => (z.remove member).1
  | .removeRangeByScore min max => (z.removeRangeByScore min max).1

/-- The sorted set after some operations. -/
def SortedSetOp.run (ops : List SortedSetOp) (z : SortedSet) : SortedSet :=
  ops.foldl SortedSetOp.apply z

/-! ## The indexes in step -/

/-- The ordered index is in strict order and holds the pairs of the map. -/
structure SortedSet.Indexed (z : SortedSet) : Prop extends z.WellFormed where
  sorted : z.byScore.Pairwise SortedSetEntry.Below

/-- A sorted set has its indexes in step; other values have one index only. -/
def ValueData.Indexed : ValueData → Prop
  | .sortedSet zset => zset.Indexed
  | _ => True

section indexed

variable {z : SortedSet}

lemma SortedSetEntry.below_iff {a b : SortedSetEntry} : a.Below b ↔ a.le b = true ∧ a ≠ b := by
  constructor
  · intro h
    have hnot : ¬ b.le a = true := by
      rw [SortedSetEntry.le_iff, not_not]
      exact h
    refine ⟨(SortedSetEntry.le_total a b).resolve_right hnot, ?_⟩
    rintro rfl
    exact hnot ((SortedSetEntry.le_total a a).elim id id)
  · rintro ⟨hle, hne⟩
    by_contra hnot
    exact hne (SortedSetEntry.le_antisymm hle (SortedSetEntry.le_iff.mpr hnot))

/-- A pair is in the ordered index exactly if the map has it. -/
lemma SortedSet.WellFormed.mem_byScore_iff (h : z.WellFormed) {score : Score} {member : Bytes} :
    ⟨score, member⟩ ∈ z.byScore ↔ z.byMember.lookup member = some score := by
  rw [h.indexes.mem_iff, mem_map, ← Option.mem_def, AList.mem_lookup_iff]
  constructor
  · rintro ⟨⟨m, s⟩, hpair, heq⟩
    rw [SortedSetEntry.ofPair, SortedSetEntry.mk.injEq] at heq
    obtain ⟨rfl, rfl⟩ := heq
    exact hpair
  · intro hpair
    exact ⟨_, hpair, rfl⟩

lemma SortedSet.WellFormed.nodup_members (h : z.WellFormed) :
    (z.byScore.map SortedSetEntry.member).Nodup := by
  have hperm := h.indexes.map SortedSetEntry.member
  rw [map_map] at hperm
  exact hperm.nodup_iff.mpr z.byMember.nodupKeys

lemma SortedSet.indexed_empty : SortedSet.empty.Indexed where
  toWellFormed := wellFormed_empty
  sorted := .nil

/-- The constructor of strings builds no sorted set. -/
lemma indexed_string (value : Bytes) (expireAtMs : Option Int64) :
    (StoredValue.string value expireAtMs).data.Indexed := by
  unfold StoredValue.string
  split
  · trivial
  · trivial

/-- The constructor of sets builds no sorted set. -/
lemma indexed_set (values : HashSet Bytes) (expireAtMs : Option Int64) :
    (StoredValue.set values expireAtMs).data.Indexed := by
  unfold StoredValue.set
  split_ifs
  · split
    · trivial
    · trivial
  · trivial

/-- A new pair of a member that has none, in its place in the ordered index. -/
lemma pairwise_below_orderedInsert {entries : List SortedSetEntry} {e : SortedSetEntry}
    (h : entries.Pairwise SortedSetEntry.Below) (he : e ∉ entries) :
    (entries.orderedInsert (fun a b => a.le b = true) e).Pairwise SortedSetEntry.Below := by
  induction entries with
  | nil => exact pairwise_singleton _ _
  | cons first rest ih =>
    rw [pairwise_cons] at h
    rw [mem_cons, not_or] at he
    rw [orderedInsert_cons]
    split_ifs with hle
    · refine (pairwise_cons.mpr h).cons ?_
      intro x hx
      rw [SortedSetEntry.below_iff]
      rcases mem_cons.mp hx with rfl | hx
      · exact ⟨hle, he.1⟩
      · refine ⟨SortedSetEntry.le_trans hle (SortedSetEntry.below_iff.mp (h.1 x hx)).1, ?_⟩
        rintro rfl
        exact he.2 hx
    · refine (ih h.2 he.2).cons ?_
      intro x hx
      rcases (mem_orderedInsert _).mp hx with rfl | hx
      · rwa [SortedSetEntry.le_iff, not_not] at hle
      · exact h.1 x hx

/-- Inserting keeps the indexes in step. -/
lemma SortedSet.Indexed.insert (h : z.Indexed) (member : Bytes) (score : Score) :
    (z.insert member score).Indexed where
  toWellFormed := wellFormed_insert h.toWellFormed member score
  sorted := by
    rw [SortedSet.insert]
    split_ifs with hnan
    · exact h.sorted
    · split
      · next old hold =>
          split_ifs with hsame
          · exact h.sorted
          · apply pairwise_below_orderedInsert (h.sorted.sublist erase_sublist)
            intro hmem
            have hlookup := h.mem_byScore_iff.mp (mem_of_mem_erase hmem)
            exact hsame (Option.some.inj (hold.symm.trans hlookup))
      · next hnone =>
          apply pairwise_below_orderedInsert h.sorted
          intro hmem
          rw [h.mem_byScore_iff, hnone] at hmem
          cases hmem

/-- So does removing. -/
lemma SortedSet.Indexed.remove (h : z.Indexed) (member : Bytes) : (z.remove member).1.Indexed := by
  rw [SortedSet.remove]
  split
  · exact h
  · next score hscore =>
      refine ⟨⟨?_, fun e he => h.noNan e (mem_of_mem_erase he)⟩,
        h.sorted.sublist erase_sublist⟩
      have hpairs := (HashMap.entries_perm_cons_erase hscore).map SortedSetEntry.ofPair
      have herase := (h.indexes.trans hpairs).erase (⟨score, member⟩ : SortedSetEntry)
      rw [map_cons, SortedSetEntry.ofPair, erase_cons_head] at herase
      exact herase

/-- So does removing a range. -/
lemma SortedSet.Indexed.removeRangeByScore (h : z.Indexed) (min max : Score) :
    (z.removeRangeByScore min max).1.Indexed := by
  rw [SortedSet.removeRangeByScore]
  dsimp only
  generalize List.map SortedSetEntry.member _ = members
  induction members generalizing z with
  | nil => exact h
  | cons member members ih => exact ih (h.remove member)

/-- **One operation keeps the indexes in step.** -/
lemma SortedSet.Indexed.apply (h : z.Indexed) (op : SortedSetOp) : (op.apply z).Indexed := by
  cases op with
  | insert member score => exact h.insert member score
  | remove member => exact h.remove member
  | removeRangeByScore min max => exact h.removeRangeByScore min max

/-- **Any operations keep the indexes in step.** -/
lemma SortedSet.Indexed.run (h : z.Indexed) (ops : List SortedSetOp) :
    (SortedSetOp.run ops z).Indexed := by
  induction ops generalizing z with
  | nil => exact h
  | cons op ops ih => exact ih (h.apply op)

/-! ## Ranks -/

/-- In an ordered index the entries before a bound are those below it. -/
lemma takeWhile_eq_filter {entries : List SortedSetEntry} (e : SortedSetEntry)
    (h : entries.Pairwise fun a b => a.le b = true) :
    (entries.takeWhile fun a => !SortedSetEntry.le e a) =
      entries.filter fun a => !SortedSetEntry.le e a := by
  induction entries with
  | nil => rfl
  | cons first rest ih =>
    rw [pairwise_cons] at h
    cases hfirst : SortedSetEntry.le e first with
    | false =>
      rw [takeWhile_cons_of_pos (by rw [hfirst]; rfl),
        filter_cons_of_pos (by rw [hfirst]; rfl), ih h.2]
    | true =>
      have hnone : rest.filter (fun a => !SortedSetEntry.le e a) = [] := by
        rw [filter_eq_nil_iff]
        intro a ha
        rw [SortedSetEntry.le_trans hfirst (h.1 a ha)]
        exact Bool.false_ne_true
      rw [takeWhile_cons_of_neg (by rw [hfirst]; exact Bool.false_ne_true),
        filter_cons_of_neg (by rw [hfirst]; exact Bool.false_ne_true), hnone]

/-- The rank of a member is the number of pairs below its own. -/
lemma SortedSet.Indexed.rank_eq (h : z.Indexed) (member : Bytes) :
    z.rank member = (z.byMember.lookup member).map fun score =>
      (z.byMember.entries.map SortedSetEntry.ofPair).countP fun e =>
        e.Below ⟨score, member⟩ := by
  rw [SortedSet.rank]
  apply Option.map_congr
  intro score _
  rw [takeWhile_eq_filter _ (h.sorted.imp fun hbelow => (SortedSetEntry.below_iff.mp hbelow).1),
    ← countP_eq_length_filter, ← h.indexes.countP_eq]
  apply countP_congr
  intro e _
  rw [Bool.not_eq_true', decide_eq_true_iff, ← Bool.not_eq_true, SortedSetEntry.le_iff, not_not]

end indexed

/-- **The indexes of a sorted set stay in step.** After any insertions, removals and removals of a
score range on an empty sorted set, the two indexes hold the same pairs of a member and a score,
and each has one for each member; the ordered index is in strict order, and the rank of a member is
the number of pairs that are strictly below its own. -/
theorem sortedSet_run (ops : List SortedSetOp) :
    let z := SortedSetOp.run ops SortedSet.empty
    (∀ member score, ⟨score, member⟩ ∈ z.byScore ↔ z.byMember.lookup member = some score) ∧
      (z.byScore.map SortedSetEntry.member).Nodup ∧ z.byMember.keys.Nodup ∧
      z.byScore.Pairwise SortedSetEntry.Below ∧
      ∀ member, z.rank member = (z.byMember.lookup member).map fun score =>
        (z.byMember.entries.map SortedSetEntry.ofPair).countP fun e =>
          e.Below ⟨score, member⟩ := by
  intro z
  have h : z.Indexed := SortedSet.indexed_empty.run ops
  exact ⟨fun _ _ => h.mem_byScore_iff, h.nodup_members, z.byMember.nodupKeys, h.sorted,
    h.rank_eq⟩

end Ratatosk.Keyspace
