import Mathlib.Data.List.TakeWhile
import Mathlib.Data.Multiset.Sort
import Ratatosk.Keyspace.SortedSet

/-!
# Ranges of a sorted set

What the commands that read a sorted set take from its ordered index: the bounds of
`ratatosk-engine/src/keyspace.rs` and the ranges between them.

* `sortedEntries` — the ordered index of the logical content; `SortedSet.Indexed.sortedEntries_eq`
  says that a sorted set stores just that.
* `leValue_iff` — `<=` of `f64` compares the places of two numbers.
* `rangeByScore_eq_filter` — **a range of scores has the entries that are between its bounds**,
  though the index is sought at both ends only.
-/

namespace Ratatosk.Keyspace

open Lib

/-! ## The ordered index -/

instance : IsTrans SortedSetEntry fun a b => a.le b = true := ⟨fun _ _ _ => SortedSetEntry.le_trans⟩

instance : Std.Antisymm fun a b : SortedSetEntry => a.le b = true :=
  ⟨fun _ _ => SortedSetEntry.le_antisymm⟩

instance : Std.Total fun a b : SortedSetEntry => a.le b = true := ⟨SortedSetEntry.le_total⟩

/-- The pairs of a sorted set, in order. -/
def sortedEntries (scores : Finmap fun _ : Bytes => Score) : List SortedSetEntry :=
  (scores.entries.map SortedSetEntry.ofPair).sort fun a b => a.le b = true

lemma length_sortedEntries (scores : Finmap fun _ : Bytes => Score) :
    (sortedEntries scores).length = scores.keys.card := by
  rw [sortedEntries, Multiset.length_sort, Multiset.card_map]
  exact (Multiset.card_map _ _).symm

/-- The ordered index of a sorted set is the one of its content. -/
lemma SortedSet.Indexed.sortedEntries_eq {z : SortedSet} (h : z.Indexed) :
    sortedEntries z.byMember.toFinmap = z.byScore := by
  have hsorted : z.byScore.Pairwise fun a b => a.le b = true :=
    h.sorted.imp fun hbelow => (SortedSetEntry.below_iff.mp hbelow).1
  have hperm : (sortedEntries z.byMember.toFinmap).Perm z.byScore := by
    rw [← Multiset.coe_eq_coe, sortedEntries, Multiset.sort_eq]
    exact Multiset.coe_eq_coe.mpr h.indexes.symm
  refine hperm.eq_of_pairwise ?_ (Multiset.pairwise_sort _ _) hsorted
  intro a b _ _ hab hba
  exact SortedSetEntry.le_antisymm hab hba

/-! ## Bounds of scores -/

/-- `<` of `f64`, on the bits. -/
def Score.ltValue (a b : Score) : Bool := !a.isNan && !b.isNan && !Score.leValue b a

/-- The place of a number among the numbers. The two zeros have one place. -/
def Score.place (s : Score) : Nat := if s.isZero then 2 ^ 63 else s.totalKey.toNat

section place

variable {a b : Score}

lemma isZero_iff (s : Score) : s.isZero = true ↔ s.toNat % 2 ^ 63 = 0 := by
  rw [Score.isZero, beq_iff_eq, ← UInt64.toNat_inj, UInt64.toNat_and]
  change s.toNat &&& (2 ^ 63 - 1) = 0 ↔ _
  rw [Nat.and_two_pow_sub_one_eq_mod]

/-- A number that is compared is no NaN. -/
lemma isNan_of_leValue (h : a.leValue b = true) : a.isNan = false ∧ b.isNan = false := by
  simp only [Score.leValue, Bool.and_eq_true, Bool.not_eq_true'] at h
  exact h.1

/-- **`<=` compares the places of two numbers.** -/
lemma leValue_iff (ha : a.isNan = false) (hb : b.isNan = false) :
    a.leValue b = true ↔ a.place ≤ b.place := by
  have hle : a.leValue b = true ↔
      (a.isZero = true ∧ b.isZero = true) ∨ a.totalKey.toNat ≤ b.totalKey.toNat := by
    simp [Score.leValue, ha, hb, UInt64.le_iff_toNat_le]
  have hsize := a.toNat_lt
  have hsize' := b.toNat_lt
  rw [hle, Score.place, Score.place]
  simp only [isZero_iff, toNat_totalKey]
  split_ifs <;> omega

lemma place_le_of_leValue (h : a.leValue b = true) : a.place ≤ b.place :=
  (leValue_iff (isNan_of_leValue h).1 (isNan_of_leValue h).2).mp h

lemma ltValue_iff (ha : a.isNan = false) (hb : b.isNan = false) :
    a.ltValue b = true ↔ a.place < b.place := by
  rw [Score.ltValue, ha, hb, ← not_le, ← leValue_iff hb ha]
  simp

end place

/-- Source: `keyspace.rs` `ScoreBound` -/
inductive ScoreBound where
  | inclusive (value : Score)
  | exclusive (value : Score)
  deriving Repr, DecidableEq

namespace ScoreBound

/-- `str::parse::<f64>` is a parameter.
Source: `keyspace.rs` `ScoreBound::parse` -/
def parse (parseFloat : Bytes → Option Score) (raw : Bytes) : Option ScoreBound :=
  let (strict, text) := match raw with
    | 40 :: rest => (true, rest)
    | _ => (false, raw)
  if !validUtf8 text then none
  else match parseFloat text with
    | none => none
    | some value =>
      if value.isNan then none
      else some (if strict then .exclusive value else .inclusive value)

/-- Source: `keyspace.rs` `ScoreBound::value` -/
def value : ScoreBound → Score
  | .inclusive value | .exclusive value => value

/-- Source: `keyspace.rs` `ScoreBound::admits_above` -/
def admitsAbove (bound : ScoreBound) (score : Score) : Bool :=
  match bound with
  | .inclusive min => min.leValue score
  | .exclusive min => min.ltValue score

/-- Source: `keyspace.rs` `ScoreBound::admits_below` -/
def admitsBelow (bound : ScoreBound) (score : Score) : Bool :=
  match bound with
  | .inclusive max => score.leValue max
  | .exclusive max => score.ltValue max

end ScoreBound

/-- Source: `keyspace.rs` `score_in_range` -/
def scoreInRange (score : Score) (min max : ScoreBound) : Bool :=
  min.admitsAbove score && max.admitsBelow score

/-- `f64::INFINITY` and `f64::NEG_INFINITY`. -/
def Score.infinity : Score := 0x7FF0000000000000

@[inherit_doc Score.infinity]
def Score.negInfinity : Score := 0xFFF0000000000000

/-- Source: `keyspace.rs` `next_score_up` -/
def nextScoreUp (value : Score) : Score :=
  if value.isNan || value == Score.infinity then value
  else if value.isZero then 1
  else if value &&& 0x8000000000000000 == 0 then value + 1
  else value - 1

/-- The entries from a bound on and below another; none if the bounds are in the wrong order, for
which `BTreeMap::range` would panic.
Source: `keyspace.rs` `SortedSet::range_by_score` -/
def entriesBetween (entries : List SortedSetEntry) (lower upper : Option SortedSetEntry) :
    List SortedSetEntry :=
  if lower.any fun low => upper.any fun high => high.le low then []
  else (entries.dropWhile fun e => lower.any fun low => !low.le e).takeWhile fun e =>
    upper.all fun high => !high.le e

lemma entriesBetween_sublist (entries : List SortedSetEntry) (lower upper : Option SortedSetEntry) :
    (entriesBetween entries lower upper).Sublist entries := by
  rw [entriesBetween]
  split_ifs
  · exact List.nil_sublist _
  · exact (List.takeWhile_sublist _).trans (List.dropWhile_sublist _)

/-- The members whose score is in a range. The ordered index is sought at both ends, a little wide,
and the range is tested again.
Source: `keyspace.rs` `SortedSet::range_by_score` -/
def rangeByScore (entries : List SortedSetEntry) (min max : ScoreBound) : List SortedSetEntry :=
  let lower : Option SortedSetEntry :=
    if min.value == Score.negInfinity then none
    else some ⟨if min.value.isZero then 0x8000000000000000 else min.value, []⟩
  let upper : Option SortedSetEntry :=
    if max.value == Score.infinity then none else some ⟨nextScoreUp max.value, []⟩
  (entriesBetween entries lower upper).filter fun e => scoreInRange e.score min max

section ranges

variable {entries : List SortedSetEntry} {lower upper : Option SortedSetEntry}

/-- Dropping entries that a filter drops. -/
lemma filter_dropWhile {p q : SortedSetEntry → Bool} (h : ∀ e, q e = true → ¬ p e = true)
    (entries : List SortedSetEntry) : (entries.dropWhile q).filter p = entries.filter p := by
  induction entries with
  | nil => rfl
  | cons e rest ih =>
    by_cases hq : q e = true
    · rw [List.dropWhile_cons_of_pos hq, ih, List.filter_cons_of_neg (h e hq)]
    · rw [List.dropWhile_cons_of_neg hq]

/-- Seeking an ordered index at both ends leaves out no entry that is between the ends. -/
lemma filter_entriesBetween (h : entries.Pairwise fun a b => a.le b = true)
    {p : SortedSetEntry → Bool} (hlow : ∀ e, p e = true → ∀ low ∈ lower, low.le e = true)
    (hhigh : ∀ e, p e = true → ∀ high ∈ upper, ¬ high.le e = true) :
    (entriesBetween entries lower upper).filter p = entries.filter p := by
  rw [entriesBetween]
  split_ifs with hcrossed
  · -- the bounds are in the wrong order, and nothing is between them
    obtain ⟨low, rfl⟩ : ∃ low, lower = some low := by cases lower <;> simp_all
    obtain ⟨high, rfl⟩ : ∃ high, upper = some high := by cases upper <;> simp_all
    rw [List.filter_nil, eq_comm, List.filter_eq_nil_iff]
    intro e _ hp
    exact hhigh e hp high rfl (SortedSetEntry.le_trans hcrossed (hlow e hp low rfl))
  · have hdrop : (entries.dropWhile fun e => lower.any fun low => !low.le e).filter p =
        entries.filter p := by
      refine filter_dropWhile (fun e hbelow hp => ?_) entries
      cases lower with
      | none => cases hbelow
      | some low =>
        rw [Option.any_some, hlow e hp low rfl] at hbelow
        cases hbelow
    rw [← hdrop]
    cases upper with
    | none =>
      simp only [Option.all_none]
      rw [List.takeWhile_eq_self_iff.mpr fun _ _ => rfl]
    | some high =>
      simp only [Option.all_some]
      rw [takeWhile_eq_filter high (h.sublist (List.dropWhile_sublist _)), List.filter_filter]
      refine List.filter_congr fun e _ => ?_
      cases hp : p e with
      | false => rfl
      | true =>
        rw [Bool.eq_false_iff.mpr (hhigh e hp high rfl)]
        rfl

/-- An end without a member is before every entry with its score. -/
lemma le_end_iff (score : Score) (e : SortedSetEntry) :
    SortedSetEntry.le ⟨score, []⟩ e = true ↔ score.totalKey.toNat ≤ e.score.totalKey.toNat := by
  rw [SortedSetEntry.le]
  split_ifs with hsame
  · rw [hsame]
    simp
  · rw [decide_eq_true_iff, UInt64.le_iff_toNat_le]

/-- The lower end is at or before each score that is not below the bound. -/
lemma lowerEnd_le {bound : Score} {e : SortedSetEntry} (h : bound.leValue e.score = true) :
    SortedSetEntry.le ⟨if bound.isZero then 0x8000000000000000 else bound, []⟩ e = true := by
  have hplace := place_le_of_leValue h
  have hsize := bound.toNat_lt
  have hsize' := e.score.toNat_lt
  have hzero : (0x8000000000000000 : Score).toNat = 2 ^ 63 := rfl
  rw [le_end_iff]
  split_ifs with hbound
  · rw [isZero_iff] at hbound
    simp only [Score.place, isZero_iff, toNat_totalKey, hzero] at hplace ⊢
    split_ifs at hplace ⊢ <;> omega
  · rw [isZero_iff] at hbound
    simp only [Score.place, isZero_iff, toNat_totalKey] at hplace ⊢
    split_ifs at hplace ⊢ <;> omega

/-- The upper end is after each score that is not above the bound. -/
lemma not_upperEnd_le {bound : Score} {e : SortedSetEntry} (h : e.score.leValue bound = true)
    (hbound : bound ≠ Score.infinity) :
    ¬ SortedSetEntry.le ⟨nextScoreUp bound, []⟩ e = true := by
  have hplace := place_le_of_leValue h
  have hsize := bound.toNat_lt
  have hsize' := e.score.toNat_lt
  have hone : (1 : Score).toNat = 1 := rfl
  have hnan := (isNan_of_leValue h).2
  -- the greatest bits below the sign are those of a NaN
  have hlast : bound.toNat ≠ 2 ^ 63 - 1 := by
    intro hlast
    rw [UInt64.toNat.inj (hlast.trans (rfl : _ = (0x7FFFFFFFFFFFFFFF : Score).toNat))] at hnan
    cases hnan
  rw [le_end_iff, not_le]
  unfold nextScoreUp
  rw [hnan, Bool.false_or, if_neg (by simpa using hbound)]
  simp only [beq_iff_eq, and_sign_eq_zero_iff]
  split_ifs with hzero hsign
  · rw [isZero_iff] at hzero
    have hkey : (1 : Score).totalKey.toNat = 2 ^ 63 + 1 := rfl
    rw [hkey]
    simp only [Score.place, isZero_iff, toNat_totalKey] at hplace ⊢
    split_ifs at hplace ⊢ <;> omega
  · rw [isZero_iff] at hzero
    have hnext : (bound + 1).toNat = bound.toNat + 1 := by
      rw [UInt64.toNat_add]
      exact Nat.mod_eq_of_lt (by rw [hone]; omega)
    simp only [Score.place, isZero_iff, toNat_totalKey, hnext] at hplace ⊢
    split_ifs at hplace ⊢ <;> omega
  · rw [isZero_iff] at hzero
    have hnext : (bound - 1).toNat = bound.toNat - 1 :=
      UInt64.toNat_sub_of_le _ _ (by rw [UInt64.le_iff_toNat_le, hone]; omega)
    simp only [Score.place, isZero_iff, toNat_totalKey, hnext] at hplace ⊢
    split_ifs at hplace ⊢ <;> omega

lemma leValue_of_ltValue {a b : Score} (h : a.ltValue b = true) : a.leValue b = true := by
  have hnan : a.isNan = false ∧ b.isNan = false := by
    simp only [Score.ltValue, Bool.and_eq_true, Bool.not_eq_true'] at h
    exact h.1
  exact (leValue_iff hnan.1 hnan.2).mpr ((ltValue_iff hnan.1 hnan.2).mp h).le

/-- A score in a range is not below the value of its first bound and not above that of its
second. -/
lemma leValue_of_scoreInRange {score : Score} {min max : ScoreBound}
    (h : scoreInRange score min max = true) :
    min.value.leValue score = true ∧ score.leValue max.value = true := by
  obtain ⟨hmin, hmax⟩ := Bool.and_eq_true_iff.mp h
  constructor
  · cases min with
    | inclusive value => exact hmin
    | exclusive value => exact leValue_of_ltValue hmin
  · cases max with
    | inclusive value => exact hmax
    | exclusive value => exact leValue_of_ltValue hmax

/-- **A range of scores has the entries that are between its bounds, in order.** -/
lemma rangeByScore_eq_filter (h : entries.Pairwise fun a b => a.le b = true)
    (min max : ScoreBound) :
    rangeByScore entries min max = entries.filter fun e => scoreInRange e.score min max := by
  refine filter_entriesBetween h (fun e hrange low hlow => ?_) fun e hrange high hhigh => ?_
  · by_cases hinfinity : min.value == Score.negInfinity
    · rw [if_pos hinfinity] at hlow
      cases hlow
    · rw [if_neg hinfinity] at hlow
      cases hlow
      exact lowerEnd_le (leValue_of_scoreInRange hrange).1
  · by_cases hinfinity : max.value == Score.infinity
    · rw [if_pos hinfinity] at hhigh
      cases hhigh
    · rw [if_neg hinfinity] at hhigh
      cases hhigh
      exact not_upperEnd_le (leValue_of_scoreInRange hrange).2 (by simpa using hinfinity)

/-- Two predicates hold of the same things, or one of them of none. -/
def SameOrVoid {α : Type} (p q : α → Bool) : Prop :=
  (∀ a, p a = q a) ∨ (∀ a, p a = false) ∨ ∀ a, q a = false

lemma SameOrVoid.comp {α β : Type} {p q : α → Bool} (h : SameOrVoid p q) (f : β → α) :
    SameOrVoid (fun b => p (f b)) fun b => q (f b) :=
  h.imp (fun h b => h (f b)) (Or.imp (fun h b => h (f b)) fun h b => h (f b))

/-- Two bounds have the same scores between them in either order, or none in one of them. -/
lemma scoreInRange_swap (first second : ScoreBound) :
    SameOrVoid (scoreInRange · first second) (scoreInRange · second first) := by
  have hplaces : ∀ {score : Score} {min max : ScoreBound}, scoreInRange score min max = true →
      min.value.place ≤ max.value.place := by
    intro score min max h
    obtain ⟨hmin, hmax⟩ := leValue_of_scoreInRange h
    exact (place_le_of_leValue hmin).trans (place_le_of_leValue hmax)
  rcases lt_trichotomy first.value.place second.value.place with hlt | heq | hgt
  · refine .inr (.inr fun score => Bool.eq_false_iff.mpr fun h => ?_)
    exact absurd (hplaces h) hlt.not_ge
  · -- bounds of one value have that value between them, if both include it
    have hswap : ∀ {min max : ScoreBound} {score : Score}, min.value.place = max.value.place →
        scoreInRange score min max = true → scoreInRange score max min = true := by
      intro min max score heq h
      obtain ⟨hmin, hmax⟩ := leValue_of_scoreInRange h
      obtain ⟨hnanMin, hnan⟩ := isNan_of_leValue hmin
      have hnanMax := (isNan_of_leValue hmax).2
      have hle := place_le_of_leValue hmin
      have hle' := place_le_of_leValue hmax
      obtain ⟨hmin, hmax⟩ := Bool.and_eq_true_iff.mp h
      cases min with
      | inclusive low =>
        cases max with
        | inclusive high =>
          refine Bool.and_eq_true_iff.mpr ⟨(leValue_iff hnanMax hnan).mpr ?_,
            (leValue_iff hnan hnanMin).mpr ?_⟩
          · exact heq ▸ hle
          · exact heq ▸ hle'
        | exclusive high =>
          have hlt := (ltValue_iff hnan hnanMax).mp hmax
          exact absurd (heq ▸ hle) hlt.not_ge
      | exclusive low =>
        have hlt := (ltValue_iff hnanMin hnan).mp hmin
        exact absurd (heq ▸ hle') hlt.not_ge
    exact .inl fun score => Bool.eq_iff_iff.mpr ⟨hswap heq, hswap heq.symm⟩
  · refine .inr (.inl fun score => Bool.eq_false_iff.mpr fun h => ?_)
    exact absurd (hplaces h) hgt.not_ge

end ranges

/-! ## Bounds of members -/

/-- Source: `keyspace.rs` `LexBound` -/
inductive LexBound where
  | negInf
  | posInf
  | inclusive (value : Bytes)
  | exclusive (value : Bytes)
  deriving Repr, DecidableEq

/-- Source: `cmd_sorted_set_ranges.rs` and `readonly_batch.rs` `parse_lex_bound` -/
def LexBound.parse (raw : Bytes) : Option LexBound :=
  if raw = [45] then some .negInf
  else if raw = [43] then some .posInf
  else match raw with
    | 91 :: rest => some (.inclusive rest)
    | 40 :: rest => some (.exclusive rest)
    | _ => none

/-- Source: `cmd_sorted_set_ranges.rs` and `readonly_batch.rs` `member_in_lex_range` -/
def memberInLexRange (member : Bytes) (min max : LexBound) : Bool :=
  let aboveMin : Bool := match min with
    | .negInf => true
    | .inclusive value => value ≤ member
    | .exclusive value => value < member
    | .posInf => false
  let belowMax : Bool := match max with
    | .posInf => true
    | .inclusive value => member ≤ value
    | .exclusive value => member < value
    | .negInf => false
  aboveMin && belowMax

/-- Two bounds have the same members between them in either order, or none in one of them. -/
lemma memberInLexRange_swap (first second : LexBound) :
    SameOrVoid (memberInLexRange · first second) (memberInLexRange · second first) := by
  by_cases hnone : ∀ member, memberInLexRange member first second = false
  · exact .inr (.inl hnone)
  by_cases hnone' : ∀ member, memberInLexRange member second first = false
  · exact .inr (.inr hnone')
  push Not at hnone hnone'
  obtain ⟨m, hm⟩ := hnone
  obtain ⟨m', hm'⟩ := hnone'
  -- both ranges have a member, so both bounds include it
  cases first with
  | negInf => simp [memberInLexRange] at hm'
  | posInf => simp [memberInLexRange] at hm
  | inclusive low =>
    cases second with
    | negInf => simp [memberInLexRange] at hm
    | posInf => simp [memberInLexRange] at hm'
    | inclusive high =>
      simp only [memberInLexRange, Bool.not_eq_false, Bool.and_eq_true, decide_eq_true_iff]
        at hm hm'
      rw [List.le_antisymm (List.le_trans hm.1 hm.2) (List.le_trans hm'.1 hm'.2)]
      exact .inl fun _ => rfl
    | exclusive high =>
      simp only [memberInLexRange, Bool.not_eq_false, Bool.and_eq_true, decide_eq_true_iff]
        at hm hm'
      have hle := List.le_trans (List.le_of_lt hm'.1) hm'.2
      exact absurd (List.lt_of_le_of_lt hm.1 hm.2) (List.not_lt.mpr hle)
  | exclusive low =>
    cases second with
    | negInf => simp [memberInLexRange] at hm
    | posInf => simp [memberInLexRange] at hm'
    | inclusive high =>
      simp only [memberInLexRange, Bool.not_eq_false, Bool.and_eq_true, decide_eq_true_iff]
        at hm hm'
      have hle := List.le_trans (List.le_of_lt hm.1) hm.2
      exact absurd (List.lt_of_le_of_lt hm'.1 hm'.2) (List.not_lt.mpr hle)
    | exclusive high =>
      simp only [memberInLexRange, Bool.not_eq_false, Bool.and_eq_true, decide_eq_true_iff]
        at hm hm'
      have hle := List.le_trans (List.le_of_lt hm.1) (List.le_of_lt hm.2)
      exact absurd (List.lt_trans hm'.1 hm'.2) (List.not_lt.mpr hle)

/-! ## Ranks -/

/-- Source: `keyspace.rs` `SortedSet::rank` -/
def rankOf (scores : Finmap fun _ : Bytes => Score) (member : Bytes) : Option Nat :=
  (scores.lookup member).map fun score =>
    ((sortedEntries scores).takeWhile fun e => !SortedSetEntry.le ⟨score, member⟩ e).length

/-- Source: `keyspace.rs` `SortedSet::rev_rank` -/
def revRankOf (scores : Finmap fun _ : Bytes => Score) (member : Bytes) : Option Nat :=
  (rankOf scores member).map fun rank => scores.keys.card - 1 - rank

lemma rankOf_le {scores : Finmap fun _ : Bytes => Score} {member : Bytes} {rank : Nat}
    (h : rankOf scores member = some rank) : rank ≤ scores.keys.card := by
  obtain ⟨score, -, rfl⟩ := Option.map_eq_some_iff.mp h
  rw [← length_sortedEntries]
  exact (List.takeWhile_sublist _).length_le

end Ratatosk.Keyspace
