import Ratatosk.Lib.FiniteMap
import Ratatosk.Engine.LiveView
import Ratatosk.Engine.ReadCommands
import Ratatosk.Keyspace.Direct

/-!
# Removing ranges of sorted sets

The handlers of `ratatosk-engine/src/command/cmd_sorted_set_ranges.rs` that remove a range, and the
operations of `DirectDb` that read one, next to the handler that replies it.

* `zremrange_matches_iff` — **they match, except that a range of ranks which ends before the first
  rank is taken to end at it** (`EndsBeforeFirst`).
* `directAgrees_iff` — **the embedded ranges of ranks are those of the server, with the same
  exception.**
-/

namespace Ratatosk.Engine

open Lib Keyspace Resp List Finmap

/-! ## Handlers -/

/-- The frame of the handlers that edit a sorted set: a missing key replies zero. -/
def editSortedSet (key : Bytes) (now : Int64) (db : Db)
    (edit : Db → Entry → (Finmap fun _ : Bytes => Score) → Db × RespFrame) : Db × RespFrame :=
  let db := purgeExpiredKey db key now
  match db.lookup key with
  | none => (db, .integer 0)
  | some entry =>
    match entry.value with
    | .sortedSet scores => edit db entry scores
    | _ => (db, wrongtype)

/-- The end of the handlers that remove a range: the members are removed one after the other, and
the key with the last of them. -/
def removeEntries (key : Bytes) (toRemove : List SortedSetEntry) (db : Db) (entry : Entry)
    (scores : Finmap fun _ : Bytes => Score) : Db × RespFrame :=
  let scores := FiniteMap.eraseAll scores (toRemove.map (·.member))
  (if scores.keys = ∅ then db.erase key
    else db.insert key { entry with value := .sortedSet scores }, sizeReply toRemove.length)

section handlers

variable (env : ReadEnv) (err : Bytes → RespFrame)

/-- The ranks that `cmd_zremrangebyrank` takes two numbers for. It does not use `normalize_range`:
a `stop` before the first rank is taken for the first. -/
def zremRankRange (len : Nat) (start stop : Int64) : Option (Nat × Nat) :=
  let first := if start < 0 then (start.toInt + len).toNat else start.toInt.toNat
  let last := if stop < 0 then (stop.toInt + len).toNat else min stop.toInt.toNat (len - 1)
  if last < first ∨ len ≤ first then none else some (first, last)

/-- Source: `cmd_zremrangebyrank` -/
def cmdZremrangebyrank (args : List Bytes) (now : Int64) (db : Db) : Db × RespFrame :=
  match args with
  | [key, startRaw, stopRaw] =>
    match parseI64 startRaw, parseI64 stopRaw with
    | some start, some stop =>
      editSortedSet key now db fun db entry scores =>
        match zremRankRange scores.keys.card start stop with
        | none => (db, .integer 0)
        | some range => removeEntries key (slice (sortedEntries scores) range) db entry scores
    | _, _ => (db, err notIntegerText)
  | _ => (db, err (wrongArityText (ascii "zremrangebyrank")))

/-- Source: `cmd_zremrangebyscore` -/
def cmdZremrangebyscore (args : List Bytes) (now : Int64) (db : Db) : Db × RespFrame :=
  match args with
  | [key, minRaw, maxRaw] =>
    match ScoreBound.parse env.parseFloat minRaw, ScoreBound.parse env.parseFloat maxRaw with
    | some min, some max =>
      editSortedSet key now db fun db entry scores =>
        removeEntries key (rangeByScore (sortedEntries scores) min max) db entry scores
    | _, _ => (db, err notFloatText)
  | _ => (db, err (wrongArityText (ascii "zremrangebyscore")))

/-- Source: `cmd_zremrangebylex` -/
def cmdZremrangebylex (args : List Bytes) (now : Int64) (db : Db) : Db × RespFrame :=
  match args with
  | [key, minRaw, maxRaw] =>
    match LexBound.parse minRaw, LexBound.parse maxRaw with
    | some min, some max =>
      editSortedSet key now db fun db entry scores =>
        removeEntries key
          ((sortedEntries scores).filter fun e => memberInLexRange e.member min max) db entry
          scores
    | _, _ => (db, err notLexText)
  | _ => (db, err (wrongArityText (ascii "zremrangebylex")))

/-- The command that removes a range of a mode. -/
def zremrange : RangeMode → List Bytes → Int64 → Db → Db × RespFrame
  | .byRank => cmdZremrangebyrank err
  | .byScore => cmdZremrangebyscore env err
  | .byLex => cmdZremrangebylex err

/-! ## Removing and replying a range -/

/-- The arguments of `ZRANGE` after the bounds. -/
def RangeMode.words : RangeMode → List Bytes
  | .byRank => []
  | .byScore => [ascii "BYSCORE"]
  | .byLex => [ascii "BYLEX"]

/-- The sorted set that a command finds at a key, empty if it finds none. -/
def scoresAt (now : Int64) (db : Db) (key : Bytes) : Finmap fun _ : Bytes => Score :=
  match liveLookup now db key with
  | some ⟨.sortedSet scores, _⟩ => scores
  | _ => ∅

/-- What `ZRANGE` replies is removed, counted, and nothing else changes. -/
def RangeRemovalMatches (mode : RangeMode) (key minRaw maxRaw : Bytes) (now : Int64) (db : Db) :
    Prop :=
  ∀ members : List Bytes,
    ((cmdZrange env err (key :: minRaw :: maxRaw :: mode.words)).onDb now db).2 =
        .array (members.map fun member => .bulkString (some member)) →
      (zremrange env err mode [key, minRaw, maxRaw] now db).2 = sizeReply members.length ∧
        ∀ member, (scoresAt now (zremrange env err mode [key, minRaw, maxRaw] now db).1 key).lookup
            member =
          if member ∈ members then none else (scoresAt now db key).lookup member

/-- The bounds are two numbers, two scores or two bounds of members. -/
def boundsParse (mode : RangeMode) (minRaw maxRaw : Bytes) : Bool :=
  match mode with
  | .byRank => (parseI64 minRaw).isSome && (parseI64 maxRaw).isSome
  | .byScore => (ScoreBound.parse env.parseFloat minRaw).isSome &&
      (ScoreBound.parse env.parseFloat maxRaw).isSome
  | .byLex => (LexBound.parse minRaw).isSome && (LexBound.parse maxRaw).isSome

/-- The range of ranks starts at the first rank, or before, and ends before it. -/
def EndsBeforeFirst (mode : RangeMode) (minRaw maxRaw : Bytes) (len : Nat) : Prop :=
  mode = .byRank ∧ 0 < len ∧ ∃ start stop, parseI64 minRaw = some start ∧
    parseI64 maxRaw = some stop ∧ stop.toInt + len < 0 ∧ (start = 0 ∨ start.toInt + len ≤ 0)

end handlers

section proofs

variable {env : ReadEnv} {err : Bytes → RespFrame} {now : Int64} {db : Db} {key : Bytes}
  {scores : Finmap fun _ : Bytes => Score}
variable {stop start : Int64} {maxRaw minRaw : Bytes} {len : Nat} {expireAtMs : Option Int64}
  {mode : RangeMode}

lemma toInt_max (a b : Int64) : (max a b).toInt = max a.toInt b.toInt := by
  have h : max a b = if a ≤ b then b else a := rfl
  rw [h]
  simp only [Int64.le_iff_toInt_le]
  split_ifs with hle
  · exact (max_eq_right hle).symm
  · exact (max_eq_left (by omega)).symm

lemma toInt_min (a b : Int64) : (min a b).toInt = min a.toInt b.toInt := by
  have h : min a b = if a ≤ b then a else b := rfl
  rw [h]
  simp only [Int64.le_iff_toInt_le]
  split_ifs with hle
  · exact (min_eq_left hle).symm
  · exact (min_eq_right (by omega)).symm

/-- No saturation below zero. -/
lemma toInt_saturatingAdd_of_neg {a : Int64} {n : Nat} (ha : a.toInt < 0) (hn : n < 2 ^ 63) :
    (saturatingAdd a (Int64.ofNat n)).toInt = a.toInt + n := by
  have hlow := a.le_toInt
  rw [saturatingAdd, clampI64, Int64.toInt_ofNat_of_lt hn, Int64.toInt_ofInt_of_le] 
  all_goals omega

/-- The range of ranks that `ZRANGE` takes two numbers for, in integers. -/
lemma normalizeRange_eq (hlen : len < 2 ^ 63) (start stop : Int64) :
    normalizeRange len start stop =
      let first : Int := if start.toInt < 0 then max (start.toInt + len) 0 else start.toInt
      let last : Int := if stop.toInt < 0 then stop.toInt + len else stop.toInt
      if last < first ∨ len ≤ first then none
      else some (first.toNat, (min last (len - 1)).toNat) := by
  rw [normalizeRange, if_neg (not_le.mpr hlen)]
  have hfirst : (if start < 0 then max (saturatingAdd start (Int64.ofNat len)) 0 else start).toInt =
      if start.toInt < 0 then max (start.toInt + len) 0 else start.toInt := by
    simp only [Int64.lt_iff_toInt_lt, Int64.toInt_zero]
    split_ifs with hneg
    · rw [toInt_max, toInt_saturatingAdd_of_neg hneg hlen, Int64.toInt_zero]
    · rfl
  have hlast : (if stop < 0 then saturatingAdd stop (Int64.ofNat len) else stop).toInt =
      if stop.toInt < 0 then stop.toInt + len else stop.toInt := by
    simp only [Int64.lt_iff_toInt_lt, Int64.toInt_zero]
    split_ifs with hneg
    · exact toInt_saturatingAdd_of_neg hneg hlen
    · rfl
  have hpred : 0 < len → (Int64.ofNat len - 1).toInt = (len : Int) - 1 := by
    intro hpos
    rw [Int64.toInt_sub, Int64.toInt_ofNat_of_lt hlen, Int64.toInt_one]
    exact Int.bmod_eq_of_le (by omega) (by omega)
  dsimp only
  rw [← hfirst, ← hlast]
  generalize (if start < 0 then max (saturatingAdd start (Int64.ofNat len)) 0 else start) = first
    at hfirst ⊢
  generalize (if stop < 0 then saturatingAdd stop (Int64.ofNat len) else stop) = last
  simp only [Int64.lt_iff_toInt_lt, Int64.le_iff_toInt_le, Int64.toInt_ofNat_of_lt hlen, toInt_min]
  by_cases hempty : last.toInt < first.toInt ∨ (len : Int) ≤ first.toInt
  · rw [if_pos hempty, if_pos hempty]
  · have hnonneg : 0 ≤ first.toInt := by
      rw [hfirst]
      split_ifs with hneg
      · exact le_max_right _ _
      · exact not_lt.mp hneg
    rw [if_neg hempty, if_neg hempty, hpred (by omega)]

lemma normalizeRange_eq_zremRankRange (hlen : len < 2 ^ 63)
    (h : ¬ (0 < len ∧ stop.toInt + len < 0 ∧ (start = 0 ∨ start.toInt + len ≤ 0))) :
    normalizeRange len start stop = zremRankRange len start stop := by
  rw [normalizeRange_eq hlen, zremRankRange]
  simp only [Int64.lt_iff_toInt_lt, Int64.toInt_zero, ← Int64.toInt_inj] at h ⊢
  by_cases hstart : start.toInt < 0 <;> by_cases hstop : stop.toInt < 0
  all_goals
    simp only [hstart, hstop, if_true, if_false]
    refine ite_congr (propext ?_) (fun _ => rfl) fun hrange => ?_
    · omega
    · rw [Option.some.injEq, Prod.mk.injEq]
      omega

lemma zremRankRange_of_endsBefore (hlen : len < 2 ^ 63) (hpos : 0 < len)
    (hstop : stop.toInt + len < 0) (hstart : start = 0 ∨ start.toInt + len ≤ 0) :
    zremRankRange len start stop = some (0, 0) ∧ normalizeRange len start stop = none := by
  rw [normalizeRange_eq hlen, zremRankRange]
  simp only [Int64.lt_iff_toInt_lt, Int64.toInt_zero, ← Int64.toInt_inj] at hstart ⊢
  have hneg : stop.toInt < 0 := by omega
  have hlast : (stop.toInt + len).toNat = 0 := by omega
  have hfirst : (if start.toInt < 0 then (start.toInt + len).toNat else start.toInt.toNat) = 0 := by
    split_ifs <;> omega
  rw [hfirst, if_pos hneg, if_pos hneg, hlast]
  refine ⟨if_neg (by omega), if_pos (Or.inl ?_)⟩
  split_ifs <;> omega

/-! ### What is replied -/

lemma onDb_cmdZrange (mode : RangeMode) (minRaw maxRaw : Bytes) :
    ((cmdZrange env err (key :: minRaw :: maxRaw :: mode.words)).onDb now db).2 =
      fromSortedSet (.array []) (zrangeReply env err minRaw maxRaw ⟨mode, false, none, false⟩)
        (liveLookup now db key) := by
  have hoptions : parseZrangeOptions err mode.words = .ok ⟨mode, false, none, false⟩ := by
    cases mode <;> rfl
  rw [cmdZrange, hoptions]
  dsimp only [zrangeQuery, oneKeyQuery, FastQuery.onDb, lookupKeys]
  rw [lookup_purgeExpiredKey_self]
  rfl

lemma members_injective :
    Function.Injective fun members : List Bytes =>
      RespFrame.array (members.map fun member => .bulkString (some member)) := by
  intro a b h
  refine map_injective_iff.mpr ?_ (RespFrame.array.inj h)
  intro m m' hm
  simpa using hm

lemma entriesToResp_members (entries : List SortedSetEntry) :
    entriesToResp env entries false =
      .array ((entries.map (·.member)).map fun member => .bulkString (some member)) := by
  rw [entriesToResp, map_map]
  exact congrArg RespFrame.array (flatMap_pure_eq_map _ entries)

/-! ### What is removed -/

lemma scoresAt_of_live (h : liveLookup now db key = some ⟨.sortedSet scores, expireAtMs⟩) :
    scoresAt now db key = scores := by
  rw [scoresAt, h]

lemma eq_empty_of_keys {m : Finmap fun _ : Bytes => Score} (h : m.keys = ∅) : m = ∅ := by
  apply ext_lookup
  intro k
  rw [lookup_empty, lookup_eq_none, ← Finmap.mem_keys, h]
  exact Finset.notMem_empty k

/-- A sorted set is found without the members that were removed. -/
lemma scoresAt_removeEntries (toRemove : List SortedSetEntry) {entry : Entry}
    (hlive : entry.expireAtMs.any (· ≤ now) = false) :
    scoresAt now (removeEntries key toRemove db entry scores).1 key =
      FiniteMap.eraseAll scores (toRemove.map (·.member)) := by
  rw [removeEntries]
  dsimp only
  split_ifs with hempty
  · rw [eq_empty_of_keys hempty]
    rw [scoresAt, liveLookup, lookup_erase]
    rfl
  · apply scoresAt_of_live
    exact liveLookup_insert _ _ hlive

/-- What a handler does to a sorted set when it removes entries. -/
def Removed (now : Int64) (key : Bytes) (scores : Finmap fun _ : Bytes => Score)
    (toRemove : List SortedSetEntry) (result : Db × RespFrame) : Prop :=
  result.2 = sizeReply toRemove.length ∧
    scoresAt now result.1 key = FiniteMap.eraseAll scores (toRemove.map (·.member))

/-- The frame of the handlers, when there is a sorted set. -/
lemma editSortedSet_live {edit : Db → Entry → (Finmap fun _ : Bytes => Score) → Db × RespFrame}
    (hlive : liveLookup now db key = some ⟨.sortedSet scores, expireAtMs⟩) :
    editSortedSet key now db edit =
      edit (purgeExpiredKey db key now) ⟨.sortedSet scores, expireAtMs⟩ scores := by
  rw [editSortedSet, lookup_purgeExpiredKey_self, hlive]

lemma removed_removeEntries (select : (Finmap fun _ : Bytes => Score) → List SortedSetEntry)
    (hlive : liveLookup now db key = some ⟨.sortedSet scores, expireAtMs⟩) :
    Removed now key scores (select scores) (editSortedSet key now db fun db entry scores =>
      removeEntries key (select scores) db entry scores) := by
  rw [editSortedSet_live hlive]
  exact ⟨rfl, scoresAt_removeEntries (select scores) (any_of_live hlive)⟩

lemma scoresAt_purgeExpiredKey :
    scoresAt now (purgeExpiredKey db key now) key = scoresAt now db key := by
  rw [scoresAt, scoresAt, liveEq_purgeExpiredKey now db key key]

/-- If the handler removes what `ZRANGE` selects, a range is removed as it is replied. -/
lemma matches_of_removed {selected : List SortedSetEntry}
    (hlive : liveLookup now db key = some ⟨.sortedSet scores, expireAtMs⟩)
    (hselected : zrangeEntries env err scores minRaw maxRaw mode false = .ok selected)
    (hremoved : Removed now key scores selected
      (zremrange env err mode [key, minRaw, maxRaw] now db)) :
    RangeRemovalMatches env err mode key minRaw maxRaw now db := by
  intro members hreply
  rw [onDb_cmdZrange, hlive] at hreply
  have hmembers : selected.map (·.member) = members := by
    refine members_injective (Eq.trans ?_ hreply)
    dsimp only [fromSortedSet]
    rw [zrangeReply, zrangeCollect, hselected]
    exact (entriesToResp_members selected).symm
  obtain ⟨hcount, hscores⟩ := hremoved
  refine ⟨?_, fun member => ?_⟩
  · rw [hcount, ← hmembers, length_map]
  · rw [hscores, FiniteMap.lookup_eraseAll, hmembers, scoresAt_of_live hlive]
    split_ifs <;> rfl

lemma matches_of_empty {edit : Db → Entry → (Finmap fun _ : Bytes => Score) → Db × RespFrame}
    (hempty : ∀ scores expireAtMs, liveLookup now db key ≠ some ⟨.sortedSet scores, expireAtMs⟩)
    (hrun : zremrange env err mode [key, minRaw, maxRaw] now db = editSortedSet key now db edit) :
    RangeRemovalMatches env err mode key minRaw maxRaw now db := by
  intro members hreply
  rw [onDb_cmdZrange] at hreply
  rw [hrun, editSortedSet, lookup_purgeExpiredKey_self]
  cases hlive : liveLookup now db key with
  | none =>
    rw [hlive] at hreply
    obtain rfl : [] = members := members_injective hreply
    refine ⟨rfl, fun member => ?_⟩
    rw [if_neg not_mem_nil]
    exact congrArg (Finmap.lookup member) scoresAt_purgeExpiredKey
  | some entry =>
    rw [hlive] at hreply
    obtain ⟨value, expireAtMs⟩ := entry
    cases value with
    | sortedSet scores => exact absurd hlive (hempty scores expireAtMs)
    | _ => cases hreply

/-- The removal of a range, once its bounds are read. -/
lemma zremrange_of_bounds (err : Bytes → RespFrame) (now : Int64) (db : Db) (key : Bytes)
    (hbounds : boundsParse env mode minRaw maxRaw = true) :
    ∃ edit : Db → Entry → (Finmap fun _ : Bytes => Score) → Db × RespFrame,
      zremrange env err mode [key, minRaw, maxRaw] now db = editSortedSet key now db edit := by
  cases mode
  all_goals
    simp only [boundsParse, Bool.and_eq_true, Option.isSome_iff_exists] at hbounds
    obtain ⟨⟨min, hmin⟩, max, hmax⟩ := hbounds
    simp only [zremrange, cmdZremrangebyrank, cmdZremrangebyscore, cmdZremrangebylex, hmin, hmax]
    exact ⟨_, rfl⟩

/-- The ranks that `ZRANGE` replies are removed. -/
lemma removed_byRank (env : ReadEnv) (err : Bytes → RespFrame)
    (hlive : liveLookup now db key = some ⟨.sortedSet scores, expireAtMs⟩)
    (hstart : parseI64 minRaw = some start) (hstop : parseI64 maxRaw = some stop) :
    Removed now key scores
      ((zremRankRange scores.keys.card start stop).elim [] (slice (sortedEntries scores)))
      (zremrange env err .byRank [key, minRaw, maxRaw] now db) := by
  rw [zremrange, cmdZremrangebyrank, hstart, hstop]
  dsimp only
  rw [editSortedSet_live hlive]
  cases zremRankRange scores.keys.card start stop with
  | none => exact ⟨rfl, scoresAt_purgeExpiredKey.trans (scoresAt_of_live hlive)⟩
  | some range => exact ⟨rfl, scoresAt_removeEntries _ (any_of_live hlive)⟩

/-- A range that ends before the first rank is not replied, and its first member is removed. -/
lemma not_matches_of_endsBeforeFirst
    (hlive : liveLookup now db key = some ⟨.sortedSet scores, expireAtMs⟩)
    (hsize : scores.keys.card < 2 ^ 63)
    (hends : EndsBeforeFirst .byRank minRaw maxRaw scores.keys.card) :
    ¬ RangeRemovalMatches env err .byRank key minRaw maxRaw now db := by
  obtain ⟨-, hpos, start, stop, hstart, hstop, hbefore, hfirst⟩ := hends
  obtain ⟨hrem, hrange⟩ := zremRankRange_of_endsBefore hsize hpos hbefore hfirst
  intro hmatches
  have hreply := (hmatches [] ?_).1
  · obtain ⟨hcount, -⟩ := removed_byRank env err hlive hstart hstop
    have hone : (slice (sortedEntries scores) (0, 0)).length = 1 := by
      rw [slice, length_take, drop_zero, length_sortedEntries]
      omega
    rw [hcount, hrem, Option.elim_some, hone] at hreply
    exact absurd (RespFrame.integer.inj hreply) (by decide)
  · rw [onDb_cmdZrange, hlive]
    dsimp only [fromSortedSet]
    rw [zrangeReply, zrangeCollect, zrangeEntries, hstart, hstop]
    dsimp only
    rw [length_sortedEntries, hrange]
    rfl

/-- **A range is removed as it is replied, except one of ranks that ends before the first.** -/
theorem zremrange_matches_iff {mode : RangeMode} {minRaw maxRaw : Bytes}
    (hbounds : boundsParse env mode minRaw maxRaw = true)
    (hsize : (scoresAt now db key).keys.card < 2 ^ 63) :
    RangeRemovalMatches env err mode key minRaw maxRaw now db ↔
      ¬ EndsBeforeFirst mode minRaw maxRaw (scoresAt now db key).keys.card := by
  by_cases hstored : ∃ scores expireAtMs,
      liveLookup now db key = some ⟨.sortedSet scores, expireAtMs⟩
  · obtain ⟨scores, expireAtMs, hlive⟩ := hstored
    rw [scoresAt_of_live hlive] at hsize ⊢
    refine ⟨fun hmatches hends => ?_, fun hends => ?_⟩
    · obtain rfl : mode = .byRank := hends.1
      exact not_matches_of_endsBeforeFirst hlive hsize hends hmatches
    simp only [boundsParse] at hbounds
    cases mode
    all_goals
      simp only [Bool.and_eq_true, Option.isSome_iff_exists] at hbounds
      obtain ⟨⟨min, hmin⟩, max, hmax⟩ := hbounds
    case byRank =>
      have hrange : normalizeRange scores.keys.card min max =
          zremRankRange scores.keys.card min max :=
        normalizeRange_eq_zremRankRange hsize fun h =>
          hends ⟨rfl, h.1, min, max, hmin, hmax, h.2⟩
      refine matches_of_removed hlive ?_ (removed_byRank env err hlive hmin hmax)
      rw [zrangeEntries, hmin, hmax]
      dsimp only
      rw [length_sortedEntries, hrange]
      rfl
    case byScore =>
      refine matches_of_removed hlive (by rw [zrangeEntries, hmin, hmax]) ?_
      rw [zremrange, cmdZremrangebyscore, hmin, hmax]
      exact removed_removeEntries (fun scores => rangeByScore (sortedEntries scores) min max) hlive
    case byLex =>
      refine matches_of_removed hlive (by rw [zrangeEntries, hmin, hmax]) ?_
      rw [zremrange, cmdZremrangebylex, hmin, hmax]
      exact removed_removeEntries
        (fun scores => (sortedEntries scores).filter fun e => memberInLexRange e.member min max)
        hlive
  · push Not at hstored
    obtain ⟨edit, hrun⟩ := zremrange_of_bounds err now db key hbounds
    refine iff_of_true (matches_of_empty hstored hrun) ?_
    rintro ⟨-, hpos, -⟩
    have hnone : scoresAt now db key = ∅ := by
      rw [scoresAt]
      split
      · rename_i scores expireAtMs hlive
        exact absurd hlive (hstored scores expireAtMs)
      · rfl
    rw [hnone] at hpos
    exact absurd hpos (by decide)

/-- Two members, and the bits of their scores. -/
def pairScores : Finmap fun _ : Bytes => Score :=
  (Finmap.singleton (ascii "a") 0).insert (ascii "b") 1

/-- The key `k` with them. -/
def pairDb : Db := Finmap.singleton (ascii "k") (newEntry (.sortedSet pairScores) none)

/-- `ZREMRANGEBYRANK k 0 -100` removes the first of two members, and `ZRANGE k 0 -100` replies
none. -/
theorem zremrangebyrank_removes_unreplied :
    ¬ RangeRemovalMatches .byName .error .byRank (ascii "k") (ascii "0") (ascii "-100") 0
      pairDb := by
  have hlive : liveLookup 0 pairDb (ascii "k") = some (newEntry (.sortedSet pairScores) none) := by
    decide +kernel
  have hends : EndsBeforeFirst .byRank (ascii "0") (ascii "-100") pairScores.keys.card :=
    ⟨rfl, by decide, 0, -100, by decide +kernel, by decide +kernel, by decide, Or.inl rfl⟩
  exact not_matches_of_endsBeforeFirst hlive (by decide +kernel) hends

/-- `ZREMRANGEBYRANK k 0 -1` removes what `ZRANGE k 0 -1` replies. -/
theorem zremrangebyrank_removes_replied :
    RangeRemovalMatches .byName .error .byRank (ascii "k") (ascii "0") (ascii "-1") 0
      pairDb := by
  have hstart : parseI64 (ascii "0") = some 0 := by decide +kernel
  have hstop : parseI64 (ascii "-1") = some (-1) := by decide +kernel
  have hcard : (scoresAt 0 pairDb (ascii "k")).keys.card = 2 := by decide +kernel
  refine (zremrange_matches_iff ?_ ?_).mpr ?_
  · rw [boundsParse, hstart, hstop]
    rfl
  · rw [hcard]
    decide
  · rintro ⟨-, -, start, stop, -, hread, hbefore, -⟩
    obtain rfl : -1 = stop := Option.some.inj (hstop.symm.trans hread)
    rw [hcard] at hbefore
    exact absurd hbefore (by decide)

end proofs

/-! ## The embedded API -/

section direct

/-- The body of the two operations. The ranks are normalised as in `cmd_zremrangebyrank`, and not by
`normalize_range`. -/
def rangeWithScoresLimit (rev : Bool) (d : DirectDb) (key : Bytes) (start stop : Int64)
    (limit : Nat) (now : Int64) : DirectDb × List SortedSetEntry :=
  let d := d.purgeIfExpired key now
  (d, match (d.stored key).map StoredValue.data with
    | some (.sortedSet z) =>
      match zremRankRange z.byMember.keys.length start stop with
      | none => []
      | some (first, last) =>
        ((if rev then z.byScore.reverse else z.byScore).drop first).take
          (min (last - first + 1) limit)
    | _ => [])

/-- Source: `direct.rs` `DirectDb::zrange_with_scores_limit` -/
def zrangeWithScoresLimit := rangeWithScoresLimit false

/-- Source: `direct.rs` `DirectDb::zrevrange_with_scores_limit` -/
def zrevrangeWithScoresLimit := rangeWithScoresLimit true

/-- The operation returns the first members, up to the limit, of what `ZRANGE` and `ZREVRANGE` take
for the two numbers. -/
def DirectAgrees (env : ReadEnv) (fail : Bytes → RespFrame) (rev : Bool) (d : DirectDb)
    (key : Bytes) (z : SortedSet) (start stop now : Int64) : Prop :=
  ∀ limit, (zrangeCollect env fail (decimalInt start.toInt) (decimalInt stop.toInt)
      ⟨.byRank, rev, none, true⟩ z.byMember.toFinmap).map (List.take limit) =
    .ok ((if rev then zrevrangeWithScoresLimit else zrangeWithScoresLimit) d key start stop limit
      now).2

/-- `ZRANGE` or `ZREVRANGE` with scores, for the two numbers. -/
def rangeRequest (env : ReadEnv) (fail : Bytes → RespFrame) (rev : Bool) (key : Bytes)
    (start stop : Int64) : FastQuery :=
  (if rev then cmdZrevrange env fail else cmdZrange env fail)
    [key, decimalInt start.toInt, decimalInt stop.toInt, ascii "WITHSCORES"]

/-- The commands reply with what `zrange_collect` takes. -/
lemma reply_rangeRequest (env : ReadEnv) (fail : Bytes → RespFrame) (rev : Bool) {key : Bytes}
    (start stop : Int64) {now : Int64} {db : Db} {entry : Entry}
    {scores : Finmap fun _ : Bytes => Score} (hentry : liveLookup now db key = some entry)
    (hvalue : entry.value = .sortedSet scores) :
    ((rangeRequest env fail rev key start stop).onDb now db).2 =
      zrangeReply env fail (decimalInt start.toInt) (decimalInt stop.toInt)
        ⟨.byRank, rev, none, true⟩ scores := by
  have hrequest : rangeRequest env fail rev key start stop = zrangeQuery env fail key
      (decimalInt start.toInt) (decimalInt stop.toInt) ⟨.byRank, rev, none, true⟩ := by
    cases rev <;> rfl
  rw [hrequest, zrangeQuery, oneKeyQuery, FastQuery.onDb]
  simp only [lookupKeys, lookup_purgeExpiredKey_self, hentry, List.head?_cons]
  simp only [Option.bind_some, id_eq, fromSortedSet, hvalue]

variable {env : ReadEnv} {fail : Bytes → RespFrame} {rev : Bool} {d : DirectDb} {key : Bytes}
  {z : SortedSet} {start stop now : Int64} {v : StoredValue}
  (hstored : (d.purgeIfExpired key now).stored key = some v) (hdata : v.data = .sortedSet z)
  (hz : z.Indexed)
include hstored hdata hz

/-- Both take a part of the same list. -/
lemma directAgrees_iff_ranges :
    DirectAgrees env fail rev d key z start stop now ↔
      let part (range : Option (Nat × Nat)) : List SortedSetEntry :=
        range.elim [] (slice (if rev then z.byScore.reverse else z.byScore))
      part (normalizeRange z.byScore.length start stop) =
        part (zremRankRange z.byScore.length start stop) := by
  have hlength : z.byMember.keys.length = z.byScore.length := by
    rw [hz.indexes.length_eq, AList.keys, List.keys, length_map, length_map]
  have hnames : (if rev then zrevrangeWithScoresLimit else zrangeWithScoresLimit) =
      rangeWithScoresLimit rev := by
    cases rev <;> rfl
  have hdirect : ∀ limit, (rangeWithScoresLimit rev d key start stop limit now).2 =
      ((zremRankRange z.byScore.length start stop).elim []
        (slice (if rev then z.byScore.reverse else z.byScore))).take limit := by
    intro limit
    rw [rangeWithScoresLimit]
    dsimp only
    rw [hstored, Option.map_some, hdata]
    dsimp only
    rw [hlength]
    cases zremRankRange z.byScore.length start stop with
    | none => exact take_nil.symm
    | some range => rw [Option.elim_some, slice, take_take, Nat.min_comm]
  rw [DirectAgrees, zrangeCollect, zrangeEntries, parseI64_decimalInt, parseI64_decimalInt,
    hz.sortedEntries_eq]
  simp only [hnames, hdirect, zrangeLimit, Except.map, Except.ok.injEq]
  refine ⟨fun h => ?_, fun h limit => congrArg (List.take limit) h⟩
  apply ext_getElem?
  intro i
  have hi := congrArg (·[i]?) (h (i + 1))
  simpa using hi

lemma not_directAgrees (hsize : z.byScore.length < 2 ^ 63) (hne : z.byScore ≠ [])
    (hstop : stop.toInt + z.byScore.length < 0)
    (hstart : start = 0 ∨ start.toInt + z.byScore.length ≤ 0) :
    ¬ DirectAgrees env fail rev d key z start stop now := by
  have hpos := length_pos_iff.mpr hne
  obtain ⟨hrem, hnorm⟩ := zremRankRange_of_endsBefore hsize hpos hstop hstart
  rw [directAgrees_iff_ranges hstored hdata hz, hrem, hnorm]
  intro h
  have hlength := congrArg List.length h
  simp only [Option.elim_none, Option.elim_some, slice, length_take, drop_zero,
    apply_ite List.length, length_reverse, ite_self, length_nil] at hlength
  omega

/-- **The embedded ranges of ranks are those of the server, except one that ends before the first
rank**, of which the first member is returned. What they are compared with is what `ZRANGE` and
`ZREVRANGE` reply from the same set. -/
theorem directAgrees_iff (hsize : z.byScore.length < 2 ^ 63) :
    (DirectAgrees env fail rev d key z start stop now ↔
      ¬ (z.byScore ≠ [] ∧ stop.toInt + z.byScore.length < 0 ∧
        (start = 0 ∨ start.toInt + z.byScore.length ≤ 0))) ∧
    ∀ (db : Db) (entry : Entry), liveLookup now db key = some entry →
      entry.value = .sortedSet z.byMember.toFinmap →
      ((rangeRequest env fail rev key start stop).onDb now db).2 =
        zrangeReply env fail (decimalInt start.toInt) (decimalInt stop.toInt)
          ⟨.byRank, rev, none, true⟩ z.byMember.toFinmap := by
  refine ⟨?_, fun db entry => reply_rangeRequest env fail rev start stop⟩
  constructor
  · rintro h ⟨hne, hstop, hstart⟩
    exact not_directAgrees hstored hdata hz hsize hne hstop hstart h
  · intro h
    rw [← length_pos_iff] at h
    rw [directAgrees_iff_ranges hstored hdata hz, normalizeRange_eq_zremRankRange hsize h]

end direct

/-- A sorted set of one member. -/
def soleMember : SortedSet := .insert .empty (ascii "a") 0

/-- A database with it. -/
def soleDirect : DirectDb :=
  ⟨⟨0, dbCount_pos⟩, ⟨AList.insert (ascii "z") ⟨.sortedSet soleMember, 0⟩ ∅, ∅, 0⟩, .new⟩

/-- From `0` to `-100`, the embedded range has the member and the range of the server does not. -/
theorem zrangeWithScoresLimit_past_first :
    ¬ DirectAgrees .byName .error false soleDirect (ascii "z") soleMember 0 (-100) 0 :=
  not_directAgrees (v := ⟨.sortedSet soleMember, 0⟩) rfl rfl
    (SortedSet.indexed_empty.insert _ _) (by decide) (by decide) (by decide) (.inl rfl)

/-- A sorted set of three members. -/
def threeMembers : SortedSet :=
  ((SortedSet.empty.insert (ascii "a") 0).insert (ascii "b") 1).insert (ascii "c") 2

/-- A database with it. -/
def threeDirect : DirectDb :=
  ⟨⟨0, dbCount_pos⟩, ⟨AList.insert (ascii "z") ⟨.sortedSet threeMembers, 0⟩ ∅, ∅, 0⟩, .new⟩

/-- In reverse they agree on the whole set, of which a limit of two leaves the last two. -/
theorem zrevrangeWithScoresLimit_two :
    DirectAgrees .byName .error true threeDirect (ascii "z") threeMembers 0 (-1) 0 ∧
      (zrevrangeWithScoresLimit threeDirect (ascii "z") 0 (-1) 2 0).2.map (·.member) =
        [ascii "c", ascii "b"] :=
  ⟨(directAgrees_iff (v := ⟨.sortedSet threeMembers, 0⟩) rfl rfl
    (((SortedSet.indexed_empty.insert _ _).insert _ _).insert _ _) (by decide)).1.mpr (by decide),
    by decide +kernel⟩

end Ratatosk.Engine
