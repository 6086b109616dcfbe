import Ratatosk.Engine.LiveView
import Ratatosk.Engine.ReadCommands

/-!
# Which end `LPOS` scans from

`cmd_lpos` of `cmd_list.rs`: its options, and its loop over a window of the list.

* `lposLoop_eq` — the loop answers the matches of what it scans, from the one asked for on and as
  many as asked for.
* `window_eq_iff` — when the front and the back of a list without duplicates have the same items
  from one place on.
* **`cmdLpos_iff`** — with a negative rank the window is the front of the list all the same, so that
  `MAXLEN` cuts off the end that should be scanned first: the reply is the right one exactly if the
  numbers of matches in the first and the last `MAXLEN` elements make up for it.
-/

namespace Ratatosk.Engine

open Lib Keyspace Resp List

/-! ## The command -/

section command

/-- What the options ask for. -/
structure LposOptions where
  rank : Int64
  count : Option Nat
  maxlen : Option Nat
  deriving Repr, DecidableEq

/-- Source: `cmd_list.rs` `cmd_lpos`, the options -/
def parseLposOptions : List Bytes → LposOptions → Except Bytes LposOptions
  | [], o => .ok o
  | [_], _ => .error syntaxErrorText
  | option :: raw :: rest, o =>
    if toUppercase option ∉ ["RANK", "COUNT", "MAXLEN"].map ascii then .error syntaxErrorText
    else match parseI64 raw with
      | none => .error notIntegerText
      | some value =>
        if toUppercase option = ascii "RANK" then
          if value = 0 then .error (ascii "ERR RANK can't be zero")
          else parseLposOptions rest { o with rank := value }
        else if toUppercase option = ascii "COUNT" then
          if value < 0 then .error (ascii "ERR COUNT can't be negative")
          else parseLposOptions rest { o with count := some value.toInt.toNat }
        else if value < 0 then .error (ascii "ERR MAXLEN can't be negative")
        else parseLposOptions rest { o with maxlen := some value.toInt.toNat }

variable (element : Bytes)

/-- The loop over elements and their positions, with the matches seen and the positions pushed. -/
def lposLoop (target : Nat) (count : Option Nat) :
    List (Bytes × Nat) → Nat → List Int64 → List Int64
  | [], _, positions => positions
  | (item, pos) :: rest, seen, positions =>
    if item = element then
      if target ≤ seen + 1 then
        let positions := positions ++ [Int64.ofNat pos]
        if count.all fun v => 0 < v ∧ v ≤ positions.length then positions
        else lposLoop target count rest (seen + 1) positions
      else lposLoop target count rest (seen + 1) positions
    else lposLoop target count rest seen positions

/-- The positions that are found.
Source: `cmd_list.rs` `cmd_lpos` -/
def lposPositions (o : LposOptions) (list : List Bytes) : List Int64 :=
  let scanLimit := min (o.maxlen.getD list.length) list.length
  let window := list.zipIdx.take scanLimit
  if 0 < o.rank then lposLoop element o.rank.toInt.toNat o.count window 0 []
  else
    -- `saturating_neg`
    let target := if o.rank = Int64.minValue then Int64.maxValue else -o.rank
    lposLoop element target.toInt.toNat o.count window.reverse 0 []

/-- The reply to positions. -/
def lposReply (count : Option Nat) (positions : List Int64) : RespFrame :=
  if count.isSome then .array (positions.map .integer)
  else positions.head?.elim (.bulkString none) .integer

/-- Source: `cmd_list.rs` `cmd_lpos` -/
def cmdLpos (err : Bytes → RespFrame) : List Bytes → FastQuery
  | key :: element :: options =>
    match parseLposOptions options ⟨1, none, none⟩ with
    | .error text => .reply (err text)
    | .ok o =>
      oneKeyQuery key (fromList (if o.count.isSome then .array [] else .bulkString none) fun list =>
        if o.count = some 0 then .array [] else lposReply o.count (lposPositions element o list))
  | _ => .reply (err (wrongArityText (ascii "lpos")))

end command

/-! ## The loop -/

section loop

variable (element : Bytes)

/-- The positions of the matches in what is scanned, from the one asked for on and as many as
asked for. -/
def lposMatches (rank : Nat) (count : Option Nat) (scan : List (Bytes × Nat)) : List Int64 :=
  (((scan.filter (·.1 = element)).drop (rank - 1)).take (count.getD 1)).map (Int64.ofNat ·.2)

lemma lposLoop_eq {target : Nat} {count : Option Nat} (scan : List (Bytes × Nat)) (seen : Nat)
    (positions : List Int64) (hmore : positions.length < count.getD 1) :
    lposLoop element target count scan seen positions =
      positions ++ (((scan.filter (·.1 = element)).drop (target - 1 - seen)).take
        (count.getD 1 - positions.length)).map (Int64.ofNat ·.2) := by
  induction scan generalizing seen positions with
  | nil => simp [lposLoop]
  | cons first rest ih =>
    obtain ⟨item, pos⟩ := first
    rw [lposLoop]
    dsimp only
    split_ifs with hitem htarget hlast
    · -- the last one asked for
      have hone : count.getD 1 - positions.length = 1 := by
        cases count with
        | none =>
          rw [Option.getD_none] at hmore ⊢
          omega
        | some limit =>
          simp at hlast hmore ⊢
          omega
      rw [filter_cons_of_pos (by simpa using hitem), (by omega : target - 1 - seen = 0), hone]
      simp
    · have hmore' : (positions ++ [Int64.ofNat pos]).length < count.getD 1 := by
        cases count with
        | none => simp at hlast
        | some limit =>
          simp at hlast hmore ⊢
          omega
      rw [ih _ _ hmore', filter_cons_of_pos (by simpa using hitem),
        (by omega : target - 1 - seen = 0), (by omega : target - 1 - (seen + 1) = 0),
        (by simp; omega : count.getD 1 - positions.length =
          (count.getD 1 - (positions ++ [Int64.ofNat pos]).length) + 1)]
      simp
    · rw [ih _ _ hmore, filter_cons_of_pos (by simpa using hitem),
        (by omega : target - 1 - seen = target - 1 - (seen + 1) + 1), drop_succ_cons]
    · rw [ih _ _ hmore, filter_cons_of_neg (by simpa using hitem)]

end loop

/-! ## The end that is scanned first -/

section ends

variable (element : Bytes)

/-- What should be found: the matches among the elements met first from the chosen end. -/
def lposMeant (o : LposOptions) (list : List Bytes) : List Int64 :=
  let scan := if 0 < o.rank then list.zipIdx else list.zipIdx.reverse
  lposMatches element o.rank.toInt.natAbs o.count (scan.take (o.maxlen.getD list.length))

/-- The rank that the loop counts down to is the one asked for, up to what a list can hold. -/
lemma lposMatches_min (rank : Nat) (count : Option Nat) {scan : List (Bytes × Nat)}
    (hfits : scan.length < vecCapacity) :
    lposMatches element (min rank vecCapacity) count scan =
      lposMatches element rank count scan := by
  rcases le_total rank vecCapacity with hle | hlarge
  · rw [Nat.min_eq_left hle]
  · have hnone : ∀ k, vecCapacity ≤ k → (scan.filter (·.1 = element)).drop (k - 1) = [] := by
      intro k hk
      have hlength := length_filter_le (fun item : Bytes × Nat => decide (item.1 = element)) scan
      exact drop_eq_nil_of_le (by omega)
    rw [Nat.min_eq_right hlarge, lposMatches, lposMatches, hnone _ le_rfl, hnone _ hlarge]

/-- `saturating_neg` of a number that is not positive. -/
lemma toNat_saturatingNeg {rank : Int64} (h : ¬ 0 < rank) :
    (if rank = Int64.minValue then Int64.maxValue else -rank).toInt.toNat =
      min rank.toInt.natAbs vecCapacity := by
  have hneg : ¬ 0 < rank.toInt := fun hpos => h (Int64.lt_iff_toInt_lt.mpr hpos)
  have hle : -2 ^ 63 ≤ rank.toInt := rank.minValue_le_toInt
  split_ifs with hmin
  · rw [hmin]
    decide
  · have hne : rank.toInt ≠ -2 ^ 63 := fun heq => hmin (Int64.toInt_inj.mp heq)
    rw [Int64.toInt_neg, Int.bmod_eq_of_le (by omega) (by omega), vecCapacity]
    omega

/-- What the code finds, as the matches in a window. -/
lemma lposPositions_eq {o : LposOptions} {list : List Bytes} (hcount : o.count ≠ some 0)
    (hfits : list.length < vecCapacity) :
    lposPositions element o list =
      lposMatches element o.rank.toInt.natAbs o.count
        (if 0 < o.rank then list.zipIdx.take (o.maxlen.getD list.length)
          else (list.zipIdx.take (o.maxlen.getD list.length)).reverse) := by
  have hmore : ([] : List Int64).length < o.count.getD 1 := by
    rcases hc : o.count with _ | _ | n
    · exact Nat.one_pos
    · exact absurd hc hcount
    · exact n.succ_pos
  have hloop : ∀ target scan, lposLoop element target o.count scan 0 [] =
      lposMatches element target o.count scan :=
    fun target scan => lposLoop_eq element scan 0 [] hmore
  rw [lposPositions]
  simp only [hloop, ← length_zipIdx (l := list) (i := 0), ← take_eq_take_min]
  by_cases hpos : 0 < o.rank
  · have hint : 0 < o.rank.toInt := Int64.lt_iff_toInt_lt.mp hpos
    have htarget : o.rank.toInt.toNat = o.rank.toInt.natAbs := by omega
    simp only [htarget, hpos, if_true]
  · have hshort : (list.zipIdx.take (o.maxlen.getD list.zipIdx.length)).reverse.length <
        vecCapacity := by
      rw [length_reverse, length_take, length_zipIdx]
      omega
    simp only [toNat_saturatingNeg hpos, lposMatches_min element _ _ hshort, hpos, if_false]

end ends

/-! ## Windows -/

section windows

variable {α : Type}

/-- The last `front` items of a list without duplicates and its first `back` items, each from its
`skip`-th item on and cut off after `n`: they are the same exactly if both are empty, or the last
`front` items are all of them and none is missing that was asked for. -/
lemma window_eq_iff {items : List α} (hitems : items.Nodup) {front back skip n : Nat}
    (hfront : front ≤ items.length) (hback : back ≤ items.length) (hn : 0 < n) :
    ((items.drop (items.length - front)).drop skip).take n = ((items.take back).drop skip).take n ↔
      (front ≤ skip ∧ back ≤ skip) ∨
        (front = items.length ∧ (front = back ∨ skip + n ≤ back)) := by
  have hleft : (((items.drop (items.length - front)).drop skip).take n).length =
      min n (front - skip) := by
    rw [length_take, length_drop, length_drop]
    omega
  have hright : (((items.take back).drop skip).take n).length = min n (back - skip) := by
    rw [length_take, length_drop, length_take]
    omega
  constructor
  · intro heq
    have hlength : min n (front - skip) = min n (back - skip) := by rw [← hleft, heq, hright]
    rcases Nat.lt_or_ge skip front with hsome | hnone
    · -- both have a first item, and it stands at one place of the list
      have hback' : skip < back := by omega
      have hhead := congrArg List.head? heq
      rw [head?_take, if_neg hn.ne', head?_take, if_neg hn.ne', head?_drop, head?_drop,
        getElem?_drop, getElem?_take_of_lt hback'] at hhead
      have hplace := (List.getElem?_inj (by omega) hitems).mp hhead
      right
      omega
    · left
      omega
  · rintro (⟨hnofront, hnoback⟩ | ⟨hall, hsame | hlong⟩)
    · have hnil : ∀ {l : List α}, l.length = 0 → l = [] := fun h => length_eq_zero_iff.mp h
      rw [hnil (hleft.trans (by omega)), hnil (hright.trans (by omega))]
    · rw [hall, Nat.sub_self, drop_zero, ← hsame, hall, take_length]
    · rw [hall, Nat.sub_self, drop_zero, drop_take, take_take, Nat.min_eq_left (by omega)]

end windows

/-! ## Matches and their positions -/

section matching

variable (element : Bytes)

/-- The positions of the matches in what is scanned. -/
def positionsIn (scan : List (Bytes × Nat)) : List Int64 :=
  (scan.filter (·.1 = element)).map (Int64.ofNat ·.2)

lemma positionsIn_append (scan scan' : List (Bytes × Nat)) :
    positionsIn element (scan ++ scan') =
      positionsIn element scan ++ positionsIn element scan' := by
  rw [positionsIn, filter_append, map_append, positionsIn, positionsIn]

/-- The matches from the rank on, up to the count. -/
lemma lposMatches_eq (rank : Nat) (count : Option Nat) (scan : List (Bytes × Nat)) :
    lposMatches element rank count scan =
      ((positionsIn element scan).drop (rank - 1)).take (count.getD 1) := by
  rw [lposMatches, positionsIn, map_take, map_drop]

/-- There are as many positions as matches. -/
lemma length_positionsIn (scan : List (Bytes × Nat)) :
    (positionsIn element scan).length = (scan.map Prod.fst).count element := by
  rw [positionsIn, length_map]
  induction scan with
  | nil => rfl
  | cons first rest ih =>
    rw [map_cons, count_cons, ← ih]
    by_cases hmatch : first.1 = element
    · rw [filter_cons_of_pos (by simpa using hmatch), length_cons, if_pos (by simpa using hmatch)]
    · rw [filter_cons_of_neg (by simpa using hmatch), if_neg (by simpa using hmatch), Nat.add_zero]

variable (list : List Bytes)

/-- No position of a list is listed twice. -/
lemma nodup_positionsIn (hfits : list.length < vecCapacity) :
    (positionsIn element list.zipIdx.reverse).Nodup := by
  have hpositions : (list.zipIdx.map Prod.snd).Nodup := by
    rw [zipIdx_map_snd]
    exact nodup_range'
  have hkept : ((list.zipIdx.filter (·.1 = element)).map Prod.snd).Nodup :=
    hpositions.sublist (filter_sublist.map _)
  have hbound : ∀ n ∈ (list.zipIdx.filter (·.1 = element)).map Prod.snd, n < vecCapacity := by
    intro n hn
    obtain ⟨item, hitem, rfl⟩ := mem_map.mp hn
    have hplace := snd_lt_of_mem_zipIdx (mem_filter.mp hitem).1
    omega
  have hcompose : (list.zipIdx.filter (·.1 = element)).map (Int64.ofNat ·.2) =
      ((list.zipIdx.filter (·.1 = element)).map Prod.snd).map Int64.ofNat := by
    rw [map_map]
    rfl
  rw [positionsIn, filter_reverse, map_reverse, nodup_reverse, hcompose]
  refine Nodup.map_on ?_ hkept
  intro a ha b hb heq
  have hint := congrArg Int64.toInt heq
  rw [Int64.toInt_ofNat_of_lt ((hbound a ha).trans (by decide)),
    Int64.toInt_ofNat_of_lt ((hbound b hb).trans (by decide))] at hint
  exact Int.ofNat.inj hint

/-- The matches in the front of the list, the last one first, end the matches in all of it. -/
lemma positionsIn_front (limit : Nat) :
    positionsIn element (list.zipIdx.take limit).reverse =
      (positionsIn element list.zipIdx.reverse).drop
        ((positionsIn element list.zipIdx.reverse).length - (list.take limit).count element) := by
  have hsplit : list.zipIdx.reverse =
      (list.zipIdx.drop limit).reverse ++ (list.zipIdx.take limit).reverse := by
    rw [← reverse_append, take_append_drop]
  have hcount : (positionsIn element (list.zipIdx.take limit).reverse).length =
      (list.take limit).count element := by
    rw [length_positionsIn, map_reverse, map_take, zipIdx_map_fst, count_reverse]
  rw [← hcount, hsplit, positionsIn_append, length_append, Nat.add_sub_cancel, drop_left]

/-- The matches in the back of the list, the last one first, start the matches in all of it. -/
lemma positionsIn_back (limit : Nat) :
    positionsIn element (list.zipIdx.reverse.take limit) =
      (positionsIn element list.zipIdx.reverse).take
        ((list.drop (list.length - limit)).count element) := by
  have hcount : (positionsIn element (list.zipIdx.reverse.take limit)).length =
      (list.drop (list.length - limit)).count element := by
    rw [length_positionsIn, map_take, map_reverse, zipIdx_map_fst, take_reverse, count_reverse]
  have hsplit : positionsIn element list.zipIdx.reverse =
      positionsIn element (list.zipIdx.reverse.take limit) ++
        positionsIn element (list.zipIdx.reverse.drop limit) := by
    rw [← positionsIn_append, take_append_drop]
  rw [← hcount, hsplit, take_left]

/-- **What is found is what should be found** exactly if the rank is positive or the matches in the
front and in the back of the list agree, in number, from the one asked for on. -/
lemma lposPositions_iff {o : LposOptions} (hcount : o.count ≠ some 0)
    (hfits : list.length < vecCapacity) :
    lposPositions element o list = lposMeant element o list ↔
      0 < o.rank ∨
        let limit := o.maxlen.getD list.length
        let skipped := o.rank.toInt.natAbs - 1
        let front := (list.take limit).count element
        let back := (list.drop (list.length - limit)).count element
        (front ≤ skipped ∧ back ≤ skipped) ∨
          (front = list.count element ∧ (front = back ∨ skipped + o.count.getD 1 ≤ back)) := by
  rw [lposPositions_eq element hcount hfits, lposMeant]
  by_cases hpos : 0 < o.rank
  · simp only [hpos, if_true, true_or]
  · have hn : 0 < o.count.getD 1 := by
      rcases hc : o.count with _ | _ | n
      · exact Nat.one_pos
      · exact absurd hc hcount
      · exact n.succ_pos
    have htotal : (positionsIn element list.zipIdx.reverse).length = list.count element := by
      rw [length_positionsIn, map_reverse, zipIdx_map_fst, count_reverse]
    have hfront : (list.take (o.maxlen.getD list.length)).count element ≤
        (positionsIn element list.zipIdx.reverse).length :=
      htotal ▸ (take_sublist _ _).count_le _
    have hback : (list.drop (list.length - o.maxlen.getD list.length)).count element ≤
        (positionsIn element list.zipIdx.reverse).length :=
      htotal ▸ (drop_sublist _ _).count_le _
    simp only [hpos, if_false, false_or]
    rw [lposMatches_eq, lposMatches_eq, positionsIn_front, positionsIn_back,
      window_eq_iff (nodup_positionsIn element list hfits) hfront hback hn, htotal]

end matching

/-! ## The reply -/

section reply

variable {element : Bytes} {o : LposOptions} {list : List Bytes}

/-- Without `COUNT` at most one position is asked for. -/
lemma length_lposMatches_le (element : Bytes) (rank : Nat) (scan : List (Bytes × Nat)) :
    (lposMatches element rank none scan).length ≤ 1 := by
  rw [lposMatches, length_map]
  exact length_take_le _ _

/-- Positions can be read off the reply. -/
lemma lposReply_inj {rank rank' : Nat} {scan scan' : List (Bytes × Nat)} {count : Option Nat} :
    lposReply count (lposMatches element rank count scan) =
        lposReply count (lposMatches element rank' count scan') ↔
      lposMatches element rank count scan = lposMatches element rank' count scan' := by
  refine ⟨fun hreply => ?_, fun heq => by rw [heq]⟩
  cases count with
  | some n =>
    have hitems := RespFrame.array.inj hreply
    exact (map_injective_iff.mpr fun _ _ h => RespFrame.integer.inj h) hitems
  | none =>
    have hfirst := length_lposMatches_le element rank scan
    have hsecond := length_lposMatches_le element rank' scan'
    generalize lposMatches element rank none scan = found at *
    generalize lposMatches element rank' none scan' = meant at *
    rcases found with _ | ⟨p, _ | ⟨_, _⟩⟩
    · rcases meant with _ | ⟨q, _⟩
      · rfl
      · cases hreply
    · rcases meant with _ | ⟨q, _ | ⟨_, _⟩⟩
      · cases hreply
      · rw [RespFrame.integer.inj hreply]
      · exact absurd hsecond (by simp)
    · exact absurd hfirst (by simp)

/-- What `LPOS` replies for a list that it finds. -/
lemma cmdLpos_reply (err : Bytes → RespFrame) {key : Bytes} {options : List Bytes}
    (hoptions : parseLposOptions options ⟨1, none, none⟩ = .ok o) (hcount : o.count ≠ some 0)
    {now : Int64} {db : Db} {expireAtMs : Option Int64}
    (hlist : liveLookup now db key = some ⟨.list list, expireAtMs⟩) :
    ((cmdLpos err (key :: element :: options)).onDb now db).2 =
      lposReply o.count (lposPositions element o list) := by
  have hentry : (purgeExpiredKey db key now).lookup key = some ⟨.list list, expireAtMs⟩ :=
    lookup_purgeExpiredKey_self.trans hlist
  rw [cmdLpos, hoptions]
  simp only [oneKeyQuery, FastQuery.onDb, lookupKeys, hentry, head?_cons, Option.bind_some, id,
    fromList, if_neg hcount]

/-- **`LPOS` scans from the chosen end.** For every list that is stored at the key and all accepted
options with a `COUNT` other than zero, the reply has the matches among the elements that are met
first from the end that the rank chooses, exactly if the rank is positive, or neither the first nor
the last `MAXLEN` elements have more matches than are passed over, or all matches are among the
first `MAXLEN` elements and the last ones have as many, or as many as are asked for. -/
theorem cmdLpos_iff (err : Bytes → RespFrame) (key element : Bytes) (options : List Bytes)
    (o : LposOptions) (list : List Bytes)
    (hoptions : parseLposOptions options ⟨1, none, none⟩ = .ok o) (hcount : o.count ≠ some 0)
    (now : Int64) (db : Db) (expireAtMs : Option Int64)
    (hlist : liveLookup now db key = some ⟨.list list, expireAtMs⟩)
    (hfits : list.length < vecCapacity) :
    ((cmdLpos err (key :: element :: options)).onDb now db).2 =
        lposReply o.count (lposMeant element o list) ↔
      0 < o.rank ∨
        let limit := o.maxlen.getD list.length
        let skipped := o.rank.toInt.natAbs - 1
        let front := (list.take limit).count element
        let back := (list.drop (list.length - limit)).count element
        (front ≤ skipped ∧ back ≤ skipped) ∨
          (front = list.count element ∧ (front = back ∨ skipped + o.count.getD 1 ≤ back)) := by
  rw [cmdLpos_reply err hoptions hcount hlist, ← lposPositions_iff element list hcount hfits,
    lposPositions_eq element hcount hfits, lposMeant]
  exact lposReply_inj

/-- The list `x`, `y` at the key `k`. -/
def lposDb : Db := Finmap.singleton (ascii "k") ⟨.list [ascii "x", ascii "y"], none⟩

/-- `LPOS k x RANK -1 MAXLEN 1`: the last of two elements does not match, and the first one is
found. -/
theorem lpos_maxlen_cuts_the_tail :
    ((cmdLpos .error
        [ascii "k", ascii "x", ascii "RANK", ascii "-1", ascii "MAXLEN", ascii "1"]).onDb
          0 lposDb).2 = .integer 0 ∧
      parseLposOptions [ascii "RANK", ascii "-1", ascii "MAXLEN", ascii "1"] ⟨1, none, none⟩ =
        .ok ⟨-1, none, some 1⟩ ∧
      lposReply none (lposMeant (ascii "x") ⟨-1, none, some 1⟩ [ascii "x", ascii "y"]) =
        .bulkString none := by
  have hoptions : parseLposOptions [ascii "RANK", ascii "-1", ascii "MAXLEN", ascii "1"]
      ⟨1, none, none⟩ = .ok ⟨-1, none, some 1⟩ := by rfl
  have hlist : liveLookup 0 lposDb (ascii "k") = some ⟨.list [ascii "x", ascii "y"], none⟩ := by
    decide
  refine ⟨?_, hoptions, rfl⟩
  rw [cmdLpos_reply .error hoptions (by decide) hlist]
  rfl

/-- `LPOS k y RANK -1`: the last element, from the end of the list. -/
theorem lpos_last_from_tail :
    ((cmdLpos .error [ascii "k", ascii "y", ascii "RANK", ascii "-1"]).onDb 0 lposDb).2 =
      lposReply none (lposMeant (ascii "y") ⟨-1, none, none⟩ [ascii "x", ascii "y"]) := by
  refine (cmdLpos_iff .error (ascii "k") (ascii "y") [ascii "RANK", ascii "-1"] ⟨-1, none, none⟩
    [ascii "x", ascii "y"] rfl (by decide) 0 lposDb none (by decide) (by decide)).mpr (.inr (.inr ?_))
  decide

end reply

end Ratatosk.Engine
