import Ratatosk.Lib.BinarySearch
import Ratatosk.Keyspace.Stored

/-!
# The two representations of a set

The set operations of `StoredValue` in `ratatosk-engine/src/keyspace.rs`. A small set whose members
are all canonical decimal integers is a sorted vector of them; another is a hash set, and so is an
integer set that gets another kind of member or grows too large.

* `ValueData.setInsertMember`, `setRemoveMember`, `setContains`, `setLen`, `setIsEmpty`,
  `setMembers`, `setTakeAllMembers` — the operations, on either representation.
* `matches_step` — one operation on data that represents a set is answered as on the set, and the
  data after it represents the set after it.
* `set_run_refines` — **any operations on a stored set are answered as those on the set are**.
-/

namespace Ratatosk.Keyspace

open Lib List Finset

/-! ## The operations -/

/-- Source: `intset_member_to_bytes` -/
def intsetMemberToBytes (n : Int64) : Bytes := decimalInt n.toInt

/-- Source: `intset_to_hashset` -/
def intsetToHashset (values : List Int64) : HashSet Bytes :=
  HashMap.collect (values.map fun n => ⟨intsetMemberToBytes n, ()⟩)

/-- The position of an integer among the members, or the one where it would have to stand. -/
def searchIntset (members : List Int64) (n : Int64) : Except Nat Nat :=
  binarySearch Int64.toInt members n.toInt

/-- `HashSet::insert` -/
def hashSetInsert (members : HashSet Bytes) (member : Bytes) : HashSet Bytes × Bool :=
  if member ∈ members then (members, false) else (members.insert member (), true)

/-- `HashSet::remove` -/
def hashSetRemove (members : HashSet Bytes) (member : Bytes) : HashSet Bytes × Bool :=
  if member ∈ members then (members.erase member, true) else (members, false)

namespace ValueData

/-- Source: `StoredValue::set_len` -/
def setLen : ValueData → Option Nat
  | .set members => some members.keys.length
  | .setInt members => some members.length
  | _ => none

/-- Source: `StoredValue::set_is_empty` -/
def setIsEmpty (data : ValueData) : Option Bool := data.setLen.map fun len => len == 0

/-- Source: `StoredValue::set_contains` -/
def setContains (member : Bytes) : ValueData → Option Bool
  | .set members => some (decide (member ∈ members))
  | .setInt members =>
    some ((bytesToIntsetMember member).any fun n => (searchIntset members n).isOk)
  | _ => none

/-- Source: `StoredValue::set_members` -/
def setMembers : ValueData → Option (List Bytes)
  | .set members => some members.keys
  | .setInt members => some (members.map intsetMemberToBytes)
  | _ => none

/-- Source: `StoredValue::set_insert_member` -/
def setInsertMember (member : Bytes) : ValueData → Option (ValueData × Bool)
  | .set members =>
    let (members, inserted) := hashSetInsert members member
    some (.set members, inserted)
  | .setInt members =>
    match bytesToIntsetMember member with
    | some n =>
      match searchIntset members n with
      | .ok _ => some (.setInt members, false)
      | .error pos =>
        if setMaxIntsetEntries ≤ members.length then
          let (upgraded, inserted) := hashSetInsert (intsetToHashset members) member
          some (.set upgraded, inserted)
        else some (.setInt (members.insertIdx pos n), true)
    | none =>
      let (upgraded, inserted) := hashSetInsert (intsetToHashset members) member
      some (.set upgraded, inserted)
  | _ => none

/-- Source: `StoredValue::set_remove_member` -/
def setRemoveMember (member : Bytes) : ValueData → Option (ValueData × Bool)
  | .set members =>
    let (members, removed) := hashSetRemove members member
    some (.set members, removed)
  | .setInt members =>
    match bytesToIntsetMember member with
    | none => some (.setInt members, false)
    | some n =>
      match searchIntset members n with
      | .ok pos => some (.setInt (members.eraseIdx pos), true)
      | .error _ => some (.setInt members, false)
  | _ => none

/-- Source: `StoredValue::set_take_all_members` -/
def setTakeAllMembers : ValueData → Option (ValueData × List Bytes)
  | .set members => some (.set ∅, members.keys)
  | .setInt members => some (.setInt [], members.map intsetMemberToBytes)
  | _ => none

end ValueData

/-! ## Operations and their answers -/

/-- An operation on a set. -/
inductive SetOp where
  | insert (member : Bytes)
  | remove (member : Bytes)
  | contains (member : Bytes)
  | len
  | isEmpty
  | members
  | takeAll
  deriving Repr, DecidableEq

/-- The answer to an operation. -/
inductive SetAnswer where
  | flag (value : Bool)
  | count (n : Nat)
  | listing (members : List Bytes)
  deriving Repr, DecidableEq

/-- An operation on stored data; `none` if it is not a set. -/
def SetOp.step (data : ValueData) : SetOp → Option (ValueData × SetAnswer)
  | .insert member =>
    (data.setInsertMember member).map fun (data, inserted) => (data, .flag inserted)
  | .remove member =>
    (data.setRemoveMember member).map fun (data, removed) => (data, .flag removed)
  | .contains member => (data.setContains member).map fun found => (data, .flag found)
  | .len => data.setLen.map fun len => (data, .count len)
  | .isEmpty => data.setIsEmpty.map fun empty => (data, .flag empty)
  | .members => data.setMembers.map fun listed => (data, .listing listed)
  | .takeAll => data.setTakeAllMembers.map fun (data, taken) => (data, .listing taken)

/-- The answer of a mathematical set. -/
inductive SetSpecAnswer where
  | flag (value : Bool)
  | count (n : Nat)
  | listing (members : Finset Bytes)
  deriving DecidableEq

/-- The operation on a mathematical set. -/
def SetOp.specStep (s : Finset Bytes) : SetOp → Finset Bytes × SetSpecAnswer
  | .insert member => (Insert.insert member s, .flag (decide (member ∉ s)))
  | .remove member => (s.erase member, .flag (decide (member ∈ s)))
  | .contains member => (s, .flag (decide (member ∈ s)))
  | .len => (s, .count s.card)
  | .isEmpty => (s, .flag (decide (s = ∅)))
  | .members => (s, .listing s)
  | .takeAll => (∅, .listing s)

/-- The answers agree: a listing has each member once, in any order. -/
def SetAnswer.Matches : SetAnswer → SetSpecAnswer → Prop
  | .flag value, .flag spec => value = spec
  | .count n, .count spec => n = spec
  | .listing members, .listing spec => members.Nodup ∧ members.toFinset = spec
  | _, _ => False

/-- Some operations on stored data, with their answers. -/
def SetOp.run : List SetOp → ValueData → Option (ValueData × List SetAnswer)
  | [], data => some (data, [])
  | op :: ops, data =>
    (op.step data).bind fun (data, answer) =>
      (SetOp.run ops data).map fun (data, answers) => (data, answer :: answers)

/-- Some operations on a mathematical set, with their answers. -/
def SetOp.specRun : List SetOp → Finset Bytes → Finset Bytes × List SetSpecAnswer
  | [], s => (s, [])
  | op :: ops, s =>
    let (s, answer) := op.specStep s
    let (s, answers) := SetOp.specRun ops s
    (s, answer :: answers)

/-! ## Representation -/

/-- The data is a set with these members; the vector of an integer set is in strict order. -/
def Represents (data : ValueData) (s : Finset Bytes) : Prop :=
  match data with
  | .set members => members.keys.toFinset = s
  | .setInt members =>
    (members.Pairwise fun a b => a.toInt < b.toInt) ∧
      (members.map intsetMemberToBytes).toFinset = s
  | _ => False

section represents

variable {s : Finset Bytes} {members : HashSet Bytes} {ints : List Int64} {member : Bytes}

/-- An integer encodes exactly the text that it prints as. -/
lemma bytesToIntsetMember_eq_some_iff {n : Int64} :
    bytesToIntsetMember member = some n ↔ member = intsetMemberToBytes n := by
  constructor
  · intro h
    exact (decimalInt_of_bytesToIntsetMember h).symm
  · rintro rfl
    rw [bytesToIntsetMember, intsetMemberToBytes, if_pos (validUtf8_decimalInt _),
      parseI64_decimalInt, Option.bind_some, if_pos rfl]

lemma intsetMemberToBytes_injective : Function.Injective intsetMemberToBytes := by
  intro a b h
  have ha := bytesToIntsetMember_eq_some_iff.mpr (Eq.refl (intsetMemberToBytes a))
  rw [h, bytesToIntsetMember_eq_some_iff.mpr rfl] at ha
  exact (Option.some.inj ha).symm

lemma represents_hashSetInsert (h : members.keys.toFinset = s) (member : Bytes) :
    (hashSetInsert members member).1.keys.toFinset = insert member s ∧
      (hashSetInsert members member).2 = decide (member ∉ s) := by
  subst h
  rw [hashSetInsert]
  split_ifs with hmem
  · have hmem' : member ∈ members.keys.toFinset := mem_toFinset.mpr hmem
    exact ⟨(insert_eq_of_mem hmem').symm, (decide_eq_false (not_not.mpr hmem')).symm⟩
  · have hmem' : member ∉ members.keys.toFinset := fun h => hmem (mem_toFinset.mp h)
    refine ⟨?_, (decide_eq_true hmem').symm⟩
    ext other
    rw [mem_toFinset, mem_insert, mem_toFinset]
    exact AList.mem_insert members

lemma represents_hashSetRemove (h : members.keys.toFinset = s) (member : Bytes) :
    (hashSetRemove members member).1.keys.toFinset = s.erase member ∧
      (hashSetRemove members member).2 = decide (member ∈ s) := by
  subst h
  rw [hashSetRemove]
  split_ifs with hmem
  · have hmem' : member ∈ members.keys.toFinset := mem_toFinset.mpr hmem
    refine ⟨?_, (decide_eq_true hmem').symm⟩
    ext other
    rw [mem_toFinset, mem_erase, mem_toFinset]
    exact AList.mem_erase
  · have hmem' : member ∉ members.keys.toFinset := fun h => hmem (mem_toFinset.mp h)
    exact ⟨(erase_eq_of_notMem hmem').symm, (decide_eq_false hmem').symm⟩

lemma keys_intsetToHashset (ints : List Int64) :
    (intsetToHashset ints).keys.toFinset = (ints.map intsetMemberToBytes).toFinset := by
  have h := HashMap.keys_collect_unit (ints.map intsetMemberToBytes)
  rw [List.map_map] at h
  rw [← h]
  ext member
  rw [mem_toFinset, Finmap.mem_keys, Finmap.mem_toFinmap]
  rfl

/-- An integer is found exactly if its text is a member. -/
lemma isOk_searchIntset_iff (hsorted : ints.Pairwise fun a b => a.toInt < b.toInt) (n : Int64) :
    (searchIntset ints n).isOk = true ↔
      intsetMemberToBytes n ∈ (ints.map intsetMemberToBytes).toFinset := by
  rw [mem_toFinset, mem_map_of_injective intsetMemberToBytes_injective]
  constructor
  · intro hok
    cases hsearch : searchIntset ints n with
    | error pos =>
      rw [hsearch] at hok
      cases hok
    | ok pos =>
      obtain ⟨m, hm, hkey⟩ := binarySearch_ok hsearch
      rw [← Int64.toInt_inj.mp hkey]
      exact mem_of_getElem? hm
  · intro hmem
    cases hsearch : searchIntset ints n with
    | error pos => exact absurd rfl (key_ne_of_binarySearch_error hsorted hsearch hmem)
    | ok pos => rfl

/-- A text that encodes no integer is no member of an integer set. -/
lemma not_mem_of_bytesToIntsetMember_eq_none (h : bytesToIntsetMember member = none) :
    member ∉ (ints.map intsetMemberToBytes).toFinset := by
  rw [mem_toFinset, List.mem_map]
  rintro ⟨n, -, rfl⟩
  rw [bytesToIntsetMember_eq_some_iff.mpr rfl] at h
  cases h

lemma nodup_intset (hsorted : ints.Pairwise fun a b => a.toInt < b.toInt) :
    (ints.map intsetMemberToBytes).Nodup := by
  have hnodup : ints.Nodup := hsorted.imp fun hlt heq => (heq ▸ hlt).false
  exact hnodup.map intsetMemberToBytes_injective

variable {data : ValueData}

/-- Inserting a member. -/
lemma represents_setInsertMember (h : Represents data s) (member : Bytes) :
    ∃ data', data.setInsertMember member = some (data', decide (member ∉ s)) ∧
      Represents data' (insert member s) := by
  match data with
  | .set members =>
    obtain ⟨hkeys, hflag⟩ := represents_hashSetInsert h member
    refine ⟨.set (hashSetInsert members member).1, ?_, hkeys⟩
    rw [← hflag]
    rfl
  | .setInt ints =>
    obtain ⟨hsorted, hmembers⟩ := h
    -- an upgrade is lossless, and the hash set then gets the member
    obtain ⟨hkeys, hflag⟩ :=
      represents_hashSetInsert ((keys_intsetToHashset ints).trans hmembers) member
    have hupgrade : ∃ data', some (ValueData.set (hashSetInsert (intsetToHashset ints) member).1,
        (hashSetInsert (intsetToHashset ints) member).2) = some (data', decide (member ∉ s)) ∧
        Represents data' (insert member s) :=
      ⟨.set (hashSetInsert (intsetToHashset ints) member).1, by rw [hflag], hkeys⟩
    cases hint : bytesToIntsetMember member with
    | none =>
      rw [ValueData.setInsertMember, hint]
      exact hupgrade
    | some n =>
      obtain rfl := bytesToIntsetMember_eq_some_iff.mp hint
      have hfound := isOk_searchIntset_iff hsorted n
      rw [hmembers] at hfound
      rw [ValueData.setInsertMember, hint]
      dsimp only
      cases hsearch : searchIntset ints n with
      | ok pos =>
        rw [hsearch] at hfound
        have hmem := hfound.mp rfl
        refine ⟨.setInt ints, ?_, hsorted, ?_⟩
        · rw [decide_eq_false (not_not.mpr hmem)]
        · rw [hmembers, insert_eq_of_mem hmem]
      | error pos =>
        dsimp only
        split_ifs
        · exact hupgrade
        · rw [hsearch] at hfound
          have hmem : intsetMemberToBytes n ∉ s := fun hmem => nomatch hfound.mpr hmem
          have hle := (binarySearch_error hsorted hsearch).1
          refine ⟨.setInt (ints.insertIdx pos n), by rw [decide_eq_true hmem],
            pairwise_insertIdx hsorted hsearch, ?_⟩
          have hperm := (perm_insertIdx n ints hle).map intsetMemberToBytes
          rw [← hmembers, toFinset_eq_of_perm _ _ hperm, List.map_cons, toFinset_cons]

/-- Removing a member. -/
lemma represents_setRemoveMember (h : Represents data s) (member : Bytes) :
    ∃ data', data.setRemoveMember member = some (data', decide (member ∈ s)) ∧
      Represents data' (s.erase member) := by
  match data with
  | .set members =>
    obtain ⟨hkeys, hflag⟩ := represents_hashSetRemove h member
    refine ⟨.set (hashSetRemove members member).1, ?_, hkeys⟩
    rw [← hflag]
    rfl
  | .setInt ints =>
    obtain ⟨hsorted, rfl⟩ := h
    have hkept : member ∉ (ints.map intsetMemberToBytes).toFinset →
        ∃ data', some (ValueData.setInt ints, false) =
          some (data', decide (member ∈ (ints.map intsetMemberToBytes).toFinset)) ∧
          Represents data' ((ints.map intsetMemberToBytes).toFinset.erase member) := by
      intro hmem
      refine ⟨.setInt ints, by rw [decide_eq_false hmem], hsorted, ?_⟩
      rw [erase_eq_of_notMem hmem]
    cases hint : bytesToIntsetMember member with
    | none =>
      rw [ValueData.setRemoveMember, hint]
      exact hkept (not_mem_of_bytesToIntsetMember_eq_none hint)
    | some n =>
      obtain rfl := bytesToIntsetMember_eq_some_iff.mp hint
      have hfound := isOk_searchIntset_iff hsorted n
      rw [ValueData.setRemoveMember, hint]
      dsimp only
      cases hsearch : searchIntset ints n with
      | error pos =>
        rw [hsearch] at hfound
        exact hkept fun hmem => nomatch hfound.mpr hmem
      | ok pos =>
        rw [hsearch] at hfound
        obtain ⟨m, hm, hkey⟩ := binarySearch_ok hsearch
        obtain rfl := Int64.toInt_inj.mp hkey
        refine ⟨.setInt (ints.eraseIdx pos), by rw [decide_eq_true (hfound.mp rfl)],
          hsorted.sublist (eraseIdx_sublist _ _), ?_⟩
        obtain ⟨hpos, rfl⟩ := List.getElem?_eq_some_iff.mp hm
        have hnodup : ints.Nodup := hsorted.imp fun hlt heq => (heq ▸ hlt).false
        have hperm := (getElem_cons_eraseIdx_perm hpos).map intsetMemberToBytes
        have hfresh := hperm.nodup_iff.mpr (hnodup.map intsetMemberToBytes_injective)
        rw [List.map_cons, nodup_cons, ← mem_toFinset] at hfresh
        rw [← toFinset_eq_of_perm _ _ hperm, List.map_cons, toFinset_cons,
          erase_insert hfresh.1]

/-- Looking for a member. -/
lemma represents_setContains (h : Represents data s) (member : Bytes) :
    data.setContains member = some (decide (member ∈ s)) := by
  match data with
  | .set members =>
    subst h
    rw [ValueData.setContains, Option.some.injEq, decide_eq_decide, mem_toFinset]
    rfl
  | .setInt ints =>
    obtain ⟨hsorted, rfl⟩ := h
    rw [ValueData.setContains]
    cases hint : bytesToIntsetMember member with
    | none =>
      rw [decide_eq_false (not_mem_of_bytesToIntsetMember_eq_none hint)]
      rfl
    | some n =>
      obtain rfl := bytesToIntsetMember_eq_some_iff.mp hint
      rw [Option.any_some, Option.some.injEq, Bool.eq_iff_iff, decide_eq_true_iff]
      exact isOk_searchIntset_iff hsorted n

/-- Listing the members. -/
lemma represents_setMembers (h : Represents data s) :
    ∃ listed, data.setMembers = some listed ∧ data.setLen = some listed.length ∧
      listed.Nodup ∧ listed.toFinset = s := by
  match data with
  | .set members => exact ⟨members.keys, rfl, rfl, members.nodupKeys, h⟩
  | .setInt ints =>
    refine ⟨ints.map intsetMemberToBytes, rfl, ?_, nodup_intset h.1, h.2⟩
    rw [length_map]
    rfl

lemma represents_setTakeAllMembers (h : Represents data s) :
    ∃ data' taken, data.setTakeAllMembers = some (data', taken) ∧ Represents data' ∅ ∧
      taken.Nodup ∧ taken.toFinset = s := by
  match data with
  | .set members => exact ⟨.set ∅, members.keys, rfl, rfl, members.nodupKeys, h⟩
  | .setInt ints => exact ⟨.setInt [], _, rfl, ⟨.nil, rfl⟩, nodup_intset h.1, h.2⟩

lemma pairwise_sortDedup (ints : List Int64) :
    (sortDedup ints).Pairwise fun a b => a.toInt < b.toInt := by
  have htotal : Std.Total fun a b : Int64 => a ≤ b := ⟨Int64.le_total⟩
  have htrans : IsTrans Int64 fun a b => a ≤ b := ⟨fun _ _ _ => Int64.le_trans⟩
  have hsorted : (ints.insertionSort (· ≤ ·)).Pairwise (· ≤ ·) := pairwise_insertionSort _ ints
  have hdedup := hsorted.sublist (dedup_sublist _)
  have hnodup := nodup_dedup (ints.insertionSort (· ≤ ·))
  refine (hdedup.and hnodup).imp fun {a b} h => ?_
  have hle := Int64.le_iff_toInt_le.mp h.1
  have hne : a.toInt ≠ b.toInt := fun heq => h.2 (Int64.toInt_inj.mp heq)
  omega

lemma represents_set (values : HashSet Bytes) (expireAtMs : Option Int64) :
    Represents (StoredValue.set values expireAtMs).data values.keys.toFinset := by
  unfold StoredValue.set
  split_ifs
  · split
    · next ints hints =>
        refine ⟨pairwise_sortDedup ints, ?_⟩
        rw [← map_decimalInt_of_mapM hints]
        ext member
        simp only [mem_toFinset, List.mem_map, mem_sortDedup]
        rfl
    · rfl
  · rfl

lemma Represents.content_eq (h : Represents data s) : data.content = .set s := by
  match data with
  | .set members =>
    refine congrArg Value.set (Finset.ext fun member => ?_)
    rw [← h, Finmap.mem_keys, Finmap.mem_toFinmap, mem_toFinset]
    rfl
  | .setInt ints => exact congrArg Value.set h.2

/-! ## Simulation -/

/-- **One operation on stored data is answered as on the set that the data represents.** -/
lemma matches_step (h : Represents data s) (op : SetOp) :
    ∃ data' answer, op.step data = some (data', answer) ∧ Represents data' (op.specStep s).1 ∧
      answer.Matches (op.specStep s).2 := by
  obtain ⟨listed, hmembers, hlen, hnodup, hlisted⟩ := represents_setMembers h
  have hcard : listed.length = s.card := by rw [← hlisted, toFinset_card_of_nodup hnodup]
  cases op with
  | insert member =>
    obtain ⟨data', hinsert, hdata'⟩ := represents_setInsertMember h member
    refine ⟨data', .flag (decide (member ∉ s)), ?_, hdata', rfl⟩
    rw [SetOp.step, hinsert]
    rfl
  | remove member =>
    obtain ⟨data', hremove, hdata'⟩ := represents_setRemoveMember h member
    refine ⟨data', .flag (decide (member ∈ s)), ?_, hdata', rfl⟩
    rw [SetOp.step, hremove]
    rfl
  | contains member =>
    refine ⟨data, .flag (decide (member ∈ s)), ?_, h, rfl⟩
    rw [SetOp.step, represents_setContains h]
    rfl
  | len =>
    refine ⟨data, .count listed.length, ?_, h, hcard⟩
    rw [SetOp.step, hlen]
    rfl
  | isEmpty =>
    refine ⟨data, .flag (listed.length == 0), ?_, h, ?_⟩
    · rw [SetOp.step, ValueData.setIsEmpty, hlen]
      rfl
    · change (listed.length == 0) = decide (s = ∅)
      rw [Bool.eq_iff_iff, beq_iff_eq, decide_eq_true_iff, hcard, card_eq_zero]
  | members =>
    refine ⟨data, .listing listed, ?_, h, hnodup, hlisted⟩
    rw [SetOp.step, hmembers]
    rfl
  | takeAll =>
    obtain ⟨data', taken, htake, hdata', hanswer⟩ := represents_setTakeAllMembers h
    refine ⟨data', .listing taken, ?_, hdata', hanswer⟩
    rw [SetOp.step, htake]
    rfl

/-- **Any operations are.** -/
lemma matches_run (h : Represents data s) (ops : List SetOp) :
    ∃ data' answers, SetOp.run ops data = some (data', answers) ∧
      Represents data' (SetOp.specRun ops s).1 ∧
      List.Forall₂ SetAnswer.Matches answers (SetOp.specRun ops s).2 := by
  induction ops generalizing data s with
  | nil => exact ⟨data, [], rfl, h, .nil⟩
  | cons op ops ih =>
    obtain ⟨middle, answer, hstep, hmiddle, hanswer⟩ := matches_step h op
    obtain ⟨data', answers, hrun, hdata', hanswers⟩ := ih hmiddle
    refine ⟨data', answer :: answers, ?_, hdata', hanswers.cons hanswer⟩
    rw [SetOp.run, hstep, Option.bind_some]
    dsimp only
    rw [hrun]
    rfl

end represents

/-- **A stored set answers as a mathematical set does.** Store any set of byte strings, in whichever
representation it gets, and apply any operations: each is answered as the same operation on the
mathematical set of its members is, a listing in some order; and what is stored in the end is the
set that these operations lead to. -/
theorem set_run_refines (values : HashSet Bytes) (expireAtMs : Option Int64) (ops : List SetOp) :
    ∃ data answers, SetOp.run ops (StoredValue.set values expireAtMs).data = some (data, answers) ∧
      List.Forall₂ SetAnswer.Matches answers (SetOp.specRun ops values.keys.toFinset).2 ∧
      data.content = .set (SetOp.specRun ops values.keys.toFinset).1 := by
  obtain ⟨data, answers, hrun, hdata, hanswers⟩ := matches_run (represents_set values expireAtMs) ops
  exact ⟨data, answers, hrun, hanswers, hdata.content_eq⟩

end Ratatosk.Keyspace
