import Ratatosk.Engine.StreamHandlers

/-!
# The order of streams

* `streams_ascend` — **after every run from an empty keyspace, whatever the clock reads, streams
  are in order and their metadata is valid for them; and the IDs that `XADD` assigns in a stream
  ascend as long as the key is not deleted and `XSETID` does not name it.**

The last generated ID is part of the metadata, so it outlives the entries. Runs may also read the
groups of a stream and claim entries. A process that cannot grow a vector ends there.
-/

namespace Ratatosk.Engine

open Lib Keyspace Resp List Function Bool

/-! ## The order of IDs, in numbers -/

lemma idLt_iff_rank {a b : StreamId} : idLt a b = true ↔ a.rank < b.rank := by
  rw [idLt, and_eq_true, StreamId.le_iff_rank, bne_iff_ne, lt_iff_le_and_ne]
  exact and_congr_right fun _ => not_congr StreamId.rank_injective.eq_iff.symm

lemma idLt_eq_false_iff_rank {a b : StreamId} : idLt a b = false ↔ b.rank ≤ a.rank := by
  rw [← not_lt, ← idLt_iff_rank, not_eq_true]

/-! ## Streams in order -/

/-- The entries ascend, and the metadata is what it says. -/
structure Stream.Ordered (s : Stream) : Prop where
  ascending : s.entries.Pairwise fun a b => a.id.rank < b.id.rank
  bounded : ∀ item ∈ s.entries, item.id.rank ≤ s.metadata.lastId.rank
  counted : s.entries.length ≤ s.metadata.entriesAdded.toNat
  deleted : s.metadata.maxDeletedId.rank ≤ s.metadata.lastId.rank
  fits : s.entries.length ≤ vecCapacity

/-- Entries are taken away, and the metadata follows. -/
structure Stream.Shrinks (s s' : Stream) : Prop where
  entries : s'.entries.Sublist s.entries
  lastId : s'.metadata.lastId = s.metadata.lastId
  entriesAdded : s'.metadata.entriesAdded = s.metadata.entriesAdded
  maxDeletedId : s'.metadata.maxDeletedId = s.metadata.maxDeletedId ∨
    ∃ item ∈ s.entries, s'.metadata.maxDeletedId = item.id

section ordered

variable {s s' : Stream}

lemma Stream.ordered_fresh : Stream.fresh.Ordered where
  ascending := .nil
  bounded := by
    intro item hitem
    cases hitem
  counted := Nat.zero_le _
  deleted := le_rfl
  fits := Nat.zero_le _

lemma Stream.shrinks_groups (s : Stream) (groups : Groups) :
    s.Shrinks { s with groups := groups } where
  entries := .refl _
  lastId := rfl
  entriesAdded := rfl
  maxDeletedId := .inl rfl

/-- A stream that shrinks stays ordered. -/
lemma Stream.Ordered.shrinks (h : s.Ordered) (hs : s.Shrinks s') : s'.Ordered where
  ascending := h.ascending.sublist hs.entries
  bounded := by
    intro item hitem
    rw [hs.lastId]
    exact h.bounded item (hs.entries.mem hitem)
  counted := by
    rw [hs.entriesAdded]
    exact hs.entries.length_le.trans h.counted
  deleted := by
    rw [hs.lastId]
    rcases hs.maxDeletedId with heq | ⟨item, hitem, heq⟩
    · rw [heq]
      exact h.deleted
    · rw [heq]
      exact h.bounded item hitem
  fits := hs.entries.length_le.trans h.fits

lemma toNat_entriesAdded_append (added : UInt64) :
    (if added = 0xFFFFFFFFFFFFFFFF then added else added + 1).toNat =
      min (added.toNat + 1) (2 ^ 64 - 1) := by
  have hlt := added.toNat_lt
  split_ifs with h
  · rw [h]
    rfl
  · have hne : added.toNat ≠ 0xFFFFFFFFFFFFFFFF := by
      intro heq
      exact h (UInt64.toNat.inj heq)
    rw [UInt64.toNat_add]
    change (added.toNat + 1) % 2 ^ 64 = _
    omega

/-- So does one with an entry after its last. -/
lemma Stream.Ordered.append (h : s.Ordered) {id : StreamId} (fields : List (Bytes × Bytes))
    (hid : s.metadata.lastId.rank < id.rank)
    (hfits : (s.append id fields).entries.length ≤ vecCapacity) :
    (s.append id fields).Ordered where
  ascending := by
    change List.Pairwise _ (s.entries ++ [(⟨id, fields⟩ : StreamEntry)])
    rw [pairwise_append]
    refine ⟨h.ascending, pairwise_singleton _ _, ?_⟩
    intro item hitem top htop
    rw [mem_singleton] at htop
    subst htop
    exact (h.bounded item hitem).trans_lt hid
  bounded := by
    change ∀ item ∈ s.entries ++ [⟨id, fields⟩], item.id.rank ≤ id.rank
    intro item hitem
    rcases mem_append.mp hitem with hitem | hitem
    · exact (h.bounded item hitem).trans hid.le
    · rw [mem_singleton] at hitem
      rw [hitem]
  counted := by
    change (s.entries ++ [(⟨id, fields⟩ : StreamEntry)]).length ≤
      (if s.metadata.entriesAdded = 0xFFFFFFFFFFFFFFFF then s.metadata.entriesAdded
        else s.metadata.entriesAdded + 1).toNat
    change (s.entries ++ [(⟨id, fields⟩ : StreamEntry)]).length ≤ vecCapacity at hfits
    have hcounted := h.counted
    rw [toNat_entriesAdded_append]
    rw [length_append, length_singleton] at hfits ⊢
    rw [vecCapacity] at hfits
    omega
  deleted := h.deleted.trans hid.le
  fits := hfits

lemma Stream.Ordered.le_top (h : s.Ordered) {top item : StreamEntry}
    (htop : s.entries.getLast? = some top) (hitem : item ∈ s.entries) :
    item.id.rank ≤ top.id.rank := by
  obtain ⟨front, hfront⟩ := getLast?_eq_some_iff.mp htop
  have hascending := h.ascending
  rw [hfront, pairwise_append] at hascending
  rw [hfront, mem_append, mem_singleton] at hitem
  rcases hitem with hitem | rfl
  · exact (hascending.2.2 item hitem top (mem_singleton_self top)).le
  · exact le_rfl

/-- What an `XSETID` that is not refused has checked. -/
lemma xsetidRefusal_eq_none {newId : StreamId} {entriesAdded : Option UInt64}
    (h : xsetidRefusal newId entriesAdded s = none) :
    s.metadata.maxDeletedId.rank ≤ newId.rank ∧
      ∀ top, s.entries.getLast? = some top → top.id.rank ≤ newId.rank ∧
        ∀ added, entriesAdded = some added → UInt64.ofNat s.entries.length ≤ added := by
  rw [xsetidRefusal] at h
  by_cases hdeleted : idLt newId s.metadata.maxDeletedId = true
  · rw [if_pos hdeleted] at h
    cases h
  rw [if_neg hdeleted] at h
  refine ⟨idLt_eq_false_iff_rank.mp (eq_false_iff.mpr hdeleted), ?_⟩
  intro top htop
  rw [htop] at h
  dsimp only at h
  split_ifs at h with htopId hadded
  refine ⟨idLt_eq_false_iff_rank.mp (eq_false_iff.mpr htopId), ?_⟩
  rintro added rfl
  simpa using hadded

/-- So does one with an ID that `XSETID` takes. -/
lemma Stream.Ordered.setId (h : s.Ordered) {newId maxDeletedId : StreamId}
    {entriesAdded : Option UInt64}
    (hmax : maxDeletedId = .zero ∨ idLt newId maxDeletedId = false)
    (hallowed : xsetidRefusal newId entriesAdded s = none) :
    { s with metadata := xsetidMeta newId entriesAdded maxDeletedId s.metadata }.Ordered := by
  obtain ⟨hdeleted, htop⟩ := xsetidRefusal_eq_none hallowed
  refine ⟨h.ascending, ?_, ?_, ?_, h.fits⟩
  · intro item hitem
    cases hlast : s.entries.getLast? with
    | none =>
      rw [getLast?_eq_none_iff.mp hlast] at hitem
      cases hitem
    | some top => exact (h.le_top hlast hitem).trans (htop top hlast).1
  · change s.entries.length ≤ (entriesAdded.getD s.metadata.entriesAdded).toNat
    cases entriesAdded with
    | none => exact h.counted
    | some added =>
      cases hlast : s.entries.getLast? with
      | none =>
        rw [getLast?_eq_none_iff.mp hlast]
        exact Nat.zero_le _
      | some top =>
        have hadded := UInt64.le_iff_toNat_le.mp ((htop top hlast).2 added rfl)
        have hfits := h.fits
        rw [vecCapacity] at hfits
        rw [UInt64.toNat_ofNat_of_lt' (by change _ < 2 ^ 64; omega)] at hadded
        exact hadded
  · change (if maxDeletedId = .zero then s.metadata.maxDeletedId else maxDeletedId).rank ≤
      newId.rank
    split_ifs with hzero
    · exact hdeleted
    · exact idLt_eq_false_iff_rank.mp (hmax.resolve_left hzero)

/-- Metadata is valid for entries in order. -/
lemma Stream.Ordered.isValidFor (h : s.Ordered) : s.metadata.isValidFor s.entries = true := by
  have hfits := h.fits
  rw [vecCapacity] at hfits
  rw [StreamMeta.isValidFor, and_eq_true, and_eq_true, StreamId.le_iff_rank,
    decide_eq_true_iff, UInt64.le_iff_toNat_le,
    UInt64.toNat_ofNat_of_lt' (by change _ < 2 ^ 64; omega)]
  refine ⟨⟨?_, h.counted⟩, h.deleted⟩
  cases hlast : s.entries.getLast? with
  | none => rfl
  | some top =>
    rw [Option.all_some, StreamId.le_iff_rank]
    exact h.bounded top (mem_of_getLast? hlast)

end ordered

/-! ## Edits that take entries away -/

section shrinks

variable {err : Bytes → RespFrame} {now : Int64}

lemma foldl_max_mem (ids : List StreamId) (start : StreamId) :
    ids.foldl StreamId.max start = start ∨ ids.foldl StreamId.max start ∈ ids := by
  induction ids generalizing start with
  | nil => exact .inl rfl
  | cons id rest ih =>
    rw [foldl_cons]
    rcases ih (start.max id) with heq | hmem
    · rw [heq]
      rcases StreamId.max_eq_or start id with hmax | hmax
      · exact .inl hmax
      · rw [hmax]
        exact .inr mem_cons_self
    · exact .inr (mem_cons_of_mem _ hmem)

/-- Entries are taken away and their IDs recorded. -/
lemma Stream.shrinks_recorded {s : Stream} {kept : List StreamEntry} {groups : Groups}
    {deleted : List StreamId} (hkept : kept.Sublist s.entries)
    (hdeleted : ∀ id ∈ deleted, ∃ item ∈ s.entries, item.id = id) :
    s.Shrinks ⟨kept, groups, recordDeletedIds s.metadata deleted⟩ where
  entries := hkept
  lastId := rfl
  entriesAdded := rfl
  maxDeletedId := by
    rcases foldl_max_mem deleted s.metadata.maxDeletedId with heq | hmem
    · exact .inl heq
    · obtain ⟨item, hitem, hid⟩ := hdeleted _ hmem
      exact .inr ⟨item, hitem, hid.symm⟩

lemma removeIds_spec (entries : List StreamEntry) (ids : Finset StreamId) :
    (removeIds entries ids).1.Sublist entries ∧
      ∀ id ∈ (removeIds entries ids).2, ∃ item ∈ entries, item.id = id := by
  induction entries generalizing ids with
  | nil =>
    refine ⟨.slnil, ?_⟩
    intro id hid
    cases hid
  | cons item rest ih =>
    rw [removeIds]
    split_ifs with hmem
    · obtain ⟨hsub, hids⟩ := ih (ids.erase item.id)
      refine ⟨hsub.cons item, ?_⟩
      intro id hid
      rcases mem_cons.mp hid with rfl | hid
      · exact ⟨item, mem_cons_self, rfl⟩
      · obtain ⟨found, hfound, heq⟩ := hids id hid
        exact ⟨found, mem_cons_of_mem _ hfound, heq⟩
    · obtain ⟨hsub, hids⟩ := ih ids
      refine ⟨hsub.cons_cons item, ?_⟩
      intro id hid
      obtain ⟨found, hfound, heq⟩ := hids id hid
      exact ⟨found, mem_cons_of_mem _ hfound, heq⟩

/-- Trimming shrinks a stream. -/
lemma shrinks_trimStream (mode : TrimStrategy) (limit : Option Nat) (s : Stream) :
    s.Shrinks (trimStream mode limit s).1 := by
  rw [trimStream]
  split_ifs
  · exact s.shrinks_groups s.groups
  · exact ⟨drop_sublist _ _, rfl, rfl, .inl rfl⟩

lemma shrinks_finish (s : Stream) (st : DeleteState) : s.Shrinks (st.finish s).1 := by
  refine Stream.shrinks_recorded filter_sublist ?_
  intro id hid
  obtain ⟨item, hitem, heq⟩ := mem_map.mp hid
  exact ⟨item, (mem_filter.mp hitem).1, heq⟩

/-- **Every edit but those of `XADD` and `XSETID` only takes entries away.** -/
lemma StreamEdit.shrinks {args : List Bytes} {key : Bytes} {c : StreamCommand} {s s' : Stream}
    (h : StreamEdit err now args key c s s') (hxadd : c ≠ .xadd) (hxsetid : c ≠ .xsetid) :
    s.Shrinks s' := by
  cases h with
  | keep => exact s.shrinks_groups s.groups
  | append => exact absurd rfl hxadd
  | trim mode limit => exact shrinks_trimStream mode limit s
  | delete ids =>
    obtain ⟨hsub, hids⟩ := removeIds_spec s.entries ids.toFinset
    exact Stream.shrinks_recorded hsub hids
  | setId => exact absurd rfl hxsetid
  | createGroup | destroyGroup | group => exact s.shrinks_groups _
  | ackdel | delex => exact shrinks_finish s _

/-- The edits of every command but `XADD` keep the order. -/
lemma Stream.Ordered.edit {args : List Bytes} {key : Bytes} {c : StreamCommand} {s s' : Stream}
    (h : s.Ordered) (hedit : StreamEdit err now args key c s s') (hxadd : c ≠ .xadd) :
    s'.Ordered := by
  by_cases hxsetid : c = .xsetid
  · subst hxsetid
    cases hedit with
    | keep => exact h
    | setId newId maxDeletedId entriesAdded _ hkey hmax hallowed => exact h.setId hmax hallowed
    | group => exact h.shrinks (s.shrinks_groups _)
  · exact h.shrinks (hedit.shrinks hxadd hxsetid)

end shrinks

/-! ## Runs keep the order -/

section runs

variable {err : Bytes → RespFrame}

lemma rank_lt_of_filter {spec : Option StreamId} {last id : StreamId}
    (h : spec.filter (idLt last) = some id) : last.rank < id.rank := by
  rw [Option.filter_eq_some_iff] at h
  exact idLt_iff_rank.mp h.2

lemma ordered_of_target {db : Db} {key : Bytes} {s : Stream} {expireAtMs : Option Int64}
    (h : AllStreams Stream.Ordered db) (htarget : XaddTarget db key s expireAtMs) :
    s.Ordered := by
  cases htarget with
  | present _ _ hlookup => exact h key s expireAtMs hlookup
  | absent _ => exact Stream.ordered_fresh

/-- `XADD` keeps the streams ordered. -/
lemma ordered_cmdXadd {args : List Bytes} {now : Int64} {db : Db}
    (h : AllStreams Stream.Ordered db)
    (hfits : fitsVec (cmdXadd err args now db).1 (args.headD []) = true) :
    AllStreams Stream.Ordered (cmdXadd err args now db).1 := by
  rcases cmdXadd_cases err now args db with ⟨text, heq⟩ | ⟨key, hkey, hresult⟩
  · rw [heq]
    exact h
  · have hpurged : AllStreams Stream.Ordered (purgeExpiredKey db key now) := h.purgeExpiredKey now
    rw [headD_eq_head?_getD, hkey, Option.getD_some] at hfits
    generalize cmdXadd err args now db = result at hresult hfits
    cases hresult with
    | refused text => exact hpurged
    | wrongtype => exact hpurged
    | added spec id fields s expireAtMs htarget hid =>
      have hlength : (s.append id fields).entries.length ≤ vecCapacity := by
        have hstream : streamAt ((purgeExpiredKey db key now).insert key
            ⟨(s.append id fields).value, expireAtMs⟩) key = some (s.append id fields) :=
          streamAt_eq_some.mpr ⟨expireAtMs, Finmap.lookup_insert _⟩
        rw [fitsVec, hstream, Option.all_some, decide_eq_true_iff] at hfits
        exact hfits
      exact hpurged.insert
        ((ordered_of_target hpurged htarget).append fields (rank_lt_of_filter hid) hlength)

/-- **One event keeps every stream in order.** -/
lemma ordered_stepEvent {dbs dbs' : Databases} {event : StreamEvent}
    (hstep : stepEvent err dbs event = some dbs')
    (h : ∀ index, AllStreams Stream.Ordered (dbs index)) :
    ∀ index, AllStreams Stream.Ordered (dbs' index) := by
  rcases stepEvent_cases hstep with
    ⟨index, c, args, now, rfl, rfl, hfits⟩ | ⟨index, key, rfl, rfl⟩
  · refine forall_update h ?_
    by_cases hxadd : c = .xadd
    · subst hxadd
      exact ordered_cmdXadd (h index) (hfits rfl)
    · exact (dbSteps_run err now args (dbs index) c).allStreams Stream.ordered_fresh
        (fun key s s' hedit hs => hs.edit hedit hxadd) (h index)
  · exact forall_update h (h index).erase

end runs

/-! ## The IDs that `XADD` assigns -/

/-- The last generated ID of what a key stores, `0-0` for a key that is not there. -/
def lastIdOf (entry : Option Entry) : StreamId :=
  match entry with
  | some ⟨.stream _ _ metadata, _⟩ => metadata.lastId
  | _ => .zero

/-- What is stored, if anything, has no expiry. -/
def Timeless (entry : Option Entry) : Prop := ∀ e, entry = some e → e.expireAtMs = none

/-- The event deletes the key, or is an `XSETID` that names it. -/
def StreamEvent.resets (index : Fin dbCount) (key : Bytes) : StreamEvent → Bool
  | .command i c args _ => i = index && c = .xsetid && args.head? = some key
  | .delete i k => i = index && k = key

section assigned

variable (err : Bytes → RespFrame) (index : Fin dbCount) (key : Bytes)

/-- The text of the ID that an `XADD` to the stream answers with. -/
def StreamEvent.xaddText (dbs : Databases) : StreamEvent → Option Bytes
  | .command i .xadd args now =>
    if i = index ∧ args.head? = some key then
      match (cmdXadd err args now (dbs i)).2 with
      | .bulkString text => text
      | _ => none
    else none
  | _ => none

/-- The texts of the IDs assigned in the stream during a run, in order. -/
def xaddTexts : List StreamEvent → Databases → List Bytes
  | [], _ => []
  | event :: rest, dbs =>
    match stepEvent err dbs event with
    | none => []
    | some dbs' => (event.xaddText err index key dbs).toList ++ xaddTexts rest dbs'

end assigned

section ascend

variable {err : Bytes → RespFrame} {now : Int64} {args : List Bytes} {key : Bytes}

/-- No edit but that of `XSETID` lowers the last generated ID. -/
lemma StreamEdit.lastId_le {c : StreamCommand} {s s' : Stream}
    (h : StreamEdit err now args key c s s') (hreset : c = .xsetid → args.head? ≠ some key) :
    s.metadata.lastId.rank ≤ s'.metadata.lastId.rank := by
  by_cases hxadd : c = .xadd
  · subst hxadd
    cases h with
    | keep => exact le_rfl
    | append spec id fields _ hid => exact (rank_lt_of_filter hid).le
    | group => exact le_rfl
  · by_cases hxsetid : c = .xsetid
    · subst hxsetid
      cases h with
      | keep => exact le_rfl
      | setId newId maxDeletedId entriesAdded _ hkey => exact absurd hkey (hreset rfl)
      | group => exact le_rfl
    · rw [(h.shrinks hxadd hxsetid).lastId]

lemma lastIdOf_value (s : Stream) (expireAtMs : Option Int64) :
    lastIdOf (some ⟨s.value, expireAtMs⟩) = s.metadata.lastId := rfl

lemma lastIdOf_none : lastIdOf none = Stream.fresh.metadata.lastId := rfl

lemma timeless_none : Timeless none := by
  intro e he
  cases he

lemma timeless_some {e : Entry} : Timeless (some e) ↔ e.expireAtMs = none := by
  constructor
  · intro h
    exact h e rfl
  · intro h e' he
    rw [← Option.some.inj he]
    exact h

/-- Without an expiry, a key gets none, and its last generated ID only grows. -/
lemma lastIdOf_mono {R : Stream → Stream → Prop} {entry entry' : Option Entry}
    (h : Relation.ReflTransGen (KeyStep R) entry entry') (htimeless : Timeless entry) :
    Timeless entry' ∧
      ((∀ s s', R s s' → s.metadata.lastId.rank ≤ s'.metadata.lastId.rank) →
        (lastIdOf entry).rank ≤ (lastIdOf entry').rank) := by
  induction h with
  | refl => exact ⟨htimeless, fun _ => le_rfl⟩
  | tail _ hstep ih =>
    obtain ⟨htime, hle⟩ := ih
    cases hstep with
    | expire e hexpires => exact absurd (timeless_some.mp htime) hexpires
    | edit s s' expireAtMs hedit =>
      have hnone : expireAtMs = none := timeless_some.mp htime
      refine ⟨timeless_some.mpr hnone, ?_⟩
      intro hR
      have hstep := hle hR
      rw [lastIdOf_value] at hstep ⊢
      exact hstep.trans (hR s s' hedit)
    | create s hedit =>
      refine ⟨timeless_some.mpr rfl, ?_⟩
      intro hR
      have hstep := hle hR
      rw [lastIdOf_none] at hstep
      rw [lastIdOf_value]
      exact hstep.trans (hR _ s hedit)

/-- Every key that is there has no expiry. -/
def AllTimeless (dbs : Databases) : Prop := ∀ index key, Timeless ((dbs index).lookup key)

lemma purgeExpiredKey_of_timeless {db : Db} (h : Timeless (db.lookup key)) :
    purgeExpiredKey db key now = db := by
  rw [purgeExpiredKey, if_neg]
  intro hexpired
  rw [isExpired] at hexpired
  cases hentry : db.lookup key with
  | none => simp [hentry] at hexpired
  | some entry => simp [hentry, h entry hentry] at hexpired

variable (sanitize : Bytes → Bytes)

/-- An `XADD` that answers with an ID has found one over the last generated ID, which it is now. -/
lemma cmdXadd_text {db : Db} {text : Bytes} (hkey : args.head? = some key)
    (htimeless : Timeless (db.lookup key))
    (h : (cmdXadd (fun t => .error (sanitize t)) args now db).2 = .bulkString (some text)) :
    ∃ id, text = streamIdToBytes id ∧ (lastIdOf (db.lookup key)).rank < id.rank ∧
      lastIdOf ((cmdXadd (fun t => .error (sanitize t)) args now db).1.lookup key) = id := by
  rcases cmdXadd_cases (fun t => RespFrame.error (sanitize t)) now args db with
    ⟨t, heq⟩ | ⟨found, hfound, hresult⟩
  · rw [heq] at h
    cases h
  · obtain rfl : found = key := Option.some.inj (hfound.symm.trans hkey)
    rw [purgeExpiredKey_of_timeless htimeless] at hresult
    generalize cmdXadd (fun t => RespFrame.error (sanitize t)) args now db = result at h hresult
    cases hresult with
    | refused t => cases h
    | wrongtype => cases h
    | added spec id fields s expireAtMs htarget hid =>
      cases h
      refine ⟨id, rfl, ?_, ?_⟩
      · cases htarget with
        | present _ _ hlookup | absent hlookup =>
          rw [hlookup]
          exact rank_lt_of_filter hid
      · rw [Finmap.lookup_insert]
        rfl

/-- What one event that does not reset the stream does to its last generated ID. -/
lemma ascend_stepEvent {dbs dbs' : Databases} {event : StreamEvent} {index : Fin dbCount}
    (hstep : stepEvent (fun t => .error (sanitize t)) dbs event = some dbs')
    (hreset : event.resets index key = false) (htimeless : AllTimeless dbs) :
    AllTimeless dbs' ∧
      (lastIdOf ((dbs index).lookup key)).rank ≤ (lastIdOf ((dbs' index).lookup key)).rank ∧
      ∀ text, event.xaddText (fun t => .error (sanitize t)) index key dbs = some text →
        ∃ id, text = streamIdToBytes id ∧ (lastIdOf ((dbs index).lookup key)).rank < id.rank ∧
          lastIdOf ((dbs' index).lookup key) = id := by
  rcases stepEvent_cases hstep with
    ⟨i, c, args, now, rfl, rfl, _⟩ | ⟨i, k, rfl, rfl⟩
  · refine ⟨?_, ?_, ?_⟩
    · intro j
      refine forall_update (P := fun db => ∀ k, Timeless (db.lookup k)) htimeless ?_ j
      intro k
      exact (lastIdOf_mono (dbSteps_run (fun t => .error (sanitize t)) now args (dbs i) c k)
        (htimeless i k)).1
    · by_cases hi : index = i
      · subst hi
        rw [update_self]
        refine (lastIdOf_mono
          (dbSteps_run (fun t => .error (sanitize t)) now args (dbs index) c key)
          (htimeless index key)).2 fun s s' hedit => hedit.lastId_le ?_
        rintro rfl hhead
        simp [StreamEvent.resets, hhead] at hreset
      · rw [update_of_ne hi]
    · intro text htext
      cases c with
      | xadd =>
        rw [StreamEvent.xaddText] at htext
        split_ifs at htext with hnames
        obtain ⟨rfl, hhead⟩ := hnames
        rw [update_self]
        split at htext
        · rename_i reply hreply
          rw [htext] at hreply
          exact cmdXadd_text sanitize hhead (htimeless i key) hreply
        · cases htext
      | _ => cases htext
  · have hother : index = i → key ≠ k := by
      rintro rfl rfl
      simp [StreamEvent.resets] at hreset
    refine ⟨?_, ?_, ?_⟩
    · intro j
      refine forall_update (P := fun db => ∀ k, Timeless (db.lookup k)) htimeless ?_ j
      intro key'
      by_cases hkey : key' = k
      · rw [hkey, Finmap.lookup_erase]
        exact timeless_none
      · rw [Finmap.lookup_erase_ne hkey]
        exact htimeless i key'
    · by_cases hi : index = i
      · rw [← hi, update_self, Finmap.lookup_erase_ne (hother hi)]
      · rw [update_of_ne hi]
    · intro text htext
      cases htext

/-- The IDs assigned in a run are over the last generated ID at its start, and ascend. -/
lemma ascend_xaddTexts {index : Fin dbCount} {events : List StreamEvent} {dbs : Databases}
    (hreset : ∀ event ∈ events, event.resets index key = false) (htimeless : AllTimeless dbs) :
    ∃ ids : List StreamId,
      xaddTexts (fun t => .error (sanitize t)) index key events dbs = ids.map streamIdToBytes ∧
      ids.Pairwise (fun a b => idLt a b = true) ∧
      ∀ id ∈ ids, (lastIdOf ((dbs index).lookup key)).rank < id.rank := by
  induction events generalizing dbs with
  | nil => exact ⟨[], rfl, .nil, fun id hid => absurd hid not_mem_nil⟩
  | cons event rest ih =>
    rw [xaddTexts]
    split
    · exact ⟨[], rfl, .nil, fun id hid => absurd hid not_mem_nil⟩
    · rename_i dbs' hstep
      obtain ⟨htimeless', hle, htext⟩ := ascend_stepEvent sanitize hstep
        (hreset event mem_cons_self) htimeless
      obtain ⟨ids, hids, hpairwise, hover⟩ := ih
        (fun event hevent => hreset event (mem_cons_of_mem _ hevent)) htimeless'
      rw [hids]
      cases hassigned : event.xaddText (fun t => .error (sanitize t)) index key dbs with
      | none => exact ⟨ids, rfl, hpairwise, fun id hid => hle.trans_lt (hover id hid)⟩
      | some text =>
        obtain ⟨id, rfl, hlt, hlast⟩ := htext text hassigned
        rw [hlast] at hover hle
        refine ⟨id :: ids, rfl, hpairwise.cons ?_, ?_⟩
        · intro later hlater
          exact idLt_iff_rank.mpr (hover later hlater)
        · intro other hother
          rcases mem_cons.mp hother with rfl | hother
          · exact hlt
          · exact hlt.trans (hover other hother)

end ascend

/-- **Streams ascend.** After every run of stream commands and deletions from an empty keyspace,
whatever the clock reads, the entries of every stream are in strictly ascending order and its
metadata is valid for them. In a stream that is neither deleted nor named by `XSETID` during the
run, the IDs that `XADD` answers with are in strictly ascending order, whatever else was deleted in
between. -/
theorem streams_ascend (sanitize : Bytes → Bytes) (events : List StreamEvent) (dbs : Databases)
    (hrun : runEvents (fun t => .error (sanitize t)) events (fun _ => ∅) = some dbs) :
    (∀ index key s, streamAt (dbs index) key = some s →
      s.entries.Pairwise (fun a b => idLt a.id b.id = true) ∧
        s.metadata.isValidFor s.entries = true) ∧
    ∀ index key, (∀ event ∈ events, event.resets index key = false) →
      ∃ ids : List StreamId,
        xaddTexts (fun t => .error (sanitize t)) index key events (fun _ => ∅) =
          ids.map streamIdToBytes ∧
        ids.Pairwise fun a b => idLt a b = true := by
  constructor
  · intro index key s hs
    obtain ⟨expireAtMs, hlookup⟩ := streamAt_eq_some.mp hs
    have hordered : ∀ index, AllStreams Stream.Ordered (dbs index) :=
      runEvents_induction (fun _ _ _ hstep h => ordered_stepEvent hstep h) hrun
        fun _ => AllStreams.empty
    have h := hordered index key s expireAtMs hlookup
    exact ⟨h.ascending.imp fun hlt => idLt_iff_rank.mpr hlt, h.isValidFor⟩
  · intro index key hreset
    have htimeless : AllTimeless fun _ => ∅ := by
      intro index key
      rw [Finmap.lookup_empty]
      exact timeless_none
    obtain ⟨ids, hids, hpairwise, _⟩ := ascend_xaddTexts sanitize hreset htimeless
    exact ⟨ids, hids, hpairwise⟩

/-- An entry is added and deleted, and the clock goes back before the next. -/
def regressedClock : List StreamEvent :=
  let key := ascii "s"
  let index : Fin dbCount := ⟨0, dbCount_pos⟩
  [.command index .xadd [key, ascii "*", ascii "f", ascii "v"] 5,
    .command index .xdel [key, ascii "5-0"] 6,
    .command index .xadd [key, ascii "*", ascii "f", ascii "v"] 3]

/-- The second ID is over the first although the clock went back and the first entry is gone. -/
theorem streams_ascend_regressedClock :
    ∃ dbs, runEvents .error regressedClock (fun _ => ∅) = some dbs ∧
      xaddTexts .error ⟨0, by decide⟩ (ascii "s") regressedClock (fun _ => ∅) =
        [ascii "5-0", ascii "5-1"] ∧
      (∀ index key s, streamAt (dbs index) key = some s →
        s.entries.Pairwise (fun a b => idLt a.id b.id = true) ∧
          s.metadata.isValidFor s.entries = true) ∧
      ∃ ids : List StreamId,
        xaddTexts .error ⟨0, by decide⟩ (ascii "s") regressedClock (fun _ => ∅) =
          ids.map streamIdToBytes ∧
        ids.Pairwise fun a b => idLt a b = true := by
  have hsome : (runEvents .error regressedClock fun _ => ∅).isSome = true := by decide +kernel
  obtain ⟨dbs, hrun⟩ := Option.isSome_iff_exists.mp hsome
  obtain ⟨hordered, hascend⟩ := streams_ascend id regressedClock dbs hrun
  refine ⟨dbs, hrun, by decide +kernel, hordered, hascend _ _ (by decide +kernel)⟩

end Ratatosk.Engine
