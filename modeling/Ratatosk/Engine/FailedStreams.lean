import Ratatosk.Engine.StreamOrder

/-!
# Stream commands that fail

What a stream command that answers with an error leaves behind.

* `FailsClean` — a handler that works on one key and checks its arguments before it changes
  anything; nine of the eleven commands are such.
* `Trace` — what a round of `XREADGROUP` leaves in a group, and no later round takes back;
  `Undisturbed` — a round leaves no trace.
* `failed_sameStreams_iff` — **a failed command leaves every stream as it was exactly if it leaves
  no trace**: it drops no expired stream, and it is no `XACK` with a pending ID before the one that
  fails and no `XREADGROUP` that reached a group before the stream that fails.

A handler sees one database, so the streams of the others are the same in any case.
-/

namespace Ratatosk.Engine

open Lib Keyspace Resp List Option Finmap

/-! ## Streams that are the same -/

/-- Every key has the stream that it had, if it had one. -/
def SameStreams (db db' : Db) : Prop := ∀ key, streamAt db' key = streamAt db key

section sameStreams

variable {db db' : Db} {now : Int64} {key : Bytes}

/-- Removing a key that has expired changes the streams exactly if it had one. -/
lemma sameStreams_purgeExpiredKey_iff :
    SameStreams db (purgeExpiredKey db key now) ↔
      ¬ (isExpired db key now = true ∧ (streamAt db key).isSome = true) := by
  constructor
  · rintro hsame ⟨hexpired, hstream⟩
    have hgone : streamAt (purgeExpiredKey db key now) key = none := by
      rw [purgeExpiredKey, if_pos hexpired, streamAt, lookup_erase]
      rfl
    rw [← hsame key, hgone] at hstream
    cases hstream
  · intro hkept other
    by_cases hother : other = key
    · subst hother
      cases hexpired : isExpired db other now with
      | false => rw [purgeExpiredKey_of_live hexpired]
      | true =>
        have hnone : streamAt db other = none := by
          rw [← not_isSome_iff_eq_none]
          exact fun hstream => hkept ⟨hexpired, hstream⟩
        rw [hnone, purgeExpiredKey, if_pos hexpired, streamAt, lookup_erase]
        rfl
    · rw [streamAt, streamAt, lookup_purgeExpiredKey_of_ne hother]

lemma GroupAt.sameStreams_iff {name : Bytes} {s : Stream} {expireAtMs : Option Int64}
    {g g' : Group} (h : GroupAt now db key name s expireAtMs g) :
    SameStreams db (Engine.setGroup db key name s expireAtMs g') ↔ g' = g := by
  constructor
  · intro hsame
    have hstream := hsame key
    rw [streamAt_setGroup, h.streamAt_eq, Option.some.injEq] at hstream
    have hgroups := congrArg (fun s => s.groups.lookup name) hstream
    simpa [h.group] using hgroups
  · rintro rfl
    rw [h.setGroup_self]
    exact fun _ => rfl

end sameStreams

/-! ## Commands that check first -/

/-- The handler leaves the database alone, or works on the one key that it removes if it has
expired, and then an error means that nothing else was changed. -/
def FailsClean (purges : List Bytes) (now : Int64) (db : Db) (result : Db × RespFrame) : Prop :=
  (purges = [] ∧ result.1 = db) ∨
    ∃ key g, purges = [key] ∧ result = g (purgeExpiredKey db key now) ∧ Clean g

/-- A stream that such a handler dropped because it had expired. -/
def DropsExpired (purges : List Bytes) (now : Int64) (db : Db) : Prop :=
  ∃ key ∈ purges, isExpired db key now = true ∧ (streamAt db key).isSome = true

section clean

variable (err : Bytes → RespFrame) {db : Db} {now : Int64} {args : List Bytes}

/-- A clean failure drops an expired stream at most. -/
lemma FailsClean.sameStreams_iff {purges : List Bytes} {result : Db × RespFrame}
    (h : FailsClean purges now db result) (herror : isErrorReply result.2 = true) :
    SameStreams db result.1 ↔ ¬ DropsExpired purges now db := by
  rcases h with ⟨rfl, hsame⟩ | ⟨key, g, rfl, rfl, hclean⟩
  · rw [hsame]
    constructor
    · rintro - ⟨key, hkey, -⟩
      cases hkey
    · exact fun _ _ => rfl
  · rw [hclean _ herror, sameStreams_purgeExpiredKey_iff]
    constructor
    · rintro hkept ⟨other, hother, hdropped⟩
      rw [List.mem_singleton.mp hother] at hdropped
      exact hkept hdropped
    · exact fun hkept hdropped => hkept ⟨key, mem_singleton_self key, hdropped⟩

/-- So an error of a handler of one key means that it has dropped the key, at most. -/
lemma StreamCommand.Handled.failsClean {c : StreamCommand} {purges : List Bytes}
    {f : Db → Db × RespFrame} (h : c.Handled err now args purges f) (hc : c ≠ .xack) :
    FailsClean purges now db (f db) := by
  cases h with
  | refused reply => exact .inl ⟨rfl, rfl⟩
  | acts key _ hclean => exact .inr ⟨key, _, rfl, rfl, hclean hc⟩

end clean

/-! ## `XACK` -/

/-- The IDs before the first argument that does not parse. -/
def ackedIds : List Bytes → List StreamId
  | [] => []
  | raw :: rest =>
    match parseGroupStreamId raw with
    | none => []
    | some id => id :: ackedIds rest

/-- `XACK` had a pending ID to acknowledge before it failed. -/
def XackTaken (args : List Bytes) (db : Db) : Prop :=
  ∃ key groupName ids s g, args = key :: groupName :: ids ∧ streamAt db key = some s ∧
    s.groups.lookup groupName = some g ∧ ∃ id ∈ ackedIds ids, (g.pending.lookup id).isSome = true

section ack

variable (err : Bytes → RespFrame) {g : Group} {id : StreamId}

lemma pending_releasePending (g : Group) (name : Bytes) (id : StreamId) :
    (g.releasePending name id).pending = g.pending := by
  unfold Group.releasePending
  split
  · rfl
  · rfl

/-- Acknowledging an ID takes it out of the table, and leaves the others. -/
lemma lookup_pending_ack (g : Group) (id other : StreamId) :
    (g.ack id).1.pending.lookup other = if other = id then none else g.pending.lookup other := by
  unfold Group.ack
  cases hid : g.pending.lookup id with
  | none =>
    dsimp only
    split_ifs with h
    · rw [h, hid]
    · rfl
  | some pending =>
    dsimp only
    rw [pending_releasePending]
    dsimp only
    split_ifs with h
    · rw [h, lookup_erase]
    · exact lookup_erase_ne h

/-- The loop over the IDs goes on with the group that an acknowledgement leaves. -/
lemma ackIds_cons_fst (raw : Bytes) (rest : List Bytes) (g : Group) (removed : Int64)
    (h : parseGroupStreamId raw = some id) :
    ∃ removed', (ackIds err (raw :: rest) g removed) = ackIds err rest (g.ack id).1 removed' := by
  rw [ackIds, h]
  dsimp only
  split
  · rename_i group hack
    rw [hack]
    exact ⟨_, rfl⟩
  · rename_i group hack
    rw [hack]
    exact ⟨_, rfl⟩

/-- The IDs that were read are pending no more, and the others are as they were. -/
lemma lookup_pending_ackIds (ids : List Bytes) (g : Group) (removed : Int64) (other : StreamId) :
    (ackIds err ids g removed).1.pending.lookup other =
      if other ∈ ackedIds ids then none else g.pending.lookup other := by
  induction ids generalizing g removed with
  | nil =>
    rw [ackedIds, if_neg not_mem_nil]
    rfl
  | cons raw rest ih =>
    cases hparse : parseGroupStreamId raw with
    | none =>
      rw [ackIds, ackedIds, hparse, if_neg not_mem_nil]
    | some id =>
      obtain ⟨removed', hnext⟩ := ackIds_cons_fst err raw rest g removed hparse
      rw [hnext, ih, ackedIds, hparse, lookup_pending_ack]
      simp only [mem_cons]
      by_cases hid : other = id
      · simp [hid]
      · simp [hid]

/-- Acknowledging what is not pending changes nothing. -/
lemma ackIds_eq_self (ids : List Bytes) (g : Group) (removed : Int64)
    (h : ∀ id ∈ ackedIds ids, g.pending.lookup id = none) :
    (ackIds err ids g removed).1 = g := by
  induction ids generalizing removed with
  | nil => rfl
  | cons raw rest ih =>
    cases hparse : parseGroupStreamId raw with
    | none => rw [ackIds, hparse]
    | some id =>
      rw [ackedIds, hparse, forall_mem_cons] at h
      obtain ⟨removed', hnext⟩ := ackIds_cons_fst err raw rest g removed hparse
      rw [hnext, Group.ack, h.1]
      exact ih removed' h.2

/-- A failed `XACK` changes no stream exactly if no ID that it read was pending. -/
lemma cmdXack_sameStreams_iff {args : List Bytes} {now : Int64} {db : Db}
    (herror : isErrorReply (cmdXack err args now db).2 = true) :
    SameStreams db (cmdXack err args now db).1 ↔ ¬ XackTaken args db := by
  match args with
  | [] | [_] =>
    refine iff_of_true (fun _ => rfl) ?_
    rintro ⟨key, groupName, ids, s, g, hargs, -⟩
    cases hargs
  | [_, _] =>
    refine iff_of_true (fun _ => rfl) ?_
    rintro ⟨key, groupName, ids, s, g, hargs, -, -, id, hid, -⟩
    cases hargs
    cases hid
  | key :: groupName :: first :: more =>
    have hcases := editGroupAt_cases now db key groupName (.integer 0) wrongtype
      (err (xreadgroupNogroupText key groupName))
      fun _ group => ackIds err (first :: more) group 0
    rw [cmdXack] at herror ⊢
    rcases hcases with
      ⟨-, hresult⟩ | ⟨-, ⟨reply, -, hresult⟩, hnone⟩ | ⟨s, expireAtMs, g, hat, hresult⟩
    · rw [hresult] at herror
      cases herror
    · rw [hresult]
      refine iff_of_true (fun _ => rfl) ?_
      rintro ⟨key', groupName', ids, s, g, hargs, hs, hg, -⟩
      cases hargs
      exact hnone s g hs hg
    · rw [hresult, hat.sameStreams_iff]
      constructor
      · rintro hsame ⟨key', groupName', ids, s', g', hargs, hs, hg, id, hid, hpending⟩
        cases hargs
        rw [hat.streamAt_eq, Option.some.injEq] at hs
        subst hs
        rw [hat.group, Option.some.injEq] at hg
        subst hg
        rw [← hsame, lookup_pending_ackIds, if_pos hid] at hpending
        cases hpending
      · intro hnot
        apply ackIds_eq_self
        intro id hid
        rw [← not_isSome_iff_eq_none]
        intro hpending
        exact hnot ⟨key, groupName, first :: more, s, g, rfl, hat.streamAt_eq, hat.group, id, hid,
          hpending⟩

end ack

/-! ## `XREADGROUP`, one group -/

/-- What a round of `XREADGROUP` can leave in a group. -/
inductive Trace where
  /-- The consumer was seen now. -/
  | seen
  /-- The cursor is past the ID. -/
  | passed (id : StreamId)
  /-- The ID was delivered now. -/
  | delivered (id : StreamId)
  /-- The ID was delivered more often. -/
  | counted (id : StreamId) (deliveries : Int64)

/-- The group shows the trace. -/
def Trace.On (consumer : Bytes) (now : Int64) (g : Group) : Trace → Prop
  | .seen => ∃ c, g.consumers.lookup consumer = some c ∧ c.seenTimeMs = now
  | .passed id => idLt id g.lastDeliveredId = true
  | .delivered id => ∃ p, g.pending.lookup id = some p ∧ p.lastDeliveredMs = now
  | .counted id deliveries => ∃ p, g.pending.lookup id = some p ∧ deliveries < p.deliveries

/-- A round for the group changes nothing: the consumer was seen now already, no entry is new, and
what is delivered again was delivered now, as often as is counted. -/
def Undisturbed (o : ReadgroupOptions) (consumer idRaw : Bytes) (now : Int64)
    (entries : List StreamEntry) (g : Group) : Prop :=
  Trace.seen.On consumer now g ∧
    if idRaw = ascii ">" then selectNew o entries g = []
    else ∀ after, parseGroupStreamId idRaw = some after → o.noack = false →
      ∀ item ∈ selectPending o entries g consumer after, ∀ p, g.pending.lookup item.id = some p →
        p.deliveries = maxI64 ∧ p.lastDeliveredMs = now

section deliveries

lemma toInt_saturatingAdd_one (n : Int64) :
    (saturatingAdd n 1).toInt = min (n.toInt + 1) (2 ^ 63 - 1) := by
  have hlow := Int64.le_toInt n
  have hone : (1 : Int64).toInt = 1 := rfl
  rw [saturatingAdd, clampI64, hone, Int64.toInt_ofInt_of_le (by omega) (by omega)]
  omega

lemma le_saturatingAdd_one (n : Int64) : n ≤ saturatingAdd n 1 := by
  have hhigh := Int64.toInt_lt n
  rw [Int64.le_iff_toInt_le, toInt_saturatingAdd_one]
  omega

lemma lt_saturatingAdd_one {n : Int64} (h : n ≠ maxI64) : n < saturatingAdd n 1 := by
  have hhigh := Int64.toInt_lt n
  have hne : n.toInt ≠ 2 ^ 63 - 1 := by
    intro heq
    exact h (Int64.toInt_inj.mp (heq.trans rfl))
  rw [Int64.lt_iff_toInt_lt, toInt_saturatingAdd_one]
  omega

end deliveries

section trace

variable {consumer : Bytes} {now : Int64} {g : Group} {t : Trace}
variable {o : ReadgroupOptions} {entries : List StreamEntry} {id : StreamId}

lemma seen_seeConsumer (g : Group) : Trace.seen.On consumer now (g.seeConsumer consumer now) :=
  ⟨_, lookup_insert g.consumers, rfl⟩

lemma Trace.On.seeConsumer (h : t.On consumer now g) :
    t.On consumer now (g.seeConsumer consumer now) := by
  cases t with
  | seen => exact seen_seeConsumer g
  | passed id => exact h
  | delivered id => exact h
  | counted id deliveries => exact h

/-- A pending entry that is delivered once more keeps its traces. -/
lemma Trace.On.of_pending {g' : Group} (id : StreamId) (h : t.On consumer now g)
    (hcursor : g'.lastDeliveredId = g.lastDeliveredId)
    (hseen : Trace.seen.On consumer now g → Trace.seen.On consumer now g')
    (hother : ∀ other, other ≠ id → g'.pending.lookup other = g.pending.lookup other)
    (hid : ∀ p, g.pending.lookup id = some p → ∃ name,
      g'.pending.lookup id = some ⟨name, saturatingAdd p.deliveries 1, now⟩) :
    t.On consumer now g' := by
  cases t with
  | seen => exact hseen h
  | passed other =>
    rw [Trace.On, hcursor]
    exact h
  | delivered other =>
    by_cases hsame : other = id
    · subst hsame
      obtain ⟨p, hp, -⟩ := h
      obtain ⟨name, hp'⟩ := hid p hp
      exact ⟨_, hp', rfl⟩
    · obtain ⟨p, hp, hlast⟩ := h
      exact ⟨p, (hother other hsame).trans hp, hlast⟩
  | counted other deliveries =>
    by_cases hsame : other = id
    · subst hsame
      obtain ⟨p, hp, hcount⟩ := h
      obtain ⟨name, hp'⟩ := hid p hp
      exact ⟨_, hp', Int64.lt_of_lt_of_le hcount (le_saturatingAdd_one _)⟩
    · obtain ⟨p, hp, hcount⟩ := h
      exact ⟨p, (hother other hsame).trans hp, hcount⟩

/-- Delivering keeps a trace. -/
lemma Trace.On.deliverId (h : t.On consumer now g) (id : StreamId) :
    t.On consumer now (deliverId consumer now g id) := by
  refine h.of_pending id rfl ?_ ?_ ?_
  · rintro ⟨c, hc, hseen⟩
    refine ⟨{ c with pending := insert id c.pending }, ?_, hseen⟩
    change (g.consumers.insert consumer _).lookup consumer = _
    rw [lookup_insert, hc]
    rfl
  · exact fun other hother => lookup_insert_of_ne g.pending hother
  · intro p hp
    refine ⟨consumer, ?_⟩
    change (g.pending.insert id _).lookup id = _
    rw [lookup_insert, hp]

/-- Delivering again keeps a trace. -/
lemma Trace.On.redeliverId (h : t.On consumer now g) (id : StreamId) :
    t.On consumer now (redeliverId now g id) := by
  unfold Engine.redeliverId
  cases hp : g.pending.lookup id with
  | none => exact h
  | some p =>
    refine h.of_pending id rfl (fun hseen => hseen) ?_ ?_
    · exact fun other hother => lookup_insert_of_ne g.pending hother
    · intro p' hp'
      rw [hp, Option.some.injEq] at hp'
      exact ⟨p.consumer, hp' ▸ lookup_insert g.pending⟩

lemma Trace.On.foldl_deliverId (h : t.On consumer now g) (ids : List StreamId) :
    t.On consumer now (ids.foldl (Engine.deliverId consumer now) g) :=
  List.foldlRecOn (motive := (Trace.On consumer now · t)) _ _ h fun _ hg id _ => hg.deliverId id

lemma Trace.On.foldl_redeliverId (h : t.On consumer now g) (ids : List StreamId) :
    t.On consumer now (ids.foldl (Engine.redeliverId now) g) :=
  List.foldlRecOn (motive := (Trace.On consumer now · t)) _ _ h fun _ hg id _ => hg.redeliverId id

/-- The entries that are selected as new are past the cursor. -/
lemma idLt_of_mem_selectNew {item : StreamEntry} (h : item ∈ selectNew o entries g) :
    idLt g.lastDeliveredId item.id = true := by
  unfold selectNew ReadgroupOptions.limit at h
  split at h
  · exact (mem_filter.mp (mem_of_mem_take h)).2
  · exact (mem_filter.mp h).2

lemma Trace.On.deliverNew (h : t.On consumer now g) :
    t.On consumer now (deliverNew o consumer now (selectNew o entries g) g) := by
  have hdelivered : t.On consumer now (if o.noack then g
      else ((selectNew o entries g).map StreamEntry.id).foldl (Engine.deliverId consumer now) g) := by
    split_ifs
    · exact h
    · exact h.foldl_deliverId _
  cases t with
  | seen => exact hdelivered
  | delivered id => exact hdelivered
  | counted id deliveries => exact hdelivered
  | passed id =>
    unfold Engine.deliverNew Trace.On
    dsimp only
    cases hlast : (selectNew o entries g).getLast? with
    | none => exact hdelivered
    | some item =>
      -- the cursor moves from an ID to one past it
      have hnext := idLt_of_mem_selectNew (mem_of_getLast? hlast)
      have hpassed : idLt id g.lastDeliveredId = true := h
      rw [idLt_iff_rank] at hnext hpassed
      rw [map_some, getD_some, idLt_iff_rank]
      omega

lemma Trace.On.redeliver {selected : List StreamEntry} (h : t.On consumer now g) :
    t.On consumer now (redeliver o now selected g) := by
  unfold Engine.redeliver
  split_ifs
  · exact h
  · exact h.foldl_redeliverId _

/-- What the group shows once the consumer was seen, it shows after the round. -/
lemma Trace.On.of_seeConsumer (err : Bytes → RespFrame) {idRaw : Bytes}
    (h : t.On consumer now (g.seeConsumer consumer now)) :
    t.On consumer now (readGroup err o consumer idRaw now entries g).1 := by
  unfold Engine.readGroup
  dsimp only
  split_ifs
  · exact h
  · exact h.deliverNew
  · split
    · exact h
    · split_ifs
      · exact h
      · exact h.redeliver

/-- **No round takes a trace back.** -/
lemma Trace.On.readGroup (err : Bytes → RespFrame) {idRaw : Bytes} (h : t.On consumer now g) :
    t.On consumer now (readGroup err o consumer idRaw now entries g).1 :=
  h.seeConsumer.of_seeConsumer err

/-- A group with the consumer seen now is not changed by seeing it. -/
lemma seeConsumer_eq_self (h : Trace.seen.On consumer now g) : g.seeConsumer consumer now = g := by
  obtain ⟨c, hc, hseen⟩ := h
  have hinsert : g.consumers.insert consumer
      ⟨now, ((g.consumers.lookup consumer).map Consumer.pending).getD ∅⟩ = g.consumers := by
    rw [hc]
    apply FiniteMap.insert_eq_self
    rw [hc, ← hseen]
    rfl
  rw [Group.seeConsumer, hinsert]

lemma redeliverId_eq_self
    (h : ∀ p, g.pending.lookup id = some p → p.deliveries = maxI64 ∧ p.lastDeliveredMs = now) :
    redeliverId now g id = g := by
  unfold redeliverId
  cases hp : g.pending.lookup id with
  | none => rfl
  | some p =>
    obtain ⟨hcount, hlast⟩ := h p hp
    dsimp only
    rw [hcount, show saturatingAdd maxI64 1 = maxI64 from rfl, ← hcount, ← hlast, FiniteMap.insert_eq_self hp]

lemma lookup_pending_redeliverId {other : StreamId} (h : other ≠ id) :
    (redeliverId now g id).pending.lookup other = g.pending.lookup other := by
  unfold redeliverId
  split
  · rfl
  · exact lookup_insert_of_ne g.pending h

/-- A trace that one delivery leaves is left by the loop. -/
lemma Trace.On.of_mem_redelivered {p : StreamPendingEntry}
    (hset : ∀ g, g.pending.lookup id = some p → t.On consumer now (Engine.redeliverId now g id))
    {ids : List StreamId} (hmem : id ∈ ids) (hp : g.pending.lookup id = some p) :
    t.On consumer now (ids.foldl (Engine.redeliverId now) g) := by
  induction ids generalizing g with
  | nil => cases hmem
  | cons first rest ih =>
    rw [foldl_cons]
    by_cases hfirst : id = first
    · subst hfirst
      exact (hset g hp).foldl_redeliverId rest
    · refine ih ((mem_cons.mp hmem).resolve_left hfirst) ?_
      rw [lookup_pending_redeliverId hfirst, hp]

/-- Delivering again leaves a trace of every entry that is not saturated. -/
lemma exists_trace_foldl_redeliverId (consumer : Bytes) {ids : List StreamId}
    {p : StreamPendingEntry} (hmem : id ∈ ids) (hp : g.pending.lookup id = some p)
    (hnot : ¬ (p.deliveries = maxI64 ∧ p.lastDeliveredMs = now)) :
    ∃ t : Trace, ¬ t.On consumer now g ∧ t.On consumer now (ids.foldl (redeliverId now) g) := by
  have hstep (g : Group) (hp : g.pending.lookup id = some p) :
      (redeliverId now g id).pending.lookup id =
        some ⟨p.consumer, saturatingAdd p.deliveries 1, now⟩ := by
    unfold redeliverId
    rw [hp]
    exact lookup_insert g.pending
  by_cases hlast : p.lastDeliveredMs = now
  · refine ⟨.counted id p.deliveries, ?_, ?_⟩
    · rintro ⟨p', hp', hlt⟩
      rw [hp, Option.some.injEq] at hp'
      exact Int64.lt_irrefl (hp' ▸ hlt)
    · apply Trace.On.of_mem_redelivered ?_ hmem hp
      intro g hp
      exact ⟨_, hstep g hp, lt_saturatingAdd_one fun hcount => hnot ⟨hcount, hlast⟩⟩
  · refine ⟨.delivered id, ?_, ?_⟩
    · rintro ⟨p', hp', hnow⟩
      rw [hp, Option.some.injEq] at hp'
      exact hlast (hp' ▸ hnow)
    · apply Trace.On.of_mem_redelivered ?_ hmem hp
      intro g hp
      exact ⟨_, hstep g hp, rfl⟩

end trace

section readGroup

variable (err : Bytes → RespFrame) {o : ReadgroupOptions} {consumer idRaw : Bytes} {now : Int64}
  {entries : List StreamEntry} {g : Group}

/-- An undisturbed round leaves the group. -/
lemma readGroup_of_undisturbed (h : Undisturbed o consumer idRaw now entries g) :
    (readGroup err o consumer idRaw now entries g).1 = g := by
  obtain ⟨hseen, hdeliveries⟩ := h
  unfold readGroup
  rw [seeConsumer_eq_self hseen]
  dsimp only
  by_cases hnew : idRaw = ascii ">"
  · rw [if_pos hnew] at hdeliveries ⊢
    rw [if_pos hdeliveries]
  · rw [if_neg hnew] at hdeliveries ⊢
    cases hparse : parseGroupStreamId idRaw with
    | none => rfl
    | some after =>
      dsimp only
      split_ifs
      · rfl
      · rw [redeliver]
        split_ifs with hnoack
        · rfl
        · have hitems := hdeliveries after hparse (Bool.eq_false_iff.mpr hnoack)
          have hids : ∀ id ∈ (selectPending o entries g consumer after).map StreamEntry.id,
              redeliverId now g id = g := by
            intro id hid
            obtain ⟨item, hitem, rfl⟩ := List.mem_map.mp hid
            exact redeliverId_eq_self (hitems item hitem)
          refine List.foldlRecOn (motive := (· = g)) _ _ rfl ?_
          rintro _ rfl id hid
          exact hids id hid

/-- Any other round leaves a trace. -/
lemma exists_trace_readGroup (h : ¬ Undisturbed o consumer idRaw now entries g) :
    ∃ t : Trace, ¬ t.On consumer now g ∧
      t.On consumer now (readGroup err o consumer idRaw now entries g).1 := by
  by_cases hseen : Trace.seen.On consumer now g
  · have hself := seeConsumer_eq_self hseen
    unfold readGroup
    rw [hself]
    dsimp only
    by_cases hnew : idRaw = ascii ">"
    · rw [if_pos hnew]
      have hselected : selectNew o entries g ≠ [] := by
        intro hnil
        refine h ⟨hseen, ?_⟩
        rwa [if_pos hnew]
      rw [if_neg hselected]
      obtain ⟨item, hitem⟩ := isSome_iff_exists.mp (getLast?_isSome.mpr hselected)
      refine ⟨.passed g.lastDeliveredId, ?_, ?_⟩
      · intro hself'
        rw [Trace.On, idLt_iff_rank] at hself'
        exact lt_irrefl _ hself'
      · unfold deliverNew Trace.On
        dsimp only
        rw [hitem]
        exact idLt_of_mem_selectNew (mem_of_getLast? hitem)
    · rw [if_neg hnew]
      have hwitness : ∃ after, parseGroupStreamId idRaw = some after ∧ o.noack = false ∧
          ∃ item ∈ selectPending o entries g consumer after, ∃ p,
            g.pending.lookup item.id = some p ∧
              ¬ (p.deliveries = maxI64 ∧ p.lastDeliveredMs = now) := by
        by_contra hnone
        push Not at hnone
        refine h ⟨hseen, ?_⟩
        rw [if_neg hnew]
        intro after hparse hnoack item hitem p hp
        by_contra hnot
        rw [not_and] at hnot
        have hsaturated := hnone after hparse hnoack item hitem p hp
        exact absurd hsaturated.2 (hnot hsaturated.1)
      obtain ⟨after, hparse, hnoack, item, hitem, p, hp, hnot⟩ := hwitness
      rw [hparse]
      dsimp only
      rw [if_neg (ne_nil_of_mem hitem), redeliver, if_neg (by simp [hnoack])]
      exact exists_trace_foldl_redeliverId consumer (List.mem_map_of_mem hitem) hp hnot
  · exact ⟨.seen, hseen, (seen_seeConsumer g).of_seeConsumer err⟩

end readGroup

/-! ## `XREADGROUP`, stream by stream -/

/-- The round for one stream changes nothing: the key has no stream, or one that has not expired
and whose group, if there is one of the name, is not disturbed. -/
def RoundUndisturbed (o : ReadgroupOptions) (groupName consumer : Bytes) (now : Int64) (db : Db)
    (key idRaw : Bytes) : Prop :=
  ∀ s, streamAt db key = some s → isExpired db key now = false ∧
    ∀ g, s.groups.lookup groupName = some g → Undisturbed o consumer idRaw now s.entries g

section rounds

variable (err : Bytes → RespFrame) {o : ReadgroupOptions} {groupName consumer : Bytes}
  {now : Int64} {db : Db} {key : Bytes} {t : Trace}

/-- The rounds up to the first error change nothing. -/
def RoundsUndisturbed (o : ReadgroupOptions) (groupName consumer : Bytes) (now : Int64) (db : Db) :
    List (Bytes × Bytes) → Prop
  | [] => True
  | (key, idRaw) :: rest =>
    RoundUndisturbed o groupName consumer now db key idRaw ∧
      ((readgroupStream err o groupName consumer key idRaw now db).2.isOk = true →
        RoundsUndisturbed o groupName consumer now db rest)

/-- The group of the stream at a live key shows the trace. -/
def TraceAt (groupName consumer : Bytes) (now : Int64) (db : Db) (key : Bytes) (t : Trace) : Prop :=
  ∃ s expireAtMs g, GroupAt now db key groupName s expireAtMs g ∧ t.On consumer now g

/-- A trace stays through a round. -/
lemma TraceAt.readgroupStream (h : TraceAt groupName consumer now db key t) (other idRaw : Bytes) :
    TraceAt groupName consumer now
      (readgroupStream err o groupName consumer other idRaw now db).1 key t := by
  obtain ⟨s, expireAtMs, g, hat, hon⟩ := h
  by_cases hkey : key = other
  · subst hkey
    rw [hat.readgroupStream]
    exact ⟨_, _, _, hat.setGroup _, hon.readGroup err⟩
  · exact ⟨s, expireAtMs, g, hat.readgroupStream_of_ne err o consumer idRaw hkey, hon⟩

/-- A trace stays through the rounds. -/
lemma TraceAt.readgroupStreams (h : TraceAt groupName consumer now db key t)
    (streams : List (Bytes × Bytes)) (out : List RespFrame) :
    TraceAt groupName consumer now
      (readgroupStreams err o groupName consumer now streams db out).1 key t :=
  readgroupStreams_induction err (P := (TraceAt groupName consumer now · key t))
    (fun _ other idRaw hround => hround.readgroupStream err other idRaw) streams out h

/-- A trace that was not there is a stream that is not the same. -/
lemma TraceAt.not_sameStreams {db' : Db} {s : Stream} {expireAtMs : Option Int64} {g : Group}
    (h : TraceAt groupName consumer now db' key t)
    (hat : GroupAt now db key groupName s expireAtMs g) (hnot : ¬ t.On consumer now g) :
    ¬ SameStreams db db' := by
  intro hsame
  obtain ⟨s', expireAtMs', g', hat', hon⟩ := h
  have hs : s' = s := by
    have hstream := hsame key
    rw [hat'.streamAt_eq, hat.streamAt_eq, Option.some.injEq] at hstream
    exact hstream
  subst hs
  have hg : g' = g := Option.some.inj (hat'.group.symm.trans hat.group)
  exact hnot (hg ▸ hon)

/-- **The loop of `XREADGROUP` changes no stream exactly if none of its rounds does.** -/
lemma readgroupStreams_sameStreams_iff (streams : List (Bytes × Bytes)) (out : List RespFrame) :
    SameStreams db (readgroupStreams err o groupName consumer now streams db out).1 ↔
      RoundsUndisturbed err o groupName consumer now db streams := by
  induction streams generalizing out with
  | nil => exact iff_of_true (fun _ => rfl) trivial
  | cons stream rest ih =>
    obtain ⟨key, idRaw⟩ := stream
    rw [RoundsUndisturbed]
    rcases readgroupStream_cases err o groupName consumer key idRaw now db with
      ⟨hexpired, hdb, herror⟩ | ⟨hlive, hdb, herror, hnone⟩ | ⟨s, expireAtMs, g, hat, hresult⟩
    · -- the key has expired: the round fails, and has dropped the stream if there was one
      rw [readgroupStreams_of_error err (key, idRaw) rest out herror, hdb,
        sameStreams_purgeExpiredKey_iff, herror]
      constructor
      · intro hkept
        refine ⟨fun s hs => absurd ⟨hexpired, ?_⟩ hkept, fun hok => nomatch hok⟩
        rw [hs]
        rfl
      · rintro ⟨hundisturbed, -⟩ ⟨-, hstream⟩
        obtain ⟨s, hs⟩ := isSome_iff_exists.mp hstream
        have hlive := (hundisturbed s hs).1
        rw [hexpired] at hlive
        cases hlive
    · -- there is no such group: the round fails and has done nothing
      rw [readgroupStreams_of_error err (key, idRaw) rest out herror, hdb, herror]
      refine iff_of_true (fun _ => rfl) ⟨fun s hs => ⟨hlive, fun g hg => ?_⟩, fun hok => nomatch hok⟩
      exact absurd hg (hnone s g hs)
    · by_cases hundisturbed : Undisturbed o consumer idRaw now s.entries g
      · -- the group is as it was, so the rounds that follow decide
        have hround : RoundUndisturbed o groupName consumer now db key idRaw := by
          intro s' hs'
          obtain rfl : s = s' := Option.some.inj (hat.streamAt_eq.symm.trans hs')
          refine ⟨hat.live, fun g' hg' => ?_⟩
          obtain rfl : g = g' := Option.some.inj (hat.group.symm.trans hg')
          exact hundisturbed
        have hdb : (readgroupStream err o groupName consumer key idRaw now db).1 = db := by
          rw [hresult, readGroup_of_undisturbed err hundisturbed]
          exact hat.setGroup_self
        rcases readgroupStreams_cons err (key, idRaw) rest db out with
          ⟨herror, hloop⟩ | ⟨hok, out', hloop⟩
        · rw [hloop, hdb, herror]
          exact iff_of_true (fun _ => rfl) ⟨hround, fun hok => nomatch hok⟩
        · rw [hloop, hdb, ih out']
          exact ⟨fun hrest => ⟨hround, fun _ => hrest⟩, fun h => h.2 hok⟩
      · -- the round leaves a trace, and the rounds that follow keep it
        obtain ⟨t, hnot, hon⟩ := exists_trace_readGroup err hundisturbed
        refine iff_of_false ?_ fun h => hundisturbed ((h.1 s hat.streamAt_eq).2 g hat.group)
        have htrace : TraceAt groupName consumer now
            (readgroupStream err o groupName consumer key idRaw now db).1 key t := by
          rw [hresult]
          exact ⟨_, _, _, hat.setGroup _, hon⟩
        apply TraceAt.not_sameStreams _ hat hnot
        rcases readgroupStreams_cons err (key, idRaw) rest db out with
          ⟨-, hloop⟩ | ⟨-, out', hloop⟩
        · rw [hloop]
          exact htrace
        · rw [hloop]
          exact htrace.readgroupStreams err rest out'

end rounds

/-! ## The commands -/

section failed

variable (err : Bytes → RespFrame)

/-- The call leaves a trace in the streams of its database: `XACK` has taken an entry off the
pending table, `XREADGROUP` has reached a stream or a group that it changed, another command has
dropped a stream that had expired. -/
def StreamCommand.LeavesTrace (c : StreamCommand) (args : List Bytes) (now : Int64) (db : Db) :
    Prop :=
  match c with
  | .xack => XackTaken args db
  | .xreadgroup =>
    ∃ r, parseReadgroup args = .ok r ∧
      ¬ RoundsUndisturbed err r.options r.group r.consumer now db r.streams
  | c => DropsExpired (c.purges err args now db) now db

/-- `XREADGROUP` keeps the streams unless it leaves a trace. -/
lemma cmdXreadgroup_sameStreams_iff (args : List Bytes) (now : Int64) (db : Db) :
    SameStreams db (cmdXreadgroup err args now db).1 ↔
      ¬ StreamCommand.xreadgroup.LeavesTrace err args now db := by
  cases hparse : parseReadgroup args with
  | error text =>
    refine iff_of_true ?_ ?_
    · rw [cmdXreadgroup, hparse]
      exact fun _ => rfl
    · rintro ⟨r, hr, -⟩
      rw [hparse] at hr
      cases hr
  | ok r =>
    rw [cmdXreadgroup_fst err now args db hparse, readgroupStreams_sameStreams_iff]
    constructor
    · rintro hundisturbed ⟨r', hr', hnot⟩
      obtain rfl : r = r' := Except.ok.inj (hparse.symm.trans hr')
      exact hnot hundisturbed
    · intro hnot
      by_contra hdisturbed
      exact hnot ⟨r, hparse, hdisturbed⟩

/-- **A command that answers with an error leaves every stream as it was, with its entries,
metadata, groups, consumers and pending tables, exactly if it leaves no trace.** -/
theorem failed_sameStreams_iff (c : StreamCommand) (args : List Bytes) (now : Int64) (db : Db)
    (herror : isErrorReply (c.run err args now db).2 = true) :
    SameStreams db (c.run err args now db).1 ↔ ¬ c.LeavesTrace err args now db := by
  by_cases hread : c = .xreadgroup
  · subst hread
    exact cmdXreadgroup_sameStreams_iff err args now db
  by_cases hack : c = .xack
  · subst hack
    exact cmdXack_sameStreams_iff err herror
  have hclean : FailsClean (c.purges err args now db) now db (c.run err args now db) :=
    (handled_streamRun err db args hread).failsClean err hack
  cases c with
  | xreadgroup => exact absurd rfl hread
  | xack => exact absurd rfl hack
  | _ => exact hclean.sameStreams_iff herror

/-- A database whose one stream has one entry, delivered to the consumer `A` of its one group. -/
def deliveredEntry : Db :=
  let key := ascii "s"
  let added := (cmdXadd .error [key, ascii "1-1", ascii "f", ascii "v"] 1 ∅).1
  let grouped := (cmdXgroup .error [ascii "CREATE", key, ascii "g", ascii "0"] 2 added).1
  (cmdXreadgroup .error
    [ascii "GROUP", ascii "g", ascii "A", ascii "STREAMS", key, ascii ">"] 3 grouped).1

/-- `XDEL` reads all its IDs before it deletes the first. -/
theorem failed_sameStreams_xdel :
    isErrorReply (StreamCommand.xdel.run .error [ascii "s", ascii "1-1", ascii "x"] 4
      deliveredEntry).2 = true ∧
    SameStreams deliveredEntry
      (StreamCommand.xdel.run .error [ascii "s", ascii "1-1", ascii "x"] 4 deliveredEntry).1 := by
  have herror : isErrorReply (StreamCommand.xdel.run .error [ascii "s", ascii "1-1", ascii "x"] 4
      deliveredEntry).2 = true := by decide +kernel
  refine ⟨herror, (failed_sameStreams_iff .error .xdel _ 4 deliveredEntry herror).mpr ?_⟩
  rintro ⟨key, hkey, -⟩
  have hpurges : StreamCommand.xdel.purges .error [ascii "s", ascii "1-1", ascii "x"] 4
      deliveredEntry = [] := by decide +kernel
  rw [hpurges] at hkey
  cases hkey

/-- The pending entry of an ID, in the group `g` of the stream at `s`. -/
def pendingOfG (db : Db) (id : StreamId) : Option StreamPendingEntry :=
  ((streamAt db (ascii "s")).bind fun s => s.groups.lookup (ascii "g")).bind fun g =>
    g.pending.lookup id

/-- `XACK s g 1-1 x` answers that `x` is no stream ID, and has acknowledged `1-1`. -/
theorem failed_xack_acknowledges :
    isErrorReply (StreamCommand.xack.run .error
      [ascii "s", ascii "g", ascii "1-1", ascii "x"] 4 deliveredEntry).2 = true ∧
    (pendingOfG deliveredEntry ⟨1, 1⟩).isSome = true ∧
    pendingOfG (StreamCommand.xack.run .error
      [ascii "s", ascii "g", ascii "1-1", ascii "x"] 4 deliveredEntry).1 ⟨1, 1⟩ = none ∧
    ¬ SameStreams deliveredEntry (StreamCommand.xack.run .error
      [ascii "s", ascii "g", ascii "1-1", ascii "x"] 4 deliveredEntry).1 := by
  have hpending : (pendingOfG deliveredEntry ⟨1, 1⟩).isSome = true := by decide +kernel
  have hgone : pendingOfG (StreamCommand.xack.run .error
      [ascii "s", ascii "g", ascii "1-1", ascii "x"] 4 deliveredEntry).1 ⟨1, 1⟩ = none := by
    decide +kernel
  refine ⟨by decide +kernel, hpending, hgone, fun hsame => ?_⟩
  rw [pendingOfG, hsame (ascii "s"), ← pendingOfG] at hgone
  rw [hgone] at hpending
  cases hpending

end failed

end Ratatosk.Engine
