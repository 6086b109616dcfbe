import Ratatosk.Engine.StreamHandlers

/-!
# Pending entries and their owners

A consumer group keeps what it has delivered twice: each consumer has the set of its pending IDs,
and the group has a table from pending IDs to consumers.

* `Group.held`, `Group.owner` — the two sides as functions; every edit is one equation for each.
* `takesOver` — `XREADGROUP` with `>` and without `NOACK` selects an ID that the table gives to
  another consumer. The table is changed then, and the set of the other consumer is not.
* `paired_iff_no_takeover` — **the two agree all through a run exactly when no `XREADGROUP` of the
  run takes an ID over.**
* `rewound_group_has_two_owners` — `XGROUP SETID` lets an ID be delivered again while it is
  pending, to any consumer.
-/

namespace Ratatosk.Keyspace

open Lib

/-- An ID is in the pending set of a consumer exactly when the pending table maps it to that
consumer. -/
def Group.Paired (g : Group) : Prop :=
  ∀ id name,
    (∃ consumer, g.consumers.lookup name = some consumer ∧ id ∈ consumer.pending) ↔
      ∃ pending, g.pending.lookup id = some pending ∧ pending.consumer = name

/-- The pending set of a consumer. -/
def Group.held (g : Group) (name : Bytes) : Finset StreamId :=
  ((g.consumers.lookup name).map Consumer.pending).getD ∅

/-- The consumer that the pending table gives. -/
def Group.owner (g : Group) (id : StreamId) : Option Bytes :=
  (g.pending.lookup id).map StreamPendingEntry.consumer

lemma Group.paired_iff {g : Group} :
    g.Paired ↔ ∀ id name, id ∈ g.held name ↔ g.owner id = some name := by
  have hheld : ∀ id name, (∃ consumer, g.consumers.lookup name = some consumer ∧
      id ∈ consumer.pending) ↔ id ∈ g.held name := by
    intro id name
    rw [held]
    cases g.consumers.lookup name with
    | none => simp
    | some consumer => simp
  have howner : ∀ id name, (∃ pending, g.pending.lookup id = some pending ∧
      pending.consumer = name) ↔ g.owner id = some name := by
    intro id name
    rw [owner, Option.map_eq_some_iff]
  simp only [Paired, hheld, howner]

/-! ## What the edits do to the two sides -/

section equations

variable (g : Group) (name other : Bytes) (id id' : StreamId) (now : Int64)

lemma Group.held_of_insert {g g' : Group} {name : Bytes} {consumer : Consumer}
    (h : g'.consumers = g.consumers.insert name consumer) (other : Bytes) :
    g'.held other = if other = name then consumer.pending else g.held other := by
  rw [held, h]
  split_ifs with hname
  · rw [hname, Finmap.lookup_insert]
    rfl
  · rw [Finmap.lookup_insert_of_ne _ hname]
    rfl

lemma Group.held_of_erase {g g' : Group} {name : Bytes}
    (h : g'.consumers = g.consumers.erase name) (other : Bytes) :
    g'.held other = if other = name then ∅ else g.held other := by
  rw [held, h]
  split_ifs with hname
  · rw [hname, Finmap.lookup_erase]
    rfl
  · rw [Finmap.lookup_erase_ne hname]
    rfl

lemma Group.owner_of_insert {g g' : Group} {id : StreamId} {pending : StreamPendingEntry}
    (h : g'.pending = g.pending.insert id pending) (id' : StreamId) :
    g'.owner id' = if id' = id then some pending.consumer else g.owner id' := by
  rw [owner, h]
  split_ifs with hid
  · rw [hid, Finmap.lookup_insert]
    rfl
  · rw [Finmap.lookup_insert_of_ne _ hid]
    rfl

lemma Group.held_seeConsumer : (g.seeConsumer name now).held other = g.held other := by
  rw [held_of_insert rfl]
  split_ifs with hname
  · rw [hname]
    rfl
  · rfl

lemma Group.held_holdPending :
    (g.holdPending name id now).held other =
      if other = name then insert id (g.held other) else g.held other := by
  rw [held_of_insert rfl]
  split_ifs with hname
  · rw [hname]
    rfl
  · rfl

lemma Group.held_releasePending :
    (g.releasePending name id).held other =
      if other = name then (g.held other).erase id else g.held other := by
  rw [releasePending]
  split
  · rename_i hnone
    split_ifs with hname
    · rw [hname, held, hnone]
      rfl
    · rfl
  · rename_i consumer hsome
    rw [held_of_insert rfl]
    split_ifs with hname
    · rw [hname, held, hsome]
      rfl
    · rfl

lemma Group.owner_releasePending : (g.releasePending name id).owner id' = g.owner id' := by
  rw [releasePending]
  split
  · rfl
  · rfl

lemma Group.held_dropPending (removed : Finset StreamId) :
    (g.dropPending removed).held other = g.held other \ removed := by
  rw [held, dropPending, FiniteMap.lookup_mapValues, held]
  cases g.consumers.lookup other with
  | none => simp
  | some consumer => rfl

lemma Group.owner_dropPending (removed : Finset StreamId) :
    (g.dropPending removed).owner id = if id ∈ removed then none else g.owner id := by
  rw [owner, dropPending, FiniteMap.lookup_retain, owner]
  cases g.pending.lookup id with
  | none => simp
  | some pending =>
    by_cases hid : id ∈ removed
    · simp [Option.filter, hid]
    · simp [Option.filter, hid]

end equations

/-! ## Edits of a group that keep it paired -/

section paired

variable {g g' : Group} (name : Bytes) (id : StreamId) (now : Int64)

lemma Group.Paired.congr (h : g.Paired) (hheld : ∀ name, g'.held name = g.held name)
    (howner : ∀ id, g'.owner id = g.owner id) : g'.Paired := by
  rw [paired_iff] at h ⊢
  intro id name
  rw [hheld, howner]
  exact h id name

/-- A new group is paired. -/
lemma Group.paired_new (id : StreamId) : (Group.new id).Paired := by
  rw [paired_iff]
  intro id' name
  rw [held, owner, new, Finmap.lookup_empty, Finmap.lookup_empty]
  simp

/-- Dropping entries keeps a group paired. -/
lemma Group.Paired.dropPending (h : g.Paired) (removed : Finset StreamId) :
    (g.dropPending removed).Paired := by
  rw [paired_iff] at h ⊢
  intro id' name
  rw [held_dropPending, owner_dropPending, Finset.mem_sdiff, h]
  split_ifs with hid
  · simp [hid]
  · simp [hid]

/-- Acknowledging keeps a group paired. -/
lemma Group.Paired.ack (h : g.Paired) : (g.ack id).1.Paired := by
  rw [Group.ack]
  split
  · exact h
  · rename_i pending hpending
    have howner : g.owner id = some pending.consumer := by
      rw [owner, hpending]
      rfl
    rw [paired_iff] at h ⊢
    intro id' name
    have herased : Group.owner { g with pending := g.pending.erase id } id' =
        if id' = id then none else g.owner id' := by
      rw [owner]
      split_ifs with hid
      · rw [hid, Finmap.lookup_erase]
        rfl
      · rw [Finmap.lookup_erase_ne hid]
        rfl
    have hheld : ∀ other, Group.held { g with pending := g.pending.erase id } other =
        g.held other := fun _ => rfl
    dsimp only
    rw [held_releasePending, owner_releasePending, herased, hheld]
    by_cases hid : id' = id
    · subst hid
      rw [if_pos rfl]
      split_ifs with hname
      · simp
      · -- The table gave the ID to the other consumer only.
        rw [h, howner, Option.some.injEq]
        simp [Ne.symm hname]
    · rw [if_neg hid]
      split_ifs with hname
      · rw [Finset.mem_erase, h]
        simp [hid]
      · exact h id' name

end paired

end Ratatosk.Keyspace

namespace Ratatosk.Engine

open Lib Keyspace Resp

section groupEdits

variable {g : Group} {err : Bytes → RespFrame} {now : Int64}

/-- What a claim does to the two sides. -/
lemma paired_claimPendingId (h : g.Paired) (name : Bytes) (id : StreamId) (now : Int64) :
    (claimPendingId g name id now).1.Paired := by
  rw [claimPendingId]
  split
  · exact h
  · rename_i pending hpending
    have howner : g.owner id = some pending.consumer := by
      rw [Group.owner, hpending]
      rfl
    dsimp only
    generalize hreleased : (if pending.consumer = name then g
      else g.releasePending pending.consumer id) = released
    have hsame : ∀ id', released.owner id' = g.owner id' := by
      intro id'
      rw [← hreleased]
      split_ifs
      · rfl
      · exact g.owner_releasePending _ _ _
    have hheld : ∀ id' other, id' ∈ released.held other ↔
        id' ∈ g.held other ∧ (id' = id → other = name) := by
      intro id' other
      rw [Group.paired_iff] at h
      rw [← hreleased]
      by_cases hid : id' = id
      · subst hid
        split_ifs with hname
        · rw [h, howner, hname, Option.some.injEq]
          tauto
        · rw [Group.held_releasePending]
          split_ifs with hother
          · rw [hother]
            simp [hname]
          · rw [h, howner, Option.some.injEq]
            tauto
      · split_ifs with hname
        · simp [hid]
        · rw [Group.held_releasePending]
          split_ifs with hother
          · simp [hid]
          · simp [hid]
    rw [Group.paired_iff] at h ⊢
    intro id' other
    rw [Group.held_holdPending]
    change _ ↔ Group.owner { released with
      pending := released.pending.insert id
        ⟨name, saturatingAdd pending.deliveries 1, now⟩ } id' = some other
    rw [Group.owner_of_insert (g := released) rfl, hsame]
    change id' ∈ (if other = name then insert id (released.held other)
      else released.held other) ↔ _
    by_cases hid : id' = id
    · subst hid
      rw [if_pos rfl, Option.some.injEq]
      split_ifs with hother
      · simp [hother]
      · rw [hheld]
        tauto
    · rw [if_neg hid]
      split_ifs with hother
      · rw [Finset.mem_insert, hheld, h]
        tauto
      · rw [hheld, h]
        tauto

lemma paired_claimIdle (h : g.Paired) (name : Bytes) (minIdle : Int64) (id : StreamId) :
    (claimIdle name minIdle now g id).1.Paired := by
  rw [claimIdle]
  split
  · exact h
  · split_ifs
    · exact h
    · exact paired_claimPendingId h name id now

/-- Claiming keeps a group paired. -/
lemma paired_claimIds (h : g.Paired) (name : Bytes) (minIdle : Int64) (ids : List StreamId) :
    (claimIds name minIdle now ids g).1.Paired := by
  induction ids generalizing g with
  | nil => exact h
  | cons id rest ih => exact ih (paired_claimIdle h name minIdle id)

/-- So does `XAUTOCLAIM`. -/
lemma paired_autoclaimIds (h : g.Paired) (name : Bytes) (minIdle : Int64) (start : StreamId)
    (count : Nat) (ids claimed : List StreamId) :
    (autoclaimIds name minIdle now start count ids claimed g).1.Paired := by
  induction ids generalizing g claimed with
  | nil => exact h
  | cons id rest ih =>
    have hclaim : (claimIdle name minIdle now g id).1.Paired := paired_claimIdle h name minIdle id
    rw [autoclaimIds]
    by_cases hbefore : idLt id start = true
    · rw [if_pos hbefore]
      exact ih h claimed
    · rw [if_neg hbefore]
      split
      · rename_i heq
        rw [heq] at hclaim
        exact ih hclaim claimed
      · rename_i heq
        rw [heq] at hclaim
        split_ifs
        · exact hclaim
        · exact ih hclaim _

/-- So does `XACK`. -/
lemma paired_ackIds (h : g.Paired) (ids : List Bytes) (removed : Int64) :
    (ackIds err ids g removed).1.Paired := by
  induction ids generalizing g removed with
  | nil => exact h
  | cons raw rest ih =>
    rw [ackIds]
    split
    · exact h
    · rename_i id _
      have hack : (g.ack id).1.Paired := h.ack id
      split
      · rename_i heq
        rw [heq] at hack
        exact ih hack _
      · rename_i heq
        rw [heq] at hack
        exact ih hack _

/-- So does a new consumer. -/
lemma paired_createConsumer (h : g.Paired) (name : Bytes) :
    (createConsumer name now g).1.Paired := by
  rw [createConsumer]
  split_ifs with hsome
  · exact h
  · refine h.congr ?_ fun _ => rfl
    intro other
    rw [Group.held_of_insert (g := g) rfl]
    split_ifs with hname
    · rw [Option.not_isSome_iff_eq_none] at hsome
      rw [hname, Group.held, hsome]
      rfl
    · rfl

/-- So does deleting one. -/
lemma paired_deleteConsumer (h : g.Paired) (name : Bytes) : (deleteConsumer name g).1.Paired := by
  have hremoved : ((g.consumers.lookup name).map fun c => c.pending.card).getD 0 =
      (g.held name).card := by
    rw [Group.held]
    cases g.consumers.lookup name with
    | none => rfl
    | some consumer => rfl
  have hheld : ∀ other, (deleteConsumer name g).1.held other =
      if other = name then ∅ else g.held other := Group.held_of_erase rfl
  rw [Group.paired_iff] at h ⊢
  intro id other
  rw [hheld]
  by_cases hcard : 0 < (g.held name).card
  · have howner : (deleteConsumer name g).1.owner id = (g.owner id).filter (· != name) := by
      rw [Group.owner, deleteConsumer]
      dsimp only
      rw [hremoved, if_pos hcard, FiniteMap.lookup_retain, Group.owner, Option.filter_map]
      rfl
    rw [howner, Option.filter_eq_some_iff]
    split_ifs with hname
    · simp [hname]
    · simp [h, hname]
  · -- The consumer held nothing, so the table gives it nothing.
    have hempty : g.held name = ∅ := by
      rw [← Finset.card_eq_zero]
      omega
    have howner : (deleteConsumer name g).1.owner id = g.owner id := by
      rw [Group.owner, deleteConsumer]
      dsimp only
      rw [hremoved, if_neg hcard]
      rfl
    rw [howner]
    split_ifs with hname
    · rw [hname, ← h, hempty]
    · exact h id other

/-- The edits of a group by every command but `XREADGROUP`. -/
lemma GroupEdit.paired {entries : List StreamEntry} {c : StreamCommand} {g' : Group}
    (hedit : GroupEdit err now entries c g g') (hread : c ≠ .xreadgroup) (h : g.Paired) :
    g'.Paired := by
  cases hedit with
  | keep => exact h
  | setCursor id => exact h.congr (fun _ => rfl) fun _ => rfl
  | createConsumer name => exact paired_createConsumer h name
  | deleteConsumer name => exact paired_deleteConsumer h name
  | read => exact absurd rfl hread
  | ack ids removed => exact paired_ackIds h ids removed
  | claim name minIdle ids => exact paired_claimIds h name minIdle ids
  | autoclaim name minIdle start count ids claimed =>
    exact paired_autoclaimIds h name minIdle start count ids claimed

end groupEdits

/-! ## Edits of a stream that keep its groups paired -/

/-- Every group is paired. -/
def GroupsPaired (groups : Groups) : Prop :=
  ∀ name g, groups.lookup name = some g → g.Paired

section streams

variable {groups : Groups} {err : Bytes → RespFrame} {now : Int64}

lemma groupsPaired_empty : GroupsPaired ∅ := by
  intro name g hg
  rw [Finmap.lookup_empty] at hg
  cases hg

lemma GroupsPaired.insert (h : GroupsPaired groups) {g : Group} (hg : g.Paired) (name : Bytes) :
    GroupsPaired (groups.insert name g) := by
  intro other g' hg'
  by_cases hname : other = name
  · rw [hname, Finmap.lookup_insert, Option.some.injEq] at hg'
    rw [← hg']
    exact hg
  · rw [Finmap.lookup_insert_of_ne _ hname] at hg'
    exact h other g' hg'

lemma GroupsPaired.erase (h : GroupsPaired groups) (name : Bytes) :
    GroupsPaired (groups.erase name) := by
  intro other g hg
  by_cases hname : other = name
  · rw [hname, Finmap.lookup_erase] at hg
    cases hg
  · rw [Finmap.lookup_erase_ne hname] at hg
    exact h other g hg

lemma GroupsPaired.dropPending (h : GroupsPaired groups) (removed : Finset StreamId) :
    GroupsPaired (FiniteMap.mapValues (Group.dropPending removed) groups) := by
  intro name g hg
  rw [FiniteMap.lookup_mapValues, Option.map_eq_some_iff] at hg
  obtain ⟨g', hg', rfl⟩ := hg
  exact (h name g' hg').dropPending removed

lemma GroupsPaired.ackInGroup (h : GroupsPaired groups) (name : Bytes) (id : StreamId) :
    GroupsPaired (ackInGroup groups name id).1 := by
  rw [Engine.ackInGroup]
  split
  · exact h
  · rename_i g hg
    exact h.insert ((h name g hg).ack id) name

lemma groupsPaired_delete (st : DeleteState) (h : GroupsPaired st.groups)
    (condition : StreamDeleteCondition) (id : StreamId) :
    GroupsPaired (st.delete condition id).groups := by
  cases condition with
  | keepRef => exact h
  | delRef => exact h.dropPending {id}
  | acked =>
    unfold DeleteState.delete
    dsimp only
    split_ifs
    · exact h
    · exact h

lemma groupsPaired_ackdelStep {st : DeleteState} (h : GroupsPaired st.groups)
    (entries : List StreamEntry) (name : Bytes) (condition : StreamDeleteCondition)
    (id : StreamId) : GroupsPaired (ackdelStep entries name condition st id).groups := by
  have hack : GroupsPaired (ackInGroup st.groups name id).1 := h.ackInGroup name id
  rw [ackdelStep]
  split_ifs
  · exact h
  · split
    · rename_i heq
      rw [heq] at hack
      exact hack
    · rename_i groups heq
      rw [heq] at hack
      exact groupsPaired_delete { st with groups := groups } hack condition id

lemma groupsPaired_delexStep {st : DeleteState} (h : GroupsPaired st.groups)
    (entries : List StreamEntry) (condition : StreamDeleteCondition) (id : StreamId) :
    GroupsPaired (delexStep entries condition st id).groups := by
  rw [delexStep]
  split_ifs
  · exact h
  · exact groupsPaired_delete st h condition id

/-- **Every edit but those of `XREADGROUP` keeps groups paired.** -/
lemma StreamEdit.paired {args : List Bytes} {key : Bytes} {c : StreamCommand} {s s' : Stream}
    (hedit : StreamEdit err now args key c s s') (hread : c ≠ .xreadgroup)
    (h : GroupsPaired s.groups) : GroupsPaired s'.groups := by
  cases hedit with
  | keep => exact h
  | append => exact h
  | trim mode limit =>
    rw [trimStream]
    split_ifs
    · exact h
    · exact h.dropPending _
  | delete ids => exact h.dropPending _
  | setId => exact h
  | createGroup name id => exact h.insert (Group.paired_new id) name
  | destroyGroup name => exact h.erase name
  | group _ name g g' _ hlookup hedit =>
    exact h.insert (hedit.paired hread (h name g hlookup)) name
  | ackdel condition name ids =>
    exact List.foldlRecOn (motive := fun st : DeleteState => GroupsPaired st.groups) ids _ h
      fun _ hst id _ => groupsPaired_ackdelStep hst s.entries name condition id
  | delex condition ids =>
    exact List.foldlRecOn (motive := fun st : DeleteState => GroupsPaired st.groups) ids _ h
      fun _ hst id _ => groupsPaired_delexStep hst s.entries condition id

end streams

/-! ## `XREADGROUP` on a group -/

/-- The IDs that `XREADGROUP` makes pending for the consumer. -/
def deliveredIds (o : ReadgroupOptions) (idRaw : Bytes) (entries : List StreamEntry)
    (g : Group) : List StreamId :=
  if idRaw = ascii ">" ∧ o.noack = false then (selectNew o entries g).map StreamEntry.id else []

/-- Some of them are pending for another consumer. -/
def takesOver (o : ReadgroupOptions) (consumer idRaw : Bytes) (entries : List StreamEntry)
    (g : Group) : Bool :=
  (deliveredIds o idRaw entries g).any fun id => (g.owner id).any (· != consumer)

section readgroup

variable {g : Group} {err : Bytes → RespFrame} {now : Int64} {consumer : Bytes}

lemma held_deliverId (g : Group) (id : StreamId) (other : Bytes) :
    (deliverId consumer now g id).held other =
      if other = consumer then insert id (g.held other) else g.held other := by
  rw [deliverId, Group.held_of_insert (g := g) rfl]
  split_ifs with hname
  · rw [hname, Group.held]
    cases g.consumers.lookup consumer with
    | none => rfl
    | some c => rfl
  · rfl

lemma owner_deliverId (g : Group) (id id' : StreamId) :
    (deliverId consumer now g id).owner id' =
      if id' = id then some consumer else g.owner id' := by
  rw [deliverId, Group.owner_of_insert (g := g) rfl]
  split_ifs with hid
  · cases g.pending.lookup id with
    | none => rfl
    | some pending => rfl
  · rfl

/-- Some IDs were delivered to a consumer, as the two sides see it. -/
structure Delivered (consumer : Bytes) (ids : List StreamId) (g g' : Group) : Prop where
  held : ∀ other, g'.held other =
    if other = consumer then g.held other ∪ ids.toFinset else g.held other
  owner : ∀ id, g'.owner id = if id ∈ ids then some consumer else g.owner id

lemma delivered_nil {g' : Group} (hheld : ∀ other, g'.held other = g.held other)
    (howner : ∀ id, g'.owner id = g.owner id) : Delivered consumer [] g g' where
  held other := by simp [hheld]
  owner id := by simp [howner]

/-- The loop delivers each of the IDs. -/
lemma delivered_foldl_deliverId (consumer : Bytes) (now : Int64) (ids : List StreamId) (g : Group) :
    Delivered consumer ids g (ids.foldl (deliverId consumer now) g) := by
  induction ids generalizing g with
  | nil => exact delivered_nil (fun _ => rfl) fun _ => rfl
  | cons id rest ih =>
    obtain ⟨hheld, howner⟩ := ih (deliverId consumer now g id)
    constructor
    · intro other
      rw [List.foldl_cons, hheld, held_deliverId]
      split_ifs with hname
      · rw [List.toFinset_cons, Finset.insert_union, Finset.union_insert]
      · rfl
    · intro id'
      rw [List.foldl_cons, howner, owner_deliverId]
      by_cases hid : id' = id
      · simp [hid]
      · simp [hid]

lemma redeliver_sides (o : ReadgroupOptions) (selected : List StreamEntry) (g : Group) :
    (∀ other, (redeliver o now selected g).held other = g.held other) ∧
      ∀ id, (redeliver o now selected g).owner id = g.owner id := by
  rw [redeliver]
  split_ifs
  · exact ⟨fun _ => rfl, fun _ => rfl⟩
  · refine List.foldlRecOn (motive := fun g' : Group => (∀ other, g'.held other = g.held other) ∧
      ∀ id, g'.owner id = g.owner id) _ _ ⟨fun _ => rfl, fun _ => rfl⟩ ?_
    rintro g' ⟨hheld, howner⟩ id -
    rw [redeliverId]
    split
    · exact ⟨hheld, howner⟩
    · rename_i pending hpending
      refine ⟨hheld, fun id' => ?_⟩
      rw [← howner, Group.owner_of_insert (g := g') rfl]
      split_ifs with hid
      · rw [hid, Group.owner, hpending]
        rfl
      · rfl

/-- What `XREADGROUP` does to the two sides. -/
lemma delivered_readGroup (err : Bytes → RespFrame) (o : ReadgroupOptions)
    (consumer idRaw : Bytes) (now : Int64) (entries : List StreamEntry) (g : Group) :
    Delivered consumer (deliveredIds o idRaw entries g) g
      (readGroup err o consumer idRaw now entries g).1 := by
  have hseen : ∀ other, (g.seeConsumer consumer now).held other = g.held other :=
    fun other => g.held_seeConsumer consumer other now
  have hselected : selectNew o entries (g.seeConsumer consumer now) = selectNew o entries g := rfl
  -- Nothing is delivered unless the ID is `>`; then what is selected is, without `NOACK`.
  by_cases hnew : idRaw = ascii ">"
  · rw [readGroup, if_pos hnew, hselected]
    by_cases hempty : selectNew o entries g = []
    · have hnone : deliveredIds o idRaw entries g = [] := by
        rw [deliveredIds, hempty]
        exact ite_self _
      rw [if_pos hempty, hnone]
      exact delivered_nil hseen fun _ => rfl
    · rw [if_neg hempty, deliverNew]
      by_cases hnoack : o.noack = true
      · have hnone : deliveredIds o idRaw entries g = [] := by
          rw [deliveredIds, hnoack]
          simp
        rw [hnone, if_pos hnoack]
        exact delivered_nil hseen fun _ => rfl
      · obtain ⟨hheld, howner⟩ := delivered_foldl_deliverId consumer now
          ((selectNew o entries g).map StreamEntry.id) (g.seeConsumer consumer now)
        simp only [hseen] at hheld
        rw [deliveredIds, if_pos ⟨hnew, Bool.eq_false_iff.mpr hnoack⟩, if_neg hnoack]
        exact ⟨hheld, howner⟩
  · have hnone : deliveredIds o idRaw entries g = [] := by
      rw [deliveredIds, if_neg fun h => hnew h.1]
    rw [hnone, readGroup, if_neg hnew]
    split
    · exact delivered_nil hseen fun _ => rfl
    · dsimp only
      split_ifs
      · exact delivered_nil hseen fun _ => rfl
      · obtain ⟨hheld, howner⟩ := redeliver_sides o (selectPending o entries
          (g.seeConsumer consumer now) consumer _) (g.seeConsumer consumer now)
        exact delivered_nil (fun other => (hheld other).trans (hseen other)) howner

lemma takesOver_eq_true {o : ReadgroupOptions} {idRaw : Bytes} {entries : List StreamEntry} :
    takesOver o consumer idRaw entries g = true ↔
      ∃ id ∈ deliveredIds o idRaw entries g, ∃ other, g.owner id = some other ∧
        other ≠ consumer := by
  rw [takesOver, List.any_eq_true]
  simp only [Option.any_eq_true, bne_iff_ne, ne_eq]

/-- **`XREADGROUP` keeps a group paired exactly when it takes nothing over.** -/
lemma paired_readGroup (h : g.Paired) (o : ReadgroupOptions) (idRaw : Bytes)
    (entries : List StreamEntry) (hfree : takesOver o consumer idRaw entries g = false) :
    (readGroup err o consumer idRaw now entries g).1.Paired := by
  obtain ⟨hheld, howner⟩ := delivered_readGroup err o consumer idRaw now entries g
  have howned : ∀ id ∈ deliveredIds o idRaw entries g, ∀ other, g.owner id = some other →
      other = consumer := by
    intro id hid other hother
    by_contra hne
    rw [Bool.eq_false_iff] at hfree
    exact hfree (takesOver_eq_true.mpr ⟨id, hid, other, hother, hne⟩)
  rw [Group.paired_iff] at h ⊢
  intro id other
  rw [hheld, howner]
  by_cases hid : id ∈ deliveredIds o idRaw entries g
  · rw [if_pos hid, Option.some.injEq]
    split_ifs with hname
    · simp [hname, hid]
    · -- The other consumer would be the owner, and it is not.
      constructor
      · intro hmem
        exact (howned id hid other ((h id other).mp hmem)).symm
      · intro heq
        exact absurd heq.symm hname
  · rw [if_neg hid, ← h]
    split_ifs with hname
    · simp [hid]
    · rfl

/-- The ID is in the set of a consumer, and the table gives it to the one who reads. -/
def Disputed (g : Group) (consumer : Bytes) (id : StreamId) (other : Bytes) : Prop :=
  other ≠ consumer ∧ id ∈ g.held other ∧ g.owner id = some consumer

/-- A disputed entry is not paired. -/
lemma Disputed.not_paired {id : StreamId} {other : Bytes} (h : Disputed g consumer id other) :
    ¬ g.Paired := by
  intro hpaired
  have howner := (Group.paired_iff.mp hpaired id other).mp h.2.1
  rw [h.2.2, Option.some.injEq] at howner
  exact h.1 howner.symm

/-- What is taken over is disputed. -/
lemma disputed_of_takesOver (h : g.Paired) {o : ReadgroupOptions} {idRaw : Bytes}
    {entries : List StreamEntry} (htakes : takesOver o consumer idRaw entries g = true) :
    ∃ id other,
      Disputed (readGroup err o consumer idRaw now entries g).1 consumer id other := by
  obtain ⟨hheld, howner⟩ := delivered_readGroup err o consumer idRaw now entries g
  obtain ⟨id, hid, other, hother, hne⟩ := takesOver_eq_true.mp htakes
  refine ⟨id, other, hne, ?_, ?_⟩
  · rw [hheld, if_neg hne]
    exact (Group.paired_iff.mp h id other).mpr hother
  · rw [howner, if_pos hid]

/-- The same consumer does not settle it by reading on. -/
lemma Disputed.readGroup {id : StreamId} {other : Bytes} (h : Disputed g consumer id other)
    (o : ReadgroupOptions) (idRaw : Bytes) (entries : List StreamEntry) :
    Disputed (readGroup err o consumer idRaw now entries g).1 consumer id other := by
  obtain ⟨hheld, howner⟩ := delivered_readGroup err o consumer idRaw now entries g
  refine ⟨h.1, ?_, ?_⟩
  · rw [hheld, if_neg h.1]
    exact h.2.1
  · rw [howner]
    split_ifs
    · rfl
    · exact h.2.2

end readgroup

/-! ## `XREADGROUP` on a database -/

/-- Every group of every stream is paired. -/
def AllPaired (db : Db) : Prop := AllStreams (fun s => GroupsPaired s.groups) db

section database

variable (err : Bytes → RespFrame) (o : ReadgroupOptions) (groupName consumer : Bytes)
  (now : Int64)

/-- `XREADGROUP` takes an ID over in one of its streams. -/
def streamTakesOver (key idRaw : Bytes) (db : Db) : Bool :=
  (streamAt (purgeExpiredKey db key now) key).any fun s =>
    (s.groups.lookup groupName).any fun g => takesOver o consumer idRaw s.entries g

/-- It does so in one of the streams it comes to. -/
def readgroupTakesOver : List (Bytes × Bytes) → Db → Bool
  | [], _ => false
  | (key, idRaw) :: rest, db =>
    streamTakesOver o groupName consumer now key idRaw db ||
      match readgroupStream err o groupName consumer key idRaw now db with
      | (_, .error _) => false
      | (db, .ok _) => readgroupTakesOver rest db

/-- A group of that name has a disputed ID, in a stream that has not expired. -/
def DbDisputed (db : Db) : Prop :=
  ∃ (key : Bytes) (s : Stream) (expireAtMs : Option Int64) (g : Group) (id : StreamId)
      (other : Bytes), db.lookup key = some ⟨s.value, expireAtMs⟩ ∧
    isExpired db key now = false ∧ s.groups.lookup groupName = some g ∧
    Disputed g consumer id other

variable {err o groupName consumer now} {db : Db}

lemma DbDisputed.not_allPaired (h : DbDisputed groupName consumer now db) : ¬ AllPaired db := by
  obtain ⟨key, s, expireAtMs, g, id, other, hlookup, _, hgroup, hdisputed⟩ := h
  intro hpaired
  exact hdisputed.not_paired (hpaired key s expireAtMs hlookup groupName g hgroup)

lemma GroupAt.dbDisputed {key : Bytes} {s : Stream} {expireAtMs : Option Int64} {g : Group}
    (h : GroupAt now db key groupName s expireAtMs g) {id : StreamId} {other : Bytes}
    (hdisputed : Disputed g consumer id other) : DbDisputed groupName consumer now db :=
  ⟨key, s, expireAtMs, g, id, other, h.stored, h.live, h.group, hdisputed⟩

/-- A dispute is not settled by reading another stream, or the same one again. -/
lemma DbDisputed.readgroupStream (h : DbDisputed groupName consumer now db) (key idRaw : Bytes) :
    DbDisputed groupName consumer now
      (readgroupStream err o groupName consumer key idRaw now db).1 := by
  obtain ⟨held, s, expireAtMs, g, id, other, hlookup, hlive, hgroup, hdisputed⟩ := h
  have hat : GroupAt now db held groupName s expireAtMs g := ⟨hlive, hlookup, hgroup⟩
  by_cases hkey : held = key
  · subst hkey
    rw [hat.readgroupStream]
    exact (hat.setGroup _).dbDisputed (hdisputed.readGroup o idRaw s.entries)
  · exact (hat.readgroupStream_of_ne err o consumer idRaw hkey).dbDisputed hdisputed

lemma DbDisputed.readgroupStreams (streams : List (Bytes × Bytes)) (out : List RespFrame)
    (h : DbDisputed groupName consumer now db) :
    DbDisputed groupName consumer now
      (readgroupStreams err o groupName consumer now streams db out).1 :=
  readgroupStreams_induction err (fun _ key idRaw hround => hround.readgroupStream key idRaw)
    streams out h

lemma allPaired_readgroupStream (h : AllPaired db) {key idRaw : Bytes}
    (hfree : streamTakesOver o groupName consumer now key idRaw db = false) :
    AllPaired (readgroupStream err o groupName consumer key idRaw now db).1 := by
  rcases readgroupStream_cases err o groupName consumer key idRaw now db with
    ⟨-, hdb, -⟩ | ⟨-, hdb, -⟩ | ⟨s, expireAtMs, g, hat, hresult⟩
  · rw [hdb]
    exact AllStreams.purgeExpiredKey h now
  · rw [hdb]
    exact h
  · have hgroups : GroupsPaired s.groups := h key s expireAtMs hat.stored
    rw [streamTakesOver, purgeExpiredKey_of_live hat.live, hat.streamAt_eq, Option.any_some,
      hat.group, Option.any_some] at hfree
    rw [hresult]
    exact AllStreams.insert h (hgroups.insert
      (paired_readGroup (hgroups groupName g hat.group) o idRaw s.entries hfree) groupName)

lemma disputed_readgroupStream (h : AllPaired db) {key idRaw : Bytes}
    (htakes : streamTakesOver o groupName consumer now key idRaw db = true) :
    DbDisputed groupName consumer now
      (readgroupStream err o groupName consumer key idRaw now db).1 := by
  rw [streamTakesOver, Option.any_eq_true] at htakes
  obtain ⟨s, hs, htakes⟩ := htakes
  rw [Option.any_eq_true] at htakes
  obtain ⟨g, hgroup, htakes⟩ := htakes
  cases hexpired : isExpired db key now with
  | true =>
    rw [purgeExpiredKey, if_pos hexpired, streamAt, Finmap.lookup_erase] at hs
    cases hs
  | false =>
    rw [purgeExpiredKey_of_live hexpired] at hs
    obtain ⟨expireAtMs, hlookup⟩ := streamAt_eq_some.mp hs
    have hat : GroupAt now db key groupName s expireAtMs g := ⟨hexpired, hlookup, hgroup⟩
    obtain ⟨id, other, hdisputed⟩ := disputed_of_takesOver
      (h key s expireAtMs hlookup groupName g hgroup) htakes
    rw [hat.readgroupStream]
    exact (hat.setGroup _).dbDisputed hdisputed

lemma allPaired_readgroupStreams_iff (streams : List (Bytes × Bytes)) (out : List RespFrame)
    (h : AllPaired db) :
    AllPaired (readgroupStreams err o groupName consumer now streams db out).1 ↔
      readgroupTakesOver err o groupName consumer now streams db = false := by
  induction streams generalizing db out with
  | nil => exact iff_of_true h rfl
  | cons stream rest ih =>
    obtain ⟨key, idRaw⟩ := stream
    rw [readgroupTakesOver, Bool.or_eq_false_iff]
    by_cases htakes : streamTakesOver o groupName consumer now key idRaw db = true
    · -- The dispute lasts to the end of the command.
      have hdisputed : DbDisputed groupName consumer now
          (readgroupStream err o groupName consumer key idRaw now db).1 :=
        disputed_readgroupStream h htakes
      refine iff_of_false ?_ fun hfalse => by rw [htakes] at hfalse; cases hfalse.1
      rw [readgroupStreams]
      split
      · rename_i heq
        rw [heq] at hdisputed
        exact hdisputed.not_allPaired
      · rename_i heq
        rw [heq] at hdisputed
        exact (hdisputed.readgroupStreams rest _).not_allPaired
    · have hfree := Bool.eq_false_iff.mpr htakes
      have hpaired : AllPaired
          (readgroupStream err o groupName consumer key idRaw now db).1 :=
        allPaired_readgroupStream h hfree
      rw [readgroupStreams]
      cases hread : readgroupStream err o groupName consumer key idRaw now db with
      | mk db' outcome =>
        rw [hread] at hpaired
        cases outcome with
        | error reply => exact iff_of_true hpaired ⟨hfree, rfl⟩
        | ok reply => exact (ih _ hpaired).trans (and_iff_right hfree).symm

end database

/-! ## Runs -/

section runs

variable (err : Bytes → RespFrame)

/-- The event is an `XREADGROUP` that takes an ID over. -/
def StreamEvent.takesOver (dbs : Databases) : StreamEvent → Bool
  | .command index .xreadgroup args now =>
    match parseReadgroup args with
    | .error _ => false
    | .ok r => readgroupTakesOver err r.options r.group r.consumer now r.streams (dbs index)
  | _ => false

/-- Some event of the run does. -/
def runTakesOver : List StreamEvent → Databases → Bool
  | [], _ => false
  | event :: rest, dbs =>
    event.takesOver err dbs ||
      match stepEvent err dbs event with
      | none => false
      | some dbs' => runTakesOver rest dbs'

variable {err}

/-- Every other command keeps the groups paired. -/
lemma allPaired_run {c : StreamCommand} {args : List Bytes} {now : Int64} {db : Db}
    (hread : c ≠ .xreadgroup) (h : AllPaired db) : AllPaired (c.run err args now db).1 :=
  (dbSteps_run err now args db c).allStreams groupsPaired_empty
    (fun _ _ _ hedit hs => hedit.paired hread hs) h

/-- **One event keeps every group paired exactly when it takes nothing over.** -/
lemma allPaired_stepEvent_iff {dbs dbs' : Databases} {event : StreamEvent}
    (hstep : stepEvent err dbs event = some dbs') (h : ∀ index, AllPaired (dbs index)) :
    (∀ index, AllPaired (dbs' index)) ↔ event.takesOver err dbs = false := by
  rcases stepEvent_cases hstep with ⟨index, c, args, now, rfl, rfl, _⟩ | ⟨index, key, rfl, rfl⟩
  · have hupdate : (∀ i, AllPaired (Function.update dbs index
        (c.run err args now (dbs index)).1 i)) ↔ AllPaired (c.run err args now (dbs index)).1 := by
      constructor
      · intro hall
        have hindex := hall index
        rw [Function.update_self] at hindex
        exact hindex
      · exact forall_update h
    rw [hupdate]
    cases c with
    | xreadgroup =>
      change AllPaired (cmdXreadgroup err args now (dbs index)).1 ↔ _
      rw [StreamEvent.takesOver]
      split
      · rename_i text hparse
        rw [cmdXreadgroup, hparse]
        exact iff_of_true (h index) rfl
      · rename_i r hparse
        rw [cmdXreadgroup_fst err now args _ hparse]
        exact allPaired_readgroupStreams_iff r.streams [] (h index)
    | _ => exact iff_of_true (allPaired_run (by decide) (h index)) rfl
  · exact iff_of_true (forall_update h (AllStreams.erase (h index))) rfl

lemma allPaired_runEvents_iff {events : List StreamEvent} {dbs : Databases}
    (h : ∀ index, AllPaired (dbs index)) :
    (∀ n dbs', runEvents err (events.take n) dbs = some dbs' → ∀ index, AllPaired (dbs' index)) ↔
      runTakesOver err events dbs = false := by
  induction events generalizing dbs with
  | nil =>
    refine iff_of_true ?_ rfl
    intro n dbs' hrun
    rw [List.take_nil, runEvents, Option.some.injEq] at hrun
    exact hrun ▸ h
  | cons event rest ih =>
    -- The first state is the one at hand, the others those of a run after the event.
    have hafter : (∀ n dbs', runEvents err ((event :: rest).take n) dbs = some dbs' →
        ∀ index, AllPaired (dbs' index)) ↔
        ∀ n dbs', (stepEvent err dbs event).bind (runEvents err (rest.take n)) = some dbs' →
          ∀ index, AllPaired (dbs' index) := by
      constructor
      · exact fun hall n => hall (n + 1)
      · rintro hall (_ | n) dbs' hrun
        · cases hrun
          exact h
        · exact hall n dbs' hrun
    rw [hafter, runTakesOver, Bool.or_eq_false_iff]
    cases hstep : stepEvent err dbs event with
    | none =>
      -- Only `XADD` can end the process, and it takes nothing over.
      have hfree : event.takesOver err dbs = false := by
        cases event with
        | command index c args now =>
          cases c with
          | xreadgroup => simp [stepEvent] at hstep
          | _ => rfl
        | delete index key => rfl
      refine iff_of_true ?_ ⟨hfree, rfl⟩
      rintro n dbs' ⟨⟩
    | some middle =>
      have hone := allPaired_stepEvent_iff hstep h
      constructor
      · intro hall
        have hmiddle : ∀ index, AllPaired (middle index) := hall 0 middle rfl
        exact ⟨hone.mp hmiddle, (ih hmiddle).mp hall⟩
      · rintro ⟨hfree, hrest⟩
        exact (ih (hone.mpr hfree)).mpr hrest

end runs

/-- **Pending IDs have one owner exactly when none is taken over.** Over every run of stream
commands and deletions from an empty keyspace: in every state that it goes through, in every group
of every stream, an ID is in the pending set of a consumer exactly when the pending table maps it
to that consumer, if and only if no `XREADGROUP` of the run, with `>` and without `NOACK`, selects
an ID that the table maps to another consumer. -/
theorem paired_iff_no_takeover (err : Bytes → RespFrame) (events : List StreamEvent) :
    (∀ n dbs, runEvents err (events.take n) (fun _ => ∅) = some dbs →
      ∀ index key s, streamAt (dbs index) key = some s →
        ∀ name g, s.groups.lookup name = some g → g.Paired) ↔
      runTakesOver err events (fun _ => ∅) = false := by
  rw [← allPaired_runEvents_iff fun _ => AllStreams.empty]
  constructor
  · intro h n dbs hrun index key s expireAtMs hlookup
    exact h n dbs hrun index key s (streamAt_eq_some.mpr ⟨expireAtMs, hlookup⟩)
  · intro h n dbs hrun index key s hs
    obtain ⟨expireAtMs, hlookup⟩ := streamAt_eq_some.mp hs
    exact h n dbs hrun index key s expireAtMs hlookup

/-- One entry, delivered to `A`, claimed by `B`, and delivered to `B` again after a rewind. -/
def claimedEntry : List StreamEvent :=
  let key := ascii "s"
  let index : Fin dbCount := ⟨0, dbCount_pos⟩
  [.command index .xadd [key, ascii "1-1", ascii "f", ascii "v"] 1,
    .command index .xgroup [ascii "CREATE", key, ascii "g", ascii "0"] 2,
    .command index .xreadgroup
      [ascii "GROUP", ascii "g", ascii "A", ascii "STREAMS", key, ascii ">"] 3,
    .command index .xclaim [key, ascii "g", ascii "B", ascii "0", ascii "1-1"] 4,
    .command index .xgroup [ascii "SETID", key, ascii "g", ascii "0"] 5,
    .command index .xreadgroup
      [ascii "GROUP", ascii "g", ascii "B", ascii "STREAMS", key, ascii ">"] 6]

/-- A claim moves the ID in both tables, so the rewind is harmless. -/
theorem paired_claimedEntry :
    runTakesOver .error claimedEntry (fun _ => ∅) = false ∧
      ∀ n dbs, runEvents .error (claimedEntry.take n) (fun _ => ∅) = some dbs →
        ∀ index key s, streamAt (dbs index) key = some s →
          ∀ name g, s.groups.lookup name = some g → g.Paired := by
  have hfree : runTakesOver .error claimedEntry (fun _ => ∅) = false := by decide +kernel
  exact ⟨hfree, (paired_iff_no_takeover .error claimedEntry).mpr hfree⟩

/-- One entry, delivered to `A`; the group is rewound, and it is delivered to `B`. -/
def rewoundGroup : List StreamEvent :=
  let key := ascii "s"
  let index : Fin dbCount := ⟨0, dbCount_pos⟩
  [.command index .xadd [key, ascii "1-1", ascii "f", ascii "v"] 1,
    .command index .xgroup [ascii "CREATE", key, ascii "g", ascii "0"] 2,
    .command index .xreadgroup
      [ascii "GROUP", ascii "g", ascii "A", ascii "STREAMS", key, ascii ">"] 3,
    .command index .xgroup [ascii "SETID", key, ascii "g", ascii "0"] 4,
    .command index .xreadgroup
      [ascii "GROUP", ascii "g", ascii "B", ascii "STREAMS", key, ascii ">"] 5]

/-- The group `g` of the stream `s` after some of these commands. -/
def rewoundGroupAfter (n : Nat) : Option Group :=
  (runEvents .error (rewoundGroup.take n) fun _ => ∅).bind fun dbs =>
    (streamAt (dbs ⟨0, dbCount_pos⟩) (ascii "s")).bind fun s => s.groups.lookup (ascii "g")

/-- **`A` still has the ID in its pending set, and the table maps it to `B`.** -/
theorem rewound_group_has_two_owners :
    ∃ g, rewoundGroupAfter 5 = some g ∧
      (∃ consumer, g.consumers.lookup (ascii "A") = some consumer ∧ ⟨1, 1⟩ ∈ consumer.pending) ∧
      (∃ pending, g.pending.lookup ⟨1, 1⟩ = some pending ∧ pending.consumer = ascii "B") ∧
      ¬ g.Paired := by
  have hafter : (rewoundGroupAfter 5).any (fun g =>
      ((g.consumers.lookup (ascii "A")).any fun consumer =>
        decide ((⟨1, 1⟩ : StreamId) ∈ consumer.pending)) &&
      (g.pending.lookup ⟨1, 1⟩).any fun pending => pending.consumer == ascii "B") = true := by
    decide +kernel
  rw [Option.any_eq_true] at hafter
  obtain ⟨g, hg, hsides⟩ := hafter
  rw [Bool.and_eq_true, Option.any_eq_true, Option.any_eq_true] at hsides
  obtain ⟨⟨consumer, hconsumer, hmem⟩, pending, hpending, howner⟩ := hsides
  rw [decide_eq_true_iff] at hmem
  rw [beq_iff_eq] at howner
  refine ⟨g, hg, ⟨consumer, hconsumer, hmem⟩, ⟨pending, hpending, howner⟩, ?_⟩
  intro hpaired
  obtain ⟨found, hfound, hname⟩ := (hpaired ⟨1, 1⟩ (ascii "A")).mp ⟨consumer, hconsumer, hmem⟩
  rw [hpending, Option.some.injEq] at hfound
  rw [← hfound, howner] at hname
  exact absurd hname (by decide)

end Ratatosk.Engine
