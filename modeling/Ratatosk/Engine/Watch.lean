import Ratatosk.Engine.Dispatch
import Ratatosk.Keyspace.Watch

/-!
# `WATCH` over any number of clients

A server whose clients interleave `WATCH`, `UNWATCH`, `DISCARD`, `EXEC` and disconnection with
every kind of modification that is recorded for `WATCH`.

* `Clients.Exact`, `exact_step`, `exact_run` — the invariant of the tables holds over every run.
* **`exec_nullArray_iff`** — an `EXEC` that closes a transaction without errors answers a null
  array exactly if a key that the client watches was recorded as modified since, or has expired;
  for runs with fewer than `2 ^ 64` modifications.
* **`registrations_counted`** — registrations are counted, and no count is decremented at zero.
* `exec_runs_after_wraparound` — after `2 ^ 64` modifications the version is back at the one that
  was noted, and the transaction runs.

What a command of the queue modifies is one of the events after the `EXEC`.
-/

namespace Ratatosk.Engine

open Lib Keyspace Resp List AList Function

/-! ## The server's side -/

section store

variable {κ : Type}

/-- The engine with the version tables of the keyspace. -/
def Backend.tracking (b : Backend WatchTables κ) : Backend WatchTables κ :=
  { b with
    keyVersion := fun tables index key => tables.keyVersion (index, key)
    watchKey := fun tables index key => tables.watchKey (index, key)
    unwatchKey := fun tables index key => tables.unwatchKey (index, key)
    recordModification := fun tables index key => tables.recordModification (index, key) }

/-- Source: `keyspace.rs` `ServerState::clear_db` -/
def clearDb (store : Store WatchTables) (index : Fin dbCount) : Store WatchTables :=
  { store with
    dbs := Function.update store.dbs index ∅
    rest := store.rest.recordWatchedExisting index (store.dbs index) }

/-- Source: `keyspace.rs` `ServerState::clear_all_dbs` -/
def clearAllDbs (store : Store WatchTables) : Store WatchTables :=
  (List.finRange dbCount).foldl clearDb store

/-- The exchange of two databases, for two of them.
Source: `keyspace.rs` `ServerState::swap_dbs`, `cmd_server_maintenance.rs` `cmd_swapdb` -/
def swapDbs (left right : Fin dbCount) (store : Store WatchTables) : Store WatchTables :=
  if left = right then store
  else
    let tables := (store.rest.recordWatchedExisting left (store.dbs left)).recordWatchedExisting
      right (store.dbs right)
    { store with
      dbs := store.dbs ∘ Equiv.swap left right
      rest := (tables.recordWatchedExisting left (store.dbs right)).recordWatchedExisting right
        (store.dbs left) }

/-- One database of a snapshot, in place of the one there. -/
def loadDb (snapshot : List Db) (store : Store WatchTables) (index : Fin dbCount) :
    Store WatchTables :=
  match snapshot[index.val]? with
  | none => store
  | some db =>
    { store with
      dbs := Function.update store.dbs index db
      rest := (store.rest.recordWatchedExisting index
        (store.dbs index)).recordWatchedExisting index db }

/-- Source: `keyspace.rs` `DataState::load_from_snapshot` -/
def loadFromSnapshot (snapshot : List Db) (store : Store WatchTables) : Store WatchTables :=
  (List.finRange dbCount).foldl (loadDb snapshot) store

/-- What happens to the databases and to the record of modifications. -/
inductive DataEvent where
  /-- The contents of a database change, and nothing is recorded yet. -/
  | edit (index : Fin dbCount) (db : Db)
  /-- A modification that is recorded: by the dispatcher after a write, by eviction and by the
  active expiry cycle. -/
  | touch (key : DbKey)
  /-- Lazy expiry. Expiring all keys of a database is one after the other. -/
  | purge (index : Fin dbCount) (key : Bytes) (now : Int64)
  | clear (index : Fin dbCount)
  | clearAll
  | swap (left right : Fin dbCount)
  | load (snapshot : List Db)

/-- The store after an event. -/
def DataEvent.apply (b : Backend WatchTables κ) (store : Store WatchTables) :
    DataEvent → Store WatchTables
  | .edit index db => { store with dbs := Function.update store.dbs index db }
  | .touch key => { store with rest := store.rest.touchKeyVersion key }
  | .purge index key now => purgeWatched b.tracking now index store key
  | .clear index => clearDb store index
  | .clearAll => clearAllDbs store
  | .swap left right => swapDbs left right store
  | .load snapshot => loadFromSnapshot snapshot store

end store

/-! ## Interleavings -/

section interleavings

variable {κ : Type} {n : Nat}

/-- The part of `EXEC` before its queue is run.
Source: `cmd_transaction.rs` `cmd_exec` -/
def beginExec (b : Backend WatchTables κ) (args : List Bytes) (conn : Conn WatchTables κ) :
    Conn WatchTables κ :=
  if args = [] ∧ conn.client.session.tx.inMulti then leaveMulti b conn else conn

/-- What a client does. -/
inductive ClientEvent where
  | watch (args : List Bytes) (now : Int64)
  | unwatch (args : List Bytes)
  | discard (args : List Bytes)
  | exec (args : List Bytes)
  | reset (args : List Bytes)
  | disconnect
  /-- Whatever else moves the client in or out of a transaction, or to another database. -/
  | session (tx : TransactionState) (selectedDb : Fin dbCount)

/-- The connection after an event. -/
def ClientEvent.apply (b : Backend WatchTables κ) (conn : Conn WatchTables κ) :
    ClientEvent → Conn WatchTables κ
  | .watch args now => (cmdWatch b.tracking args now conn).1
  | .unwatch args => (cmdUnwatch b.tracking args conn).1
  | .discard args => (cmdDiscard b.tracking args conn).1
  | .exec args => beginExec b.tracking args conn
  | .reset args => if args = [] then
      { releaseWatches b.tracking conn with
        client := resetForConnection b.tracking (releaseWatches b.tracking conn).client }
      else conn
  | .disconnect => { releaseWatches b.tracking conn with client := .new b.newSession }
  | .session tx selectedDb =>
    conn.setSession { conn.client.session with tx := tx, selectedDb := selectedDb }

/-- A server with its clients. -/
structure Clients (n : Nat) (κ : Type) where
  server : ServerState WatchTables
  clients : Fin n → Client κ
  /-- History variable: how long the history was when a client watched a key. -/
  since : Fin n → DbKey → Nat

/-- An event of an interleaving. -/
inductive Event (n : Nat) where
  | client (c : Fin n) (event : ClientEvent)
  | data (event : DataEvent)

/-- The tables fit what the clients watch, for some number of versions given. -/
def Fits (watched : WatchTables.Watched n) (since : Fin n → DbKey → Nat) (t : WatchTables) :
    Prop :=
  ∃ stamps, t.Exact watched since stamps

namespace Clients

/-- The tables of the server. -/
def tables (s : Clients n κ) : WatchTables := s.server.store.rest

/-- The server and one of its clients. -/
def conn (s : Clients n κ) (c : Fin n) : Conn WatchTables κ := ⟨s.server, s.clients c⟩

/-- What each client watches. -/
def watched (s : Clients n κ) : WatchTables.Watched n :=
  fun c => (s.clients c).session.watched.lookup

/-- The history variable after an event of a client: what it did not watch before, it watches
from now on if at all. -/
def sinceAfter (s : Clients n κ) (c : Fin n) (after : Conn WatchTables κ) : Fin n → DbKey → Nat :=
  Function.update s.since c fun key =>
    if (s.watched c key).isSome then s.since c key else after.server.store.rest.history.length

/-- One event. -/
def step (b : Backend WatchTables κ) (s : Clients n κ) : Event n → Clients n κ
  | .client c event =>
    let after := event.apply b (s.conn c)
    { server := after.server
      clients := Function.update s.clients c after.client
      since := s.sinceAfter c after }
  | .data event => { s with server := { s.server with store := event.apply b s.server.store } }

/-- The events of an interleaving. -/
def run (b : Backend WatchTables κ) (s : Clients n κ) (events : List (Event n)) : Clients n κ :=
  events.foldl (step b) s

/-- A server that nobody watches anything on, with clients that have just connected. -/
def start (b : Backend WatchTables κ) (n : Nat) (dbs : Databases) (maxmemory : Nat)
    (strict : Bool) (acl : AclState) : Clients n κ where
  server := ⟨⟨dbs, maxmemory, strict, .new⟩, acl⟩
  clients _ := .new b.newSession
  since _ _ := 0

/-- A key was recorded as modified since the client watched it. -/
def ModifiedSince (s : Clients n κ) (c : Fin n) (key : DbKey) : Prop :=
  key ∈ s.tables.history.drop (s.since c key)

/-- The tables fit what the clients watch. -/
def Exact (s : Clients n κ) : Prop := Fits s.watched s.since s.tables

end Clients

end interleavings

/-! ## The invariant over a run -/

section invariant

variable {κ : Type} {n : Nat} (b : Backend WatchTables κ)

variable {watched : WatchTables.Watched n} {since : Fin n → DbKey → Nat}
variable {s : Clients n κ} {store : Store WatchTables} {c : Fin n} {conn : Conn WatchTables κ}

/-- What every record of a modification keeps. -/
structure KeptByRecords (P : WatchTables → Prop) : Prop where
  recordModification : ∀ {t}, P t → ∀ key, P (t.recordModification key)
  touchKeyVersion : ∀ {t}, P t → ∀ key, P (t.touchKeyVersion key)
  recordWatchedExisting : ∀ {t}, P t → ∀ index db, P (t.recordWatchedExisting index db)

namespace KeptByRecords

variable {P : WatchTables → Prop}

lemma foldl {α : Type} {f : Store WatchTables → α → Store WatchTables}
    (hf : ∀ store a, P store.rest → P (f store a).rest) (items : List α) (h : P store.rest) :
    P (items.foldl f store).rest :=
  List.foldlRecOn (motive := (P ·.rest)) items f h fun store h a _ => hf store a h

variable (hP : KeptByRecords P) (h : P store.rest)
include hP h

lemma purgeWatched (now : Int64) (index : Fin dbCount) (key : Bytes) :
    P (purgeWatched b.tracking now index store key).rest := by
  rw [Engine.purgeWatched]
  split_ifs
  · exact hP.recordModification h (index, key)
  · exact h

lemma loadDb (snapshot : List Db) (index : Fin dbCount) :
    P (loadDb snapshot store index).rest := by
  rw [Engine.loadDb]
  split
  · exact h
  · exact hP.recordWatchedExisting (hP.recordWatchedExisting h index _) index _

lemma swapDbs (left right : Fin dbCount) : P (swapDbs left right store).rest := by
  rw [Engine.swapDbs]
  split_ifs
  · exact h
  · iterate 4 apply hP.recordWatchedExisting
    exact h

theorem dataEvent (event : DataEvent) : P (event.apply b store).rest := by
  cases event with
  | edit index db => exact h
  | touch key => exact hP.touchKeyVersion h key
  | purge index key now => exact hP.purgeWatched b h now index key
  | clear index => exact hP.recordWatchedExisting h index _
  | clearAll => exact foldl (fun store index h => hP.recordWatchedExisting h index _) _ h
  | swap left right => exact hP.swapDbs h left right
  | load snapshot => exact foldl (fun store index h => hP.loadDb h snapshot index) _ h

end KeptByRecords

lemma keptByRecords_fits (watched : WatchTables.Watched n) (since : Fin n → DbKey → Nat) :
    KeptByRecords (Fits watched since) where
  recordModification := fun ⟨_, h⟩ key => h.recordModification key
  touchKeyVersion := fun ⟨_, h⟩ key => h.touchKeyVersion key
  recordWatchedExisting := fun ⟨_, h⟩ index db => h.recordWatchedExisting index db

/-- What one client watches, replaced. -/
def watchedBy (watched : WatchTables.Watched n) (c : Fin n) (conn : Conn WatchTables κ) :
    WatchTables.Watched n :=
  Function.update watched c conn.client.session.watched.lookup

lemma foldl_setWatch_none (keys : List DbKey) (watched : WatchTables.Watched n) (c : Fin n) :
    keys.foldl (fun watched key => WatchTables.setWatch watched c key none) watched =
      Function.update watched c fun key => if key ∈ keys then none else watched c key := by
  induction keys generalizing watched with
  | nil => simp
  | cons key keys ih =>
    rw [foldl_cons, ih, WatchTables.setWatch, update_idem]
    congr 1
    funext other
    by_cases hkey : other = key
    · subst hkey
      simp
    · simp [hkey]

lemma fits_releaseWatches (h : Fits (watchedBy watched c conn) since conn.server.store.rest) :
    Fits (watchedBy watched c (releaseWatches b.tracking conn)) since
      (releaseWatches b.tracking conn).server.store.rest := by
  obtain ⟨stamps, h⟩ := h
  refine ⟨stamps, ?_⟩
  have hself : watchedBy watched c conn c = conn.client.session.watched.lookup := by
    simp [watchedBy]
  have hreleased := h.foldl_unwatchKey conn.client.session.watched.keys
    conn.client.session.watched.keys_nodup (c := c) fun key hkey => by
      rw [hself]
      exact lookup_isSome.mpr hkey
  rw [foldl_setWatch_none] at hreleased
  have hnone : (Function.update (watchedBy watched c conn) c fun key =>
      if key ∈ conn.client.session.watched.keys then none else watchedBy watched c conn c key) =
      watchedBy watched c (releaseWatches b.tracking conn) := by
    rw [watchedBy, watchedBy, update_idem]
    congr 1
    funext key
    rw [update_self]
    change _ = (∅ : HashMap DbKey UInt64).lookup key
    rw [lookup_empty]
    split_ifs with hkey
    · rfl
    · exact lookup_eq_none.mpr hkey
  rw [hnone] at hreleased
  exact hreleased

/-- One key of a `WATCH`, if what is not watched yet counts from now. -/
lemma fits_watchOne (index : Fin dbCount) (key : Bytes)
    (h : Fits (watchedBy watched c conn) since conn.server.store.rest)
    (hsince : ∀ key, conn.client.session.watched.lookup key = none →
      since c key = conn.server.store.rest.history.length) :
    Fits (watchedBy watched c (watchOne b.tracking index conn key)) since
        (watchOne b.tracking index conn key).server.store.rest ∧
      ∀ other, (watchOne b.tracking index conn key).client.session.watched.lookup other = none →
        since c other = (watchOne b.tracking index conn key).server.store.rest.history.length := by
  rw [watchOne]
  by_cases hsome : (conn.client.session.watched.lookup (index, key)).isSome
  · rw [if_pos hsome]
    exact ⟨h, hsince⟩
  · rw [if_neg hsome]
    have hnone := Option.not_isSome_iff_eq_none.mp hsome
    obtain ⟨stamps, h⟩ := h
    have hfree : watchedBy watched c conn c (index, key) = none := by
      simpa [watchedBy] using hnone
    have hregistered :
        Function.update watched c (conn.client.session.watched.insert (index, key)
          (conn.server.store.rest.watchKey (index, key)).2).lookup =
        WatchTables.setWatch (watchedBy watched c conn) c (index, key)
          (some (conn.server.store.rest.watchKey (index, key)).2) := by
      rw [WatchTables.setWatch, watchedBy, update_idem, update_self]
      congr 1
      funext other
      by_cases hother : other = (index, key)
      · subst hother
        simp
      · simp [lookup_insert_ne hother, hother]
    constructor
    · refine ⟨stamps, ?_⟩
      have hexact := h.watchKey hfree (hsince _ hnone)
      rw [← hregistered] at hexact
      exact hexact
    · intro other hother
      apply hsince
      by_cases heq : other = (index, key)
      · rw [heq]
        exact hnone
      · simpa [lookup_insert_ne heq] using hother

lemma fits_foldl_watchOne (index : Fin dbCount) (keys : List Bytes)
    (h : Fits (watchedBy watched c conn) since conn.server.store.rest)
    (hsince : ∀ key, conn.client.session.watched.lookup key = none →
      since c key = conn.server.store.rest.history.length) :
    Fits (watchedBy watched c (keys.foldl (watchOne b.tracking index) conn)) since
      (keys.foldl (watchOne b.tracking index) conn).server.store.rest := by
  induction keys generalizing conn with
  | nil => exact h
  | cons key keys ih =>
    obtain ⟨hfits, hsince⟩ := fits_watchOne b index key h hsince
    exact ih hfits hsince

/-- The history variable of the client's event, which changes what was not watched. -/
lemma Fits.sinceAfter {t : WatchTables} (h : Fits s.watched s.since t) (c : Fin n)
    (after : Conn WatchTables κ) : Fits s.watched (s.sinceAfter c after) t := by
  obtain ⟨stamps, h⟩ := h
  refine ⟨stamps, h.congr_since fun client key hsome => ?_⟩
  by_cases hclient : client = c
  · subst hclient
    simp [Clients.sinceAfter, hsome]
  · simp [Clients.sinceAfter, hclient]

lemma history_foldl_watchOne (index : Fin dbCount) (keys : List Bytes)
    (conn : Conn WatchTables κ) :
    (keys.foldl (watchOne b.tracking index) conn).server.store.rest.history =
      conn.server.store.rest.history := by
  induction keys generalizing conn with
  | nil => rfl
  | cons key keys ih =>
    rw [foldl_cons, ih, watchOne]
    split_ifs <;> rfl

lemma fits_watchedBy {since : Fin n → DbKey → Nat} (c : Fin n)
    (h : Fits s.watched since conn.server.store.rest)
    (hsame : conn.client.session.watched = (s.clients c).session.watched) :
    Fits (watchedBy s.watched c conn) since conn.server.store.rest := by
  have hwatched : watchedBy s.watched c conn = s.watched := by
    rw [watchedBy, hsame]
    exact update_eq_self c s.watched
  rw [hwatched]
  exact h

/-- `WATCH` keeps the tables fitting: it expires keys first, and what it registers counts from
then on. -/
lemma fits_cmdWatch (h : s.Exact) (c : Fin n) (args : List Bytes) (now : Int64) :
    let after := (cmdWatch b.tracking args now (s.conn c)).1
    Fits (watchedBy s.watched c after) (s.sinceAfter c after) after.server.store.rest := by
  intro after
  have hkept : ∀ after, Fits (watchedBy s.watched c (s.conn c)) (s.sinceAfter c after)
      (s.conn c).server.store.rest := fun after => fits_watchedBy c (h.sinceAfter c after) rfl
  have hpurged := KeptByRecords.foldl (fun store key h => (keptByRecords_fits _ _).purgeWatched b
    h now (s.conn c).client.session.selectedDb key) args h
  simp only [after, cmdWatch]
  split_ifs
  · exact hkept _
  · exact hkept _
  apply fits_foldl_watchOne b _ args
  · exact fits_watchedBy c (hpurged.sinceAfter c _) rfl
  · intro key hnone
    have hfree : (s.watched c key).isSome = false := by
      rw [Option.isSome_eq_false_iff, Option.isNone_iff_eq_none]
      exact hnone
    simp [Clients.sinceAfter, hfree, history_foldl_watchOne]

/-- What a client does keeps the tables fitting. -/
theorem fits_clientEvent (h : s.Exact) (c : Fin n) (event : ClientEvent) :
    let after := event.apply b (s.conn c)
    Fits (watchedBy s.watched c after) (s.sinceAfter c after) after.server.store.rest := by
  have hkept : ∀ after, Fits (watchedBy s.watched c (s.conn c)) (s.sinceAfter c after)
      (s.conn c).server.store.rest := fun after => fits_watchedBy c (h.sinceAfter c after) rfl
  have hreleased : ∀ after,
      Fits (watchedBy s.watched c (releaseWatches b.tracking (s.conn c))) (s.sinceAfter c after)
        (releaseWatches b.tracking (s.conn c)).server.store.rest :=
    fun after => fits_releaseWatches b (hkept after)
  intro after
  cases event with
  | watch args now => exact fits_cmdWatch b h c args now
  | unwatch args =>
    simp only [after, ClientEvent.apply, cmdUnwatch]
    split_ifs
    · exact hkept _
    · exact hreleased _
  | discard args =>
    simp only [after, ClientEvent.apply, cmdDiscard]
    split_ifs
    · exact hkept _
    · exact hkept _
    · exact hreleased _
  | exec args =>
    simp only [after, ClientEvent.apply, beginExec]
    split_ifs
    · exact hreleased _
    · exact hkept _
  | reset args =>
    simp only [after, ClientEvent.apply]
    split_ifs
    · exact hreleased _
    · exact hkept _
  | disconnect => exact hreleased _
  | session tx selectedDb => exact hkept _

/-- **One event keeps the invariant.** -/
theorem exact_step (h : s.Exact) (event : Event n) : (s.step b event).Exact := by
  cases event with
  | data event => exact (keptByRecords_fits _ _).dataEvent b h event
  | client c event =>
    have hafter := fits_clientEvent b h c event
    have hwatched : (s.step b (.client c event)).watched =
        watchedBy s.watched c (event.apply b (s.conn c)) := by
      funext client key
      by_cases hclient : client = c
      · subst hclient
        simp [Clients.watched, Clients.step, watchedBy]
      · simp [Clients.watched, Clients.step, watchedBy, hclient]
    rw [Clients.Exact, hwatched]
    exact hafter

/-- **Every interleaving keeps the invariant.** -/
theorem exact_run (h : s.Exact) (events : List (Event n)) : (s.run b events).Exact :=
  List.foldlRecOn (motive := Clients.Exact) events _ h fun _ h event _ => exact_step b h event

/-- They are exact at the start. -/
lemma exact_start (dbs : Databases) (maxmemory : Nat) (strict : Bool) (acl : AclState) :
    (Clients.start b n dbs maxmemory strict acl).Exact :=
  ⟨0, WatchTables.exact_new _⟩

end invariant

/-! ## The counts over a run -/

section counts

variable {κ : Type} {n : Nat} (b : Backend WatchTables κ)

variable {s : Clients n κ} {conn : Conn WatchTables κ}

lemma keptByRecords_versioned : KeptByRecords WatchTables.Versioned where
  recordModification := fun h key => h.recordModification key
  touchKeyVersion := fun h key => h.touchKeyVersion key
  recordWatchedExisting := fun h index db => h.recordWatchedExisting index db

lemma versioned_releaseWatches (h : conn.server.store.rest.Versioned) :
    (releaseWatches b.tracking conn).server.store.rest.Versioned :=
  List.foldlRecOn (motive := WatchTables.Versioned) conn.client.session.watched.keys _ h
    fun _ h key _ => h.unwatchKey key

lemma versioned_cmdWatch (args : List Bytes) (now : Int64)
    (h : conn.server.store.rest.Versioned) :
    (cmdWatch b.tracking args now conn).1.server.store.rest.Versioned := by
  rw [cmdWatch]
  split_ifs
  · exact h
  · exact h
  refine List.foldlRecOn (motive := fun conn : Conn WatchTables κ =>
    conn.server.store.rest.Versioned) args _ ?_ ?_
  · exact KeptByRecords.foldl
      (fun store key h => keptByRecords_versioned.purgeWatched b h now _ key) args h
  · intro conn h key _
    rw [watchOne]
    split_ifs
    · exact h
    · exact h.watchKey _

/-- What a client does keeps the tables versioned. -/
theorem versioned_clientEvent (event : ClientEvent) (h : conn.server.store.rest.Versioned) :
    (event.apply b conn).server.store.rest.Versioned := by
  have hreleased := versioned_releaseWatches b h
  cases event with
  | watch args now => exact versioned_cmdWatch b args now h
  | disconnect => exact hreleased
  | session tx selectedDb => exact h
  | _ =>
    simp only [ClientEvent.apply, cmdUnwatch, cmdDiscard, beginExec]
    split_ifs <;> first | exact h | exact hreleased

/-- **Only registered keys have a version**, after every interleaving. -/
theorem versioned_run (h : s.tables.Versioned) (events : List (Event n)) :
    (s.run b events).tables.Versioned := by
  refine List.foldlRecOn (motive := fun s : Clients n κ => s.tables.Versioned) events _ h
    fun s h event _ => ?_
  cases event with
  | client c event => exact versioned_clientEvent b event h
  | data event => exact keptByRecords_versioned.dataEvent b h event

/-- **Registrations are counted.** After every interleaving the count of a key is the number of
clients that watch it, only keys with a positive count have a version, and the number of watched
keys is the number of keys with a positive count. Whichever of its keys a client has given up
already, the next one has a positive count and the number of watched keys is positive, so no
count is decremented at zero. -/
theorem registrations_counted (dbs : Databases) (maxmemory : Nat) (strict : Bool)
    (acl : AclState) (events : List (Event n)) :
    let s := (Clients.start b n dbs maxmemory strict acl).run b events
    let refs := fun (t : WatchTables) key => (t.watchRefs.lookup key).getD 0
    (∀ key, refs s.tables key = (Finset.univ.filter fun c => (s.watched c key).isSome).card) ∧
      (∀ key ∈ s.tables.keyVersions, 0 < refs s.tables key) ∧
      s.tables.watchedKeys = {key | 0 < refs s.tables key}.ncard ∧
      ∀ c done key, (key :: done).Nodup → (∀ other ∈ key :: done, (s.watched c other).isSome) →
        let t := done.foldl WatchTables.unwatchKey s.tables
        0 < refs t key ∧ 0 < t.watchedKeys := by
  intro s refs
  obtain ⟨stamps, hexact⟩ := exact_run b (exact_start b dbs maxmemory strict acl) events
  -- At the start both tables are empty.
  have hstart : (Clients.start b n dbs maxmemory strict acl).tables.Versioned := fun _ hkey => hkey
  have hversioned := versioned_run b hstart events
  refine ⟨hexact.refs, ?_, hexact.watchedKeys_eq, ?_⟩
  · intro key hkey
    exact (hexact.refs_pos_iff key).mpr (hversioned key hkey)
  · intro c done key hnodup hwatched t
    obtain ⟨hfresh, hnodup⟩ := nodup_cons.mp hnodup
    have hleft := hexact.foldl_unwatchKey done hnodup fun other hother =>
      hwatched other (mem_cons_of_mem _ hother)
    rw [foldl_setWatch_none] at hleft
    apply hleft.counts_pos (c := c)
    simpa [hfresh] using hwatched key mem_cons_self

end counts

/-! ## `EXEC` -/

section exec

variable {σ κ : Type} {n : Nat}

/-- When `EXEC` answers a null array. -/
lemma cmdExec_eq_nullArray_iff (b : Backend σ κ) (now : Int64) {conn : Conn σ κ}
    {queue : List QueuedRequest} (htx : conn.client.session.tx = .inTransaction queue false) :
    (cmdExec b [] now conn).2.response = .nullArray ↔
      watchedDirty b now conn.server.store conn.client.session = true := by
  simp only [cmdExec, htx, ne_eq, not_true_eq_false, if_false]
  split_ifs with hdirty hmemory
  · exact iff_of_true rfl hdirty
  · refine iff_of_false ?_ hdirty
    simp [CommandOutcome.reply, Backend.fail, Backend.err]
  · refine iff_of_false ?_ hdirty
    simp [runQueue]

/-- **`WATCH` makes the client watch each of its keys**, besides those that it watches. -/
lemma isSome_watched_cmdWatch (b : Backend σ κ) {conn : Conn σ κ} {args : List Bytes}
    (hargs : args ≠ []) (hfree : conn.client.session.tx.inMulti = false) (now : Int64)
    (watch : Fin dbCount × Bytes) :
    ((cmdWatch b args now conn).1.client.session.watched.lookup watch).isSome ↔
      (conn.client.session.watched.lookup watch).isSome ∨
        watch.1 = conn.client.session.selectedDb ∧ watch.2 ∈ args := by
  have hone : ∀ index (conn : Conn σ κ) key,
      ((watchOne b index conn key).client.session.watched.lookup watch).isSome ↔
        (conn.client.session.watched.lookup watch).isSome ∨ watch = (index, key) := by
    intro index conn key
    unfold watchOne
    dsimp only
    split_ifs with hwatched
    · exact ⟨.inl, fun h => h.elim id fun heq => heq ▸ hwatched⟩
    · by_cases heq : watch = (index, key)
      · subst heq
        simp [Conn.setSession, AList.lookup_insert]
      · simp [Conn.setSession, Conn.setStore, heq, lookup_insert_ne]
  have hall : ∀ (keys : List Bytes) index (conn : Conn σ κ),
      ((keys.foldl (watchOne b index) conn).client.session.watched.lookup watch).isSome ↔
        (conn.client.session.watched.lookup watch).isSome ∨ watch.1 = index ∧ watch.2 ∈ keys := by
    intro keys index
    induction keys with
    | nil => simp
    | cons key keys ih =>
      intro conn
      rw [foldl_cons, ih, hone, mem_cons, Prod.ext_iff]
      tauto
  rw [cmdWatch, if_neg hargs, hfree]
  exact hall args _ _

/-- **The exits leave nothing watched**: `UNWATCH`, `RESET`, `DISCARD`, and `EXEC` before it runs its
queue. -/
lemma watched_exits (b : Backend σ κ) (conn : Conn σ κ) :
    (cmdUnwatch b [] conn).1.client.session.watched = ∅ ∧
      (cmdReset b [] conn).1.client.session.watched = ∅ ∧
      (leaveMulti b conn).client.session.watched = ∅ ∧
      (conn.client.session.tx.inMulti = true →
        (cmdDiscard b [] conn).1.client.session.watched = ∅) := by
  refine ⟨rfl, rfl, rfl, fun hmulti => ?_⟩
  simp [cmdDiscard, hmulti, leaveMulti, releaseWatches, Conn.setSession]

/-- **`WATCH` is exact.** After every interleaving of fewer than `2 ^ 64` modifications, an
`EXEC` that closes a transaction without errors answers a null array exactly if a key that the
client watches was recorded as modified since the client watched it, or has expired. -/
theorem exec_nullArray_iff (b : Backend WatchTables κ) (dbs : Databases) (maxmemory : Nat)
    (strict : Bool) (acl : AclState) (events : List (Event n)) (c : Fin n) (now : Int64)
    (queue : List QueuedRequest)
    (hbound : ((Clients.start b n dbs maxmemory strict acl).run b events).tables.history.length <
      2 ^ 64)
    (htx : (((Clients.start b n dbs maxmemory strict acl).run b events).clients c).session.tx =
      .inTransaction queue false) :
    let s := (Clients.start b n dbs maxmemory strict acl).run b events
    (cmdExec b.tracking [] now (s.conn c)).2.response = .nullArray ↔
      ∃ key, (s.watched c key).isSome ∧
        (s.ModifiedSince c key ∨ isExpired (s.server.store.dbs key.1) key.2 now) := by
  intro s
  obtain ⟨stamps, hexact⟩ := exact_run b (exact_start b dbs maxmemory strict acl) events
  rw [cmdExec_eq_nullArray_iff b.tracking now htx, watchedDirty, any_eq_true]
  have hcompare : ∀ key version, s.watched c key = some version →
      ((s.tables.keyVersion key != version) = true ↔ s.ModifiedSince c key) := by
    intro key version hwatched
    rw [bne_iff_ne]
    exact hexact.keyVersion_eq_iff hbound hwatched
  constructor
  · rintro ⟨⟨key, version⟩, hmem, hdirty⟩
    have hwatched : s.watched c key = some version := mem_lookup_iff.mpr hmem
    rw [Bool.or_eq_true] at hdirty
    exact ⟨key, by simp [hwatched], hdirty.imp_left (hcompare key version hwatched).mp⟩
  · rintro ⟨key, hsome, hdirty⟩
    obtain ⟨version, hwatched⟩ := Option.isSome_iff_exists.mp hsome
    refine ⟨⟨key, version⟩, mem_lookup_iff.mp hwatched, ?_⟩
    rw [Bool.or_eq_true]
    exact hdirty.imp_left (hcompare key version hwatched).mpr

/-- The modelled commands alone, over the version tables. -/
def Backend.bareTracking : Backend WatchTables Unit where
  sanitize := id
  handler r _ store _ :=
    (store, (), .reply (.error (ascii "ERR unknown command '" ++ r.name ++ ascii "'")))
  aclHandler _ _ server _ := (server, (), .reply (.errorStr "ERR unknown command 'acl'"))
  noteData _ store _ := store.rest
  popOrder _ := .sorted
  noteCommand _ tables _ := (tables, ())
  afterCommand _ _ store _ := (store.rest, ())
  memoryLimitExceeded _ := false
  verifyPasswordHash stored password := stored == password
  hasPeerIp _ := false
  isBlocked tables _ := (tables, false)
  recordFailure tables _ := (tables, false)
  authFailureDelayMs _ _ := 0
  setName _ _ := ()
  clientId _ := 0
  resetSession _ := ()
  resetServer tables _ := tables
  keyVersion tables index key := tables.keyVersion (index, key)
  watchKey tables index key := tables.watchKey (index, key)
  unwatchKey tables index key := tables.unwatchKey (index, key)
  recordModification tables index key := tables.recordModification (index, key)
  adjustCommandsProcessed tables _ := tables
  newSession := ()

/-- A key of the first database. -/
def stockKey : DbKey := (⟨0, dbCount_pos⟩, ascii "stock")

/-- Two clients on an empty server. -/
def twoClients : Clients 2 Unit := .start .bareTracking 2 (fun _ => ∅) 0 false .default

/-- The first client watches a key, the second watches it too and lets go, and the key is
modified before the first is in a transaction. -/
def modifiedRun : List (Event 2) :=
  [.client 0 (.watch [stockKey.2] 0), .client 1 (.watch [stockKey.2] 0),
    .client 1 (.unwatch []), .data (.touch stockKey),
    .client 0 (.session (.inTransaction [] false) stockKey.1)]

/-- The registration of the second client does not take the first one's with it. -/
theorem exec_nullArray_modified :
    (cmdExec Backend.bareTracking.tracking [] 0
      ((twoClients.run .bareTracking modifiedRun).conn 0)).2.response = .nullArray :=
  (exec_nullArray_iff .bareTracking (fun _ => ∅) 0 false .default modifiedRun 0 0 []
    (by decide +kernel) rfl).mpr
    ⟨stockKey, by decide +kernel, .inl (by unfold Clients.ModifiedSince; decide +kernel)⟩

/-! ### Wrapping around -/

lemma touchKeyVersion_eq_stamp {t : WatchTables} {key : DbKey}
    (hrefs : (t.watchRefs.lookup key).isSome) (hcount : t.watchedKeys ≠ 0) :
    t.touchKeyVersion key = t.stamp key := by
  rw [WatchTables.touchKeyVersion, if_neg hcount, WatchTables.recordModification, if_pos hrefs]

/-- A registered key, modified again and again. -/
lemma foldl_touchKeyVersion (k : Nat) (t : WatchTables) {key : DbKey}
    (hrefs : (t.watchRefs.lookup key).isSome) (hcount : t.watchedKeys ≠ 0) :
    let after := (List.replicate (k + 1) key).foldl WatchTables.touchKeyVersion t
    after.keyVersion key = t.nextKeyVersion + UInt64.ofNat k ∧
      key ∈ after.history.drop t.history.length := by
  induction k generalizing t with
  | zero =>
    have hone := touchKeyVersion_eq_stamp hrefs hcount
    simp only [List.replicate, foldl_cons, foldl_nil, hone]
    exact ⟨by simp [WatchTables.keyVersion_stamp_self], by simp [WatchTables.stamp]⟩
  | succ k ih =>
    intro after
    have hafter : after = (List.replicate (k + 1) key).foldl WatchTables.touchKeyVersion
        (t.stamp key) := by
      simp only [after]
      rw [replicate_succ, foldl_cons, touchKeyVersion_eq_stamp hrefs hcount]
    obtain ⟨hversion, hmem⟩ := ih (t.stamp key) hrefs hcount
    rw [← hafter] at hversion hmem
    constructor
    · rw [hversion]
      change t.nextKeyVersion + 1 + UInt64.ofNat k = _
      rw [UInt64.add_assoc, UInt64.add_comm 1, ← UInt64.ofNat_one, ← UInt64.ofNat_add]
    · exact mem_of_mem_drop (i := 1) (by simpa [WatchTables.stamp, drop_drop] using hmem)

lemma run_touch (b : Backend WatchTables κ) (s : Clients n κ) (key : DbKey) (k : Nat) :
    s.run b (List.replicate k (.data (.touch key))) =
      { s with
        server := { s.server with
          store := { s.server.store with
            rest := (List.replicate k key).foldl WatchTables.touchKeyVersion s.tables } } } := by
  induction k generalizing s with
  | zero => rfl
  | succ k ih =>
    rw [replicate_succ, replicate_succ, Clients.run, foldl_cons]
    exact ih _

/-- What a client watches already keeps its place in the history. -/
lemma since_step_of_watched (b : Backend WatchTables κ) (s : Clients n κ) (c : Fin n)
    (event : ClientEvent) {key : DbKey} (hsome : (s.watched c key).isSome) :
    (s.step b (.client c event)).since c key = s.since c key := by
  simp [Clients.step, Clients.sinceAfter, hsome]

lemma cmdExec_of_clean (b : Backend σ κ) (now : Int64) {conn : Conn σ κ}
    (htx : conn.client.session.tx = .inTransaction [] false)
    (hclean : watchedDirty b now conn.server.store conn.client.session = false) :
    (cmdExec b [] now conn).2.response = .array [] := by
  simp [cmdExec, htx, hclean, runQueue, execLoop]

/-- A client on an empty server that watches a key. -/
def watchingClient : Clients 1 Unit :=
  (Clients.start .bareTracking 1 (fun _ => ∅) 0 false .default).run .bareTracking
    [.client 0 (.watch [stockKey.2] 0)]

/-- The key is modified again and again before the client is in a transaction. -/
def modifiedAgainRun (k : Nat) : List (Event 1) :=
  List.replicate (k + 1) (.data (.touch stockKey)) ++
    [.client 0 (.session (.inTransaction [] false) stockKey.1)]

/-- Once the version is back at the one that was noted, the transaction runs. -/
lemma exec_runs_of_version_eq (k : Nat) (hk : (1 : UInt64) + UInt64.ofNat k = 0) :
    let s := watchingClient.run .bareTracking (modifiedAgainRun k)
    (s.watched 0 stockKey).isSome ∧ s.ModifiedSince 0 stockKey ∧
      (cmdExec Backend.bareTracking.tracking [] 0 (s.conn 0)).2.response = .array [] := by
  have hrefs : (watchingClient.tables.watchRefs.lookup stockKey).isSome := rfl
  have hcount : watchingClient.tables.watchedKeys ≠ 0 := by decide
  have hentries : (watchingClient.clients 0).session.watched.entries = [⟨stockKey, 0⟩] := by
    rfl
  have hsome : (watchingClient.watched 0 stockKey).isSome := rfl
  have hfirst : watchingClient.since 0 stockKey = watchingClient.tables.history.length := by
    rfl
  have hnext : watchingClient.tables.nextKeyVersion = 1 := rfl
  have hfresh : isExpired (watchingClient.server.store.dbs stockKey.1) stockKey.2 0 = false := by
    rfl
  obtain ⟨hversion, hmem⟩ := foldl_touchKeyVersion k watchingClient.tables hrefs hcount
  rw [hnext, hk] at hversion
  intro s
  have hs : s = (watchingClient.run .bareTracking
      (List.replicate (k + 1) (.data (.touch stockKey)))).step .bareTracking
        (.client 0 (.session (.inTransaction [] false) stockKey.1)) := by
    simp only [s, modifiedAgainRun, Clients.run, List.foldl_append, foldl_cons,
      foldl_nil]
  rw [run_touch] at hs
  clear_value s
  have hwatched : (s.clients 0).session.watched.entries = [⟨stockKey, 0⟩] := by
    rw [hs]
    exact hentries
  refine ⟨?_, ?_, cmdExec_of_clean _ 0 (by rw [hs]; rfl) ?_⟩
  · rw [hs]
    exact hsome
  · have hsince : s.since 0 stockKey = watchingClient.since 0 stockKey := by
      rw [hs]
      exact since_step_of_watched _ _ 0 _ hsome
    rw [Clients.ModifiedSince, hsince, hfirst, hs]
    exact hmem
  · change List.any (s.clients 0).session.watched.entries _ = false
    rw [hwatched, hs]
    simp only [any_cons, any_nil, Bool.or_false, Bool.or_eq_false_iff,
      bne_eq_false_iff_eq]
    exact ⟨hversion, hfresh⟩

/-- After `2 ^ 64` modifications the version has wrapped around: the client watches a key that
was recorded as modified since, and its transaction runs. -/
theorem exec_runs_after_wraparound :
    let s := watchingClient.run .bareTracking (modifiedAgainRun (2 ^ 64 - 1))
    (s.watched 0 stockKey).isSome ∧ s.ModifiedSince 0 stockKey ∧
      (cmdExec Backend.bareTracking.tracking [] 0 (s.conn 0)).2.response = .array [] :=
  exec_runs_of_version_eq (2 ^ 64 - 1) (by decide +kernel)

end exec

end Ratatosk.Engine
