import Ratatosk.Engine.Access
import Ratatosk.Engine.AclCommands

/-!
# The cached policy of the default user

`DefaultAclPolicyState` of `ratatosk-engine/src/acl.rs` and the path of a client's command through
`ratatosk-server/src/client/execution.rs`. The server keeps two flags of the default user outside
its lock; a command that says so in its outcome has them refreshed.

* `executeCached` — `execute_argv` as a client calls it: who the client is and whether the default
  user has full access are read from the cache. With a fresh cache it is `executeArgv`
  (`executeCached_of_fresh`).
* `runClient`, `executeLocked`, `batchRead` — the three ways in which a client's command runs: the
  first attempt, a retry of a blocking command, and a command of a read-only batch.

Main result: `policy_fresh`. The cache has the flags of the state after every sequence of commands
none of which can spoil it; and `ACL` leaves a fresh cache fresh exactly if it does not spoil it.

The lock-free reads, the latch of the append-only file and what is appended are left open
(`ClientPath`): they see the store and not access control.
-/

namespace Ratatosk.Engine

open Lib Keyspace Resp

variable {σ κ : Type}

/-! ## The cache -/

/-- Source: `acl.rs` `DefaultAclPolicyState` -/
structure DefaultAclPolicy where
  defaultUserIsNopassEnabled : Bool
  defaultUserHasFullAccess : Bool
  deriving Repr, DecidableEq

/-- Source: `acl.rs` `DefaultAclPolicyState::from_acl`, `refresh_from_acl` -/
def DefaultAclPolicy.ofAcl (acl : AclState) : DefaultAclPolicy :=
  ⟨acl.defaultUserIsNopassEnabled, acl.defaultUserHasFullAccess⟩

/-- Source: `keyspace.rs` `SharedState` -/
structure SharedState (σ : Type) where
  server : ServerState σ
  policy : DefaultAclPolicy

/-- Source: `keyspace.rs` `SharedState::new` -/
def SharedState.new (server : ServerState σ) : SharedState σ := ⟨server, .ofAcl server.acl⟩

/-- The cache has the flags of the state. -/
def SharedState.Fresh (shared : SharedState σ) : Prop := shared.policy = .ofAcl shared.server.acl

/-! ## The path of a command -/

/-- The engine with the modelled `ACL` command. -/
def Backend.withAclCommand (b : Backend σ κ) (env : AclEnv σ) : Backend σ κ :=
  { b with
    aclHandler := fun args _ server session =>
      let (server, outcome) := cmdAcl env args server session
      (server, session.rest, outcome) }

/-- The parts of the path that are not modelled. -/
structure ClientPath (σ κ : Type) where
  /-- `try_execute_lock_free_fast_command`, with the bookkeeping after it. -/
  lockFree : Request → Int64 → DefaultAclPolicy → Store σ → Session κ →
    Option (Store σ × Session κ × CommandOutcome)
  /-- The latched error of the append-only file, if it stands in the way of the command. -/
  aofLatched : Request → Store σ → Session κ → Option Bytes
  /-- `ServerState::aof_enabled`. -/
  aofEnabled : Store σ → Bool
  /-- `reconcile_runtime_aof_config_change` and `append_durability_effects_while_locked`, which may
  replace the reply. -/
  persist : Request → Store σ → Option DurabilityEffects → CommandOutcome → Store σ × RespFrame

section path

variable (b : Backend σ κ) (path : ClientPath σ κ)

/-- Source: `mod.rs` `execute_argv_inner`, `precheck_execute_argv_with_default_acl` -/
def authenticateCached (policy : DefaultAclPolicy) (session : Session κ) : Session κ :=
  if !session.authenticated && policy.defaultUserIsNopassEnabled then
    { session with authenticated := true, aclUser := defaultName }
  else session

/-- Source: `mod.rs` `execute_argv_inner` -/
def accessErrorCached (policy : DefaultAclPolicy) (acl : AclState) (session : Session κ)
    (r : Request) : Option Bytes :=
  let allowWithoutAuth := allowsExecuteWithoutAuth r.command r.spec
  if !session.authenticated && !allowWithoutAuth then
    some (ascii "NOAUTH Authentication required.")
  else if session.authenticated && !allowWithoutAuth &&
      !(session.aclUser == defaultName && policy.defaultUserHasFullAccess) then
    r.spec.bind fun spec =>
      if acl.commandAllowedMask session.aclUser (aclRequiredCategories spec) then none
      else some (ascii "NOPERM this user has no permissions to run the command")
  else none

/-- Source: `mod.rs` `execute_argv`, with the cache -/
def executeCached (policy : DefaultAclPolicy) (r : Request) (now : Int64) (conn : Conn σ κ) :
    Conn σ κ × CommandOutcome :=
  let entered := (conn.setEffects none).setSession (authenticateCached policy conn.client.session)
  match accessErrorCached policy entered.server.acl entered.client.session r with
  | some text => (entered, b.fail text)
  | none =>
    admitted b (dispatchCommand b) r conn.client.session.selectedDb now (noteCommand b r entered)

/-- Source: `mod.rs` `precheck_execute_argv_with_default_acl` -/
def precheckExecuteArgv (policy : DefaultAclPolicy) (r : Request) (session : Session κ) :
    Session κ × Option Bytes :=
  let session := authenticateCached policy session
  (session,
    if !session.authenticated && !allowsExecuteWithoutAuth r.command r.spec then
      some (ascii "NOAUTH Authentication required.")
    else none)

/-- A command under the lock, and the refresh of the cache.
Source: `execution.rs` `run_with_blocking_retry` -/
def executeLocked (r : Request) (now : Int64) (shared : SharedState σ) (client : Client κ) :
    SharedState σ × Client κ × CommandOutcome :=
  match path.aofLatched r shared.server.store client.session with
  | some text => (shared, client, .reply (.error text))
  | none =>
    let client := { client with captureEnabled := path.aofEnabled shared.server.store }
    let (conn, outcome) := executeCached b shared.policy r now ⟨shared.server, client⟩
    let (store, response) := path.persist r conn.server.store conn.client.effects outcome
    let server := { conn.server with store := store }
    (⟨server, if outcome.aclDirty then .ofAcl server.acl else shared.policy⟩,
      (conn.setEffects none).client, { outcome with response := response })

/-- The first attempt at a command.
Source: `execution.rs` `run_with_blocking_retry` -/
def runClient (r : Request) (now : Int64) (shared : SharedState σ) (client : Client κ) :
    SharedState σ × Client κ × CommandOutcome :=
  match path.lockFree r now shared.policy shared.server.store client.session with
  | some (store, session, outcome) =>
    ({ shared with server := { shared.server with store := store } },
      { client with session := session }, outcome)
  | none =>
    match precheckExecuteArgv shared.policy r client.session with
    | (session, some text) => (shared, { client with session := session }, b.fail text)
    | (session, none) => executeLocked b path r now shared { client with session := session }

/-- Source: `mod.rs` `supports_readonly_batch_command` -/
def supportsReadonlyBatchCommand (command : Bytes) : Bool :=
  (findCommandSpecUpper command).any fun spec =>
    spec.flags.contains .readonly && !spec.flags.contains .blocking &&
      !spec.flags.contains .connection && !spec.flags.contains .pubsub &&
      !(command == ascii "WAIT" || command == ascii "WAITAOF")

/-- Source: `readonly_batch.rs` `is_lock_free_fast_command_name` -/
def lockFreeFastCommands : List Bytes :=
  ["PING", "ECHO", "TIME", "DBSIZE", "TYPE", "EXISTS", "GET", "MGET", "STRLEN", "BITCOUNT",
    "GETRANGE", "SUBSTR", "HGET", "HMGET", "HGETALL", "HKEYS", "HVALS", "HEXISTS", "HLEN",
    "HSTRLEN", "SISMEMBER", "SMISMEMBER", "SCARD", "ZSCORE", "ZCARD", "ZMSCORE", "ZCOUNT",
    "ZLEXCOUNT", "ZRANGE", "ZRANGEBYSCORE", "ZREVRANGEBYSCORE", "ZRANGEBYLEX", "ZREVRANGEBYLEX",
    "ZREVRANGE", "ZRANK", "ZREVRANK", "LLEN", "LINDEX", "LRANGE", "TTL", "PTTL", "EXPIRETIME",
    "PEXPIRETIME", "GETBIT"].map ascii

/-- Source: `readonly_batch.rs` `is_readonly_batch_command` -/
def isReadonlyBatchCommand (command : Bytes) : Bool :=
  lockFreeFastCommands.contains command || supportsReadonlyBatchCommand command

/-- A command of a batch of reads. It runs without a refresh of the cache.
Source: `readonly_batch.rs` `try_run_readonly_batch` -/
def batchRead (r : Request) (now : Int64) (shared : SharedState σ) (client : Client κ) :
    SharedState σ × Client κ × CommandOutcome :=
  match path.lockFree r now shared.policy shared.server.store client.session with
  | some (store, session, outcome) =>
    ({ shared with server := { shared.server with store := store } },
      { client with session := session }, outcome)
  | none =>
    match precheckExecuteArgv shared.policy r client.session with
    | (session, some text) => (shared, { client with session := session }, b.fail text)
    | (session, none) =>
      let (conn, outcome) := executeCached b shared.policy r now
        ⟨shared.server, { client with session := session }⟩
      ({ shared with server := conn.server }, conn.client, outcome)

end path

/-! ## Sequences of commands -/

/-- The requests that a transaction has queued. -/
def TransactionState.queued : TransactionState → List Request
  | .normal => []
  | .inTransaction queue _ => queue.map QueuedRequest.request

/-- A command of a client: its first attempt, a retry, or one of a batch of reads. -/
inductive PathEvent (κ : Type) where
  | command (client : Client κ) (r : Request) (now : Int64)
  | retry (client : Client κ) (r : Request) (now : Int64)
  | batch (client : Client κ) (r : Request) (now : Int64)
      (readonly : isReadonlyBatchCommand r.command = true)

namespace PathEvent

/-- The client that sends the command. -/
def client : PathEvent κ → Client κ
  | .command client _ _ | .retry client _ _ | .batch client _ _ _ => client

/-- The command. -/
def request : PathEvent κ → Request
  | .command _ r _ | .retry _ r _ | .batch _ r _ _ => r

/-- The command and those that its client has queued. -/
def requests (event : PathEvent κ) : List Request :=
  event.request :: event.client.session.tx.queued

/-- What a command does to the server. -/
def run (b : Backend σ κ) (path : ClientPath σ κ) (shared : SharedState σ) :
    PathEvent κ → SharedState σ
  | .command client r now => (runClient b path r now shared client).1
  | .retry client r now => (executeLocked b path r now shared client).1
  | .batch client r now _ => (batchRead b path r now shared client).1

end PathEvent

/-- What a sequence of commands does to the server. -/
def runPath (b : Backend σ κ) (path : ClientPath σ κ) (events : List (PathEvent κ))
    (shared : SharedState σ) : SharedState σ :=
  events.foldl (PathEvent.run b path) shared

/-! ## What holds all through a command -/

/-- A property of access control, of the databases and of whether a refresh was asked for, after a
command; `dirty` says whether one was asked for before. -/
def Holds (P : AclState → Databases → Bool → Prop) (dirty : Bool)
    (result : Conn σ κ × CommandOutcome) : Prop :=
  P result.1.server.acl result.1.dbs (result.2.aclDirty || dirty)

/-- The arm of the dispatch that the command takes keeps the property. -/
def KeptBy (b : Backend σ κ) (P : AclState → Databases → Bool → Prop) (now : Int64) (r : Request) :
    Prop :=
  ∀ conn dirty, P conn.server.acl conn.dbs dirty → Holds P dirty (runCommand b r now conn)

section holds

variable (b : Backend σ κ) {P : AclState → Databases → Bool → Prop} {now : Int64}
  {conn : Conn σ κ} {r : Request} {dirty : Bool}

/-- What stands around the dispatch keeps the property. -/
lemma holds_admitted {dispatch : Request → Int64 → Conn σ κ → Conn σ κ × CommandOutcome}
    (dbBefore : Fin dbCount) (h : P conn.server.acl conn.dbs dirty)
    (hdispatch : Holds P dirty (dispatch r now conn)) :
    Holds P dirty (admitted b dispatch r dbBefore now conn) := by
  rcases admitted_cases b dispatch r dbBefore now conn with
    ⟨text, -, hrun⟩ | ⟨_, queue, hasError, -, hrun⟩ | ⟨-, hrun⟩
  · rw [hrun]
    exact h
  · rw [hrun]
    rcases queueCommand_cases b _ queue hasError conn with ⟨text, hadd⟩ | ⟨-, hadd⟩
    · rw [hadd]
      exact h
    · rw [hadd]
      exact h
  · rw [hrun, Holds, (identity_finishCommand b dbBefore now _).2, dbs_finishCommand,
      outcome_finishCommand]
    exact hdispatch

/-- The loop of `EXEC`: by induction on the queue, the property holds with what has been asked for
so far. -/
lemma holds_runQueue {queue : List QueuedRequest} (hqueue : ∀ q ∈ queue, KeptBy b P now q.request)
    (h : P conn.server.acl conn.dbs false) : Holds P false (runQueue b now queue conn) := by
  let Q (st : ExecState σ κ) : Prop := P st.conn.server.acl st.conn.dbs st.outcome.aclDirty
  have hloop : Q (execLoop b now queue (startExec conn)) := by
    refine execLoop_preserves b (P := Q) ?_ h
    intro st q hq hst
    have hqueued : Holds P st.outcome.aclDirty (executeQueued b q now st.conn) := by
      unfold executeQueued executeWith
      dsimp only
      split
      · exact hst
      · exact holds_admitted b _ hst (hqueue q hq _ _ hst)
    change P _ _ (st.outcome.aclDirty || (executeQueued b q now st.conn).2.aclDirty)
    rw [Bool.or_comm]
    exact hqueued
  rw [runQueue_eq, Holds, Bool.or_false, finishExec]
  dsimp only
  split <;> exact hloop

variable (hr : KeptBy b P now r)
  (hqueue : r.command = ascii "EXEC" → ∀ q ∈ conn.client.session.tx.queued, KeptBy b P now q)
  (hpurge : ∀ acl (store : Store σ) index (keys : List Bytes), P acl store.dbs false →
    P acl (keys.foldl (purgeWatched b now index) store).dbs false)
  (h : P conn.server.acl conn.dbs false)
include hr hqueue hpurge h

/-- The dispatch of a request keeps what its arm, the commands that it runs from the queue and the
keys that `WATCH` drops keep. -/
lemma holds_dispatchCommand : Holds P false (dispatchCommand b r now conn) := by
  have hway := dispatched b r now conn
  generalize dispatchCommand b r now conn = result at hway ⊢
  cases hway with
  | refused | multi | aborted | discarded => exact h
  | stopped _ _ _ houtcome => rcases houtcome with rfl | rfl <;> exact h
  | ran hexec htx =>
    have hqueue := hqueue hexec.1
    rw [htx] at hqueue
    exact holds_runQueue b (List.forall_mem_map.mp hqueue) h
  | rewatched => exact hpurge _ conn.server.store _ _ h
  | run => exact hr conn false h

omit hr hqueue hpurge h in
lemma tx_authenticateCached (policy : DefaultAclPolicy) (session : Session κ) :
    (authenticateCached policy session).tx = session.tx := by
  unfold authenticateCached
  split <;> rfl

/-- **What holds all through a command.** -/
lemma holds_executeCached (policy : DefaultAclPolicy) :
    Holds P false (executeCached b policy r now conn) := by
  unfold executeCached
  dsimp only
  split
  · exact h
  · refine holds_admitted b _ h (holds_dispatchCommand b hr ?_ hpurge h)
    intro hexec
    change ∀ q ∈ (authenticateCached policy conn.client.session).tx.queued, _
    rw [tx_authenticateCached]
    exact hqueue hexec

end holds

/-! ## Which commands can spoil the cache -/

/-- The flags of a record. -/
def DefaultAclPolicy.ofUser (user : AclUser) : DefaultAclPolicy :=
  ⟨user.enabled && user.nopass, user.enabled && user.allowAllCommands⟩

/-- `ACL SETUSER default`, refused after a rule that has changed a flag. -/
def SpoilsPolicy (env : AclEnv σ) (server : ServerState σ) (args : List Bytes) : Prop :=
  ∃ name rules, args = name :: defaultName :: rules ∧ toUppercase name = ascii "SETUSER" ∧
    ∃ user text, setuserLoop env.lossy (env.hashPassword server.store.rest) 0 rules
        (server.acl.getOrCreateUser defaultName) = (user, .error text) ∧
      DefaultAclPolicy.ofUser user ≠ .ofAcl server.acl

/-- The request is not an `ACL` command that spoils the cache of some server. -/
def Request.KeepsPolicy (env : AclEnv σ) (r : Request) : Prop :=
  r.command = ascii "ACL" → ∀ server, ¬ SpoilsPolicy env server r.args

/-! ## The `ACL` command and the flags -/

section aclCommand

variable (env : AclEnv σ) (server : ServerState σ) (session : Session κ)

/-- What a command leaves to a fresh cache: a refresh, or the flags as they were. -/
def KeepsFresh (acl : AclState) (result : AclState × CommandOutcome) : Prop :=
  result.2.aclDirty = true ∨ DefaultAclPolicy.ofAcl result.1 = .ofAcl acl

lemma ofAcl_insert_default (acl : AclState) (user : AclUser) :
    DefaultAclPolicy.ofAcl { acl with users := acl.users.insert defaultName user } =
      .ofUser user := by
  unfold DefaultAclPolicy.ofAcl AclState.defaultUserIsNopassEnabled
    AclState.defaultUserHasFullAccess
  rw [AList.lookup_insert]
  rfl

lemma ofAcl_insert_of_ne (acl : AclState) {username : Bytes} (h : username ≠ defaultName)
    (user : AclUser) :
    DefaultAclPolicy.ofAcl { acl with users := acl.users.insert username user } = .ofAcl acl := by
  unfold DefaultAclPolicy.ofAcl AclState.defaultUserIsNopassEnabled
    AclState.defaultUserHasFullAccess
  rw [AList.lookup_insert_ne h.symm]

/-- `ACL SETUSER` and the flags. -/
lemma keepsFresh_setuser {name : Bytes} (hname : toUppercase name = ascii "SETUSER")
    (username : Bytes) (rules : List Bytes) :
    KeepsFresh server.acl (aclSetuser env server.store.rest server.acl username rules) ↔
      ¬ SpoilsPolicy env server (name :: username :: rules) := by
  rw [KeepsFresh, aclSetuser]
  by_cases husername : username = defaultName
  · subst husername
    cases hloop : setuserLoop env.lossy (env.hashPassword server.store.rest) 0 rules
        (server.acl.getOrCreateUser defaultName) with
    | mk user result =>
      cases result with
      | ok removed =>
        refine iff_of_true (Or.inl rfl) ?_
        rintro ⟨name', rules', hargs, -, user', text, hloop', -⟩
        cases hargs
        rw [hloop] at hloop'
        cases hloop'
      | error text =>
        dsimp only
        rw [ofAcl_insert_default]
        constructor
        · rintro (hdirty | hsame) ⟨name', rules', hargs, -, user', text', hloop', hchanged⟩
          · cases hdirty
          · cases hargs
            rw [hloop] at hloop'
            cases hloop'
            exact hchanged hsame
        · intro hnot
          refine Or.inr (not_not.mp fun hchanged => hnot ?_)
          exact ⟨name, rules, rfl, hname, user, text, hloop, hchanged⟩
  · have hnot : ¬ SpoilsPolicy env server (name :: username :: rules) := by
      rintro ⟨name', rules', hargs, -⟩
      cases hargs
      exact husername rfl
    refine iff_of_true ?_ hnot
    split
    · exact Or.inr (ofAcl_insert_of_ne server.acl husername _)
    · exact Or.inl rfl

/-- The calls of `ACL SETUSER` that have a username. -/
def IsSetuser (args : List Bytes) : Prop :=
  ∃ name username rules, args = name :: username :: rules ∧ toUppercase name = ascii "SETUSER"

lemma eq_setuser_of_lookup {name : Bytes}
    (h : aclSubcommands.lookup (toUppercase name) = some .setuser) :
    toUppercase name = ascii "SETUSER" := by
  have htable : ∀ p ∈ aclSubcommands, p.2 = .setuser → p.1 = ascii "SETUSER" := by decide
  exact htable _ (mem_of_lookup h) rfl

/-- Every other call refreshes the cache or leaves the users alone. -/
lemma keepsFresh_of_not_setuser {args : List Bytes} (h : ¬ IsSetuser args) :
    KeepsFresh server.acl
      ((cmdAcl env args server session).1.acl, (cmdAcl env args server session).2) := by
  unfold cmdAcl
  dsimp only
  split
  · exact Or.inr rfl
  · rename_i name args
    split
    case h_9 username rules hlookup =>
      exact absurd ⟨name, username, rules, rfl, eq_setuser_of_lookup hlookup⟩ h
    case h_10 => exact Or.inl rfl
    case h_14 arg _ =>
      refine Or.inr ?_
      unfold aclLog
      repeat' split
      all_goals rfl
    case h_15 =>
      unfold aclLoad
      split
      · exact Or.inr rfl
      · exact Or.inr rfl
      · split
        · exact Or.inr rfl
        · exact Or.inl rfl
    all_goals exact Or.inr rfl

/-- **`ACL` and a fresh cache.** The outcome asks for a refresh or the flags are as they were,
exactly if the call does not spoil the cache. -/
lemma keepsFresh_cmdAcl (args : List Bytes) :
    KeepsFresh server.acl
        ((cmdAcl env args server session).1.acl, (cmdAcl env args server session).2) ↔
      ¬ SpoilsPolicy env server args := by
  by_cases h : IsSetuser args
  · obtain ⟨name, username, rules, rfl, hname⟩ := h
    rw [cmdAcl_setuser env server session hname]
    exact keepsFresh_setuser env server hname username rules
  · refine iff_of_true (keepsFresh_of_not_setuser env server session h) ?_
    rintro ⟨name, rules, rfl, hname, -⟩
    exact h ⟨name, defaultName, rules, rfl, hname⟩

end aclCommand

/-! ## Commands and a fresh cache -/

section execute

variable (b : Backend σ κ) {policy : DefaultAclPolicy} {conn : Conn σ κ}

/-- A result that leaves a fresh cache fresh, once the refresh that its outcome asks for is made. -/
def Tracks (policy : DefaultAclPolicy) (result : Conn σ κ × CommandOutcome) : Prop :=
  result.2.aclDirty = true ∨ DefaultAclPolicy.ofAcl result.1.server.acl = policy

lemma Tracks.of_acl {result : Conn σ κ × CommandOutcome}
    (hfresh : DefaultAclPolicy.ofAcl conn.server.acl = policy)
    (h : result.1.server.acl = conn.server.acl) : Tracks policy result :=
  Or.inr (by rw [h, hfresh])

variable (env : AclEnv σ) {r : Request}

lemma tracks_runCommand (hkeeps : r.KeepsPolicy env) (now : Int64)
    (hfresh : DefaultAclPolicy.ofAcl conn.server.acl = policy) :
    Tracks policy (runCommand (b.withAclCommand env) r now conn) := by
  unfold runCommand
  dsimp only
  split
  · exact .of_acl hfresh (congrArg (fun framed => framed.2.2) (framed_cmdSelect _ r.args))
  · exact .of_acl hfresh (congrArg (fun framed => framed.2.2) (framed_cmdAuth _ r.args))
  · exact .of_acl hfresh (congrArg (fun framed => framed.2.2) (framed_cmdHello _ r.args))
  · refine .of_acl hfresh ?_
    unfold cmdReset
    split <;> rfl
  · exact .of_acl hfresh rfl
  · next hkind =>
      have hname : r.command = ascii "ACL" := eq_of_commandKind (by decide) hkind
      rcases (keepsFresh_cmdAcl env conn.server conn.client.session r.args).mpr
        (hkeeps hname conn.server) with hdirty | hsame
      · exact Or.inl hdirty
      · exact Or.inr (hsame.trans hfresh)
  · exact .of_acl hfresh rfl
  · exact .of_acl hfresh rfl
  · exact .of_acl hfresh rfl

/-- **A client's command and a fresh cache.** -/
lemma tracks_executeCached (now : Int64) (hkeeps : r.KeepsPolicy env)
    (hqueue : ∀ q ∈ conn.client.session.tx.queued, q.KeepsPolicy env)
    (hfresh : DefaultAclPolicy.ofAcl conn.server.acl = policy) :
    Tracks policy (executeCached (b.withAclCommand env) policy r now conn) := by
  have hkept {r : Request} (hkeeps : r.KeepsPolicy env) : KeptBy (b.withAclCommand env)
      (fun acl _ dirty => dirty = true ∨ DefaultAclPolicy.ofAcl acl = policy) now r := by
    rintro conn dirty (rfl | hfresh)
    · exact Or.inl (Bool.or_true _)
    · rcases tracks_runCommand b env hkeeps now hfresh with hdirty | hsame
      · exact Or.inl (by rw [hdirty, Bool.true_or])
      · exact Or.inr hsame
  have hholds := holds_executeCached _ (hkept hkeeps) (fun _ q hq => hkept (hqueue q hq))
    (fun _ _ _ _ h => h) (Or.inr hfresh) policy
  rwa [Holds, Bool.or_false] at hholds

/-! ### Batches of reads -/

/-- A command of a batch of reads is neither `EXEC` nor about access control. -/
lemma not_mem_of_isReadonlyBatchCommand {command : Bytes}
    (h : isReadonlyBatchCommand command = true) : command ∉ ascii "EXEC" :: accessCommands := by
  rw [isReadonlyBatchCommand, Bool.or_eq_true] at h
  rcases h with hfast | hreadonly
  · have htable : ∀ name ∈ lockFreeFastCommands, name ∉ ascii "EXEC" :: accessCommands := by
      decide
    exact htable command (List.contains_iff_mem.mp hfast)
  · have htable : ∀ spec ∈ commandSpecs, spec.flags.contains .readonly = true →
        spec.name ∉ ascii "EXEC" :: accessCommands := by
      decide +kernel
    rw [supportsReadonlyBatchCommand, Option.any_eq_true] at hreadonly
    obtain ⟨spec, hspec, hflags⟩ := hreadonly
    have hname : spec.name = command := by simpa using List.find?_some hspec
    rw [← hname]
    refine htable spec (List.mem_of_find?_eq_some hspec) ?_
    simp only [Bool.and_eq_true] at hflags
    exact hflags.1.1.1.1

/-- Such a command leaves the state of access control alone. -/
lemma acl_executeCached_of_readonly (h : isReadonlyBatchCommand r.command = true) (now : Int64) :
    (executeCached b policy r now conn).1.server.acl = conn.server.acl := by
  obtain ⟨hexec, haccess⟩ :=
    not_or.mp (List.mem_cons.not.mp (not_mem_of_isReadonlyBatchCommand h))
  exact holds_executeCached b (P := fun acl _ _ => acl = conn.server.acl)
    (fun conn' _ h => ((blind_runCommand b haccess now).2 conn').2.trans h)
    (fun h => absurd h hexec) (fun _ _ _ _ h => h) rfl policy

end execute

/-! ## Sequences of commands and a fresh cache -/

section run

variable (b : Backend σ κ) (path : ClientPath σ κ) (env : AclEnv σ)
variable {shared : SharedState σ}

lemma fresh_executeLocked {r : Request} (now : Int64) {client : Client κ}
    (hkeeps : r.KeepsPolicy env) (hqueue : ∀ q ∈ client.session.tx.queued, q.KeepsPolicy env)
    (hfresh : shared.Fresh) :
    (executeLocked (b.withAclCommand env) path r now shared client).1.Fresh := by
  unfold executeLocked
  split
  · exact hfresh
  · have htracks : Tracks shared.policy (executeCached (b.withAclCommand env) shared.policy r now
        ⟨shared.server, { client with captureEnabled := path.aofEnabled shared.server.store }⟩) :=
      tracks_executeCached b env now hkeeps hqueue hfresh.symm
    rw [SharedState.Fresh]
    dsimp only
    split_ifs with hdirty
    · rfl
    · rcases htracks with hdirty' | hsame
      · exact absurd hdirty' hdirty
      · exact hsame.symm

lemma PathEvent.fresh_run {event : PathEvent κ} (hkeeps : ∀ r ∈ event.requests, r.KeepsPolicy env)
    (hfresh : shared.Fresh) : (event.run (b.withAclCommand env) path shared).Fresh := by
  obtain ⟨hrequest, hqueue⟩ := List.forall_mem_cons.mp hkeeps
  cases event with
  | command client r now =>
    unfold PathEvent.run runClient
    dsimp only
    split
    · exact hfresh
    · split
      · exact hfresh
      · next session hprecheck =>
          have hsession : session = authenticateCached shared.policy client.session :=
            (congrArg Prod.fst hprecheck).symm
          refine fresh_executeLocked b path env now hrequest ?_ hfresh
          dsimp only
          rw [hsession, tx_authenticateCached]
          exact hqueue
  | retry client r now => exact fresh_executeLocked b path env now hrequest hqueue hfresh
  | batch client r now readonly =>
    unfold PathEvent.run batchRead
    dsimp only
    split
    · exact hfresh
    · split
      · exact hfresh
      · rw [SharedState.Fresh]
        dsimp only
        rw [acl_executeCached_of_readonly _ readonly]
        exact hfresh

/-- Runs of such requests keep the policy fresh. -/
lemma fresh_runPath {events : List (PathEvent κ)}
    (hkeeps : ∀ event ∈ events, ∀ r ∈ event.requests, r.KeepsPolicy env) (hfresh : shared.Fresh) :
    (runPath (b.withAclCommand env) path events shared).Fresh :=
  List.foldlRecOn (motive := SharedState.Fresh) events _ hfresh fun _ hfresh event hevent =>
    PathEvent.fresh_run b path env (hkeeps event hevent) hfresh

/-- **When the cache is fresh.** From startup on, whatever the engine's other handlers and the
append-only file do, it is fresh after every sequence of commands by any clients none of which is
an `ACL SETUSER` of the default user that can be refused after it has changed a flag. And `ACL`
itself, called with a fresh cache, leaves it fresh exactly if it is not such a call. -/
theorem policy_fresh :
    (∀ (server : ServerState σ) (events : List (PathEvent κ)),
      (∀ event ∈ events, ∀ r ∈ event.requests, r.KeepsPolicy env) →
        (runPath (b.withAclCommand env) path events (.new server)).Fresh) ∧
    ∀ (server : ServerState σ) (session : Session κ) (args : List Bytes),
      ((cmdAcl env args server session).2.aclDirty = true ∨
        DefaultAclPolicy.ofAcl (cmdAcl env args server session).1.acl = .ofAcl server.acl) ↔
      ¬ SpoilsPolicy env server args :=
  ⟨fun _ _ hkeeps => fresh_runPath b path env hkeeps rfl,
    fun server session args => keepsFresh_cmdAcl env server session args⟩

end run

/-- A path without lock-free reads and without an append-only file. -/
def ClientPath.bare : ClientPath Unit Unit where
  lockFree _ _ _ _ _ := none
  aofLatched _ _ _ := none
  aofEnabled _ := false
  persist _ store _ outcome := (store, outcome.response)

/-- A command of a new client. -/
def aclEvent (words : List String) : PathEvent Unit :=
  .command (.new ()) ⟨ascii "ACL", words.map ascii⟩ 0

/-- `ACL SETUSER default off` disables the default user, in the cache as well. -/
theorem policy_fresh_setuser :
    (runPath (Backend.bare.withAclCommand AclEnv.toy) ClientPath.bare
      [aclEvent ["SETUSER", "default", "off"]] (.new emptyServer)).Fresh := by
  refine (policy_fresh Backend.bare ClientPath.bare AclEnv.toy).1 emptyServer _ ?_
  intro event hevent r hr
  obtain rfl := List.mem_singleton.mp hevent
  obtain rfl := List.mem_singleton.mp hr
  rintro - server ⟨name, rules, hargs, -, user, text, hloop, -⟩
  cases hargs
  cases hloop

/-- `ACL SETUSER default off typo` is refused; the default user is disabled, and the cache says that
a client that has not authenticated has full access. -/
theorem policy_stale :
    let shared := runPath (Backend.bare.withAclCommand AclEnv.toy) ClientPath.bare
      [aclEvent ["SETUSER", "default", "off", "typo"]] (.new emptyServer)
    DefaultAclPolicy.ofAcl shared.server.acl = ⟨false, false⟩ ∧ shared.policy = ⟨true, true⟩ := by
  decide +kernel

end Ratatosk.Engine
