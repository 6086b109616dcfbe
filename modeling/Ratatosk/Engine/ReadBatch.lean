import Ratatosk.Engine.AclRuns
import Ratatosk.Engine.ReadRefinement

/-!
# Batches of reads

`try_run_readonly_batch` of `ratatosk-server/src/client/readonly_batch.rs`. A client may send many
requests at once. If all are reads they are run together: without the lock if the cached policy of
the default user admits every one of them, and else one by one under the lock.

The two flags of the policy are atomics that other connections store to while the batch runs, so
the batch sees a sequence of values, one for each time it looks.

* `Timeline` — what the other connections do before each step of the batch, and the flags that each
  step loads.
* `runLockFree` — the loop that follows it. Each command loads the flags again, and is unwrapped.
* `tryRunReadonlyBatch` — the batch, which ends with outcomes, with the frames it was given, or in
  a panic.

Main result: `batch_returns_iff`. A batch ends without a panic exactly if the flags that its loop
loads still admit it, whenever those that its check has loaded did.

The statistics, the slow log and the tracking of keys after a batch are left open (`BatchEnv`).
-/

namespace Ratatosk.Engine

open Lib Resp List Option Bool

variable {σ κ : Type}

/-! ## Requests -/

/-- Source: `shared_support.rs` `frame_to_argv_for_persistence` -/
def frameToArgvForPersistence : RespFrame → Option (List Bytes)
  | .array items => items.mapM fun
      | .bulkString (some value) => some value
      | .simpleString value => some value
      | .integer value => some (decimalInt value.toInt)
      | _ => none
  | _ => none

/-- The request of a frame, if it may be one of a batch.
Source: `readonly_batch.rs` `try_run_readonly_batch` -/
def batchRequest (frame : RespFrame) : Option Request :=
  match frameToArgvForPersistence frame with
  | some (name :: args) =>
    let r : Request := ⟨name, args⟩
    if isWriteCommand r.argv || !isReadonlyBatchCommand r.command then none else some r
  | _ => none

/-- The requests of a batch.
Source: `readonly_batch.rs` `try_run_readonly_batch` -/
def batchRequests (enabled : Bool) (frames : List RespFrame) : Option (List Request) :=
  if !enabled || frames.length < 2 then none else frames.mapM batchRequest

lemma length_mapM_batchRequest {frames : List RespFrame} {requests : List Request}
    (h : frames.mapM batchRequest = some requests) : requests.length = frames.length := by
  induction frames generalizing requests with
  | nil =>
    rw [mapM_nil] at h
    cases h
    rfl
  | cons frame rest ih =>
    rw [mapM_cons] at h
    obtain ⟨r, -, hrest⟩ := bind_eq_some_iff.mp h
    obtain ⟨requests', hmap, heq⟩ := bind_eq_some_iff.mp hrest
    cases heq
    exact congrArg Nat.succ (ih hmap)

lemma length_batchRequests {enabled : Bool} {frames : List RespFrame} {requests : List Request}
    (h : batchRequests enabled frames = some requests) : requests.length = frames.length := by
  rw [batchRequests, ite_none_left_eq_some] at h
  exact length_mapM_batchRequest h.2

/-! ## The flags over time -/

/-- What happens around a batch, step by step. A step is one load of the policy or one command under
a lock. -/
structure Timeline (σ : Type) where
  /-- The flags that the step finds. -/
  policy : Nat → DefaultAclPolicy
  /-- What the other connections have done since the step before. -/
  others : Nat → ServerState σ → ServerState σ
  now : Nat → Int64
  reads : Nat → ReadEnv

/-- The flags in the order in which the check loads them. -/
def Timeline.checkFlags (t : Timeline σ) (n : Nat) : DefaultAclPolicy :=
  ⟨(t.policy (n + 1)).defaultUserIsNopassEnabled, (t.policy n).defaultUserHasFullAccess⟩

/-- The flags in the order in which a command of the loop loads them. -/
def Timeline.runFlags (t : Timeline σ) (n : Nat) : DefaultAclPolicy :=
  ⟨(t.policy n).defaultUserIsNopassEnabled, (t.policy (n + 1)).defaultUserHasFullAccess⟩

/-! ## The batch -/

/-- The parts of a batch that are not modelled. -/
structure BatchEnv (σ κ : Type) where
  /-- `readonly_batch_enabled`. -/
  enabled : Bool
  /-- The statistics of a command and what the client's record says of it. -/
  note : Request → RespFrame → σ → κ → σ × κ
  /-- `apply_post_execute_side_effects`, for all commands of a batch without the lock. -/
  finish : List Request → List CommandOutcome → ServerState σ → Client κ →
    ServerState σ × Client κ

/-- How a batch ends. -/
inductive BatchResult (σ κ : Type) where
  | outcomes (outcomes : List CommandOutcome) (server : ServerState σ) (client : Client κ)
  | frames (frames : List RespFrame)
  | panicked

/-- The request asks about health, which needs the lock. -/
def asksHealth (r : Request) : Bool :=
  r.command == ascii "PING" &&
    match r.args with
    | [message] => eqIgnoreCase message "HEALTH"
    | _ => false

/-- Source: `readonly_batch.rs` `can_execute_lock_free_fast_command` -/
def canExecuteLockFree (policy : DefaultAclPolicy) (r : Request) (session : Session κ) : Bool :=
  if session.tx.inMulti then false
  else if !lockFreeFastCommands.contains r.command then false
  else if asksHealth r then false
  else if !session.authenticated then
    policy.defaultUserIsNopassEnabled && policy.defaultUserHasFullAccess
  else session.aclUser == defaultName && policy.defaultUserHasFullAccess

section batch

variable (b : Backend σ κ) (env : BatchEnv σ κ) (t : Timeline σ)

/-- The check of a batch, from step `n` on.
Source: `readonly_batch.rs` `try_run_readonly_batch` -/
def allEligible (session : Session κ) (n : Nat) : List Request → Bool
  | [] => true
  | r :: rest =>
    canExecuteLockFree (t.checkFlags n) r session && allEligible session (n + 2) rest

/-- The loop without the lock, from step `n` on; none if it panics.
Source: `readonly_batch.rs` `try_run_readonly_batch` -/
def runLockFree (n : Nat) : List Request → ServerState σ → Session κ →
    Option (List CommandOutcome × ServerState σ × Session κ)
  | [], server, session => some ([], server, session)
  | r :: rest, server, session =>
    let server := t.others (n + 2) server
    match tryExecuteLockFree b (t.reads (n + 2)) env.note r (t.now (n + 2)) (t.runFlags n)
        server.store session with
    | none => none
    | some (store, session, outcome) =>
      (runLockFree (n + 3) rest { server with store := store } session).map
        fun (outcomes, after) => (outcome :: outcomes, after)

/-- The loop under the lock, from step `n` on.
Source: `readonly_batch.rs` `try_run_readonly_batch` -/
def runLocked (n : Nat) : List Request → ServerState σ → Client κ →
    List CommandOutcome × ServerState σ × Client κ
  | [], server, client => ([], server, client)
  | r :: rest, server, client =>
    match precheckExecuteArgv (t.policy n) r client.session with
    | (session, some text) =>
      let (outcomes, after) := runLocked (n + 2) rest server { client with session := session }
      (b.fail text :: outcomes, after)
    | (session, none) =>
      let (conn, outcome) := executeCached b (t.policy (n + 1)) r (t.now (n + 1))
        ⟨t.others (n + 1) server, { client with session := session }⟩
      let (outcomes, after) := runLocked (n + 2) rest conn.server conn.client
      (outcome :: outcomes, after)

/-- Source: `readonly_batch.rs` `try_run_readonly_batch` -/
def tryRunReadonlyBatch (frames : List RespFrame) (server : ServerState σ) (client : Client κ) :
    BatchResult σ κ :=
  match batchRequests env.enabled frames with
  | none => .frames frames
  | some requests =>
    let start := 2 * requests.length
    if allEligible t client.session 0 requests then
      match runLockFree b env t start requests server client.session with
      | none => .panicked
      | some (outcomes, server, session) =>
        let (server, client) := env.finish requests outcomes server
          { client with session := session }
        .outcomes outcomes server client
    else
      let (outcomes, server, client) := runLocked b t start requests server client
      .outcomes outcomes server client

end batch

/-! ## When a batch returns -/

/-- The batch ends with one outcome for each frame, or with the frames. -/
def BatchResult.Returns (frames : List RespFrame) (result : BatchResult σ κ) : Prop :=
  (∃ outcomes server client, result = .outcomes outcomes server client ∧
    outcomes.length = frames.length) ∨ result = .frames frames

/-- From step `n` on, the flags that a loop of `count` commands loads admit the client: the default
user has full access each time, and no password if the client has yet to be authenticated. -/
def AdmittedThroughout (t : Timeline σ) (session : Session κ) (n count : Nat) : Prop :=
  (session.authenticated = false → 0 < count → (t.policy n).defaultUserIsNopassEnabled = true) ∧
    ∀ i < count, (t.policy (n + 3 * i + 1)).defaultUserHasFullAccess = true

/-- What the check leaves of a client and a request once the flags are set aside. -/
structure Eligible (r : Request) (session : Session κ) : Prop where
  notInMulti : session.tx.inMulti = false
  fast : lockFreeFastCommands.contains r.command = true
  notHealth : asksHealth r = false
  isDefault : session.authenticated = true → session.aclUser = defaultName

section steps

variable {t : Timeline σ}
variable {r : Request} {session : Session κ}

lemma eligible_of_canExecuteLockFree {policy : DefaultAclPolicy}
    (h : canExecuteLockFree policy r session = true) : Eligible r session := by
  unfold canExecuteLockFree at h
  split_ifs at h with hmulti hfast hhealth hauth
  · exact ⟨by simpa using hmulti, by simpa using hfast, by simpa using hhealth,
      fun h' => by rw [h'] at hauth; cases hauth⟩
  · rw [and_eq_true, beq_iff_eq] at h
    exact ⟨by simpa using hmulti, by simpa using hfast, by simpa using hhealth, fun _ => h.1⟩

lemma eligible_of_allEligible {requests : List Request} {n : Nat}
    (h : allEligible t session n requests = true) : ∀ r ∈ requests, Eligible r session := by
  induction requests generalizing n with
  | nil => exact fun r hr => absurd hr not_mem_nil
  | cons r rest ih =>
    rw [allEligible, and_eq_true] at h
    exact forall_mem_cons.mpr ⟨eligible_of_canExecuteLockFree h.1, ih h.2⟩

/-- The names of the check are those of the loop. -/
lemma exists_lookup_of_fast {name : Bytes} (h : lockFreeFastCommands.contains name = true) :
    ∃ command, readCommands.lookup name = some command ∧
      (command = .ping → name = ascii "PING") := by
  have htable : ∀ name ∈ lockFreeFastCommands, (readCommands.lookup name).any (fun command =>
      decide (command = .ping → name = ascii "PING")) = true := by decide +kernel
  have hany := htable name (contains_iff_mem.mp h)
  rw [Option.any_eq_true] at hany
  obtain ⟨command, hlookup, hping⟩ := hany
  exact ⟨command, hlookup, of_decide_eq_true hping⟩

/-- Only a question about health has no answer without the lock. -/
lemma exists_lockFree (h : Eligible r session) (env : ReadEnv) (now : Int64) :
    ∃ command query, readCommands.lookup r.command = some command ∧
      command.lockFree env now r.args = some query := by
  obtain ⟨command, hlookup, hping⟩ := exists_lookup_of_fast h.fast
  refine ⟨command, ?_⟩
  by_cases hcommand : command = .ping
  · have hhealth := h.notHealth
    rw [asksHealth, hping hcommand, beq_self_eq_true, Bool.true_and] at hhealth
    subst hcommand
    cases hargs : r.args with
    | nil => exact ⟨_, hlookup, rfl⟩
    | cons message rest =>
      cases rest with
      | nil =>
        rw [hargs] at hhealth
        exact ⟨_, hlookup, if_neg (by simpa using hhealth)⟩
      | cons _ _ => exact ⟨_, hlookup, rfl⟩
  · cases command with
    | ping => exact absurd rfl hcommand
    | _ => exact ⟨_, hlookup, rfl⟩

/-- Whether the flags admit a client to the path. -/
def Admits (policy : DefaultAclPolicy) (session : Session κ) : Prop :=
  (session.authenticated = false → policy.defaultUserIsNopassEnabled = true) ∧
    policy.defaultUserHasFullAccess = true

/-- The client as a command of the path leaves it. -/
def Session.asDefault (session : Session κ) (rest : κ) : Session κ :=
  { session with authenticated := true, aclUser := defaultName, rest := rest }

/-- An eligible client takes the path exactly if the flags admit it. -/
lemma lockFreeSession_eq (h : Eligible r session) (policy : DefaultAclPolicy)
    [Decidable (Admits policy session)] :
    lockFreeSession policy session = if Admits policy session then
      some (session.asDefault session.rest) else none := by
  have hself (hauth : session.authenticated = true) :
      session.asDefault session.rest = session := by
    rw [Session.asDefault, ← hauth, ← h.isDefault hauth]
  unfold lockFreeSession
  rw [h.notInMulti, if_neg Bool.false_ne_true]
  cases hauth : session.authenticated with
  | false =>
    cases hnopass : policy.defaultUserIsNopassEnabled <;>
      cases hfull : policy.defaultUserHasFullAccess <;>
      simp [Admits, Session.asDefault, hauth, hnopass, hfull]
  | true =>
    cases hfull : policy.defaultUserHasFullAccess <;>
      simp [Admits, hauth, hfull, h.isDefault hauth, hself hauth]

/-- **One command of the loop.** It panics exactly if the flags no longer admit its client, and
leaves an authenticated client that is as eligible as before. -/
lemma tryExecuteLockFree_cases (b : Backend σ κ) (env : ReadEnv)
    (note : Request → RespFrame → σ → κ → σ × κ) (h : Eligible r session) (now : Int64)
    (policy : DefaultAclPolicy) (store : Store σ) :
    (¬ Admits policy session ∧
      tryExecuteLockFree b env note r now policy store session = none) ∨
    Admits policy session ∧ ∃ store' rest outcome,
      tryExecuteLockFree b env note r now policy store session =
        some (store', session.asDefault rest, outcome) := by
  classical
  obtain ⟨command, query, hlookup, hquery⟩ := exists_lockFree h env now
  rw [tryExecuteLockFree, hlookup, lockFreeSession_eq h policy]
  by_cases hadmits : Admits policy session
  · rw [if_pos hadmits]
    dsimp only
    rw [hquery]
    exact .inr ⟨hadmits, _, _, _, rfl⟩
  · rw [if_neg hadmits]
    exact .inl ⟨hadmits, rfl⟩

lemma admittedThroughout_succ (session : Session κ) (rest : κ) (n count : Nat) :
    AdmittedThroughout t session n (count + 1) ↔
      Admits (t.runFlags n) session ∧
        AdmittedThroughout t (session.asDefault rest) (n + 3) count := by
  constructor
  · rintro ⟨hnopass, hfull⟩
    refine ⟨⟨fun hauth => hnopass hauth (Nat.succ_pos _), hfull 0 (Nat.succ_pos _)⟩, nofun, ?_⟩
    intro i hi
    rw [show n + 3 + 3 * i + 1 = n + 3 * (i + 1) + 1 by omega]
    exact hfull (i + 1) (Nat.succ_lt_succ hi)
  · rintro ⟨⟨hnopass, hfirst⟩, -, hfull⟩
    refine ⟨fun hauth _ => hnopass hauth, fun i hi => ?_⟩
    cases i with
    | zero => exact hfirst
    | succ i =>
      rw [show n + 3 * (i + 1) + 1 = n + 3 + 3 * i + 1 by omega]
      exact hfull i (Nat.lt_of_succ_lt_succ hi)

/-- **The loop without the lock.** It ends exactly if the flags admit the client throughout, and
then with one outcome for each request. -/
lemma runLockFree_iff (b : Backend σ κ) (env : BatchEnv σ κ) {requests : List Request}
    (h : ∀ r ∈ requests, Eligible r session) (n : Nat) (server : ServerState σ) :
    AdmittedThroughout t session n requests.length ↔
      ∃ outcomes after, runLockFree b env t n requests server session = some (outcomes, after) ∧
        outcomes.length = requests.length := by
  -- A command leaves the client authenticated, so the later ones do not load the first flag.
  induction requests generalizing n server session with
  | nil =>
    refine iff_of_true ⟨fun _ h => absurd h (lt_irrefl 0), fun i hi => ?_⟩ ⟨[], _, rfl, rfl⟩
    exact absurd hi (Nat.not_lt_zero i)
  | cons r rest ih =>
    have hfirst := h r mem_cons_self
    rw [runLockFree, length_cons]
    dsimp only
    rcases tryExecuteLockFree_cases b (t.reads (n + 2)) env.note hfirst (t.now (n + 2))
        (t.runFlags n) (t.others (n + 2) server).store with
      ⟨hnot, hrun⟩ | ⟨hadmits, store, sessionRest, outcome, hrun⟩
    · rw [hrun]
      refine iff_of_false (fun hall => ?_) nofun
      exact hnot ((admittedThroughout_succ session session.rest n rest.length).mp hall).1
    · rw [hrun, admittedThroughout_succ session sessionRest, and_iff_right hadmits]
      have hrest : ∀ r ∈ rest, Eligible r (session.asDefault sessionRest) := by
        intro r' hr'
        have he := h r' (mem_cons_of_mem _ hr')
        exact ⟨he.notInMulti, he.fast, he.notHealth, fun _ => rfl⟩
      rw [ih hrest (n + 3) { t.others (n + 2) server with store := store }]
      constructor
      · rintro ⟨outcomes, after, hrun', hlength⟩
        refine ⟨outcome :: outcomes, after, ?_, congrArg Nat.succ hlength⟩
        exact congrArg (Option.map fun result => (outcome :: result.1, result.2)) hrun'
      · rintro ⟨outcomes, after, hrun', hlength⟩
        obtain ⟨⟨outcomes', after'⟩, hinner, heq⟩ := map_eq_some_iff.mp hrun'
        cases heq
        exact ⟨outcomes', after', hinner, Nat.succ.inj hlength⟩

lemma length_runLocked (b : Backend σ κ) (requests : List Request) (n : Nat)
    (server : ServerState σ) (client : Client κ) :
    (runLocked b t n requests server client).1.length = requests.length := by
  induction requests generalizing n server client with
  | nil => rfl
  | cons r rest ih =>
    rw [runLocked]
    split
    · exact congrArg Nat.succ (ih _ _ _)
    · exact congrArg Nat.succ (ih _ _ _)

end steps

/-- **When a batch returns.** It ends with one outcome for each frame or with the frames exactly if,
once its check has found every request eligible, the flags that its loop loads still admit the
client each time. Otherwise it panics. -/
theorem batch_returns_iff (b : Backend σ κ) (env : BatchEnv σ κ) (t : Timeline σ)
    (frames : List RespFrame) (server : ServerState σ) (client : Client κ) :
    (tryRunReadonlyBatch b env t frames server client).Returns frames ↔
      ∀ requests, batchRequests env.enabled frames = some requests →
        allEligible t client.session 0 requests = true →
        AdmittedThroughout t client.session (2 * requests.length) requests.length := by
  unfold tryRunReadonlyBatch
  cases hrequests : batchRequests env.enabled frames with
  | none => exact iff_of_true (.inr rfl) nofun
  | some requests =>
    have hlength := length_batchRequests hrequests
    simp only [Option.some.injEq, forall_eq']
    by_cases heligible : allEligible t client.session 0 requests = true
    · rw [if_pos heligible, imp_iff_right heligible,
        runLockFree_iff b env (eligible_of_allEligible heligible) _ server]
      constructor
      · rintro (⟨outcomes, server', client', hresult, hcount⟩ | hresult)
        · split at hresult
          · cases hresult
          · next outcomes' after hrun =>
              cases hresult
              exact ⟨_, _, hrun, hcount.trans hlength.symm⟩
        · split at hresult <;> cases hresult
      · rintro ⟨outcomes, after, hrun, hcount⟩
        rw [hrun]
        exact .inl ⟨_, _, _, rfl, hcount.trans hlength⟩
    · rw [if_neg heligible]
      refine iff_of_true (.inl ⟨_, _, _, rfl, ?_⟩) fun h => absurd h heligible
      exact (length_runLocked b requests _ server client).trans hlength

/-! ## The default user loses access while a batch runs -/

section revoked

/-- `GET k`, twice. -/
def twoGets : List RespFrame :=
  List.replicate 2 (.array [.bulkString (some (ascii "GET")), .bulkString (some (ascii "k"))])

/-- Batches are enabled, and nothing is kept of what they did. -/
def BatchEnv.plain : BatchEnv Unit Unit where
  enabled := true
  note _ _ _ _ := ((), ())
  finish _ _ server client := (server, client)

/-- `ACL SETUSER default -@all`, as another connection sends it. -/
def revokeDefault (server : ServerState Unit) : ServerState Unit :=
  (cmdAcl AclEnv.toy (ascii "SETUSER" :: defaultName :: [ascii "-@all"]) server
    (Client.new ()).session).1

/-- The call is run, and the flags are refreshed, before the given step. -/
def Timeline.revokedAt (step : Nat) : Timeline Unit where
  policy n := .ofAcl (if n < step then emptyServer else revokeDefault emptyServer).acl
  others n server := if n = step then revokeDefault server else server
  now _ := 0
  reads _ := .byName

/-- **A batch that aborts the server.** The two requests are checked in four steps. The default user
loses its access after them and before the loop. -/
theorem revoked_batch_panics :
    tryRunReadonlyBatch Backend.bare .plain (.revokedAt 4) twoGets emptyServer (.new ()) =
      .panicked := by
  rfl

/-- If the call comes after the batch, there are two outcomes. -/
theorem later_revocation_returns :
    (tryRunReadonlyBatch Backend.bare .plain (.revokedAt 10) twoGets emptyServer
      (.new ())).Returns twoGets := by
  refine (batch_returns_iff Backend.bare .plain (.revokedAt 10) twoGets emptyServer
    (.new ())).mpr ?_
  intro requests hrequests _
  have htwo : requests.length = 2 := length_batchRequests hrequests
  rw [htwo]
  have hfull : (DefaultAclPolicy.ofAcl emptyServer.acl).defaultUserHasFullAccess = true := by
    decide +kernel
  refine ⟨fun _ _ => rfl, fun i hi => ?_⟩
  have hstep : 2 * 2 + 3 * i + 1 < 10 := by omega
  simpa only [Timeline.revokedAt, if_pos hstep] using hfull

end revoked

end Ratatosk.Engine
