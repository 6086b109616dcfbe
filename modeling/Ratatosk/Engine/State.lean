import Ratatosk.Engine.Acl
import Ratatosk.Engine.DataCommands

/-!
# The state a command works on

`ServerState` and `ClientState` of `ratatosk-engine`, as far as the dispatcher reads and writes
them, and what is left open about the rest.

* `Request` — a request with at least its command name; `QueuedRequest` — one that a client in
  a transaction queues.
* `Store` — the server without its access control: databases, the two settings the dispatcher
  reads, and `rest : σ` for everything else. `ServerState` adds the access control state.
* `Session` — what handlers see of a client; `Client` adds the capture of effects, which only
  the dispatcher sees.
* `Backend` — the parts of the engine that are not modelled, as functions. Statistics, key
  versions, client tracking and the handlers of the remaining commands work on `σ` and `κ`. A
  theorem about every `Backend` holds whatever these do.

The default build is modelled, without the Lua scripting feature. A blocking command's request
to be retried is for the event loop and is left out of `CommandOutcome`.
-/

namespace Ratatosk.Engine

open Lib Keyspace Resp

/-! ## Requests -/

/-- A request that is not empty. -/
structure Request where
  name : Bytes
  args : List Bytes
  deriving Repr, DecidableEq

namespace Request

/-- The request as the list of its words. -/
def argv (r : Request) : List Bytes := r.name :: r.args

/-- The name in upper case, by which the dispatcher branches. -/
def command (r : Request) : Bytes := toUppercase r.name

/-- The entry of the command table. -/
def spec (r : Request) : Option CommandSpec := findCommandSpecUpper r.command

end Request

/-- The request of an argument vector. -/
def Request.ofArgv : List Bytes → Option Request
  | [] => none
  | name :: args => some ⟨name, args⟩

/-- A request that a client in a transaction queues. -/
structure QueuedRequest where
  request : Request
  queueable : request.command ∉ transactionCommands

/-! ## Effects -/

/-- Source: `mod.rs` `DurableCommand` -/
structure DurableCommand where
  dbIndex : Fin dbCount
  argv : List Bytes
  deriving Repr, DecidableEq

/-- Source: `mod.rs` `DurabilityEffects` -/
structure DurabilityEffects where
  commands : List DurableCommand
  transaction : Bool
  timestampMs : Int64
  deriving Repr, DecidableEq

/-- Source: `mod.rs` `DurabilityEffects::single` -/
def DurabilityEffects.single (now : Int64) (dbIndex : Fin dbCount) (argv : List Bytes) :
    DurabilityEffects :=
  ⟨[⟨dbIndex, argv⟩], false, now⟩

/-- The commands of what was captured; none if nothing was. -/
def effectCommands (effects : Option DurabilityEffects) : List DurableCommand :=
  (effects.map DurabilityEffects.commands).getD []

/-! ## Client and server -/

/-- Source: `mod.rs` `TransactionState` -/
inductive TransactionState where
  | normal
  | inTransaction (queue : List QueuedRequest) (hasError : Bool)

/-- Source: `mod.rs` `TransactionState::in_multi` -/
def TransactionState.inMulti : TransactionState → Bool
  | .normal => false
  | .inTransaction _ _ => true

lemma TransactionState.eq_normal {tx : TransactionState} (h : ¬ tx.inMulti = true) :
    tx = .normal := by
  cases tx with
  | normal => rfl
  | inTransaction => exact absurd rfl h

/-- What handlers see of a client.
Source: `mod.rs` `ClientState` -/
structure Session (κ : Type) where
  selectedDb : Fin dbCount
  authenticated : Bool
  aclUser : Bytes
  protocolVersion : Int64
  authFailures : Nat
  tx : TransactionState
  /-- The watched keys, with the version each had when it was watched. -/
  watched : HashMap (Fin dbCount × Bytes) UInt64
  /-- How many units that are admitted as a whole are being run. -/
  bypassDepth : Nat
  rest : κ

/-- Source: `mod.rs` `ClientState` -/
structure Client (κ : Type) where
  session : Session κ
  captureEnabled : Bool
  effects : Option DurabilityEffects

/-- The server without its access control.
Source: `keyspace.rs` `ServerState` -/
structure Store (σ : Type) where
  dbs : Databases
  maxmemory : Nat
  strict : Bool
  rest : σ

/-- Source: `keyspace.rs` `ServerState` -/
structure ServerState (σ : Type) where
  store : Store σ
  acl : AclState

/-- Source: `mod.rs` `CommandOutcome` -/
structure CommandOutcome where
  response : RespFrame
  close : Bool
  delayMs : Option Nat
  configDirty : Bool
  aclDirty : Bool

/-- Source: `mod.rs` `CommandOutcome::reply` -/
def CommandOutcome.reply (response : RespFrame) : CommandOutcome :=
  ⟨response, false, none, false, false⟩

/-! ## What is left open -/

/-- The parts of the engine that are not modelled. -/
structure Backend (σ κ : Type) where
  /-- `sanitize_error_message`, and the lossy decoding of bytes in a text. -/
  sanitize : Bytes → Bytes
  /-- The handlers that are not modelled, and the answer to an unknown command. They see the
  store and the session and change the store and the rest of the session. -/
  handler : Request → Int64 → Store σ → Session κ → Store σ × κ × CommandOutcome
  /-- The handler of `ACL`, which also sees and changes the access control state. -/
  aclHandler : List Bytes → Int64 → ServerState σ → Session κ → ServerState σ × κ × CommandOutcome
  /-- What a modelled data command does besides changing the databases: statistics, key
  versions, memory estimates. -/
  noteData : Request → Store σ → Databases → σ
  /-- The order in which `SPOP` takes members. -/
  popOrder : σ → PopOrder
  /-- `mark_command_processed` and `mark_command_metadata`. -/
  noteCommand : Request → σ → κ → σ × κ
  /-- `apply_post_execute_side_effects_with_spec`: slow log, key versions, client tracking. -/
  afterCommand : Request → RespFrame → Store σ → Session κ → σ × κ
  /-- `maxmemory_limit_exceeded`. -/
  memoryLimitExceeded : Store σ → Bool
  /-- Argon2 verification, and the comparison with the stored text. -/
  verifyPasswordHash : Bytes → Bytes → Bool
  /-- `ClientState::peer_ip` is known. -/
  hasPeerIp : κ → Bool
  /-- `AuthRateLimiter::is_blocked` for the client's address. -/
  isBlocked : σ → κ → σ × Bool
  /-- `AuthRateLimiter::record_failure` for the client's address. -/
  recordFailure : σ → κ → σ × Bool
  /-- `auth_failure_delay_ms`, with the jitter drawn. -/
  authFailureDelayMs : σ → Nat → Nat
  /-- The client's name. -/
  setName : κ → Bytes → κ
  clientId : κ → Int64
  /-- `ClientState::reset_for_connection` on the rest of the session. -/
  resetSession : κ → κ
  /-- What `RESET` does to the server: tracking, monitor and subscriptions of the client. -/
  resetServer : σ → κ → σ
  /-- `ServerState::key_version`. -/
  keyVersion : σ → Fin dbCount → Bytes → UInt64
  /-- `DataState::watch_key`. -/
  watchKey : σ → Fin dbCount → Bytes → σ × UInt64
  /-- `DataState::unwatch_key`. -/
  unwatchKey : σ → Fin dbCount → Bytes → σ
  /-- The key version of a key that `WATCH` found expired. -/
  recordModification : σ → Fin dbCount → Bytes → σ
  /-- `adjust_commands_processed_by`. -/
  adjustCommandsProcessed : σ → Nat → σ
  /-- The rest of a new client's session. -/
  newSession : κ

/-- The modelled commands alone: no other command is known, and no other state is kept. -/
def Backend.bare : Backend Unit Unit where
  sanitize := id
  handler r _ store _ :=
    (store, (), .reply (.error (ascii "ERR unknown command '" ++ r.name ++ ascii "'")))
  aclHandler _ _ server _ := (server, (), .reply (.errorStr "ERR unknown command 'acl'"))
  noteData _ _ _ := ()
  popOrder _ := .sorted
  noteCommand _ _ _ := ((), ())
  afterCommand _ _ _ _ := ((), ())
  memoryLimitExceeded _ := false
  verifyPasswordHash stored password := stored == password
  hasPeerIp _ := false
  isBlocked _ _ := ((), false)
  recordFailure _ _ := ((), false)
  authFailureDelayMs _ _ := 0
  setName _ _ := ()
  clientId _ := 0
  resetSession _ := ()
  resetServer _ _ := ()
  keyVersion _ _ _ := 0
  watchKey _ _ _ := ((), 0)
  unwatchKey _ _ _ := ()
  recordModification _ _ _ := ()
  adjustCommandsProcessed _ _ := ()
  newSession := ()

/-- An empty server with the default access control. -/
def emptyServer : ServerState Unit := ⟨⟨fun _ => ∅, 0, false, ()⟩, .default⟩

/-- A client that has just connected.
Source: `mod.rs` `ClientState::new` -/
def Client.new {κ : Type} (rest : κ) : Client κ where
  session :=
    { selectedDb := ⟨0, dbCount_pos⟩
      authenticated := false
      aclUser := defaultName
      protocolVersion := 2
      authFailures := 0
      tx := .normal
      watched := ∅
      bypassDepth := 0
      rest := rest }
  captureEnabled := false
  effects := none

/-- The server and the client that a command works on. -/
structure Conn (σ κ : Type) where
  server : ServerState σ
  client : Client κ

end Ratatosk.Engine
