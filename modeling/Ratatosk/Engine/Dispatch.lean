import Ratatosk.Engine.Capture

/-!
# The dispatcher

`execute_argv_inner` of `ratatosk-engine/src/command/mod.rs`, with the session commands of
`cmd_auth_session.rs`, `cmd_connection_session.rs` and `cmd_transaction.rs`.

* `CommandKind`, `runCommand` — the arms of the dispatch that a queued command can reach.
* `executeWith` — what stands around the dispatch: access control, queueing, the strict-mode
  and memory gates, and the capture of effects.
* `executeQueued` — a queued command, run by `EXEC`; `cmdExec` — the loop over the queue.

A queue holds no transaction command (`QueuedRequest`), so `EXEC` never runs inside `EXEC` and
the two levels need no recursion. `now` is the one clock of the call: a captured command freezes
it, and so does replay.
-/

namespace Ratatosk.Engine

open Lib Keyspace Resp

variable {σ κ : Type}

/-! ## Updates -/

namespace Conn

/-- The connection with another session. -/
def setSession (conn : Conn σ κ) (session : Session κ) : Conn σ κ :=
  { conn with client := { conn.client with session := session } }

/-- The connection with another store. -/
def setStore (conn : Conn σ κ) (store : Store σ) : Conn σ κ :=
  { conn with server := { conn.server with store := store } }

/-- The connection with other effects captured. -/
def setEffects (conn : Conn σ κ) (effects : Option DurabilityEffects) : Conn σ κ :=
  { conn with client := { conn.client with effects := effects } }

/-- The connection with another rest of the server and of the session. -/
def setRest (conn : Conn σ κ) (rest : σ × κ) : Conn σ κ :=
  (conn.setStore { conn.server.store with rest := rest.1 }).setSession
    { conn.client.session with rest := rest.2 }

variable (conn : Conn σ κ)

@[simp] lemma setSession_session (session : Session κ) :
    (conn.setSession session).client.session = session := rfl

@[simp] lemma setSession_effects (session : Session κ) :
    (conn.setSession session).client.effects = conn.client.effects := rfl

@[simp] lemma setStore_client (store : Store σ) : (conn.setStore store).client = conn.client := rfl

@[simp] lemma setRest_captureEnabled (rest : σ × κ) :
    (conn.setRest rest).client.captureEnabled = conn.client.captureEnabled := rfl

end Conn

section session

variable (b : Backend σ κ)

/-- Source: `mod.rs` `err` -/
def Backend.err (text : Bytes) : RespFrame := .error (b.sanitize text)

/-- A reply with an error text. -/
def Backend.fail (text : Bytes) : CommandOutcome := .reply (b.err text)

/-! ## Session commands -/

/-- Source: `cmd_key.rs` `cmd_select` -/
def cmdSelect (args : List Bytes) (conn : Conn σ κ) : Conn σ κ × CommandOutcome :=
  match args with
  | [raw] =>
    match parseUsize raw with
    | none => (conn, b.fail notIntegerText)
    | some index =>
      if h : index < dbCount then
        (conn.setSession { conn.client.session with selectedDb := ⟨index, h⟩ }, .reply .ok)
      else (conn, b.fail (ascii "ERR DB index is out of range"))
  | _ => (conn, b.fail (wrongArityText (ascii "select")))

/-- Source: `cmd_auth_session.rs` `AUTH_FAILURE` -/
def authFailureText : Bytes := ascii "ERR invalid username-password pair or user is disabled."

/-- Source: `cmd_auth_session.rs` `AUTH_FAILURE_THRESHOLD` -/
def authFailureThreshold : Nat := 5

/-- Source: `cmd_auth_session.rs` `auth_failure_outcome` -/
def authFailureOutcome (rest : σ) (failures : Nat) (shouldClose : Bool) : CommandOutcome :=
  { b.fail authFailureText with
    close := shouldClose
    delayMs := some (b.authFailureDelayMs rest failures) }

/-- The outcome of the password check under the limiter of failures per address: the server's
rest, whether the client is authenticated, and whether its address is blocked. -/
def checkPassword (username password : Bytes) (conn : Conn σ κ) : σ × Bool × Bool :=
  let rest := conn.server.store.rest
  let peer := conn.client.session.rest
  let valid := conn.server.acl.authenticateUser b.verifyPasswordHash username password
  if !b.hasPeerIp peer then (rest, valid, false)
  else
    let (rest, blocked) := b.isBlocked rest peer
    if blocked then (rest, false, true)
    else if valid then (rest, true, false)
    else
      let (rest, blocked) := b.recordFailure rest peer
      (rest, false, blocked)

/-- The rejection of an attempt to authenticate; none if it succeeds.
Source: `cmd_auth_session.rs` `authenticate_client` -/
def authenticateClient (username password : Bytes) (conn : Conn σ κ) :
    Conn σ κ × Option CommandOutcome :=
  let session := conn.client.session
  if authFailureThreshold ≤ session.authFailures then
    (conn, some (authFailureOutcome b conn.server.store.rest session.authFailures true))
  else
    let (rest, authenticated, blocked) := checkPassword b username password conn
    let conn := conn.setStore { conn.server.store with rest := rest }
    if authenticated then
      (conn.setSession
        { session with authenticated := true, aclUser := username, authFailures := 0 }, none)
    else
      let failures := min (session.authFailures + 1) (2 ^ 32 - 1)
      (conn.setSession { session with authFailures := failures },
        some (authFailureOutcome b rest failures
          (blocked || authFailureThreshold ≤ failures)))

/-- Source: `cmd_auth_session.rs` `cmd_auth` -/
def cmdAuth (args : List Bytes) (conn : Conn σ κ) : Conn σ κ × CommandOutcome :=
  let attempt (username password : Bytes) : Conn σ κ × CommandOutcome :=
    let (conn, rejection) := authenticateClient b username password conn
    (conn, rejection.getD (.reply .ok))
  match args with
  | [password] => attempt defaultName password
  | [username, password] => attempt username password
  | _ => (conn, b.fail (wrongArityText (ascii "auth")))

/-- Source: `security.rs` `should_reject_shell_metacharacters`, `SHELL_BLOCKLIST` -/
def shellBlocklist : Bytes :=
  [124, 38, 59, 60, 62, 36, 96, 10, 13, 40, 41, 123, 125, 91, 93, 42, 63, 33, 35, 126, 39, 34]

/-- Source: `cmd_client.rs` `validate_client_name` -/
def validateClientName (name : Bytes) : Bool :=
  name.length ≤ 128 && name.all fun c =>
    !(c < 32 || c == 127 || c == 32 || shellBlocklist.contains c)

/-- What the arguments of `HELLO` ask for. -/
structure HelloOptions where
  proto : Int64
  authAttempts : List (Bytes × Bytes)
  clientName : Option Bytes

/-- The loop over the options.
Source: `cmd_connection_session.rs` `cmd_hello` -/
def parseHelloOptions : List Bytes → HelloOptions → Except Bytes HelloOptions
  | [], o => .ok o
  | option :: rest, o =>
    let syntaxError := ascii "ERR Syntax error in HELLO option '" ++ option ++ ascii "'"
    if toUppercase option = ascii "AUTH" then
      match rest with
      | username :: password :: rest =>
        parseHelloOptions rest
          { o with authAttempts := o.authAttempts ++ [(username, password)] }
      | _ => .error syntaxError
    else if toUppercase option = ascii "SETNAME" then
      match rest with
      | name :: rest =>
        if validateClientName name then
          parseHelloOptions rest { o with clientName := some name }
        else .error (ascii "ERR Client name is invalid")
      | [] => .error syntaxError
    else .error syntaxError

/-- The protocol version that the first argument asks for, and the options after it.
Source: `cmd_connection_session.rs` `cmd_hello` -/
def parseHelloVersion (current : Int64) (args : List Bytes) : Except Bytes (Int64 × List Bytes) :=
  match args with
  | [] => .ok (current, [])
  | first :: rest =>
    match parseI64 first with
    | some version =>
      if version ≠ 2 ∧ version ≠ 3 then .error (ascii "NOPROTO unsupported protocol version")
      else .ok (version, rest)
    | none =>
      if toUppercase first ∈ ["AUTH", "SETNAME"].map ascii then .ok (current, first :: rest)
      else .error (ascii "ERR Protocol version is not an integer or out of range")

/-- The reply of `HELLO`. -/
def helloReply (proto id : Int64) : RespFrame :=
  .map
    [(.bulkStr "server", .bulkStr "ratatosk"),
      (.bulkStr "version", .bulkStr "0.1.0"),
      (.bulkStr "proto", .integer proto),
      (.bulkStr "id", .integer id),
      (.bulkStr "mode", .bulkStr "standalone"),
      (.bulkStr "role", .bulkStr "master"),
      (.bulkStr "modules", .array [])]

/-- The attempts of `HELLO` to authenticate, up to the first that fails. -/
def authenticateAll : List (Bytes × Bytes) → Conn σ κ → Conn σ κ × Option CommandOutcome
  | [], conn => (conn, none)
  | (username, password) :: attempts, conn =>
    match authenticateClient b username password conn with
    | (conn, none) => authenticateAll attempts conn
    | (conn, some rejection) => (conn, some rejection)

/-- The end of `HELLO`, after its attempts to authenticate. -/
def finishHello (o : HelloOptions) (conn : Conn σ κ) : Conn σ κ × CommandOutcome :=
  let session := conn.client.session
  if !session.authenticated then
    (conn, b.fail (ascii "NOAUTH HELLO must be called with the client already authenticated"))
  else
    (conn.setSession
      { session with
        protocolVersion := o.proto
        rest := o.clientName.elim session.rest (b.setName session.rest) },
      .reply (helloReply o.proto (b.clientId session.rest)))

/-- Source: `cmd_connection_session.rs` `cmd_hello` -/
def cmdHello (args : List Bytes) (conn : Conn σ κ) : Conn σ κ × CommandOutcome :=
  let options := do
    let (proto, rest) ← parseHelloVersion conn.client.session.protocolVersion args
    parseHelloOptions rest ⟨proto, [], none⟩
  match options with
  | .error text => (conn, b.fail text)
  | .ok o =>
    match authenticateAll b o.authAttempts conn with
    | (conn, some rejection) => (conn, rejection)
    | (conn, none) => finishHello b o conn

/-- Source: `mod.rs` `ClientState::release_watches` -/
def releaseWatches (conn : Conn σ κ) : Conn σ κ :=
  let store := conn.server.store
  let session := conn.client.session
  (conn.setStore
    { store with
      rest := session.watched.keys.foldl (fun rest key => b.unwatchKey rest key.1 key.2)
        store.rest }).setSession { session with watched := ∅ }

/-- Source: `mod.rs` `ClientState::reset_for_connection` -/
def resetForConnection (client : Client κ) : Client κ :=
  let fresh : Client κ := .new (b.resetSession client.session.rest)
  { fresh with
    session :=
      { fresh.session with
        authFailures := client.session.authFailures
        bypassDepth := client.session.bypassDepth } }

/-- Source: `cmd_auth_session.rs` `cmd_reset` -/
def cmdReset (args : List Bytes) (conn : Conn σ κ) : Conn σ κ × CommandOutcome :=
  if args ≠ [] then (conn, b.fail (wrongArityText (ascii "reset")))
  else
    let conn := releaseWatches b
      (conn.setStore { conn.server.store with
        rest := b.resetServer conn.server.store.rest conn.client.session.rest })
    ({ conn with client := resetForConnection b conn.client }, .reply (.simpleStr "RESET"))

/-- Source: `cmd_connection_session.rs` `cmd_quit` -/
def cmdQuit (conn : Conn σ κ) : Conn σ κ × CommandOutcome :=
  (conn, { CommandOutcome.reply .ok with close := true })

/-! ## The arms of the dispatch -/

/-- The data commands that are modelled. -/
inductive DataCommand where
  | set | get | setex | psetex | getex | expire | pexpire | expireat | pexpireat | del | unlink
  | srem | spop | xadd
  deriving Repr, DecidableEq

/-- The handler of a data command.
Source: `mod.rs` `execute_argv_inner` -/
def DataCommand.run (err : Bytes → RespFrame) (order : PopOrder) :
    DataCommand → List Bytes → Int64 → Db → Db × RespFrame
  | .set => cmdSet err
  | .get => cmdGet err
  | .setex => cmdSetexWithMode err .relativeSeconds "setex"
  | .psetex => cmdSetexWithMode err .relativeMilliseconds "psetex"
  | .getex => cmdGetex err
  | .expire => cmdExpireWithMode err .relativeSeconds "expire"
  | .pexpire => cmdExpireWithMode err .relativeMilliseconds "pexpire"
  | .expireat => cmdExpireWithMode err .absoluteSeconds "expireat"
  | .pexpireat => cmdExpireWithMode err .absoluteMilliseconds "pexpireat"
  | .del => cmdDeleteLike err "del"
  | .unlink => cmdDeleteLike err "unlink"
  | .srem => cmdSrem err
  | .spop => cmdSpop err order
  | .xadd => cmdXadd err

/-- Which arm of the dispatch a command takes. -/
inductive CommandKind where
  | select | auth | hello | reset | quit | acl | swapdb
  | data (command : DataCommand)
  | other
  deriving Repr, DecidableEq

/-- The arms by name. -/
def commandKinds : List (Bytes × CommandKind) :=
  [(ascii "SELECT", .select), (ascii "AUTH", .auth), (ascii "HELLO", .hello),
    (ascii "RESET", .reset), (ascii "QUIT", .quit), (ascii "ACL", .acl),
    (ascii "SWAPDB", .swapdb), (ascii "SET", .data .set), (ascii "GET", .data .get),
    (ascii "SETEX", .data .setex), (ascii "PSETEX", .data .psetex),
    (ascii "GETEX", .data .getex), (ascii "EXPIRE", .data .expire),
    (ascii "PEXPIRE", .data .pexpire), (ascii "EXPIREAT", .data .expireat),
    (ascii "PEXPIREAT", .data .pexpireat), (ascii "DEL", .data .del),
    (ascii "UNLINK", .data .unlink), (ascii "SREM", .data .srem), (ascii "SPOP", .data .spop),
    (ascii "XADD", .data .xadd)]

/-- The arm of a command. -/
def commandKind (command : Bytes) : CommandKind := (commandKinds.lookup command).getD .other

/-- A modelled data command, on the selected database. -/
def runData (command : DataCommand) (r : Request) (now : Int64) (conn : Conn σ κ) :
    Conn σ κ × CommandOutcome :=
  let store := conn.server.store
  let index := conn.client.session.selectedDb
  let (db, response) := command.run b.err (b.popOrder store.rest) r.args now (store.dbs index)
  let dbs := Function.update store.dbs index db
  (conn.setStore { store with dbs := dbs, rest := b.noteData r store dbs }, .reply response)

/-- `SWAPDB`. -/
def runSwapdb (r : Request) (conn : Conn σ κ) : Conn σ κ × CommandOutcome :=
  let store := conn.server.store
  let (dbs, response) := cmdSwapdb b.err r.args store.dbs
  (conn.setStore { store with dbs := dbs, rest := b.noteData r store dbs }, .reply response)

/-- The arms of the dispatch, the transaction commands apart.
Source: `mod.rs` `execute_argv_inner` -/
def runCommand (r : Request) (now : Int64) (conn : Conn σ κ) : Conn σ κ × CommandOutcome :=
  let session := conn.client.session
  match commandKind r.command with
  | .select => cmdSelect b r.args conn
  | .auth => cmdAuth b r.args conn
  | .hello => cmdHello b r.args conn
  | .reset => cmdReset b r.args conn
  | .quit => cmdQuit conn
  | .acl =>
    let (server, rest, outcome) := b.aclHandler r.args now conn.server session
    ({ conn with server := server }.setSession { session with rest := rest }, outcome)
  | .swapdb => runSwapdb b r conn
  | .data command => runData b command r now conn
  | .other =>
    let (store, rest, outcome) := b.handler r now conn.server.store session
    ((conn.setStore store).setSession { session with rest := rest }, outcome)

end session

/-! ## Around the dispatch -/

section execute

variable (b : Backend σ κ)

/-- A client that has not authenticated becomes the default user if that needs no password.
Source: `mod.rs` `execute_argv_inner` -/
def authenticateDefault (acl : AclState) (session : Session κ) : Session κ :=
  if !session.authenticated && acl.defaultUserIsNopassEnabled then
    { session with authenticated := true, aclUser := defaultName }
  else session

/-- The text of a refusal by access control.
Source: `mod.rs` `execute_argv_inner` -/
def accessError (acl : AclState) (session : Session κ) (r : Request) : Option Bytes :=
  let allowWithoutAuth := allowsExecuteWithoutAuth r.command r.spec
  if !session.authenticated && !allowWithoutAuth then
    some (ascii "NOAUTH Authentication required.")
  else if session.authenticated && !allowWithoutAuth &&
      !(session.aclUser == defaultName && acl.defaultUserHasFullAccess) then
    r.spec.bind fun spec =>
      if acl.commandAllowedMask session.aclUser (aclRequiredCategories spec) then none
      else some (ascii "NOPERM this user has no permissions to run the command")
  else none

/-- Source: `mod.rs` `should_reject_for_maxmemory` -/
def shouldRejectForMaxmemory (r : Request) (store : Store σ) (session : Session κ) : Bool :=
  store.maxmemory != 0 && session.bypassDepth == 0 && commandMayGrowMemory r.argv r.spec &&
    b.memoryLimitExceeded store

/-- Source: `mod.rs` `maxmemory_oom_error` -/
def maxmemoryOomText : Bytes := ascii "OOM command not allowed when used memory > 'maxmemory'"

/-- The text of a refusal to queue a command.
Source: `mod.rs` `validate_queued_command` -/
def validateQueuedCommand (acl : AclState) (session : Session κ) (r : Request) : Option Bytes :=
  match findCommandSpec r.name with
  | none => some (ascii "ERR unknown command '" ++ r.name ++ ascii "'")
  | some spec =>
    if !commandArityMatches spec.arity r.argv.length then
      some (wrongArityText (toLowercase spec.name))
    else if !spec.flags.contains .noAuth &&
        !acl.commandAllowedMask session.aclUser (aclRequiredCategories spec) then
      some (ascii "NOPERM this user has no permissions to run the command")
    else none

/-- Source: `mod.rs` `MAX_TX_QUEUE_SIZE` -/
def maxTxQueueSize : Nat := 65536

/-- Source: `mod.rs` `execute_argv_inner`, the branch of a client in a transaction -/
def queueCommand (q : QueuedRequest) (queue : List QueuedRequest) (hasError : Bool)
    (conn : Conn σ κ) : Conn σ κ × CommandOutcome :=
  let session := conn.client.session
  let refuse (text : Bytes) : Conn σ κ × CommandOutcome :=
    (conn.setSession { session with tx := .inTransaction queue true }, b.fail text)
  match validateQueuedCommand conn.server.acl session q.request with
  | some text => refuse text
  | none =>
    if shouldRejectForMaxmemory b q.request conn.server.store session then
      refuse maxmemoryOomText
    else if maxTxQueueSize ≤ queue.length then
      refuse (ascii "ERR transaction queue limit reached")
    else
      (conn.setSession { session with tx := .inTransaction (queue ++ [q]) hasError },
        .reply .queued)

/-- The text of a refusal by the strict-mode or the memory gate.
Source: `mod.rs` `execute_argv_inner` -/
def gateError (r : Request) (store : Store σ) (session : Session κ) : Option Bytes :=
  match if store.strict then strictModeError r.argv else none with
  | some text => some text
  | none =>
    if store.maxmemory != 0 &&
        (r.spec.any fun spec => commandArityMatches spec.arity r.argv.length) &&
        shouldRejectForMaxmemory b r store session then
      some maxmemoryOomText
    else none

/-- What follows the dispatch: bookkeeping, and the capture of effects.
Source: `mod.rs` `execute_argv_inner` -/
def finishCommand (r : Request) (dbBefore : Fin dbCount) (now : Int64)
    (result : Conn σ κ × CommandOutcome) : Conn σ κ × CommandOutcome :=
  let (conn, outcome) := result
  let conn := conn.setRest
    (b.afterCommand r outcome.response conn.server.store conn.client.session)
  if conn.client.captureEnabled && r.command != ascii "EXEC" then
    (conn.setEffects (captureDurabilityEffects r conn.server.store.dbs dbBefore now
      outcome.response), outcome)
  else (conn, outcome)

/-- A command that got past access control.
Source: `mod.rs` `execute_argv_inner` -/
def admitted (dispatch : Request → Int64 → Conn σ κ → Conn σ κ × CommandOutcome) (r : Request)
    (dbBefore : Fin dbCount) (now : Int64) (conn : Conn σ κ) : Conn σ κ × CommandOutcome :=
  let proceed : Conn σ κ × CommandOutcome :=
    match gateError b r conn.server.store conn.client.session with
    | some text => (conn, b.fail text)
    | none => finishCommand b r dbBefore now (dispatch r now conn)
  match conn.client.session.tx with
  | .normal => proceed
  | .inTransaction queue hasError =>
    if h : r.command ∈ transactionCommands then proceed
    else queueCommand b ⟨r, h⟩ queue hasError conn

/-- The connection as a command enters: nothing captured, and the default user if that needs no
password. -/
def enter (conn : Conn σ κ) : Conn σ κ :=
  (conn.setEffects none).setSession (authenticateDefault conn.server.acl conn.client.session)

/-- Source: `mod.rs` `ServerAccess::mark_command_processed`, `ClientState::mark_command_metadata` -/
def noteCommand (r : Request) (conn : Conn σ κ) : Conn σ κ :=
  conn.setRest (b.noteCommand r conn.server.store.rest conn.client.session.rest)

/-- Source: `mod.rs` `execute_argv_inner` -/
def executeWith (dispatch : Request → Int64 → Conn σ κ → Conn σ κ × CommandOutcome) (r : Request)
    (now : Int64) (conn : Conn σ κ) : Conn σ κ × CommandOutcome :=
  let entered := enter conn
  match accessError entered.server.acl entered.client.session r with
  | some text => (entered, b.fail text)
  | none => admitted b dispatch r conn.client.session.selectedDb now (noteCommand b r entered)

/-- A queued command, run by `EXEC`. -/
def executeQueued (q : QueuedRequest) (now : Int64) (conn : Conn σ κ) :
    Conn σ κ × CommandOutcome :=
  executeWith b (runCommand b) q.request now conn

/-! ## Transactions -/

/-- Source: `cmd_transaction.rs` `cmd_multi` -/
def cmdMulti (args : List Bytes) (conn : Conn σ κ) : Conn σ κ × CommandOutcome :=
  let session := conn.client.session
  if args ≠ [] then (conn, b.fail (wrongArityText (ascii "multi")))
  else if session.tx.inMulti then (conn, b.fail (ascii "ERR MULTI calls can not be nested"))
  else (conn.setSession { session with tx := .inTransaction [] false }, .reply .ok)

/-- The state of the loop over a queue. -/
structure ExecState (σ κ : Type) where
  conn : Conn σ κ
  replies : List RespFrame
  /-- The version that the replies from `segmentStart` on are in. -/
  replyProtocol : Int64
  segmentStart : Nat
  durableCommands : List DurableCommand
  executedCount : Nat
  outcome : CommandOutcome

/-- Fixes the version of the replies of a completed segment. -/
def closeSegment (replies : List RespFrame) (segmentStart : Nat) (version : Int64) :
    List RespFrame :=
  replies.take segmentStart ++ (replies.drop segmentStart).map (.versioned version)

/-- One round of the loop: runs a queued command and gathers its effects.
Source: `cmd_transaction.rs` `cmd_exec` -/
def execStep (now : Int64) (st : ExecState σ κ) (q : QueuedRequest) : ExecState σ κ :=
  let (conn, outcome) := executeQueued b q now st.conn
  let version := conn.client.session.protocolVersion
  let switched := version != st.replyProtocol
  { conn := conn.setEffects none
    replies :=
      (if switched then closeSegment st.replies st.segmentStart st.replyProtocol
        else st.replies) ++ [outcome.response]
    replyProtocol := version
    segmentStart := if switched then st.replies.length else st.segmentStart
    durableCommands := st.durableCommands ++ effectCommands conn.client.effects
    executedCount := st.executedCount + 1
    outcome :=
      { st.outcome with
        close := st.outcome.close || outcome.close
        delayMs := match outcome.delayMs with
          | some delay => some (min (st.outcome.delayMs.getD 0 + delay) (2 ^ 64 - 1))
          | none => st.outcome.delayMs
        configDirty := st.outcome.configDirty || outcome.configDirty
        aclDirty := st.outcome.aclDirty || outcome.aclDirty } }

/-- The loop, left early once a command closes the connection.
Source: `cmd_transaction.rs` `cmd_exec` -/
def execLoop (now : Int64) : List QueuedRequest → ExecState σ κ → ExecState σ κ
  | [], st => st
  | q :: queue, st =>
    let st := execStep b now st q
    if st.outcome.close then st else execLoop now queue st

/-- A watched key changed, or has expired.
Source: `cmd_transaction.rs` `cmd_exec` -/
def watchedDirty (now : Int64) (store : Store σ) (session : Session κ) : Bool :=
  session.watched.entries.any fun watch =>
    b.keyVersion store.rest watch.1.1 watch.1.2 != watch.2 ||
      isExpired (store.dbs watch.1.1) watch.1.2 now

/-- The connection that the queued commands start from: out of the transaction, with memory
admitted for all of them. -/
def execStart (conn : Conn σ κ) : Conn σ κ :=
  conn.setSession
    { conn.client.session with bypassDepth := conn.client.session.bypassDepth + 1 }

/-- The part of `EXEC` that runs the queue.
Source: `cmd_transaction.rs` `cmd_exec` -/
def runQueue (now : Int64) (queue : List QueuedRequest) (conn : Conn σ κ) :
    Conn σ κ × CommandOutcome :=
  let start := execStart conn
  let st := execLoop b now queue
    { conn := start
      replies := []
      replyProtocol := start.client.session.protocolVersion
      segmentStart := 0
      durableCommands := []
      executedCount := 0
      outcome := .reply .null }
  let session := st.conn.client.session
  let store := st.conn.server.store
  let conn := (st.conn.setSession { session with bypassDepth := session.bypassDepth - 1 }).setStore
    { store with rest := b.adjustCommandsProcessed store.rest st.executedCount }
  (if st.durableCommands = [] then conn
    else conn.setEffects (some ⟨st.durableCommands, true, now⟩),
    { st.outcome with response := .array st.replies })

/-- The connection out of its transaction, with nothing watched. -/
def leaveMulti (conn : Conn σ κ) : Conn σ κ :=
  releaseWatches b (conn.setSession { conn.client.session with tx := .normal })

/-- Source: `cmd_transaction.rs` `cmd_exec` -/
def cmdExec (args : List Bytes) (now : Int64) (conn : Conn σ κ) : Conn σ κ × CommandOutcome :=
  let store := conn.server.store
  let session := conn.client.session
  if args ≠ [] then (conn, b.fail (wrongArityText (ascii "exec")))
  else match session.tx with
    | .normal => (conn, b.fail (ascii "ERR EXEC without MULTI"))
    | .inTransaction _ true =>
      (leaveMulti b conn,
        b.fail (ascii "EXECABORT Transaction discarded because of previous errors."))
    | .inTransaction queue false =>
      let dirty := watchedDirty b now store session
      let conn := leaveMulti b conn
      if dirty then (conn, .reply .nullArray)
      else if store.maxmemory != 0 && session.bypassDepth == 0 &&
          (queue.any fun q => commandMayGrowMemory q.request.argv q.request.spec) &&
          b.memoryLimitExceeded conn.server.store then
        (conn, b.fail maxmemoryOomText)
      else runQueue b now queue conn

/-- Source: `cmd_transaction.rs` `cmd_discard` -/
def cmdDiscard (args : List Bytes) (conn : Conn σ κ) : Conn σ κ × CommandOutcome :=
  if args ≠ [] then (conn, b.fail (wrongArityText (ascii "discard")))
  else if !conn.client.session.tx.inMulti then (conn, b.fail (ascii "ERR DISCARD without MULTI"))
  else (leaveMulti b conn, .reply .ok)

/-- `WATCH` drops a key that has expired. -/
def purgeWatched (now : Int64) (index : Fin dbCount) (store : Store σ) (key : Bytes) : Store σ :=
  if isExpired (store.dbs index) key now then
    { store with
      dbs := Function.update store.dbs index ((store.dbs index).erase key)
      rest := b.recordModification store.rest index key }
  else store

/-- `WATCH` registers a key that is not watched yet. -/
def watchOne (index : Fin dbCount) (conn : Conn σ κ) (key : Bytes) : Conn σ κ :=
  let store := conn.server.store
  let session := conn.client.session
  if (session.watched.lookup (index, key)).isSome then conn
  else
    let (rest, version) := b.watchKey store.rest index key
    (conn.setStore { store with rest := rest }).setSession
      { session with watched := session.watched.insert (index, key) version }

/-- Source: `cmd_transaction.rs` `cmd_watch` -/
def cmdWatch (args : List Bytes) (now : Int64) (conn : Conn σ κ) : Conn σ κ × CommandOutcome :=
  let session := conn.client.session
  if args = [] then (conn, b.fail (wrongArityText (ascii "watch")))
  else if session.tx.inMulti then (conn, b.fail (ascii "ERR WATCH inside MULTI is not allowed"))
  else
    let store := args.foldl (purgeWatched b now session.selectedDb) conn.server.store
    (args.foldl (watchOne b session.selectedDb) (conn.setStore store), .reply .ok)

/-- Source: `cmd_transaction.rs` `cmd_unwatch` -/
def cmdUnwatch (args : List Bytes) (conn : Conn σ κ) : Conn σ κ × CommandOutcome :=
  if args ≠ [] then (conn, b.fail (wrongArityText (ascii "unwatch")))
  else (releaseWatches b conn, .reply .ok)

/-! ## Requests from a client -/

/-- The dispatch of a request from a client, with the transaction commands.
Source: `mod.rs` `execute_argv_inner` -/
def dispatchCommand (r : Request) (now : Int64) (conn : Conn σ κ) : Conn σ κ × CommandOutcome :=
  if r.command = ascii "MULTI" then cmdMulti b r.args conn
  else if r.command = ascii "EXEC" then cmdExec b r.args now conn
  else if r.command = ascii "DISCARD" then cmdDiscard b r.args conn
  else if r.command = ascii "WATCH" then cmdWatch b r.args now conn
  else if r.command = ascii "UNWATCH" then cmdUnwatch b r.args conn
  else runCommand b r now conn

/-- Source: `mod.rs` `execute_argv` -/
def executeArgv (r : Request) (now : Int64) (conn : Conn σ κ) : Conn σ κ × CommandOutcome :=
  executeWith b (dispatchCommand b) r now conn

/-- One word of a request.
Source: `mod.rs` `frame_to_argv` -/
def frameToWord : RespFrame → Except Bytes Bytes
  | .bulkString (some value) => .ok value
  | .simpleString value => .ok value
  | .integer value => .ok (decimalInt value.toInt)
  | .bulkString none => .error (ascii "ERR protocol error: null bulk command argument")
  | _ => .error (ascii "ERR protocol error: unsupported command argument type")

/-- Source: `mod.rs` `frame_to_argv` -/
def frameToArgv : RespFrame → Except Bytes (List Bytes)
  | .array items => items.mapM frameToWord
  | _ => .error (ascii "ERR protocol error: expected array command frame")

/-- Source: `mod.rs` `execute` -/
def execute (frame : RespFrame) (now : Int64) (conn : Conn σ κ) : Conn σ κ × CommandOutcome :=
  match frameToArgv frame with
  | .error text => (conn.setEffects none, b.fail text)
  | .ok [] => (conn.setEffects none, b.fail (ascii "ERR empty command"))
  | .ok (name :: args) => executeArgv b ⟨name, args⟩ now conn

end execute

end Ratatosk.Engine
