import Ratatosk.Engine.Readers

/-!
# Users that may only read

The gate of `execute_argv_inner` against the handlers behind it: what a client does that is
authenticated as a user without the categories `write` and `admin`.

* `Request.Unflagged` — the command has neither flag. The gate lets such a user through to no other
  command (`unflagged_of_accessErrorCached`, `unflagged_of_validateQueuedCommand`), unless the cache
  says that the default user has full access.
* `Harmless` — what an unflagged command does to the server (`harmless_runCommand`): access control
  is as it was, and every entry is kept. So is a transaction of such commands, whoever its commands
  make of the client.
* `ReaderStep` — a command, a retry or a read of a batch, on whatever server the client finds then:
  other clients may have done anything to it in between.

Main result: `readers_cannot_write`. No step of a client writes while it is authenticated as a user
that lacks both categories, as long as the cache does not give the default user the access that it
lacks.
-/

namespace Ratatosk.Engine

open Lib Keyspace Resp

variable {σ κ : Type}

/-! ## The gate -/

/-- The user has neither of the two categories. -/
def AclState.LacksWrite (acl : AclState) (username : Bytes) : Prop :=
  ∀ user ∈ acl.users.lookup username,
    user.categoryAllowed (ascii "write") = false ∧ user.categoryAllowed (ascii "admin") = false

/-- The command has neither of the two flags. -/
def CommandSpec.Unflagged (spec : CommandSpec) : Prop :=
  CommandFlag.write ∉ spec.flags ∧ CommandFlag.admin ∉ spec.flags

instance (spec : CommandSpec) : Decidable spec.Unflagged := inferInstanceAs (Decidable (_ ∧ _))

/-- The command of the request has neither flag, if it has an entry in the table at all. -/
def Request.Unflagged (r : Request) : Prop := ∀ spec ∈ r.spec, spec.Unflagged

section gate

variable {acl : AclState} {username : Bytes} {policy : DefaultAclPolicy} {session : Session κ}
  {r : Request}

/-- A user that lacks both categories is allowed no command that has either flag. -/
lemma unflagged_of_commandAllowedMask {spec : CommandSpec} (hlacks : acl.LacksWrite username)
    (h : acl.commandAllowedMask username (aclRequiredCategories spec) = true) :
    spec.Unflagged := by
  unfold AclState.commandAllowedMask at h
  cases huser : acl.users.lookup username with
  | none =>
    rw [huser] at h
    cases h
  | some user =>
    obtain ⟨hwrite, hadmin⟩ := hlacks user huser
    have hnotall : user.allowAllCommands = false := by
      rw [AclUser.categoryAllowed, Bool.or_eq_false_iff] at hwrite
      exact hwrite.1
    rw [huser] at h
    dsimp only at h
    rw [hnotall, Bool.false_or] at h
    -- a required category is one that the user has
    have hnone : ∀ category ∈ aclRequiredCategories spec,
        user.categoryAllowed category.name = true := by
      intro category hcategory
      split_ifs at h with henabled hempty
      · rw [List.isEmpty_iff.mp hempty] at hcategory
        cases hcategory
      · exact List.all_eq_true.mp h category hcategory
    constructor
    · intro hflag
      have hmem : Category.write ∈ aclRequiredCategories spec := by
        simp [aclRequiredCategories, hflag]
      exact absurd (hnone _ hmem) (Bool.eq_false_iff.mp hwrite)
    · intro hflag
      have hmem : Category.admin ∈ aclRequiredCategories spec := by
        simp [aclRequiredCategories, hflag]
      exact absurd (hnone _ hmem) (Bool.eq_false_iff.mp hadmin)

lemma mem_of_spec {spec : CommandSpec} (h : spec ∈ r.spec) :
    spec ∈ commandSpecs ∧ spec.name = r.command := by
  change commandSpecs.find? (fun s => s.name == r.command) = some spec at h
  exact ⟨List.mem_of_find?_eq_some h, by simpa using List.find?_some h⟩

/-- The commands that need no authentication have neither flag. -/
lemma unflagged_of_allowsExecuteWithoutAuth
    (h : allowsExecuteWithoutAuth r.command r.spec = true) : r.Unflagged := by
  have htable : ∀ spec ∈ commandSpecs, spec.name ∈ ["HELLO", "QUIT"].map ascii ∨
      CommandFlag.noAuth ∈ spec.flags → spec.Unflagged := by decide +kernel
  intro spec hspec
  obtain ⟨hmem, hname⟩ := mem_of_spec hspec
  refine htable spec hmem ?_
  rw [allowsExecuteWithoutAuth, Option.mem_def.mp hspec, Bool.or_eq_true, Bool.or_eq_true,
    beq_iff_eq, beq_iff_eq, ← hname] at h
  rcases h with (hhello | hquit) | hflag
  · rw [hhello]
    exact .inl (by decide)
  · rw [hquit]
    exact .inl (by decide)
  · rw [Option.any_some, List.contains_iff_mem] at hflag
    exact .inr hflag

/-- **What gets past the gate.** -/
lemma unflagged_of_accessErrorCached (hlacks : acl.LacksWrite session.aclUser)
    (hauth : session.authenticated = true)
    (hcache : session.aclUser = defaultName → policy.defaultUserHasFullAccess = false)
    (h : accessErrorCached policy acl session r = none) : r.Unflagged := by
  by_cases hwithout : allowsExecuteWithoutAuth r.command r.spec = true
  · exact unflagged_of_allowsExecuteWithoutAuth hwithout
  · have hchecked :
        (session.aclUser == defaultName && policy.defaultUserHasFullAccess) = false := by
      by_cases hdefault : session.aclUser = defaultName
      · rw [hcache hdefault, Bool.and_false]
      · rw [beq_false_of_ne hdefault, Bool.false_and]
    unfold accessErrorCached at h
    dsimp only at h
    rw [hauth, Bool.eq_false_iff.mpr hwithout, hchecked] at h
    rw [if_neg (by decide), if_pos (by decide), Option.bind_eq_none_iff] at h
    intro spec hspec
    have hallowed := h spec hspec
    simp only [ite_eq_left_iff, reduceCtorEq, imp_false, not_not] at hallowed
    exact unflagged_of_commandAllowedMask hlacks hallowed

/-- **What is queued.** -/
lemma unflagged_of_validateQueuedCommand (hlacks : acl.LacksWrite session.aclUser)
    (h : validateQueuedCommand acl session r = none) : r.Unflagged := by
  intro spec hspec
  have hfind : findCommandSpec r.name = some spec := hspec
  rw [validateQueuedCommand, hfind] at h
  dsimp only at h
  split_ifs at h with harity hallowed
  rw [Bool.not_eq_true, Bool.and_eq_false_iff, Bool.not_eq_false', Bool.not_eq_false'] at hallowed
  rcases hallowed with hflag | hallowed
  · refine unflagged_of_allowsExecuteWithoutAuth ?_ spec hspec
    rw [allowsExecuteWithoutAuth, Option.mem_def.mp hspec, Option.any_some, hflag, Bool.or_true]
  · exact unflagged_of_commandAllowedMask hlacks hallowed

end gate

/-! ## Unflagged commands -/

/-- Access control is as it was, and every entry is kept. -/
structure Harmless (now : Int64) (conn conn' : Conn σ κ) : Prop where
  acl : conn'.server.acl = conn.server.acl
  data : Kept now conn.dbs conn'.dbs

section harmless

variable {now : Int64} {conn conn' : Conn σ κ} {r : Request}

lemma Harmless.of_eq (hacl : conn'.server.acl = conn.server.acl) (hdbs : conn'.dbs = conn.dbs) :
    Harmless now conn conn' := ⟨hacl, by rw [hdbs]; exact .refl now _⟩

lemma Harmless.of_holds {result : Conn σ κ × CommandOutcome}
    (h : Holds (fun acl dbs _ => acl = conn.server.acl ∧ Kept now conn.dbs dbs) false result) :
    Harmless now conn result.1 := ⟨h.1, h.2⟩

variable (b : Backend σ κ) (env : ReaderEnv σ κ) (reads : ReadEnv)

/-- The engine with the modelled handlers. -/
def Backend.reading : Backend σ κ := (b.withReaders env).withReads reads

lemma not_mem_openCommands (h : r.Unflagged) : r.command ∉ openCommands := by
  have htable : ∀ name ∈ openCommands, (findCommandSpecUpper name).any
      (fun spec => !decide spec.Unflagged) = true := by decide +kernel
  intro hmem
  have hany := htable _ hmem
  rw [Option.any_eq_true] at hany
  obtain ⟨spec, hspec, hflagged⟩ := hany
  rw [Bool.not_eq_true', decide_eq_false_iff_not] at hflagged
  exact hflagged (h spec hspec)

/-- The arms of the dispatch that an unflagged command can take. -/
lemma commandKind_of_unflagged (h : r.Unflagged) :
    commandKind r.command ∈ [.select, .auth, .hello, .reset, .quit] ∨
      commandKind r.command = .data .get ∨ commandKind r.command = .other := by
  have htable : ∀ p ∈ commandKinds, p.2 ∈ [CommandKind.select, .auth, .hello, .reset, .quit] ∨
      p.2 = .data .get ∨ (findCommandSpecUpper p.1).any (fun spec => !decide spec.Unflagged) := by
    decide
  unfold commandKind
  cases hlookup : commandKinds.lookup r.command with
  | none => exact .inr (.inr rfl)
  | some kind =>
    rcases htable _ (mem_of_lookup hlookup) with hsession | hget | hflagged
    · exact .inl hsession
    · exact .inr (.inl hget)
    · rw [Option.any_eq_true] at hflagged
      obtain ⟨spec, hspec, hflag⟩ := hflagged
      rw [Bool.not_eq_true', decide_eq_false_iff_not] at hflag
      exact absurd (h spec hspec) hflag

lemma kept_handler (h : r.Unflagged) (store : Store σ) (session : Session κ) :
    Kept now store.dbs ((b.reading env reads).handler r now store session).1.dbs := by
  unfold Backend.reading Backend.withReads
  dsimp only
  split
  · unfold Backend.withReaders
    dsimp only
    split
    · next kind hkind => exact kept_readerKind env r _ store.dbs (isReadonly_of_lookup hkind)
    · rw [if_neg (not_mem_openCommands h)]
      exact .refl now _
  · exact kept_update (keptDb_fastQuery _ _)

lemma keptDb_cmdGet (err : Bytes → RespFrame) (args : List Bytes) (db : Db) :
    KeptDb now db (cmdGet err args now db).1 := by
  unfold cmdGet
  split
  · next key =>
      have hpurge := keptDb_purgeExpiredKey now db key
      dsimp only
      split
      · exact hpurge
      · split <;> exact hpurge
  · exact .refl now db

/-- **One unflagged command.** -/
lemma harmless_runCommand (h : r.Unflagged) (conn : Conn σ κ) :
    Harmless now conn (runCommand (b.reading env reads) r now conn).1 := by
  rcases commandKind_of_unflagged h with hsession | hget | hother
  · obtain ⟨hdbs, hacl⟩ := runCommand_session (b.reading env reads) hsession now conn
    exact .of_eq hacl hdbs
  · unfold runCommand
    rw [hget]
    exact ⟨rfl, kept_update (keptDb_cmdGet _ r.args _)⟩
  · unfold runCommand
    rw [hother]
    exact ⟨rfl, kept_handler b env reads h _ _⟩

lemma kept_of_unflagged (h : r.Unflagged) : KeptBy (b.reading env reads)
    (fun acl dbs _ => acl = conn.server.acl ∧ Kept now conn.dbs dbs) now r := by
  rintro conn' dirty ⟨hacl, hdata⟩
  obtain ⟨hacl', hdata'⟩ : Harmless now conn' _ := harmless_runCommand b env reads h conn'
  exact ⟨hacl'.trans hacl, hdata.trans hdata'⟩

/-- What a client has queued after a command: what it had, at most, or the command as well if that
was found valid. -/
lemma queued_admitted (dbBefore : Fin dbCount) (conn : Conn σ κ) {q : Request}
    (hq : q ∈ (admitted b (dispatchCommand b) r dbBefore now conn).1.client.session.tx.queued) :
    q ∈ conn.client.session.tx.queued ∨
      q = r ∧ validateQueuedCommand conn.server.acl conn.client.session r = none := by
  rcases admitted_cases b (dispatchCommand b) r dbBefore now conn with
    ⟨text, -, hrun⟩ | ⟨_, queue, hasError, htx, hrun⟩ | ⟨-, hrun⟩
  · rw [hrun] at hq
    exact .inl hq
  · rw [hrun] at hq
    rw [htx]
    rcases queueCommand_cases b _ queue hasError conn with ⟨text, hadd⟩ | ⟨hvalid, hadd⟩
    · rw [hadd] at hq
      exact .inl hq
    · rw [hadd] at hq
      change q ∈ (queue ++ [_]).map QueuedRequest.request at hq
      rw [List.map_append, List.mem_append] at hq
      rcases hq with hq | hq
      · exact .inl hq
      · exact .inr ⟨List.mem_singleton.mp hq, hvalid⟩
  · rw [hrun, (outer_finishCommand b r dbBefore now _).1] at hq
    rcases tx_dispatchCommand b r now conn with htx | htx | htx
    · rw [htx] at hq
      exact .inl hq
    · rw [htx] at hq
      exact absurd hq List.not_mem_nil
    · rw [htx] at hq
      exact absurd hq List.not_mem_nil

/-- A client that is authenticated as a user without the two categories, and that the cache does not
take for a default user with full access. -/
structure ActsAs (username : Bytes) (acl : AclState) (policy : DefaultAclPolicy)
    (session : Session κ) : Prop where
  authenticated : session.authenticated = true
  user : session.aclUser = username
  lacks : acl.LacksWrite username
  cache : username = defaultName → policy.defaultUserHasFullAccess = false

lemma ActsAs.authenticateCached {username : Bytes} {acl : AclState} {policy : DefaultAclPolicy}
    {session : Session κ} (h : ActsAs username acl policy session) :
    Engine.authenticateCached policy session = session := by
  simp [Engine.authenticateCached, h.authenticated]

/-- **One command of such a client**: it is harmless, and only unflagged commands are queued. -/
lemma harmless_executeCached {username : Bytes} {policy : DefaultAclPolicy} (r : Request)
    (now : Int64) (conn : Conn σ κ)
    (hacts : ActsAs username conn.server.acl policy conn.client.session)
    (h : ∀ q ∈ conn.client.session.tx.queued, q.Unflagged) :
    Harmless now conn (executeCached (b.reading env reads) policy r now conn).1 ∧
      ∀ q ∈ (executeCached (b.reading env reads) policy r now conn).1.client.session.tx.queued,
        q.Unflagged := by
  unfold executeCached
  dsimp only
  rw [hacts.authenticateCached]
  split
  · exact ⟨.of_eq rfl rfl, h⟩
  · next haccess =>
    have hlacks : conn.server.acl.LacksWrite conn.client.session.aclUser := by
      rw [hacts.user]
      exact hacts.lacks
    have hr : r.Unflagged := unflagged_of_accessErrorCached hlacks hacts.authenticated
      (fun hdefault => hacts.cache (hacts.user ▸ hdefault)) haccess
    constructor
    · have hstart : conn.server.acl = conn.server.acl ∧ Kept now conn.dbs conn.dbs :=
        ⟨rfl, .refl now _⟩
      refine .of_holds (holds_admitted _ _ hstart (holds_dispatchCommand _
        (kept_of_unflagged b env reads hr) (fun _ q hq => kept_of_unflagged b env reads (h q hq))
        ?_ hstart))
      intro acl store index keys hkept
      rw [foldl_purgeWatched_dbs]
      exact ⟨hkept.1, hkept.2.trans (kept_update (keptDb_foldl_purge keys _))⟩
    · intro q hq
      rcases queued_admitted _ _ _ hq with hqueued | ⟨rfl, hvalid⟩
      · exact h q hqueued
      · exact unflagged_of_validateQueuedCommand hlacks hvalid

end harmless

/-! ## Runs of a client -/

/-- What is left open of the path of a command. -/
structure ClientEnv (σ κ : Type) where
  /-- The statistics of a lock-free read and what the client's record says of it. -/
  note : Request → RespFrame → σ → κ → σ × κ
  aofLatched : Request → Store σ → Session κ → Option Bytes
  aofEnabled : Store σ → Bool
  /-- What the append-only file does, which changes no database. -/
  persist : Request → Store σ → Option DurabilityEffects → CommandOutcome → σ × RespFrame

/-- The path of a command, with the lock-free reads.
Source: `execution.rs` `run_with_blocking_retry` -/
def ClientEnv.path (client : ClientEnv σ κ) (b : Backend σ κ) (reads : ReadEnv) :
    ClientPath σ κ where
  lockFree := tryExecuteLockFree b reads client.note
  aofLatched := client.aofLatched
  aofEnabled := client.aofEnabled
  persist r store effects outcome :=
    let (rest, response) := client.persist r store effects outcome
    ({ store with rest := rest }, response)

/-- The ways in which a command runs: its first attempt, a retry, or as one of a batch of reads. -/
inductive Way where
  | command | retry | batch

/-- A command of a client, with the server that it finds. -/
structure ReaderStep (σ : Type) where
  way : Way
  shared : SharedState σ
  r : Request
  now : Int64

section runs

variable (b : Backend σ κ) (env : ReaderEnv σ κ) (reads : ReadEnv) (clientEnv : ClientEnv σ κ)

/-- What the command does to the server and to the client. -/
def ReaderStep.run (step : ReaderStep σ) (client : Client κ) :
    SharedState σ × Client κ × CommandOutcome :=
  let b := b.reading env reads
  let path := clientEnv.path b reads
  match step.way with
  | .command => runClient b path step.r step.now step.shared client
  | .retry => executeLocked b path step.r step.now step.shared client
  | .batch => batchRead b path step.r step.now step.shared client

/-- Something holds at every step, of the client as it is then. -/
def Along (P : ReaderStep σ → Client κ → Prop) : List (ReaderStep σ) → Client κ → Prop
  | [], _ => True
  | step :: rest, client =>
    P step client ∧ Along P rest (step.run b env reads clientEnv client).2.1

/-- The client is such a one at the step. -/
def ReaderStep.ActsAs (username : Bytes) (step : ReaderStep σ) (client : Client κ) : Prop :=
  Engine.ActsAs username step.shared.server.acl step.shared.policy client.session

/-- The step changes no access control and keeps every entry. -/
def ReaderStep.IsHarmless (step : ReaderStep σ) (client : Client κ) : Prop :=
  Harmless step.now ⟨step.shared.server, client⟩
    ⟨(step.run b env reads clientEnv client).1.server, client⟩

variable {username : Bytes} {client : Client κ} {shared : SharedState σ}

/-- Such a client never reads without the lock. -/
lemma lockFreeSession_of_actsAs {acl : AclState} {policy : DefaultAclPolicy} {session : Session κ}
    (h : Engine.ActsAs username acl policy session) : lockFreeSession policy session = none := by
  unfold lockFreeSession
  by_cases hdefault : username = defaultName
  · simp [h.authenticated, h.cache hdefault]
  · have hne : session.aclUser ≠ defaultName := h.user ▸ hdefault
    simp [h.authenticated, hne]

/-- A request of such a client is harmless. -/
lemma harmless_executeLocked (r : Request) (now : Int64)
    (hacts : Engine.ActsAs username shared.server.acl shared.policy client.session)
    (h : ∀ q ∈ client.session.tx.queued, q.Unflagged) :
    Harmless now ⟨shared.server, client⟩ ⟨(executeLocked (b.reading env reads)
        (clientEnv.path (b.reading env reads) reads) r now shared client).1.server, client⟩ ∧
      ∀ q ∈ (executeLocked (b.reading env reads) (clientEnv.path (b.reading env reads) reads) r now
        shared client).2.1.session.tx.queued, q.Unflagged := by
  unfold executeLocked
  split
  · exact ⟨.of_eq rfl rfl, h⟩
  · obtain ⟨hrun, hqueued⟩ := harmless_executeCached b env reads r now
      ⟨shared.server, { client with captureEnabled := clientEnv.aofEnabled shared.server.store }⟩
      hacts h
    exact ⟨⟨hrun.acl, hrun.data⟩, hqueued⟩

/-- **One step**, whichever way it runs. -/
lemma harmless_step {step : ReaderStep σ} (hacts : step.ActsAs username client)
    (h : ∀ q ∈ client.session.tx.queued, q.Unflagged) :
    step.IsHarmless b env reads clientEnv client ∧
      ∀ q ∈ (step.run b env reads clientEnv client).2.1.session.tx.queued, q.Unflagged := by
  have hlockFree : (clientEnv.path (b.reading env reads) reads).lockFree step.r step.now
      step.shared.policy step.shared.server.store client.session = none := by
    change tryExecuteLockFree _ _ _ _ _ _ _ _ = none
    rw [tryExecuteLockFree, lockFreeSession_of_actsAs hacts]
  have hprecheck : precheckExecuteArgv step.shared.policy step.r client.session =
      (client.session, none) := by
    simp [precheckExecuteArgv, hacts.authenticateCached, hacts.authenticated]
  unfold ReaderStep.IsHarmless ReaderStep.run
  cases step.way with
  | command =>
    simp only [runClient, hlockFree, hprecheck]
    exact harmless_executeLocked b env reads clientEnv _ _ hacts h
  | retry => exact harmless_executeLocked b env reads clientEnv _ _ hacts h
  | batch =>
    simp only [batchRead, hlockFree, hprecheck]
    obtain ⟨hrun, hqueued⟩ := harmless_executeCached b env reads step.r step.now
      ⟨step.shared.server, client⟩ hacts h
    exact ⟨⟨hrun.acl, hrun.data⟩, hqueued⟩

/-- **Users that may only read do not write.** Over any sequence of commands of a client that starts
outside of a transaction, run in any of the three ways and with anything done by others in between:
as long as the client is authenticated as a user that lacks both categories and the cache does not
give the default user full access, no step changes access control, or an entry other than by
removing it once it has expired or by caching a cardinality in it. -/
theorem readers_cannot_write (username : Bytes) (steps : List (ReaderStep σ)) (client : Client κ)
    (hstart : client.session.tx = .normal)
    (hacts : Along b env reads clientEnv (ReaderStep.ActsAs username) steps client) :
    Along b env reads clientEnv (ReaderStep.IsHarmless b env reads clientEnv) steps client := by
  -- the invariant is that only unflagged commands are queued
  have hrun : ∀ (steps : List (ReaderStep σ)) (client : Client κ),
      (∀ q ∈ client.session.tx.queued, q.Unflagged) →
      Along b env reads clientEnv (ReaderStep.ActsAs username) steps client →
      Along b env reads clientEnv (ReaderStep.IsHarmless b env reads clientEnv) steps client := by
    intro steps
    induction steps with
    | nil => exact fun _ _ _ => trivial
    | cons step rest ih =>
      intro client hqueue hacts
      obtain ⟨hharmless, hqueued⟩ := harmless_step b env reads clientEnv hacts.1 hqueue
      exact ⟨hharmless, ih _ hqueued hacts.2⟩
  refine hrun steps client ?_ hacts
  rw [hstart]
  exact fun q hq => absurd hq List.not_mem_nil

end runs

/-- Handlers that accept everything and answer `OK`. -/
def ReaderEnv.plain : ReaderEnv Unit Unit := ⟨fun _ => true, fun _ _ _ _ => ((), (), .reply .ok),
  fun _ => 0, fun _ _ => none⟩

/-- No append-only file. -/
def ClientEnv.plain : ClientEnv Unit Unit := ⟨fun _ _ _ _ => ((), ()), fun _ _ _ => none,
  fun _ => false, fun _ _ _ outcome => ((), outcome.response)⟩

/-- A server on which somebody has called `ACL SETUSER`. -/
def serverAfter (words : List String) : SharedState Unit :=
  runPath (Backend.bare.withAclCommand AclEnv.toy) ClientPath.bare
    [aclEvent ("SETUSER" :: words)] (.new emptyServer)

/-- A client that is authenticated. -/
def clientAs (username : Bytes) : Client Unit :=
  { Client.new () with
    session := { (Client.new ()).session with authenticated := true, aclUser := username } }

/-- A command on such a server. -/
def readerStep (words : List String) (command : String) (args : List String) : ReaderStep Unit :=
  ⟨.command, serverAfter words, ⟨ascii command, args.map ascii⟩, 0⟩

/-- A user with the category `read` opens a transaction, queues a read, and is refused a write. -/
theorem reader_transaction :
    Along Backend.bare ReaderEnv.plain ReadEnv.byName ClientEnv.plain
      (ReaderStep.IsHarmless Backend.bare ReaderEnv.plain ReadEnv.byName ClientEnv.plain)
      [readerStep ["bob", "on", "nopass", "+@read"] "MULTI" [],
        readerStep ["bob", "on", "nopass", "+@read"] "GET" ["k"],
        readerStep ["bob", "on", "nopass", "+@read"] "SET" ["k", "v"],
        readerStep ["bob", "on", "nopass", "+@read"] "EXEC" []] (clientAs (ascii "bob")) := by
  have hlacks : (serverAfter ["bob", "on", "nopass", "+@read"]).server.acl.LacksWrite
      (ascii "bob") := by
    unfold AclState.LacksWrite
    decide +kernel
  have hname : ascii "bob" = defaultName → False := by decide +kernel
  refine readers_cannot_write _ _ _ _ (ascii "bob") _ _ rfl ⟨?_, ?_, ?_, ?_, trivial⟩
  all_goals
    exact ⟨by decide +kernel, by decide +kernel, hlacks, fun h => (hname h).elim⟩

/-- `ACL SETUSER default -@all typo` is refused. The default user has no category any more, the
cache says that it has full access, and its `SET` goes through. -/
theorem stale_cache_writes :
    let step := readerStep ["default", "-@all", "typo"] "SET" ["k", "v"]
    step.shared.server.acl.LacksWrite defaultName ∧
      (clientAs defaultName).session.authenticated = true ∧
      ¬ step.IsHarmless Backend.bare ReaderEnv.plain ReadEnv.byName ClientEnv.plain
        (clientAs defaultName) := by
  refine ⟨?_, rfl, ?_⟩
  · unfold AclState.LacksWrite
    decide +kernel
  · intro h
    rcases h.data ⟨0, by decide⟩ (ascii "k") with hsame | ⟨hgone, -⟩
    · exact absurd hsame (by decide +kernel)
    · exact absurd hgone (by decide +kernel)

end Ratatosk.Engine
