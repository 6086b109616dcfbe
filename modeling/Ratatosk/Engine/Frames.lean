import Ratatosk.Engine.Dispatch

/-!
# What commands leave alone

Frame lemmas of the dispatcher: which parts of a client a command can change.

* `Conn.outer` — the part of a client that handlers do not see, with its transaction: only
  `RESET` changes it among the commands a queue can hold (`outer_runCommand`, `outer_cmdReset`).
-/

namespace Ratatosk.Engine

open Lib Keyspace Resp

variable {σ κ : Type}

/-! ## The arms -/

/-- The arm of a command names the command, the last arm apart. -/
lemma eq_of_commandKind {c name : Bytes} {kind : CommandKind} (hmem : (name, kind) ∈ commandKinds)
    (h : commandKind c = kind) : c = name := by
  have hinj : ∀ p ∈ commandKinds, p.2 ≠ .other ∧ ∀ q ∈ commandKinds, p.2 = q.2 → p.1 = q.1 := by
    decide +kernel
  unfold commandKind at h
  cases hc : commandKinds.lookup c with
  | none =>
    rw [hc] at h
    exact absurd h.symm (hinj _ hmem).1
  | some kind' =>
    rw [hc] at h
    exact (hinj _ (mem_of_lookup hc)).2 _ hmem h

/-! ## The part that handlers do not see -/

/-- The transaction of a client, and the capture of its effects. -/
def Conn.outer (conn : Conn σ κ) : TransactionState × Bool × Option DurabilityEffects :=
  (conn.client.session.tx, conn.client.captureEnabled, conn.client.effects)

/-- What the session commands leave alone: the above, and the watched keys. -/
def Conn.kept (conn : Conn σ κ) :
    HashMap (Fin dbCount × Bytes) UInt64 × TransactionState × Bool × Option DurabilityEffects :=
  (conn.client.session.watched, conn.outer)

/-- The databases of the server. -/
def Conn.dbs (conn : Conn σ κ) : Databases := conn.server.store.dbs

/-- What `SELECT`, `AUTH` and `HELLO` leave alone: that, the databases and access control. -/
def Conn.framed (conn : Conn σ κ) :
    (HashMap (Fin dbCount × Bytes) UInt64 × TransactionState × Bool × Option DurabilityEffects) ×
      Databases × AclState :=
  (conn.kept, conn.dbs, conn.server.acl)

section outer

variable (b : Backend σ κ) {conn : Conn σ κ}

lemma framed_cmdSelect (args : List Bytes) : (cmdSelect b args conn).1.framed = conn.framed := by
  unfold cmdSelect
  split
  · split
    · rfl
    · split <;> rfl
  · rfl

lemma framed_authenticateClient (username password : Bytes) :
    (authenticateClient b username password conn).1.framed = conn.framed := by
  unfold authenticateClient
  dsimp only
  split
  · rfl
  · split <;> rfl

lemma framed_cmdAuth (args : List Bytes) : (cmdAuth b args conn).1.framed = conn.framed := by
  unfold cmdAuth
  split
  · exact framed_authenticateClient b _ _
  · exact framed_authenticateClient b _ _
  · rfl

lemma framed_authenticateAll (attempts : List (Bytes × Bytes)) (conn : Conn σ κ) :
    (authenticateAll b attempts conn).1.framed = conn.framed := by
  induction attempts generalizing conn with
  | nil => rfl
  | cons attempt attempts ih =>
    have hfirst : (authenticateClient b attempt.1 attempt.2 conn).1.framed = conn.framed :=
      framed_authenticateClient b attempt.1 attempt.2
    unfold authenticateAll
    split
    · next conn' hstep =>
        rw [ih conn', ← hfirst, hstep]
    · next conn' rejection hstep =>
        rw [← hfirst, hstep]

lemma framed_cmdHello (args : List Bytes) : (cmdHello b args conn).1.framed = conn.framed := by
  unfold cmdHello
  dsimp only
  split
  · rfl
  · next o _ =>
      have hauth := framed_authenticateAll b o.authAttempts conn
      split
      · next conn' rejection hstep =>
          rw [← hauth, hstep]
      · next conn' hstep =>
          rw [← hauth, hstep]
          unfold finishHello
          dsimp only
          split <;> rfl

/-- `RESET` leaves any transaction and stops the capture of effects. -/
lemma outer_cmdReset : (cmdReset b [] conn).1.outer = (.normal, false, none) := rfl

/-- Of the commands that a queue can hold, only `RESET` changes what is kept of a client. -/
lemma kept_runCommand {r : Request} (now : Int64)
    (h : ¬ (r.command = ascii "RESET" ∧ r.args = [])) :
    (runCommand b r now conn).1.kept = conn.kept := by
  unfold runCommand
  cases hkind : commandKind r.command with
  | select => exact congrArg Prod.fst (framed_cmdSelect b r.args)
  | auth => exact congrArg Prod.fst (framed_cmdAuth b r.args)
  | hello => exact congrArg Prod.fst (framed_cmdHello b r.args)
  | reset =>
    have hname : r.command = ascii "RESET" := eq_of_commandKind (by decide +kernel) hkind
    have hargs : r.args ≠ [] := fun hargs => h ⟨hname, hargs⟩
    simp only [cmdReset, if_pos hargs]
  | quit => rfl
  | acl => rfl
  | swapdb => rfl
  | data command => rfl
  | other => rfl

lemma outer_runCommand {r : Request} (now : Int64)
    (h : ¬ (r.command = ascii "RESET" ∧ r.args = [])) :
    (runCommand b r now conn).1.outer = conn.outer :=
  congrArg Prod.snd (kept_runCommand b now h)

lemma runCommand_reset {r : Request} (now : Int64)
    (h : r.command = ascii "RESET" ∧ r.args = []) :
    runCommand b r now conn = cmdReset b [] conn := by
  have hkind : commandKind (ascii "RESET") = .reset := rfl
  simp only [runCommand, h.1, h.2, hkind]

/-- A command of the session changes no database and not access control. -/
lemma runCommand_session {r : Request}
    (hkind : commandKind r.command ∈ [.select, .auth, .hello, .reset, .quit]) (now : Int64)
    (conn : Conn σ κ) :
    (runCommand b r now conn).1.dbs = conn.dbs ∧
      (runCommand b r now conn).1.server.acl = conn.server.acl := by
  unfold runCommand
  cases hcase : commandKind r.command with
  | select => exact Prod.ext_iff.mp (congrArg Prod.snd (framed_cmdSelect b r.args))
  | auth => exact Prod.ext_iff.mp (congrArg Prod.snd (framed_cmdAuth b r.args))
  | hello => exact Prod.ext_iff.mp (congrArg Prod.snd (framed_cmdHello b r.args))
  | reset =>
    dsimp only
    unfold cmdReset
    split_ifs <;> exact ⟨rfl, rfl⟩
  | quit => exact ⟨rfl, rfl⟩
  | acl | swapdb | data | other =>
    rw [hcase] at hkind
    simp at hkind

/-- `WATCH` changes what is watched, on both sides, and nothing else. -/
lemma foldl_watchOne_eq (index : Fin dbCount) (keys : List Bytes) (conn : Conn σ κ) :
    ∃ rest watched, keys.foldl (watchOne b index) conn =
      (conn.setStore { conn.server.store with rest := rest }).setSession
        { conn.client.session with watched := watched } := by
  induction keys generalizing conn with
  | nil => exact ⟨conn.server.store.rest, conn.client.session.watched, rfl⟩
  | cons key keys ih =>
    have hone : ∃ rest watched, watchOne b index conn key =
        (conn.setStore { conn.server.store with rest := rest }).setSession
          { conn.client.session with watched := watched } := by
      unfold watchOne
      dsimp only
      split_ifs
      · exact ⟨conn.server.store.rest, conn.client.session.watched, rfl⟩
      · exact ⟨_, _, rfl⟩
    obtain ⟨rest, watched, hwatch⟩ := hone
    rw [List.foldl_cons, hwatch]
    exact ih _

/-- The loop over a queue before its first round. -/
def startExec (conn : Conn σ κ) : ExecState σ κ where
  conn := execStart conn
  replies := []
  replyProtocol := (execStart conn).client.session.protocolVersion
  segmentStart := 0
  durableCommands := []
  executedCount := 0
  outcome := .reply .null

/-- What `EXEC` does after its loop. -/
def finishExec (now : Int64) (st : ExecState σ κ) : Conn σ κ × CommandOutcome :=
  let session := st.conn.client.session
  let store := st.conn.server.store
  let conn := (st.conn.setSession { session with bypassDepth := session.bypassDepth - 1 }).setStore
    { store with rest := b.adjustCommandsProcessed store.rest st.executedCount }
  (if st.durableCommands = [] then conn
    else conn.setEffects (some ⟨st.durableCommands, true, now⟩),
    { st.outcome with response := .array st.replies })

lemma runQueue_eq (now : Int64) (queue : List QueuedRequest) (conn : Conn σ κ) :
    runQueue b now queue conn = finishExec b now (execLoop b now queue (startExec conn)) := rfl

/-- The loop over a queue keeps what every round keeps. -/
lemma execLoop_preserves {P : ExecState σ κ → Prop} {now : Int64} {queue : List QueuedRequest}
    (hstep : ∀ st, ∀ q ∈ queue, P st → P (execStep b now st q)) {st : ExecState σ κ} (h : P st) :
    P (execLoop b now queue st) := by
  induction queue generalizing st with
  | nil => exact h
  | cons q queue ih =>
    have hfirst : P (execStep b now st q) := hstep st q List.mem_cons_self h
    rw [execLoop]
    split
    · exact hfirst
    · exact ih (fun st q hq => hstep st q (List.mem_cons_of_mem _ hq)) hfirst

end outer

/-! ## Through access control and the gates -/

section queued

variable (b : Backend σ κ) {conn : Conn σ κ}

/-- `RESET`, in any spelling. -/
def QueuedRequest.IsReset (q : QueuedRequest) : Prop :=
  q.request.command = ascii "RESET" ∧ q.request.args = []

instance (q : QueuedRequest) : Decidable q.IsReset :=
  inferInstanceAs (Decidable (_ ∧ _))

lemma outer_enter (conn : Conn σ κ) :
    (enter conn).outer = (conn.client.session.tx, conn.client.captureEnabled, none) := by
  unfold enter authenticateDefault
  split <;> rfl

lemma tx_enter (conn : Conn σ κ) :
    (enter conn).client.session.tx = conn.client.session.tx :=
  congrArg Prod.fst (outer_enter conn)

/-- The gates and the dispatch, which every admitted command meets that is not queued. -/
def gated (dispatch : Request → Int64 → Conn σ κ → Conn σ κ × CommandOutcome) (r : Request)
    (dbBefore : Fin dbCount) (now : Int64) (conn : Conn σ κ) : Conn σ κ × CommandOutcome :=
  match gateError b r conn.server.store conn.client.session with
  | some text => (conn, b.fail text)
  | none => finishCommand b r dbBefore now (dispatch r now conn)

variable (dispatch : Request → Int64 → Conn σ κ → Conn σ κ × CommandOutcome) {r : Request}
  {dbBefore : Fin dbCount} {now : Int64}

/-- A request outside a transaction goes to the gates. -/
lemma admitted_gated
    (hmem : conn.client.session.tx.inMulti = true → r.command ∈ transactionCommands) :
    admitted b dispatch r dbBefore now conn = gated b dispatch r dbBefore now conn := by
  unfold admitted
  cases htx : conn.client.session.tx with
  | normal => rfl
  | inTransaction queue hasError =>
    rw [htx] at hmem
    simp only [dif_pos (hmem rfl)]
    rfl

/-- A request inside one is queued. -/
lemma admitted_queued {queue : List QueuedRequest} {hasError : Bool}
    (htx : conn.client.session.tx = .inTransaction queue hasError)
    (hmem : r.command ∉ transactionCommands) :
    admitted b dispatch r dbBefore now conn = queueCommand b ⟨r, hmem⟩ queue hasError conn := by
  simp only [admitted, htx, dif_neg hmem]

/-- The ways of a command past access control: refused by a gate, queued, or dispatched. -/
lemma admitted_cases (r : Request) (dbBefore : Fin dbCount) (now : Int64) (conn : Conn σ κ) :
    (∃ text, gateError b r conn.server.store conn.client.session = some text ∧
      admitted b dispatch r dbBefore now conn = (conn, b.fail text)) ∨
    (∃ hmem queue hasError, conn.client.session.tx = .inTransaction queue hasError ∧
      admitted b dispatch r dbBefore now conn = queueCommand b ⟨r, hmem⟩ queue hasError conn) ∨
    ((conn.client.session.tx.inMulti = true → r.command ∈ transactionCommands) ∧
      admitted b dispatch r dbBefore now conn =
        finishCommand b r dbBefore now (dispatch r now conn)) := by
  by_cases hmem : conn.client.session.tx.inMulti = true → r.command ∈ transactionCommands
  · rw [admitted_gated b dispatch hmem, gated]
    split
    · next text hgate => exact .inl ⟨text, hgate, rfl⟩
    · exact .inr (.inr ⟨hmem, rfl⟩)
  · obtain ⟨hin, hmem⟩ := Classical.not_imp.mp hmem
    cases htx : conn.client.session.tx with
    | normal =>
      rw [htx] at hin
      cases hin
    | inTransaction queue hasError =>
      exact .inr (.inl ⟨hmem, queue, hasError, rfl, admitted_queued b dispatch htx hmem⟩)

/-- A request that access control lets through. -/
lemma executeWith_admitted
    (haccess : accessError (enter conn).server.acl (enter conn).client.session r = none) :
    executeWith b dispatch r now conn =
      admitted b dispatch r conn.client.session.selectedDb now (noteCommand b r (enter conn)) := by
  simp only [executeWith, haccess]

/-- The ways of a command: refused by access control or by a gate, queued, or dispatched. -/
lemma executeWith_cases (r : Request) (now : Int64) (conn : Conn σ κ) :
    (∃ text, accessError (enter conn).server.acl (enter conn).client.session r = some text ∧
      executeWith b dispatch r now conn = (enter conn, b.fail text)) ∨
    (∃ text, gateError b r (noteCommand b r (enter conn)).server.store
        (noteCommand b r (enter conn)).client.session = some text ∧
      executeWith b dispatch r now conn = (noteCommand b r (enter conn), b.fail text)) ∨
    (∃ hmem queue hasError, conn.client.session.tx = .inTransaction queue hasError ∧
      executeWith b dispatch r now conn =
        queueCommand b ⟨r, hmem⟩ queue hasError (noteCommand b r (enter conn))) ∨
    (accessError (enter conn).server.acl (enter conn).client.session r = none ∧
      (conn.client.session.tx.inMulti = true → r.command ∈ transactionCommands) ∧
      executeWith b dispatch r now conn = finishCommand b r conn.client.session.selectedDb now
        (dispatch r now (noteCommand b r (enter conn)))) := by
  cases haccess : accessError (enter conn).server.acl (enter conn).client.session r with
  | some text => exact .inl ⟨text, rfl, by simp only [executeWith, haccess]⟩
  | none =>
    have hcases := admitted_cases b dispatch r conn.client.session.selectedDb now
      (noteCommand b r (enter conn))
    have htx : (noteCommand b r (enter conn)).client.session.tx = conn.client.session.tx :=
      tx_enter conn
    rw [← executeWith_admitted b dispatch haccess, htx] at hcases
    simpa only [true_and] using .inr hcases

section finish

variable (r : Request) (dbBefore : Fin dbCount) (now : Int64) (result : Conn σ κ × CommandOutcome)

lemma outer_finishCommand :
    (finishCommand b r dbBefore now result).1.client.session.tx = result.1.client.session.tx ∧
      (finishCommand b r dbBefore now result).1.client.captureEnabled =
        result.1.client.captureEnabled := by
  unfold finishCommand
  dsimp only
  split <;> exact ⟨rfl, rfl⟩

lemma watched_finishCommand :
    (finishCommand b r dbBefore now result).1.client.session.watched =
      result.1.client.session.watched := by
  unfold finishCommand
  dsimp only
  split <;> rfl

lemma outcome_finishCommand : (finishCommand b r dbBefore now result).2 = result.2 := by
  unfold finishCommand
  dsimp only
  split <;> rfl

@[simp] lemma dbs_finishCommand :
    (finishCommand b r dbBefore now result).1.dbs = result.1.dbs := by
  unfold finishCommand
  dsimp only
  split <;> rfl

@[simp] lemma acl_finishCommand :
    (finishCommand b r dbBefore now result).1.server.acl = result.1.server.acl := by
  unfold finishCommand
  dsimp only
  split <;> rfl

lemma effects_finishCommand (h : result.1.client.captureEnabled = false) :
    (finishCommand b r dbBefore now result).1.client.effects = result.1.client.effects := by
  unfold finishCommand
  simp only [Conn.setRest_captureEnabled, h]
  rfl

end finish

lemma outer_executeQueued {q : QueuedRequest} (now : Int64) (hreset : ¬ q.IsReset)
    (htx : conn.client.session.tx = .normal) :
    (executeQueued b q now conn).1.client.session.tx = .normal ∧
      (executeQueued b q now conn).1.client.captureEnabled = conn.client.captureEnabled ∧
      (conn.client.captureEnabled = false →
        (executeQueued b q now conn).1.client.effects = none) := by
  have henter := outer_enter conn
  simp only [Conn.outer, Prod.mk.injEq] at henter
  obtain ⟨htx', hcapture', heffects'⟩ := henter
  unfold executeQueued
  rcases executeWith_cases b (runCommand b) q.request now conn with
    ⟨text, -, hrun⟩ | ⟨text, -, hrun⟩ | ⟨-, queue, hasError, hqueue, -⟩ | ⟨-, -, hrun⟩
  · rw [hrun]
    exact ⟨htx'.trans htx, hcapture', fun _ => heffects'⟩
  · rw [hrun]
    exact ⟨htx'.trans htx, hcapture', fun _ => heffects'⟩
  · cases htx.symm.trans hqueue
  · rw [hrun]
    have hrunCommand : (runCommand b q.request now (noteCommand b q.request (enter conn))).1.outer
        = (noteCommand b q.request (enter conn)).outer := outer_runCommand b now hreset
    simp only [Conn.outer, Prod.mk.injEq] at hrunCommand
    obtain ⟨hfinishTx, hfinishCapture⟩ := outer_finishCommand b q.request
      conn.client.session.selectedDb now
      (runCommand b q.request now (noteCommand b q.request (enter conn)))
    refine ⟨hfinishTx.trans (hrunCommand.1.trans (htx'.trans htx)),
      hfinishCapture.trans (hrunCommand.2.1.trans hcapture'), fun hoff => ?_⟩
    rw [effects_finishCommand b _ _ _ _ (hrunCommand.2.1.trans (hcapture'.trans hoff))]
    exact hrunCommand.2.2.trans heffects'

/-- Access control lets a command that asks for no authentication pass. -/
lemma accessError_of_allowWithoutAuth {acl : AclState} {session : Session κ} {r : Request}
    (h : allowsExecuteWithoutAuth r.command r.spec = true) : accessError acl session r = none := by
  simp [accessError, h]

lemma resolveLeadingSpec_singleton (name : Bytes) :
    resolveLeadingSpec [name] = findCommandSpecUpper (toUppercase name) := by
  have hparts : min [name].length maxNameParts = 1 := Nat.min_eq_left one_le_maxNameParts
  unfold resolveLeadingSpec
  rw [hparts]
  simp [findCommandSpecParts, List.range_succ, List.intercalate]

/-- The gates let a session command without arguments pass. -/
lemma gateError_session {r : Request} (hmem : r.command ∈ sessionCommands) (hargs : r.args = [])
    (store : Store σ) (session : Session κ) : gateError b r store session = none := by
  have hstrict : strictModeError r.argv = none := by
    have hall : ∀ name ∈ sessionCommands,
        ((findCommandSpecUpper name).bind fun s =>
          (if s.name = ascii "WAIT" ∨ s.name = ascii "WAITAOF" then some []
            else (refusedTier s.name).map RefusedTier.reason)) = none := by
      decide +kernel
    have hnone := hall r.command hmem
    rw [Request.argv, hargs, strictModeError, resolveLeadingSpec_singleton]
    change (findCommandSpecUpper r.command).bind _ = none
    cases hspec : findCommandSpecUpper r.command with
    | none => rfl
    | some spec =>
      rw [hspec, Option.bind_some] at hnone
      rw [Option.bind_some]
      split_ifs at hnone with hwait
      simp [hwait, Option.map_eq_none_iff.mp hnone]
  have hgrow : commandMayGrowMemory r.argv r.spec = false := by
    have hall : ∀ name ∈ sessionCommands,
        (findCommandSpecUpper name).any (fun s => s.flags.contains .denyoom) = false ∧
          name ≠ ascii "XGROUP" ∧
          name ∉ ["XREADGROUP", "XCLAIM", "XAUTOCLAIM", "XCFGSET", "MIGRATE", "MOVE", "RENAME",
            "RENAMENX", "SMOVE", "LMOVE", "BLMOVE", "RPOPLPUSH", "BRPOPLPUSH"].map ascii := by
      decide +kernel
    obtain ⟨hdenyoom, hgroup, hother⟩ := hall r.command hmem
    have hupper : toUppercase r.name = r.command := rfl
    simp only [commandMayGrowMemory, Request.argv, Request.spec, hdenyoom, hupper, if_neg hgroup,
      decide_eq_false hother, Bool.false_eq_true, if_false]
  unfold gateError shouldRejectForMaxmemory
  simp [hstrict, hgrow]

/-- `RESET` gets past access control and the gates, whoever sends it. -/
lemma executeQueued_reset {q : QueuedRequest} (now : Int64) (hreset : q.IsReset)
    (htx : conn.client.session.tx = .normal) :
    (executeQueued b q now conn).1.outer = (.normal, false, none) := by
  obtain ⟨hname, hargs⟩ := hreset
  have hallow : allowsExecuteWithoutAuth q.request.command q.request.spec = true := by
    rw [Request.spec, hname]
    rfl
  unfold executeQueued
  rcases executeWith_cases b (runCommand b) q.request now conn with
    ⟨text, haccess, -⟩ | ⟨text, hgate, -⟩ | ⟨-, queue, hasError, hqueue, -⟩ | ⟨-, -, hrun⟩
  · rw [accessError_of_allowWithoutAuth hallow] at haccess
    cases haccess
  · have hmem : q.request.command ∈ sessionCommands := by
      rw [hname]
      decide +kernel
    rw [gateError_session b hmem hargs] at hgate
    cases hgate
  · cases htx.symm.trans hqueue
  · have hdispatch : (runCommand b q.request now (noteCommand b q.request (enter conn))).1.outer =
        (.normal, false, none) := by
      rw [runCommand_reset b now ⟨hname, hargs⟩, outer_cmdReset]
    simp only [Conn.outer, Prod.mk.injEq] at hdispatch
    obtain ⟨hdispatchTx, hdispatchCapture, hdispatchEffects⟩ := hdispatch
    obtain ⟨hfinishTx, hfinishCapture⟩ := outer_finishCommand b q.request
      conn.client.session.selectedDb now
      (runCommand b q.request now (noteCommand b q.request (enter conn)))
    rw [hrun, Conn.outer, hfinishTx, hfinishCapture,
      effects_finishCommand b _ _ _ _ hdispatchCapture, hdispatchTx, hdispatchCapture,
      hdispatchEffects]

/-- Queued commands watch nothing. -/
lemma watched_executeQueued {q : QueuedRequest} (now : Int64)
    (htx : conn.client.session.tx = .normal) (hwatched : conn.client.session.watched = ∅) :
    (executeQueued b q now conn).1.client.session.watched = ∅ := by
  have henter : (enter conn).client.session.watched = ∅ := by
    unfold enter authenticateDefault
    split <;> exact hwatched
  unfold executeQueued
  rcases executeWith_cases b (runCommand b) q.request now conn with
    ⟨text, -, hrun⟩ | ⟨text, -, hrun⟩ | ⟨-, queue, hasError, hqueue, -⟩ | ⟨-, -, hrun⟩
  · rw [hrun]
    exact henter
  · rw [hrun]
    exact henter
  · cases htx.symm.trans hqueue
  · rw [hrun, watched_finishCommand]
    by_cases hreset : q.IsReset
    · rw [runCommand_reset b now hreset]
      rfl
    · exact (congrArg Prod.fst (kept_runCommand b now hreset)).trans henter

end queued

/-! ## The dispatch of a client's request -/

/-- A request by its name, in any case, without arguments. -/
def Request.Is (r : Request) (name : String) : Prop := r.command = ascii name ∧ r.args = []

instance (r : Request) (name : String) : Decidable (r.Is name) :=
  inferInstanceAs (Decidable (_ ∧ _))

/-- Running the requests would need memory that is not there.
Source: `cmd_transaction.rs` `cmd_exec` -/
def lacksMemory (b : Backend σ κ) (requests : List Request) (conn : Conn σ κ) : Bool :=
  conn.server.store.maxmemory != 0 && conn.client.session.bypassDepth == 0 &&
    (requests.any fun r => commandMayGrowMemory r.argv r.spec) &&
    b.memoryLimitExceeded (leaveMulti b conn).server.store

/-- What the dispatch of a request from a client can do. -/
inductive Dispatched (b : Backend σ κ) (r : Request) (now : Int64) (conn : Conn σ κ) :
    Conn σ κ × CommandOutcome → Prop
  | refused (text : Bytes)
      (hend : r.Is "EXEC" ∨ r.Is "DISCARD" → conn.client.session.tx = .normal) :
      Dispatched b r now conn (conn, b.fail text)
  | multi (hr : r.Is "MULTI") (hout : conn.client.session.tx.inMulti = false) :
      Dispatched b r now conn
        (conn.setSession { conn.client.session with tx := .inTransaction [] false }, .reply .ok)
  | aborted {queue : List QueuedRequest} (hr : r.Is "EXEC")
      (htx : conn.client.session.tx = .inTransaction queue true) :
      Dispatched b r now conn (leaveMulti b conn,
        b.fail (ascii "EXECABORT Transaction discarded because of previous errors."))
  | stopped {queue : List QueuedRequest} {outcome : CommandOutcome} (hr : r.Is "EXEC")
      (htx : conn.client.session.tx = .inTransaction queue false)
      (hstop : watchedDirty b now conn.server.store conn.client.session = true ∨
        lacksMemory b (queue.map QueuedRequest.request) conn = true)
      (houtcome : outcome = .reply .nullArray ∨ outcome = b.fail maxmemoryOomText) :
      Dispatched b r now conn (leaveMulti b conn, outcome)
  | ran {queue : List QueuedRequest} (hr : r.Is "EXEC")
      (htx : conn.client.session.tx = .inTransaction queue false)
      (hdirty : watchedDirty b now conn.server.store conn.client.session = false)
      (hmemory : lacksMemory b (queue.map QueuedRequest.request) conn = false) :
      Dispatched b r now conn (runQueue b now queue (leaveMulti b conn))
  | discarded (hr : r.Is "DISCARD") (hin : conn.client.session.tx.inMulti = true) :
      Dispatched b r now conn (leaveMulti b conn, .reply .ok)
  /-- `WATCH` and `UNWATCH`: other keys are watched, and those of `WATCH` that have expired are
  dropped. -/
  | rewatched {keys : List Bytes} {rest : σ} {watched : HashMap (Fin dbCount × Bytes) UInt64}
      (hr : ∀ name ∈ ["MULTI", "EXEC", "DISCARD"], r.command ≠ ascii name)
      (hout : keys = [] ∨ conn.client.session.tx.inMulti = false) :
      Dispatched b r now conn ((conn.setStore
        { keys.foldl (purgeWatched b now conn.client.session.selectedDb) conn.server.store with
          rest := rest }).setSession { conn.client.session with watched := watched }, .reply .ok)
  | run (hmem : r.command ∉ transactionCommands) : Dispatched b r now conn (runCommand b r now conn)

section dispatch

variable (b : Backend σ κ) {conn : Conn σ κ} {r : Request}

/-- Other commands are run as such. -/
lemma dispatchCommand_eq_runCommand (hmem : r.command ∉ transactionCommands) (now : Int64)
    (conn : Conn σ κ) : dispatchCommand b r now conn = runCommand b r now conn := by
  simp only [transactionCommands, List.map_cons, List.map_nil, List.mem_cons, List.not_mem_nil,
    or_false, not_or] at hmem
  obtain ⟨hexec, hdiscard, hmulti, hwatch, hunwatch⟩ := hmem
  rw [dispatchCommand, if_neg hmulti, if_neg hexec, if_neg hdiscard, if_neg hwatch,
    if_neg hunwatch]

lemma dispatched_cmdExec (now : Int64) (hr : r.command = ascii "EXEC") :
    Dispatched b r now conn (cmdExec b r.args now conn) := by
  unfold cmdExec
  dsimp only
  split
  · next hargs => exact .refused _ fun hend => absurd (hend.elim And.right And.right) hargs
  · next hargs =>
    have his : r.Is "EXEC" := ⟨hr, not_not.mp hargs⟩
    split
    · next htx => exact .refused _ fun _ => htx
    · next queue htx => exact .aborted his htx
    · next queue htx =>
      have hany : (queue.any fun q => commandMayGrowMemory q.request.argv q.request.spec) =
          (queue.map QueuedRequest.request).any fun r => commandMayGrowMemory r.argv r.spec := by
        rw [List.any_map]
        rfl
      rw [hany]
      split_ifs with hdirty hmemory
      · exact .stopped his htx (.inl hdirty) (.inl rfl)
      · exact .stopped his htx (.inr hmemory) (.inr rfl)
      · exact .ran his htx (Bool.eq_false_iff.mpr hdirty) (Bool.eq_false_iff.mpr hmemory)

/-- **What the dispatch of a request can do**, case by case. -/
lemma dispatched (r : Request) (now : Int64) (conn : Conn σ κ) :
    Dispatched b r now conn (dispatchCommand b r now conn) := by
  have hnames : (∀ name ∈ ["EXEC", "DISCARD"], ascii "MULTI" ≠ ascii name) ∧
      (∀ name ∈ ["MULTI", "EXEC", "DISCARD"], ascii "WATCH" ≠ ascii name) ∧
      ∀ name ∈ ["MULTI", "EXEC", "DISCARD"], ascii "UNWATCH" ≠ ascii name := by
    decide +kernel
  have hother (h : ∀ name ∈ ["EXEC", "DISCARD"], r.command ≠ ascii name) :
      r.Is "EXEC" ∨ r.Is "DISCARD" → conn.client.session.tx = .normal := by
    rintro (his | his)
    · exact absurd his.1 (h _ (by simp))
    · exact absurd his.1 (h _ (by simp))
  by_cases hmem : r.command ∈ transactionCommands
  · unfold dispatchCommand
    split_ifs with hmulti hexec hdiscard hwatch hunwatch
    · rw [← hmulti] at hnames
      unfold cmdMulti
      dsimp only
      split_ifs with hargs hin
      · exact .refused _ (hother hnames.1)
      · exact .refused _ (hother hnames.1)
      · exact .multi ⟨hmulti, not_not.mp hargs⟩ (Bool.eq_false_iff.mpr hin)
    · exact dispatched_cmdExec b now hexec
    · unfold cmdDiscard
      split_ifs with hargs hin
      · exact .refused _ fun hend => absurd (hend.elim And.right And.right) hargs
      · exact .refused _ fun _ => TransactionState.eq_normal (by simpa using hin)
      · exact .discarded ⟨hdiscard, not_not.mp hargs⟩ (by simpa using hin)
    · rw [← hwatch] at hnames
      have hwatched := List.forall_mem_cons.mp hnames.2.1
      unfold cmdWatch
      dsimp only
      split_ifs with hargs hin
      · exact .refused _ (hother hwatched.2)
      · exact .refused _ (hother hwatched.2)
      · obtain ⟨rest, watched, hkeys⟩ := foldl_watchOne_eq b conn.client.session.selectedDb r.args
          (conn.setStore (r.args.foldl (purgeWatched b now conn.client.session.selectedDb)
            conn.server.store))
        rw [hkeys]
        exact .rewatched hnames.2.1 (.inr (Bool.eq_false_iff.mpr hin))
    · rw [← hunwatch] at hnames
      unfold cmdUnwatch
      split_ifs
      · exact .refused _ (hother (List.forall_mem_cons.mp hnames.2.2).2)
      · exact .rewatched hnames.2.2 (show [] = [] ∨ _ from .inl rfl)
    · simp [transactionCommands, hmulti, hexec, hdiscard, hwatch, hunwatch] at hmem
  · rw [dispatchCommand_eq_runCommand b hmem]
    exact .run hmem

/-- Queueing: refused, which marks the transaction, or done. -/
lemma queueCommand_cases (q : QueuedRequest) (queue : List QueuedRequest) (hasError : Bool)
    (conn : Conn σ κ) :
    (∃ text, queueCommand b q queue hasError conn =
      (conn.setSession { conn.client.session with tx := .inTransaction queue true },
        b.fail text)) ∨
    (validateQueuedCommand conn.server.acl conn.client.session q.request = none ∧
      queueCommand b q queue hasError conn =
        (conn.setSession { conn.client.session with tx := .inTransaction (queue ++ [q]) hasError },
          .reply .queued)) := by
  unfold queueCommand
  dsimp only
  split
  · next text _ => exact .inl ⟨text, rfl⟩
  · next hvalid =>
    split_ifs
    · exact .inl ⟨_, rfl⟩
    · exact .inl ⟨_, rfl⟩
    · exact .inr ⟨hvalid, rfl⟩

end dispatch

end Ratatosk.Engine
