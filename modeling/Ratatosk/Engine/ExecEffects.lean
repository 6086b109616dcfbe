import Ratatosk.Engine.Frames

/-!
# What EXEC logs

The effects of a committed `EXEC` against those its commands would have had one by one.

* `exec_effects_iff` — `EXEC` logs the concatenation of these exactly when no command that runs
  after a `RESET` of the same queue would log anything.
* `reset_then_set_logs_nothing` — a queue on which it does not: the write after the `RESET` is
  done and is not logged.

`RESET` makes the client as new, and a new client does not capture effects; the server turns the
capture on again before the next request, but `EXEC` does not before its next command.
-/

namespace Ratatosk.Engine

open Lib Keyspace Resp

variable {σ κ : Type} (b : Backend σ κ)

/-! ## The run of a queue -/

/-- The commands that the loop over a queue runs, each with the connection it starts from. -/
def execTrace (now : Int64) : List QueuedRequest → Conn σ κ → List (QueuedRequest × Conn σ κ)
  | [], _ => []
  | q :: queue, conn =>
    let (next, outcome) := executeQueued b q now conn
    (q, conn) :: if outcome.close then [] else execTrace now queue (next.setEffects none)

/-- What a command of the run adds to the effects of `EXEC`. -/
def ownEffects (now : Int64) (step : QueuedRequest × Conn σ κ) : List DurableCommand :=
  effectCommands (executeQueued b step.1 now step.2).1.client.effects

/-- The connection with the capture of effects on, as the server has it before a request. -/
def Conn.capturing (conn : Conn σ κ) : Conn σ κ :=
  { conn with client := { conn.client with captureEnabled := true } }

/-- What a command of the run would log if the client had sent it by itself. -/
def aloneEffects (now : Int64) (step : QueuedRequest × Conn σ κ) : List DurableCommand :=
  effectCommands (executeArgv b step.1.request now step.2.capturing).1.client.effects

/-- The loop over a queue, command by command: what every round extends by the command that it runs
is extended by the run. -/
lemma execLoop_trace {now : Int64} {P : List (QueuedRequest × Conn σ κ) → ExecState σ κ → Prop}
    (hstep : ∀ ran st q, P ran st → P (ran ++ [(q, st.conn)]) (execStep b now st q))
    (queue : List QueuedRequest) (ran : List (QueuedRequest × Conn σ κ)) {st : ExecState σ κ}
    (hclose : st.outcome.close = false) (h : P ran st) :
    P (ran ++ execTrace b now queue st.conn) (execLoop b now queue st) := by
  induction queue generalizing ran st with
  | nil => rwa [execTrace, List.append_nil]
  | cons q queue ih =>
    have hstop : (execStep b now st q).outcome.close =
        (executeQueued b q now st.conn).2.close := by
      simp [execStep, hclose]
    simp only [execLoop, execTrace, hstop]
    split
    · exact hstep ran st q h
    · next hopen =>
        rw [List.append_cons]
        exact ih _ (hstop.trans (by simpa using hopen)) (hstep ran st q h)

/-- The loop gathers the effects of the commands it runs, in order. -/
lemma durableCommands_execLoop (now : Int64) (queue : List QueuedRequest) (st : ExecState σ κ)
    (hclose : st.outcome.close = false) :
    (execLoop b now queue st).durableCommands =
      st.durableCommands ++ (execTrace b now queue st.conn).flatMap (ownEffects b now) := by
  refine execLoop_trace b (P := fun ran st' =>
    st'.durableCommands = st.durableCommands ++ ran.flatMap (ownEffects b now)) ?_ queue [] hclose
    (by simp)
  intro ran st' q h
  have hgathered : (execStep b now st' q).durableCommands =
      st'.durableCommands ++ ownEffects b now (q, st'.conn) := rfl
  rw [hgathered, h, List.flatMap_append, List.flatMap_singleton, List.append_assoc]

lemma effects_execLoop (now : Int64) (queue : List QueuedRequest) (st : ExecState σ κ)
    (heffects : st.conn.client.effects = none) :
    (execLoop b now queue st).conn.client.effects = none := by
  have hstep (st : ExecState σ κ) (q : QueuedRequest) :
      (execStep b now st q).conn.client.effects = none := rfl
  exact execLoop_preserves b (P := fun st => st.conn.client.effects = none)
    (fun st q _ _ => hstep st q) heffects

lemma effectCommands_runQueue (now : Int64) (queue : List QueuedRequest) (conn : Conn σ κ)
    (heffects : conn.client.effects = none) :
    effectCommands (runQueue b now queue conn).1.client.effects =
      (execTrace b now queue (execStart conn)).flatMap (ownEffects b now) := by
  have hgathered : _ = (execTrace b now queue (execStart conn)).flatMap (ownEffects b now) :=
    durableCommands_execLoop b now queue (startExec conn) rfl
  rw [← hgathered, runQueue_eq, finishExec]
  dsimp only
  split
  · next hempty =>
      have hnone : effectCommands none = [] := rfl
      simp only [Conn.setStore_client, Conn.setSession_effects]
      rw [effects_execLoop b now queue _ heffects, hnone, hempty]
  · rfl

/-! ## One command -/

/-- A queued command runs as it does when the client sends it. -/
lemma executeArgv_of_queued (q : QueuedRequest) (now : Int64) (conn : Conn σ κ) :
    executeArgv b q.request now conn = executeQueued b q now conn := by
  have hdispatch : dispatchCommand b q.request now = runCommand b q.request now :=
    funext (dispatchCommand_eq_runCommand b q.queueable now)
  unfold executeArgv executeQueued executeWith admitted
  simp only [hdispatch]

/-- While effects are captured, a command of the run logs what it would log alone. -/
lemma ownEffects_of_capturing (now : Int64) {q : QueuedRequest} {conn : Conn σ κ}
    (hcapture : conn.client.captureEnabled = true) :
    ownEffects b now (q, conn) = aloneEffects b now (q, conn) := by
  have hconn : conn.capturing = conn := by
    unfold Conn.capturing
    rw [← hcapture]
  unfold ownEffects aloneEffects
  rw [executeArgv_of_queued, hconn]

/-- Once effects are no longer captured, none are for the rest of the run. -/
lemma flatMap_ownEffects_of_not_capturing (now : Int64) (queue : List QueuedRequest)
    (conn : Conn σ κ) (htx : conn.client.session.tx = .normal)
    (hcapture : conn.client.captureEnabled = false) :
    (execTrace b now queue conn).flatMap (ownEffects b now) = [] := by
  induction queue generalizing conn with
  | nil => rfl
  | cons q queue ih =>
    -- a `RESET` here turns off what is off already
    have hnext : (executeQueued b q now conn).1.client.session.tx = .normal ∧
        (executeQueued b q now conn).1.client.captureEnabled = false ∧
        (executeQueued b q now conn).1.client.effects = none := by
      by_cases hreset : q.IsReset
      · simpa only [Conn.outer, Prod.mk.injEq] using executeQueued_reset b now hreset htx
      · obtain ⟨htx', hcapture', heffects⟩ := outer_executeQueued b now hreset htx
        exact ⟨htx', hcapture'.trans hcapture, heffects hcapture⟩
    have hnone : ownEffects b now (q, conn) = [] := by
      unfold ownEffects
      rw [hnext.2.2]
      rfl
    simp only [execTrace, List.flatMap_cons, hnone, List.nil_append]
    split
    · rfl
    · exact ih _ hnext.1 hnext.2.1

/-! ## The whole queue -/

/-- A run that starts with effects captured logs what its commands would log alone, exactly when
those after a `RESET` would log nothing. -/
lemma flatMap_ownEffects_iff (now : Int64) (queue : List QueuedRequest) (conn : Conn σ κ)
    (htx : conn.client.session.tx = .normal) (hcapture : conn.client.captureEnabled = true) :
    (execTrace b now queue conn).flatMap (ownEffects b now) =
        (execTrace b now queue conn).flatMap (aloneEffects b now) ↔
      (execTrace b now queue conn).Pairwise fun earlier later =>
        earlier.1.IsReset → aloneEffects b now later = [] := by
  induction queue generalizing conn with
  | nil => simp [execTrace]
  | cons q queue ih =>
    simp only [execTrace, List.flatMap_cons, ownEffects_of_capturing b now hcapture,
      List.append_cancel_left_eq, List.pairwise_cons]
    by_cases hreset : q.IsReset
    · -- from here on nothing is captured, so the rest must have nothing to log
      have houter := executeQueued_reset b now hreset htx
      simp only [Conn.outer, Prod.mk.injEq] at houter
      have hrest : (if (executeQueued b q now conn).2.close = true then []
          else execTrace b now queue ((executeQueued b q now conn).1.setEffects none)).flatMap
            (ownEffects b now) = [] := by
        split
        · rfl
        · exact flatMap_ownEffects_of_not_capturing b now queue _ houter.1 houter.2.1
      rw [hrest, eq_comm, List.flatMap_eq_nil_iff]
      constructor
      · intro h
        refine ⟨fun later hlater _ => h later hlater, ?_⟩
        exact List.pairwise_of_forall_mem_list fun _ _ later hlater _ => h later hlater
      · rintro ⟨h, -⟩ later hlater
        exact h later hlater hreset
    · obtain ⟨htx', hcapture', -⟩ := outer_executeQueued b now hreset htx
      split
      · simp
      · rw [ih ((executeQueued b q now conn).1.setEffects none) htx'
          (hcapture'.trans hcapture)]
        simp only [hreset, false_imp_iff, implies_true, true_and]

/-- The connection that the commands of an `EXEC` start from. -/
def execEntry (r : Request) (conn : Conn σ κ) : Conn σ κ :=
  execStart (leaveMulti b (noteCommand b r (enter conn)))

/-- The reply of `EXEC` that says the queue was run: an array. -/
def Committed (outcome : CommandOutcome) : Prop :=
  (match outcome.response with
    | .array _ => true
    | _ => false) = true

instance (outcome : CommandOutcome) : Decidable (Committed outcome) :=
  inferInstanceAs (Decidable (_ = true))

/-- An error commits nothing. -/
lemma not_committed_fail (text : Bytes) : ¬ Committed (b.fail text) := by
  intro h
  cases h

/-- An `EXEC` that commits ran its queue, from `execEntry`. -/
lemma executeArgv_exec_of_committed {r : Request} {now : Int64} {conn : Conn σ κ}
    {queue : List QueuedRequest} (hr : r.command = ascii "EXEC")
    (htx : conn.client.session.tx = .inTransaction queue false)
    (hcommit : Committed (executeArgv b r now conn).2) :
    executeArgv b r now conn = finishCommand b r conn.client.session.selectedDb now
      (runQueue b now queue (leaveMulti b (noteCommand b r (enter conn)))) := by
  have hmem : r.command ∈ transactionCommands := by
    rw [hr]
    simp [transactionCommands]
  have hway := dispatched b r now (noteCommand b r (enter conn))
  unfold executeArgv at hcommit ⊢
  -- every branch but one replies something else than an array
  rcases executeWith_cases b (dispatchCommand b) r now conn with
    ⟨text, -, hrun⟩ | ⟨text, -, hrun⟩ | ⟨hnot, -⟩ | ⟨-, -, hrun⟩
  · rw [hrun] at hcommit
    exact absurd hcommit (not_committed_fail b text)
  · rw [hrun] at hcommit
    exact absurd hcommit (not_committed_fail b text)
  · exact absurd hmem hnot
  · rw [hrun, outcome_finishCommand] at hcommit
    rw [hrun]
    generalize dispatchCommand b r now (noteCommand b r (enter conn)) = result at hway hcommit ⊢
    cases hway with
    | refused text => exact absurd hcommit (not_committed_fail b text)
    | aborted => exact absurd hcommit (not_committed_fail b _)
    | multi | discarded | rewatched => cases hcommit
    | stopped _ _ _ houtcome =>
      rcases houtcome with rfl | rfl
      · cases hcommit
      · exact absurd hcommit (not_committed_fail b _)
    | ran _ htx' =>
      cases (tx_enter conn).symm.trans htx' |>.symm.trans htx
      rfl
    | run hnot => exact absurd hmem hnot

/-- **What `EXEC` logs.** The effects of a committed `EXEC` are those its commands would have had
one by one, in order, exactly when no command that runs after a `RESET` of the same queue would
log anything. -/
theorem exec_effects_iff {r : Request} {now : Int64} {conn : Conn σ κ}
    {queue : List QueuedRequest} (hr : r.command = ascii "EXEC")
    (hcapture : conn.client.captureEnabled = true)
    (htx : conn.client.session.tx = .inTransaction queue false)
    (hcommit : Committed (executeArgv b r now conn).2) :
    effectCommands (executeArgv b r now conn).1.client.effects =
        (execTrace b now queue (execEntry b r conn)).flatMap (aloneEffects b now) ↔
      (execTrace b now queue (execEntry b r conn)).Pairwise fun earlier later =>
        earlier.1.IsReset → aloneEffects b now later = [] := by
  have henter := outer_enter conn
  simp only [Conn.outer, Prod.mk.injEq] at henter
  obtain ⟨-, hcapture', heffects'⟩ := henter
  have hlogged : effectCommands (executeArgv b r now conn).1.client.effects =
      (execTrace b now queue (execEntry b r conn)).flatMap (ownEffects b now) := by
    have hqueue := effectCommands_runQueue b now queue
      (leaveMulti b (noteCommand b r (enter conn))) heffects'
    rw [executeArgv_exec_of_committed b hr htx hcommit]
    unfold finishCommand
    simp only [hr, bne_self_eq_false, Bool.and_false]
    exact hqueue
  rw [hlogged]
  exact flatMap_ownEffects_iff b now queue (execEntry b r conn) rfl
    (hcapture'.trans hcapture)

/-! ## A queue that loses a write -/

/-- `RESET` in a queue. -/
def queuedReset : QueuedRequest := ⟨⟨ascii "RESET", []⟩, by decide +kernel⟩

/-- `SET k v` in a queue. -/
def queuedSet : QueuedRequest := ⟨⟨ascii "SET", [ascii "k", ascii "v"]⟩, by decide +kernel⟩

/-- A client of an empty server that has queued the commands, with effects captured. -/
def queuedConn (queue : List QueuedRequest) : Conn Unit Unit where
  server := emptyServer
  client :=
    { session := { (Client.new ()).session with tx := .inTransaction queue false }
      captureEnabled := true
      effects := none }

/-- The request `EXEC`. -/
def execRequest : Request := ⟨ascii "EXEC", []⟩

/-- A write, a `RESET` and a read. -/
def writeThenReset : List QueuedRequest :=
  [queuedSet, queuedReset, ⟨⟨ascii "GET", [ascii "k"]⟩, by decide +kernel⟩]

/-- A queue with no write behind its `RESET` logs the one before it. -/
theorem exec_logs_set :
    Committed (executeArgv .bare execRequest 1 (queuedConn writeThenReset)).2 ∧
      effectCommands (executeArgv .bare execRequest 1
          (queuedConn writeThenReset)).1.client.effects =
        (execTrace .bare 1 writeThenReset (execEntry .bare execRequest
          (queuedConn writeThenReset))).flatMap (aloneEffects .bare 1) ∧
      effectCommands (executeArgv .bare execRequest 1
          (queuedConn writeThenReset)).1.client.effects =
        [⟨⟨0, by decide⟩, [ascii "SET", ascii "k", ascii "v"]⟩] := by
  have hcommit : Committed (executeArgv .bare execRequest 1 (queuedConn writeThenReset)).2 := by
    decide +kernel
  refine ⟨hcommit, ?_, by decide +kernel⟩
  apply (exec_effects_iff .bare (by decide +kernel) rfl rfl hcommit).mpr
  decide +kernel

/-- A `RESET` before the write: `EXEC` commits, the key is stored, the write alone would have
been logged, and nothing is. -/
theorem reset_then_set_logs_nothing :
    Committed (executeArgv .bare execRequest 1 (queuedConn [queuedReset, queuedSet])).2 ∧
      (((executeArgv .bare execRequest 1
          (queuedConn [queuedReset, queuedSet])).1.server.store.dbs ⟨0, by decide⟩).lookup
            (ascii "k")).isSome = true ∧
      (execTrace .bare 1 [queuedReset, queuedSet] (execEntry .bare execRequest
          (queuedConn [queuedReset, queuedSet]))).flatMap (aloneEffects .bare 1) =
        [⟨⟨0, by decide⟩, [ascii "SET", ascii "k", ascii "v"]⟩] ∧
      effectCommands (executeArgv .bare execRequest 1
        (queuedConn [queuedReset, queuedSet])).1.client.effects = [] := by
  refine ⟨?_, ?_, ?_, ?_⟩
  · decide +kernel
  · decide +kernel
  · decide +kernel
  · decide +kernel

end Ratatosk.Engine
