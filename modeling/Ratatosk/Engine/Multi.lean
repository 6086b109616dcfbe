import Ratatosk.Engine.Frames

/-!
# Inside a transaction

What a client does between `MULTI` and `EXEC`, and what `SELECT` and `MULTI` do anywhere.

* `dbs_executeArgv_of_inMulti` — **a request that leaves its client in a transaction changed no
  database**: the commands of a transaction run together, when it is left.
* `inMulti_executeArgv_queued` — a command that is no transaction command does not leave it.
* `inMulti_executeArgv_multi`, `dbs_executeArgv_select` — what `MULTI` and `SELECT` do.
* `executeArgv_queued_clock`, `executeArgv_select_clock`, `executeArgv_multi_clock` — none of
  these reads the clock: the records of the append-only file that carry no timestamp are replayed
  the same at any time.
-/

namespace Ratatosk.Engine

open Lib Keyspace Resp

variable {σ κ : Type} (b : Backend σ κ) {conn : Conn σ κ}

/-- The client is in a transaction. -/
def Conn.inMulti (conn : Conn σ κ) : Bool := conn.client.session.tx.inMulti

/-! ## Around the dispatch -/

section around

@[simp] lemma inMulti_enter (conn : Conn σ κ) : (enter conn).inMulti = conn.inMulti := by
  unfold Conn.inMulti
  rw [tx_enter]

@[simp] lemma inMulti_noteCommand (r : Request) : (noteCommand b r conn).inMulti = conn.inMulti :=
  rfl

@[simp] lemma inMulti_finishCommand (r : Request) (dbBefore : Fin dbCount) (now : Int64)
    (result : Conn σ κ × CommandOutcome) :
    (finishCommand b r dbBefore now result).1.inMulti = result.1.inMulti := by
  unfold Conn.inMulti
  rw [(outer_finishCommand b r dbBefore now result).1]

end around

/-! ## The transaction commands -/

section transaction

lemma queueCommand_inMulti (q : QueuedRequest) (queue : List QueuedRequest) (hasError : Bool) :
    (queueCommand b q queue hasError conn).1.dbs = conn.dbs ∧
      (queueCommand b q queue hasError conn).1.inMulti = true := by
  rcases queueCommand_cases b q queue hasError conn with ⟨text, hqueue⟩ | ⟨-, hqueue⟩
  · rw [hqueue]
    exact ⟨rfl, rfl⟩
  · rw [hqueue]
    exact ⟨rfl, rfl⟩

/-- A queued command leaves its client out of any transaction. -/
lemma tx_executeQueued (q : QueuedRequest) (now : Int64) (htx : conn.client.session.tx = .normal) :
    (executeQueued b q now conn).1.client.session.tx = .normal := by
  by_cases hreset : q.IsReset
  · exact congrArg Prod.fst (executeQueued_reset b now hreset htx)
  · exact (outer_executeQueued b now hreset htx).1

lemma tx_execLoop (now : Int64) (queue : List QueuedRequest) (st : ExecState σ κ)
    (htx : st.conn.client.session.tx = .normal) :
    (execLoop b now queue st).conn.client.session.tx = .normal := by
  exact execLoop_preserves b (P := fun st => st.conn.client.session.tx = .normal)
    (fun st q _ htx => tx_executeQueued b q now htx) htx

/-- The queue ends outside a transaction. -/
lemma tx_runQueue (now : Int64) (queue : List QueuedRequest)
    (htx : conn.client.session.tx = .normal) :
    (runQueue b now queue conn).1.client.session.tx = .normal := by
  have hloop := tx_execLoop b now queue (startExec conn) htx
  rw [runQueue_eq, finishExec]
  dsimp only
  split
  · exact hloop
  · exact hloop

lemma inMulti_runCommand (r : Request) (now : Int64) (hmulti : conn.inMulti = false) :
    (runCommand b r now conn).1.inMulti = false := by
  by_cases hreset : r.command = ascii "RESET" ∧ r.args = []
  · rw [runCommand_reset b now hreset]
    rfl
  · have houter : (runCommand b r now conn).1.outer = conn.outer := outer_runCommand b now hreset
    rw [← hmulti]
    exact congrArg (fun outer => outer.1.inMulti) houter

/-- What the dispatch of a request can make of the transaction of its client. -/
lemma tx_dispatchCommand (r : Request) (now : Int64) (conn : Conn σ κ) :
    (dispatchCommand b r now conn).1.client.session.tx = conn.client.session.tx ∨
      (dispatchCommand b r now conn).1.client.session.tx = .normal ∨
      (dispatchCommand b r now conn).1.client.session.tx = .inTransaction [] false := by
  have hway := dispatched b r now conn
  generalize dispatchCommand b r now conn = result at hway ⊢
  cases hway with
  | refused | rewatched => exact .inl rfl
  | multi => exact .inr (.inr rfl)
  | aborted | stopped | discarded => exact .inr (.inl rfl)
  | ran => exact .inr (.inl (tx_runQueue b now _ rfl))
  | run =>
    by_cases hreset : r.command = ascii "RESET" ∧ r.args = []
    · rw [runCommand_reset b now hreset]
      exact .inr (.inl rfl)
    · exact .inl (congrArg Prod.fst (outer_runCommand b now hreset))

/-- The dispatch of a request that leaves its client in a transaction changes no database. -/
lemma dbs_dispatchCommand_of_inMulti {r : Request} {now : Int64}
    (hmem : conn.inMulti = true → r.command ∈ transactionCommands)
    (h : (dispatchCommand b r now conn).1.inMulti = true) :
    (dispatchCommand b r now conn).1.dbs = conn.dbs := by
  have hway := dispatched b r now conn
  generalize dispatchCommand b r now conn = result at hway h ⊢
  cases hway with
  | refused | multi | aborted | stopped | discarded => rfl
  | ran =>
    rw [Conn.inMulti, tx_runQueue b now _ rfl] at h
    cases h
  | rewatched _ hout =>
    rcases hout with rfl | hout
    · rfl
    · exact absurd h (Bool.eq_false_iff.mp hout)
  | run hnot =>
    -- no transaction command: the client was in no transaction, and still is in none
    have hout : conn.inMulti = false := Bool.eq_false_iff.mpr fun hin => hnot (hmem hin)
    rw [inMulti_runCommand b r now hout] at h
    cases h

end transaction

/-! ## Requests -/

/-- **A request that leaves its client in a transaction changed no database.** -/
theorem dbs_executeArgv_of_inMulti {r : Request} {now : Int64}
    (h : (executeArgv b r now conn).1.inMulti = true) :
    (executeArgv b r now conn).1.dbs = conn.dbs := by
  unfold executeArgv at h ⊢
  rcases executeWith_cases b (dispatchCommand b) r now conn with
    ⟨text, -, hrun⟩ | ⟨text, -, hrun⟩ | ⟨_, queue, hasError, -, hrun⟩ | ⟨-, hmem, hrun⟩
  · rw [hrun]
    rfl
  · rw [hrun]
    rfl
  · rw [hrun]
    exact (queueCommand_inMulti b _ _ _).1
  · rw [hrun, inMulti_finishCommand] at h
    rw [hrun, dbs_finishCommand]
    have hmem' : (noteCommand b r (enter conn)).inMulti = true →
        r.command ∈ transactionCommands := by
      rw [inMulti_noteCommand, inMulti_enter]
      exact hmem
    exact (dbs_dispatchCommand_of_inMulti b hmem' h).trans rfl

/-- Queueing stays in the transaction. -/
lemma inMulti_executeArgv_queued {r : Request} (now : Int64) (hmulti : conn.inMulti = true)
    (hmem : r.command ∉ transactionCommands) : (executeArgv b r now conn).1.inMulti = true := by
  unfold executeArgv
  rcases executeWith_cases b (dispatchCommand b) r now conn with
    ⟨text, -, hrun⟩ | ⟨text, -, hrun⟩ | ⟨_, queue, hasError, -, hrun⟩ | ⟨-, htransaction, -⟩
  · rw [hrun, inMulti_enter, hmulti]
  · rw [hrun, inMulti_noteCommand, inMulti_enter, hmulti]
  · rw [hrun]
    exact (queueCommand_inMulti b _ _ _).2
  · exact absurd (htransaction hmulti) hmem

lemma inMulti_executeArgv_multi {r : Request} (now : Int64) (hr : r.command = ascii "MULTI") :
    (∃ text, (executeArgv b r now conn).2 = b.fail text) ∨
      (executeArgv b r now conn).1.inMulti = true := by
  unfold executeArgv
  rcases executeWith_cases b (dispatchCommand b) r now conn with
    ⟨text, -, hrun⟩ | ⟨text, -, hrun⟩ | ⟨_, queue, hasError, -, hrun⟩ | ⟨-, -, hrun⟩
  · exact Or.inl ⟨text, congrArg Prod.snd hrun⟩
  · exact Or.inl ⟨text, congrArg Prod.snd hrun⟩
  · rw [hrun]
    exact .inr (queueCommand_inMulti b _ _ _).2
  · rw [hrun, outcome_finishCommand, inMulti_finishCommand, dispatchCommand, if_pos hr, cmdMulti]
    split_ifs
    · exact Or.inl ⟨_, rfl⟩
    · exact Or.inl ⟨_, rfl⟩
    · exact Or.inr rfl

lemma dispatchCommand_select {r : Request} (hr : r.command = ascii "SELECT") (now : Int64)
    (conn : Conn σ κ) : dispatchCommand b r now conn = cmdSelect b r.args conn := by
  have hname : ascii "SELECT" ∉ transactionCommands ∧ commandKind (ascii "SELECT") = .select := by
    decide +kernel
  rw [← hr] at hname
  rw [dispatchCommand_eq_runCommand b hname.1]
  simp only [runCommand, hname.2]

/-- `SELECT` changes no database. -/
lemma dbs_executeArgv_select {r : Request} (now : Int64) (hr : r.command = ascii "SELECT") :
    (executeArgv b r now conn).1.dbs = conn.dbs := by
  unfold executeArgv
  rcases executeWith_cases b (dispatchCommand b) r now conn with
    ⟨text, -, hrun⟩ | ⟨text, -, hrun⟩ | ⟨_, queue, hasError, -, hrun⟩ | ⟨-, -, hrun⟩
  · rw [hrun]
    rfl
  · rw [hrun]
    rfl
  · rw [hrun]
    exact (queueCommand_inMulti b _ _ _).1
  · rw [hrun, dbs_finishCommand, dispatchCommand_select b hr]
    exact congrArg (fun framed => framed.2.1) (framed_cmdSelect b r.args)

/-! ## The clock -/

section clock

variable (now now' : Int64)

/-- A command that is never logged and whose dispatch does not read the clock does not read it. -/
lemma executeArgv_clock {r : Request} (hr : r.command ∈ unloggedCommands)
    (hdispatch : ∀ conn, dispatchCommand b r now conn = dispatchCommand b r now' conn) :
    executeArgv b r now conn = executeArgv b r now' conn := by
  have hfinish (dbBefore : Fin dbCount) (result : Conn σ κ × CommandOutcome) :
      finishCommand b r dbBefore now result = finishCommand b r dbBefore now' result := by
    simp only [finishCommand, captureDurabilityEffects_unlogged hr]
  simp only [executeArgv, executeWith, admitted, hdispatch, hfinish]

/-- `SELECT` reads no clock. -/
lemma executeArgv_select_clock {r : Request} (hr : r.command = ascii "SELECT") :
    executeArgv b r now conn = executeArgv b r now' conn := by
  refine executeArgv_clock b now now' ?_ ?_
  · rw [hr]
    decide +kernel
  · intro conn
    rw [dispatchCommand_select b hr, dispatchCommand_select b hr]

/-- `MULTI` reads none. -/
lemma executeArgv_multi_clock {r : Request} (hr : r.command = ascii "MULTI") :
    executeArgv b r now conn = executeArgv b r now' conn := by
  refine executeArgv_clock b now now' ?_ ?_
  · rw [hr]
    decide +kernel
  · intro conn
    simp only [dispatchCommand, if_pos hr]

/-- Queueing reads none. -/
lemma executeArgv_queued_clock {r : Request} (hmulti : conn.inMulti = true)
    (hmem : r.command ∉ transactionCommands) :
    executeArgv b r now conn = executeArgv b r now' conn := by
  have htx : (noteCommand b r (enter conn)).client.session.tx = conn.client.session.tx :=
    tx_enter conn
  unfold executeArgv executeWith admitted
  simp only [htx]
  unfold Conn.inMulti at hmulti
  cases hmode : conn.client.session.tx with
  | normal =>
    rw [hmode] at hmulti
    cases hmulti
  | inTransaction queue hasError => simp only [dif_neg hmem]

end clock

end Ratatosk.Engine
