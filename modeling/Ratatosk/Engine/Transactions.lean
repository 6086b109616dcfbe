import Ratatosk.Engine.ExecEffects
import Ratatosk.Engine.Multi
import Ratatosk.Resp.Replies

/-!
# The transaction of a client, as the client sees it

A client knows of its transaction only what the replies say. Here the two are compared, over
every sequence of requests of one client and whatever other clients do to the server in between.

* `TxView`, `TxView.after` — the transaction as the replies tell it: the requests answered
  `QUEUED` since `MULTI`, and whether any was rejected.
* `sendAll` — requests one after the other, each a request of its own.
* `StepConforms`, `Conforms` — what the replies promise. `EXEC` does what its client's requests
  that were answered `QUEUED` do one by one, in order and once each, unless a watched key changed
  or memory is short; it answers `EXECABORT` and runs none if any was rejected; after `EXEC`,
  `DISCARD` and `RESET` the client is out of the transaction and watches nothing.
* `failsQueueChecks` — when a request is refused as one that cannot be queued.
* **`conforms_iff_regular`** — a sequence of requests conforms exactly if it is regular.
* `refused_command_does_not_abort` — one that is not, and does not: a command refused by access
  control does not abort the transaction.
* `encode_runQueue` — **each reply of `EXEC` is encoded for the protocol of its own command.**
-/

namespace Ratatosk.Engine

open Lib Keyspace Resp List Option Bool

variable {σ κ : Type}

/-! ## What the replies tell -/

section view

/-- The reply `QUEUED`. -/
def isQueuedReply : RespFrame → Bool
  | .simpleString value => value == ascii "QUEUED"
  | _ => false

/-- A transaction as the replies tell it. -/
structure TxView where
  /-- The requests that were answered `QUEUED`, in order. -/
  queued : List Request
  /-- A request was answered with an error. -/
  rejected : Bool
  deriving Repr, DecidableEq

/-- The transaction of a client after one more reply. -/
def TxView.after (view : Option TxView) (r : Request) (response : RespFrame) : Option TxView :=
  match view with
  | none => if r.Is "MULTI" ∧ isErrorReply response = false then some ⟨[], false⟩ else none
  | some v =>
    if isQueuedReply response then some { v with queued := v.queued ++ [r] }
    else if r.Is "EXEC" ∨ r.Is "DISCARD" then none
    else some { v with rejected := v.rejected || isErrorReply response }

/-- A request of the client, with the server as other clients left it. -/
structure Turn (σ : Type) where
  server : ServerState σ
  request : Request
  now : Int64

end view

/-! ## What the replies promise, and when -/

section conforms

variable (b : Backend σ κ)

/-- Source: `cmd_transaction.rs` `cmd_exec` -/
def execAbortText : Bytes := ascii "EXECABORT Transaction discarded because of previous errors."

/-- The client is out of any transaction and watches nothing. -/
def Conn.Left (conn : Conn σ κ) : Prop :=
  conn.client.session.tx = .normal ∧ conn.client.session.watched = ∅

/-- Requests one after the other, each a request of its own: where they lead, and their replies. -/
def sendAll (now : Int64) : List Request → Conn σ κ → Conn σ κ × List RespFrame
  | [], conn => (conn, [])
  | r :: requests, conn =>
    let (next, outcome) := executeArgv b r now conn
    let (last, replies) := sendAll now requests next
    (last, outcome.response :: replies)

/-- `EXEC` left what the requests that were answered `QUEUED` leave when they are sent in order and
once each, and answered each of them as it is answered then, marked perhaps with its protocol. -/
structure RanAll (v : TxView) (r : Request) (now : Int64) (conn : Conn σ κ) : Prop where
  dbs : (executeArgv b r now conn).1.dbs = (sendAll b now v.queued (execEntry b r conn)).1.dbs
  acl : (executeArgv b r now conn).1.server.acl =
    (sendAll b now v.queued (execEntry b r conn)).1.server.acl
  replies : ∃ replies, (executeArgv b r now conn).2.response = .array replies ∧
    List.Forall₂ (fun own reply => reply = own ∨ ∃ version, reply = .versioned version own)
      (sendAll b now v.queued (execEntry b r conn)).2 replies

/-- What may keep `EXEC` from running its requests: a watched key that changed or expired, and
memory that the requests need and that is not there. -/
def Prevented (v : TxView) (r : Request) (now : Int64) (conn : Conn σ κ) : Prop :=
  let noted := noteCommand b r (enter conn)
  watchedDirty b now noted.server.store noted.client.session = true ∨
    lacksMemory b v.queued noted = true

/-- What an `EXEC` owes to the replies before it. -/
structure ExecConforms (v : TxView) (r : Request) (now : Int64) (conn : Conn σ κ) : Prop where
  aborts : v.rejected = true →
    (executeArgv b r now conn).2.response = b.err execAbortText ∧
      (executeArgv b r now conn).1.dbs = conn.dbs
  stops : v.rejected = false → Prevented b v r now conn →
    ¬ Committed (executeArgv b r now conn).2 ∧ (executeArgv b r now conn).1.dbs = conn.dbs
  runs : v.rejected = false → ¬ Prevented b v r now conn → RanAll b v r now conn

/-- What a request owes to the replies before it. -/
structure StepConforms (view : Option TxView) (r : Request) (now : Int64) (conn : Conn σ κ) :
    Prop where
  exec : r.Is "EXEC" → ∀ v, view = some v →
    ExecConforms b v r now conn ∧ (executeArgv b r now conn).1.Left
  discard : r.Is "DISCARD" → view.isSome = true → (executeArgv b r now conn).1.Left
  reset : r.Is "RESET" → (executeArgv b r now conn).1.Left

/-- Every request of a sequence keeps what the replies promise. -/
def Conforms : Option TxView → Client κ → List (Turn σ) → Prop
  | _, _, [] => True
  | view, client, turn :: turns =>
    let result := executeArgv b turn.request turn.now ⟨turn.server, client⟩
    StepConforms b view turn.request turn.now ⟨turn.server, client⟩ ∧
      Conforms (TxView.after view turn.request result.2.response) result.1.client turns

/-- Access control lets the request pass. -/
def Allowed (r : Request) (conn : Conn σ κ) : Prop :=
  accessError (enter conn).server.acl (enter conn).client.session r = none

instance decidableAllowed (r : Request) (conn : Conn σ κ) : Decidable (Allowed r conn) :=
  inferInstanceAs (Decidable (_ = none))

/-- A request of a client in a transaction cannot be queued: it is no command, has the wrong number
of arguments, is not for this user, needs memory that is not there, or comes behind a full queue. -/
def failsQueueChecks (r : Request) (queued : Nat) (conn : Conn σ κ) : Bool :=
  let noted := noteCommand b r (enter conn)
  decide (r.command ∉ transactionCommands) && decide (Allowed r conn) &&
    ((match findCommandSpec r.name with
      | none => true
      | some spec => !commandArityMatches spec.arity r.argv.length ||
          (!spec.flags.contains .noAuth && !noted.server.acl.commandAllowedMask
            noted.client.session.aclUser (aclRequiredCategories spec))) ||
      shouldRejectForMaxmemory b r noted.server.store noted.client.session ||
      decide (maxTxQueueSize ≤ queued))

/-- Whether some request of the transaction failed these checks, after one more. -/
def failedAfter (view : Option TxView) (failed : Bool) (r : Request) (conn : Conn σ κ) : Bool :=
  match view with
  | none => false
  | some v => failed || failsQueueChecks b r v.queued.length conn

/-- No request but the last closes the connection. -/
def StaysOpen (now : Int64) : List Request → Conn σ κ → Prop
  | [], _ => True
  | r :: requests, conn =>
    (requests = [] ∨ (executeArgv b r now conn).2.close = false) ∧
      StaysOpen now requests (executeArgv b r now conn).1

instance decidableStaysOpen (now : Int64) :
    (requests : List Request) → (conn : Conn σ κ) → Decidable (StaysOpen b now requests conn)
  | [], _ => isTrue trivial
  | r :: requests, conn =>
    have := decidableStaysOpen now requests (executeArgv b r now conn).1
    inferInstanceAs (Decidable ((requests = [] ∨ (executeArgv b r now conn).2.close = false) ∧
      StaysOpen b now requests (executeArgv b r now conn).1))

/-- What an `EXEC` has to meet. If a request was rejected, one was rejected because it could not be
queued, and no request but the last must close the connection. -/
structure ExecRegular (v : TxView) (failed : Bool) (r : Request) (now : Int64) (conn : Conn σ κ) :
    Prop where
  allowed : Allowed r conn
  rejected : v.rejected = true → failed = true
  staysOpen : v.rejected = false → ¬ Prevented b v r now conn →
    StaysOpen b now v.queued (execEntry b r conn)

/-- What a request has to meet. -/
structure StepRegular (view : Option TxView) (failed : Bool) (r : Request) (now : Int64)
    (conn : Conn σ κ) : Prop where
  exec : r.Is "EXEC" → ∀ v, view = some v → ExecRegular b v failed r now conn
  discard : r.Is "DISCARD" → view.isSome = true → Allowed r conn
  reset : r.Is "RESET" → view = none

instance decidablePrevented (v : TxView) (r : Request) (now : Int64) (conn : Conn σ κ) :
    Decidable (Prevented b v r now conn) :=
  inferInstanceAs (Decidable (_ = true ∨ _ = true))

instance decidableExecRegular (v : TxView) (failed : Bool) (r : Request) (now : Int64)
    (conn : Conn σ κ) : Decidable (ExecRegular b v failed r now conn) :=
  decidable_of_iff (Allowed r conn ∧ (v.rejected = true → failed = true) ∧
      (v.rejected = false → ¬ Prevented b v r now conn →
        StaysOpen b now v.queued (execEntry b r conn)))
    ⟨fun h => ⟨h.1, h.2.1, h.2.2⟩, fun h => ⟨h.allowed, h.rejected, h.staysOpen⟩⟩

instance decidableStepRegular (view : Option TxView) (failed : Bool) (r : Request) (now : Int64)
    (conn : Conn σ κ) : Decidable (StepRegular b view failed r now conn) :=
  decidable_of_iff
    ((r.Is "EXEC" → view.all (fun v => decide (ExecRegular b v failed r now conn)) = true) ∧
      (r.Is "DISCARD" → view.isSome = true → Allowed r conn) ∧ (r.Is "RESET" → view = none))
    ⟨fun h => ⟨fun hr v hview => by simpa [hview] using h.1 hr, h.2.1, h.2.2⟩,
      fun h => ⟨fun hr => by
        cases hview : view with
        | none => rfl
        | some v => simpa using h.exec hr v hview, h.discard, h.reset⟩⟩

/-- Every request of a sequence meets the condition. -/
def Regular : Option TxView → Bool → Client κ → List (Turn σ) → Prop
  | _, _, _, [] => True
  | view, failed, client, turn :: turns =>
    let result := executeArgv b turn.request turn.now ⟨turn.server, client⟩
    StepRegular b view failed turn.request turn.now ⟨turn.server, client⟩ ∧
      Regular (TxView.after view turn.request result.2.response)
        (failedAfter b view failed turn.request ⟨turn.server, client⟩) result.1.client turns

instance decidableRegular : (view : Option TxView) → (failed : Bool) → (client : Client κ) →
    (turns : List (Turn σ)) → Decidable (Regular b view failed client turns)
  | _, _, _, [] => isTrue trivial
  | _, _, _, _ :: turns => @instDecidableAnd _ _ _ (decidableRegular _ _ _ turns)

/-- The transaction as the replies tell it, against the state. -/
def Sync (view : Option TxView) (failed : Bool) (tx : TransactionState) : Prop :=
  match view, tx with
  | none, .normal => True
  | some v, .inTransaction queue hasError =>
    queue.map QueuedRequest.request = v.queued ∧ hasError = failed ∧
      (failed = true → v.rejected = true)
  | _, _ => False

end conforms

/-! ## The run of a queue -/

section queue

variable (b : Backend σ κ)

/-- What a request does depends on no effects captured before it. -/
lemma executeArgv_setEffects (r : Request) (now : Int64) (conn : Conn σ κ)
    (effects : Option DurabilityEffects) :
    executeArgv b r now (conn.setEffects effects) = executeArgv b r now conn := rfl

/-- Requests that are sent one after the other start from no effects captured before them. -/
lemma sendAll_setEffects (now : Int64) (requests : List Request) (conn : Conn σ κ)
    (effects : Option DurabilityEffects) :
    (sendAll b now requests (conn.setEffects effects)).2 = (sendAll b now requests conn).2 ∧
      (sendAll b now requests (conn.setEffects effects)).1.server =
        (sendAll b now requests conn).1.server := by
  cases requests with
  | nil => exact ⟨rfl, rfl⟩
  | cons r requests =>
    rw [sendAll, executeArgv_setEffects]
    exact ⟨rfl, rfl⟩

/-- Neither does the condition on them. -/
lemma staysOpen_setEffects (now : Int64) (requests : List Request) (conn : Conn σ κ)
    (effects : Option DurabilityEffects) :
    StaysOpen b now requests (conn.setEffects effects) ↔ StaysOpen b now requests conn := by
  cases requests with
  | nil => exact Iff.rfl
  | cons r requests => rw [StaysOpen, executeArgv_setEffects, StaysOpen]

/-- The run covers the queue exactly if no command but the last closes the connection. -/
lemma execTrace_eq_iff (now : Int64) (queue : List QueuedRequest) (conn : Conn σ κ) :
    (execTrace b now queue conn).map Prod.fst = queue ↔
      StaysOpen b now (queue.map QueuedRequest.request) conn := by
  induction queue generalizing conn with
  | nil => simp [execTrace, StaysOpen]
  | cons q queue ih =>
    rw [map_cons, StaysOpen, executeArgv_of_queued, ← staysOpen_setEffects b _ _ _ none, ← ih,
      execTrace, map_cons, List.cons.injEq, map_eq_nil_iff]
    cases hclose : (executeQueued b q now conn).2.close with
    | true =>
      have hrun : execTrace b now [] ((executeQueued b q now conn).1.setEffects none) = [] :=
        rfl
      constructor
      · rintro ⟨-, hnil⟩
        simp only [if_true, map_nil] at hnil
        subst hnil
        exact ⟨.inl rfl, by rw [hrun, map_nil]⟩
      · rintro ⟨hlast, -⟩
        have hnil : queue = [] := by simpa using hlast
        simp [hnil]
    | false => simp

/-- The run covers a first part of the queue. -/
lemma execTrace_agrees (now : Int64) (queue : List QueuedRequest) (conn : Conn σ κ) :
    (execTrace b now queue conn).map Prod.fst <+: queue := by
  induction queue generalizing conn with
  | nil => exact nil_prefix
  | cons q queue ih =>
    rw [execTrace, map_cons, cons_prefix_cons]
    refine ⟨rfl, ?_⟩
    split
    · exact nil_prefix
    · exact ih _

/-- What a command of the run answers. -/
def stepReply (now : Int64) (step : QueuedRequest × Conn σ κ) : RespFrame :=
  (executeQueued b step.1 now step.2).2.response

/-- The protocol version in force right after it. -/
def stepVersion (now : Int64) (step : QueuedRequest × Conn σ κ) : Int64 :=
  (executeQueued b step.1 now step.2).1.client.session.protocolVersion

/-- The reply, marked with that version. -/
def markedReply (now : Int64) (step : QueuedRequest × Conn σ κ) : RespFrame :=
  .versioned (stepVersion b now step) (stepReply b now step)

/-- The replies of the commands that have run: each one before the last switch of the protocol is
marked with its version, and the version of the others is the present one. -/
def Marked (now : Int64) (ran : List (QueuedRequest × Conn σ κ)) (st : ExecState σ κ) : Prop :=
  ∃ closed current, ran = closed ++ current ∧
    st.replies = closed.map (markedReply b now) ++ current.map (stepReply b now) ∧
    st.segmentStart = closed.length ∧
    (∀ step ∈ current, stepVersion b now step = st.replyProtocol) ∧
    st.conn.client.session.protocolVersion = st.replyProtocol

lemma marked_execStep {now : Int64} {ran : List (QueuedRequest × Conn σ κ)} {st : ExecState σ κ}
    (q : QueuedRequest) (h : Marked b now ran st) :
    Marked b now (ran ++ [(q, st.conn)]) (execStep b now st q) := by
  obtain ⟨closed, current, rfl, hreplies, hstart, hcurrent, -⟩ := h
  by_cases hswitch : stepVersion b now (q, st.conn) = st.replyProtocol
  · have hkept : ((executeQueued b q now st.conn).1.client.session.protocolVersion !=
        st.replyProtocol) = false := bne_eq_false_iff_eq.mpr hswitch
    refine ⟨closed, current ++ [(q, st.conn)], append_assoc .., ?_, ?_, ?_, rfl⟩
    · simp [execStep, hkept, hreplies, stepReply]
    · simp [execStep, hkept, hstart]
    · intro step hstep
      rcases mem_append.mp hstep with hbefore | hlast
      · exact (hcurrent step hbefore).trans hswitch.symm
      · rw [mem_singleton.mp hlast]
        rfl
  · have hnew : ((executeQueued b q now st.conn).1.client.session.protocolVersion !=
        st.replyProtocol) = true := bne_iff_ne.mpr hswitch
    refine ⟨closed ++ current, [(q, st.conn)], rfl, ?_, ?_, ?_, rfl⟩
    · have hlength : (closed.map (markedReply b now)).length = closed.length := length_map _
      have hclosed : current.map (.versioned st.replyProtocol ∘ stepReply b now) =
          current.map (markedReply b now) :=
        map_congr_left fun step hstep => by rw [markedReply, hcurrent step hstep]; rfl
      simp only [execStep, hnew, if_true, closeSegment, hreplies, hstart]
      rw [take_left' hlength, drop_left' hlength, List.map_map, hclosed, map_append]
      rfl
    · simp [execStep, hnew, hreplies]
    · intro step hstep
      rw [mem_singleton.mp hstep]
      rfl

lemma marked_execLoop (now : Int64) (queue : List QueuedRequest) (conn : Conn σ κ) :
    Marked b now (execTrace b now queue (execStart conn))
      (execLoop b now queue (startExec conn)) := by
  have hstart : Marked b now [] (startExec conn) := ⟨[], [], rfl, rfl, rfl, nofun, rfl⟩
  exact execLoop_trace b (fun _ _ q h => marked_execStep b q h) queue [] rfl hstart

/-- While no command closes the connection, the run answers what the requests are answered when they
are sent one by one. -/
lemma sendAll_replies (now : Int64) (queue : List QueuedRequest) (conn : Conn σ κ)
    (hopen : StaysOpen b now (queue.map QueuedRequest.request) conn) :
    (sendAll b now (queue.map QueuedRequest.request) conn).2 =
      (execTrace b now queue conn).map (stepReply b now) := by
  induction queue generalizing conn with
  | nil => rfl
  | cons q queue ih =>
    rw [map_cons, StaysOpen, executeArgv_of_queued] at hopen
    obtain ⟨hlast, hrest⟩ := hopen
    rw [← staysOpen_setEffects b _ _ _ none] at hrest
    have htail := ih _ hrest
    rw [(sendAll_setEffects b _ _ _ none).1] at htail
    rw [map_cons, sendAll, executeArgv_of_queued, execTrace, map_cons]
    simp only [htail]
    rcases hlast with hnil | hclose
    · rw [map_eq_nil_iff] at hnil
      subst hnil
      rw [execTrace, ite_self]
      rfl
    · rw [hclose]
      rfl

/-- Every request that is sent is answered. -/
lemma length_sendAll (now : Int64) (requests : List Request) (conn : Conn σ κ) :
    (sendAll b now requests conn).2.length = requests.length := by
  induction requests generalizing conn with
  | nil => rfl
  | cons r requests ih =>
    rw [sendAll]
    exact congrArg (· + 1) (ih _)

/-- It leaves the server as they do then. -/
lemma server_execLoop (now : Int64) (queue : List QueuedRequest) (st : ExecState σ κ)
    (hclose : st.outcome.close = false)
    (hopen : StaysOpen b now (queue.map QueuedRequest.request) st.conn) :
    (execLoop b now queue st).conn.server =
      (sendAll b now (queue.map QueuedRequest.request) st.conn).1.server := by
  induction queue generalizing st with
  | nil => rfl
  | cons q queue ih =>
    rw [map_cons, StaysOpen, executeArgv_of_queued] at hopen
    obtain ⟨hlast, hrest⟩ := hopen
    rw [← staysOpen_setEffects b _ _ _ none] at hrest
    have hstop : (execStep b now st q).outcome.close =
        (executeQueued b q now st.conn).2.close := by
      simp [execStep, hclose]
    rw [map_cons, sendAll, executeArgv_of_queued, execLoop]
    simp only
    rw [← (sendAll_setEffects b _ _ _ none).2]
    rcases hlast with hnil | hkept
    · rw [map_eq_nil_iff] at hnil
      subst hnil
      rw [execLoop, ite_self]
      rfl
    · rw [hstop, hkept, if_neg (by simp)]
      exact ih (execStep b now st q) (hstop.trans hkept) hrest

lemma response_runQueue (now : Int64) (queue : List QueuedRequest) (conn : Conn σ κ) :
    ∃ replies, (runQueue b now queue conn).2.response = .array replies ∧
      replies.length = (execTrace b now queue (execStart conn)).length := by
  obtain ⟨closed, current, htrace, hreplies, -⟩ := marked_execLoop b now queue conn
  refine ⟨_, rfl, (congrArg List.length hreplies).trans ?_⟩
  rw [htrace]
  simp

/-- **Protocol switching inside `EXEC`.** Each command that runs has one element in the reply: its
own reply, marked once at most, with the version in force right after it. Encoded for the version
at the end, the reply is an array whose elements are encoded each for its own. -/
theorem encode_runQueue (now : Int64) (queue : List QueuedRequest) (conn : Conn σ κ) :
    let trace := execTrace b now queue (execStart conn)
    let result := runQueue b now queue conn
    ∃ replies, result.2.response = .array replies ∧
      List.Forall₂ (fun step reply => reply = stepReply b now step ∨
        reply = markedReply b now step) trace replies ∧
      encodeForVersion (.fromProtocolVersion result.1.client.session.protocolVersion)
          (.array replies) =
        aggregateHeader 42 trace.length ++ trace.flatMap fun step =>
          encodeForVersion (.fromProtocolVersion (stepVersion b now step))
            (stepReply b now step) := by
  intro trace result
  obtain ⟨closed, current, htrace, hreplies, -, hcurrent, hversion⟩ :=
    marked_execLoop b now queue conn
  have hfinal : result.1.client.session.protocolVersion =
      (execLoop b now queue (startExec conn)).replyProtocol := by
    rw [← hversion]
    change (runQueue b now queue conn).1.client.session.protocolVersion = _
    rw [runQueue_eq, finishExec]
    dsimp only
    split
    · rfl
    · rfl
  have htrace' : trace = closed ++ current := htrace
  refine ⟨_, congrArg RespFrame.array hreplies, ?_, ?_⟩
  · rw [htrace']
    apply rel_append
    · exact forall₂_map_right_iff.mpr (forall₂_same.mpr fun _ _ => .inr rfl)
    · exact forall₂_map_right_iff.mpr (forall₂_same.mpr fun _ _ => .inl rfl)
  · have hunmarked : (current.flatMap fun step => encodeForVersion
        (.fromProtocolVersion (execLoop b now queue (startExec conn)).replyProtocol)
          (stepReply b now step)) = current.flatMap fun step =>
        encodeForVersion (.fromProtocolVersion (stepVersion b now step)) (stepReply b now step) :=
      flatMap_congr fun step hstep => by rw [hcurrent step hstep]
    rw [encodeForVersion, encodeItemsForVersion_eq_flatMap, hfinal, htrace', flatMap_append,
      flatMap_map, flatMap_map, hunmarked, flatMap_append, length_append,
      length_map, length_map, length_append]
    simp only [markedReply, encodeForVersion]

lemma watched_execLoop (now : Int64) (queue : List QueuedRequest) (st : ExecState σ κ)
    (htx : st.conn.client.session.tx = .normal) (hwatched : st.conn.client.session.watched = ∅) :
    (execLoop b now queue st).conn.client.session.watched = ∅ := by
  exact (execLoop_preserves b
    (P := fun st => st.conn.client.session.tx = .normal ∧ st.conn.client.session.watched = ∅)
    (fun st q _ h => ⟨tx_executeQueued b q now h.1, watched_executeQueued b now h.1 h.2⟩)
    ⟨htx, hwatched⟩).2

/-- After a queue was run the client is out of the transaction. -/
lemma left_runQueue (now : Int64) (queue : List QueuedRequest) {conn : Conn σ κ}
    (h : conn.Left) : (runQueue b now queue conn).1.Left := by
  refine ⟨tx_runQueue b now queue h.1, ?_⟩
  have hloop := watched_execLoop b now queue (startExec conn) h.1 h.2
  rw [runQueue_eq, finishExec]
  dsimp only
  split
  · exact hloop
  · exact hloop

lemma left_finishCommand {r : Request} {dbBefore : Fin dbCount} {now : Int64}
    {result : Conn σ κ × CommandOutcome} :
    (finishCommand b r dbBefore now result).1.Left ↔ result.1.Left := by
  rw [Conn.Left, Conn.Left, (outer_finishCommand b r dbBefore now result).1,
    watched_finishCommand]

end queue

/-! ## One request -/

section step

variable (b : Backend σ κ) {conn : Conn σ κ} {r : Request}
variable {queue : List QueuedRequest} {failed : Bool} {view : Option TxView}

/-- A request for the end of a transaction, or a `RESET` outside one, is refused by access
control or dispatched. -/
lemma executeArgv_of_session (hmem : r.command ∈ sessionCommands) (hargs : r.args = [])
    (now : Int64) (hdispatched : conn.inMulti = true → r.command ∈ transactionCommands) :
    (¬ Allowed r conn ∧ ∃ text, executeArgv b r now conn = (enter conn, b.fail text)) ∨
      (Allowed r conn ∧ executeArgv b r now conn =
        finishCommand b r conn.client.session.selectedDb now
          (dispatchCommand b r now (noteCommand b r (enter conn)))) := by
  unfold Allowed executeArgv
  rcases executeWith_cases b (dispatchCommand b) r now conn with
    ⟨text, haccess, hrun⟩ | ⟨text, hgate, -⟩ | ⟨hnot, queue, hasError, htx, -⟩ | ⟨haccess, -, hrun⟩
  · exact .inl ⟨by simp [haccess], text, hrun⟩
  · rw [gateError_session b hmem hargs] at hgate
    cases hgate
  · have hin : conn.inMulti = true := by rw [Conn.inMulti, htx]; rfl
    exact absurd (hdispatched hin) hnot
  · exact .inr ⟨haccess, hrun⟩

lemma Request.Is.mem_session (h : r.Is "EXEC" ∨ r.Is "DISCARD" ∨ r.Is "RESET") :
    r.command ∈ sessionCommands ∧ r.args = [] := by
  rcases h with h | h | h <;> simp [h.1, h.2, sessionCommands, transactionCommands]

lemma dispatchCommand_discard (h : r.Is "DISCARD") (now : Int64) (conn : Conn σ κ) :
    dispatchCommand b r now conn = cmdDiscard b [] conn := by
  simp [dispatchCommand, h.1, h.2]

lemma dispatchCommand_reset (h : r.Is "RESET") (now : Int64) (conn : Conn σ κ) :
    dispatchCommand b r now conn = cmdReset b [] conn := by
  have hname : ascii "RESET" ∉ transactionCommands := by decide
  rw [← h.1] at hname
  rw [dispatchCommand_eq_runCommand b hname, runCommand_reset b now h]

variable {v : TxView} {queue : List QueuedRequest} {now : Int64}

/-- An `EXEC` that is kept from running its requests. -/
lemma execConforms_iff_of_stopped {outcome : CommandOutcome} (hallowed : Allowed r conn)
    (hprevented : Prevented b v r now conn)
    (hrun : executeArgv b r now conn = finishCommand b r conn.client.session.selectedDb now
      (leaveMulti b (noteCommand b r (enter conn)), outcome))
    (hcommitted : ¬ Committed outcome) (habort : outcome.response ≠ b.err execAbortText) :
    (ExecConforms b v r now conn ∧ (executeArgv b r now conn).1.Left) ↔
      ExecRegular b v false r now conn := by
  have houtcome : (executeArgv b r now conn).2 = outcome := by
    rw [hrun, outcome_finishCommand]
  have hleft : (executeArgv b r now conn).1.Left := by
    rw [hrun, left_finishCommand]
    exact ⟨rfl, rfl⟩
  have hsame : (executeArgv b r now conn).1.dbs = conn.dbs := by
    rw [hrun, dbs_finishCommand]
    rfl
  constructor
  · rintro ⟨hconforms, -⟩
    refine ⟨hallowed, fun hrejected => ?_, fun _ hnot => absurd hprevented hnot⟩
    exact absurd ((congrArg CommandOutcome.response houtcome).symm.trans
      (hconforms.aborts hrejected).1) habort
  · intro hregular
    refine ⟨⟨fun hrejected => ?_, fun _ _ => ⟨?_, hsame⟩, fun _ hnot => absurd hprevented hnot⟩,
      hleft⟩
    · cases hregular.rejected hrejected
    · rw [houtcome]
      exact hcommitted

/-- What the run of a queue leaves and answers, if no command but the last closes the connection. -/
lemma ranAll_of_run (hqueued : queue.map QueuedRequest.request = v.queued)
    (hrun : executeArgv b r now conn = finishCommand b r conn.client.session.selectedDb now
      (runQueue b now queue (leaveMulti b (noteCommand b r (enter conn)))))
    (hopen : StaysOpen b now v.queued (execEntry b r conn)) : RanAll b v r now conn := by
  have hserver : (runQueue b now queue (leaveMulti b (noteCommand b r (enter conn)))).1.dbs =
        (sendAll b now v.queued (execEntry b r conn)).1.dbs ∧
      (runQueue b now queue (leaveMulti b (noteCommand b r (enter conn)))).1.server.acl =
        (sendAll b now v.queued (execEntry b r conn)).1.server.acl := by
    rw [← hqueued] at hopen ⊢
    have hloop := server_execLoop b now queue
      (startExec (leaveMulti b (noteCommand b r (enter conn)))) rfl hopen
    have hdbs := congrArg (fun server => server.store.dbs) hloop
    have hacl := congrArg (fun server => server.acl) hloop
    rw [runQueue_eq, finishExec]
    dsimp only
    split
    · exact ⟨hdbs, hacl⟩
    · exact ⟨hdbs, hacl⟩
  refine ⟨?_, ?_, ?_⟩
  · rw [hrun, dbs_finishCommand]
    exact hserver.1
  · rw [hrun, acl_finishCommand]
    exact hserver.2
  · obtain ⟨replies, hresponse, hmarked, -⟩ :=
      encode_runQueue b now queue (leaveMulti b (noteCommand b r (enter conn)))
    refine ⟨replies, ?_, ?_⟩
    · rw [hrun, outcome_finishCommand]
      exact hresponse
    · rw [← hqueued] at hopen ⊢
      rw [sendAll_replies b now queue _ hopen, forall₂_map_left_iff]
      exact hmarked.imp fun _ _ => Or.imp_right fun hversion => ⟨_, hversion⟩

/-- An `EXEC` that runs its queue. -/
lemma execConforms_iff_of_run (hqueued : queue.map QueuedRequest.request = v.queued)
    (hallowed : Allowed r conn) (hprevented : ¬ Prevented b v r now conn)
    (hrun : executeArgv b r now conn = finishCommand b r conn.client.session.selectedDb now
      (runQueue b now queue (leaveMulti b (noteCommand b r (enter conn))))) :
    (ExecConforms b v r now conn ∧ (executeArgv b r now conn).1.Left) ↔
      ExecRegular b v false r now conn := by
  obtain ⟨replies, hresponse, hlength⟩ :=
    response_runQueue b now queue (leaveMulti b (noteCommand b r (enter conn)))
  have hanswer : (executeArgv b r now conn).2.response = .array replies := by
    rw [hrun, outcome_finishCommand]
    exact hresponse
  have hleft : (executeArgv b r now conn).1.Left := by
    rw [hrun, left_finishCommand]
    exact left_runQueue b now queue ⟨rfl, rfl⟩
  constructor
  · rintro ⟨hconforms, -⟩
    refine ⟨hallowed, fun hrejected => ?_, fun hrejected _ => ?_⟩
    · have habort := (hconforms.aborts hrejected).1
      rw [hanswer] at habort
      cases habort
    · -- each request has a reply, so the run covers the queue
      obtain ⟨replies', hanswer', hreplies⟩ := (hconforms.runs hrejected hprevented).replies
      obtain rfl : replies = replies' := RespFrame.array.inj (hanswer.symm.trans hanswer')
      have hall := hreplies.length_eq
      rw [length_sendAll, hlength, ← hqueued, length_map] at hall
      have htrace := (execTrace_agrees b now queue (execEntry b r conn)).eq_of_length
        (by rw [length_map]; exact hall.symm)
      rw [← hqueued, ← execTrace_eq_iff]
      exact htrace
  · intro hregular
    refine ⟨⟨fun hrejected => ?_, fun _ hstop => absurd hstop hprevented, fun hrejected _ => ?_⟩,
      hleft⟩
    · cases hregular.rejected hrejected
    · exact ranAll_of_run b hqueued hrun (hregular.staysOpen hrejected hprevented)

/-- An `EXEC` keeps what the replies promise exactly if it is regular. -/
lemma execConforms_iff (hexec : r.Is "EXEC")
    (htx : conn.client.session.tx = .inTransaction queue failed)
    (hqueued : queue.map QueuedRequest.request = v.queued)
    (herror : failed = true → v.rejected = true)
    (htexts : b.sanitize maxmemoryOomText ≠ b.sanitize execAbortText) :
    (ExecConforms b v r now conn ∧ (executeArgv b r now conn).1.Left) ↔
      ExecRegular b v failed r now conn := by
  obtain ⟨hmem, hargs⟩ := Request.Is.mem_session (.inl hexec)
  have hname : r.command ∈ transactionCommands := by
    rw [hexec.1]
    simp [transactionCommands]
  have htx' : (noteCommand b r (enter conn)).client.session.tx = .inTransaction queue failed :=
    (tx_enter conn).trans htx
  rcases executeArgv_of_session b hmem hargs now fun _ => hname with
    ⟨hrefused, text, hrun⟩ | ⟨hallowed, hrun⟩
  · constructor
    · rintro ⟨-, hleft⟩
      rw [hrun] at hleft
      cases hleft.1.symm.trans htx'
    · intro hregular
      exact absurd hregular.allowed hrefused
  have hway := dispatched b r now (noteCommand b r (enter conn))
  generalize dispatchCommand b r now (noteCommand b r (enter conn)) = result at hway hrun
  cases hway with
  | refused _ hend => cases (hend (.inl hexec)).symm.trans htx'
  | multi hr => exact absurd (hexec.1.symm.trans hr.1) (by decide)
  | discarded hr => exact absurd (hexec.1.symm.trans hr.1) (by decide)
  | rewatched hr => exact absurd hexec.1 (hr _ (by simp))
  | run hnot => exact absurd hname hnot
  | aborted _ haborted =>
    cases haborted.symm.trans htx'
    have hrejected := herror rfl
    have hnever : v.rejected ≠ false := by simp [hrejected]
    refine iff_of_true ⟨⟨fun _ => ⟨?_, ?_⟩, fun hnot => absurd hnot hnever,
      fun hnot => absurd hnot hnever⟩, ?_⟩
      ⟨hallowed, fun _ => rfl, fun hnot => absurd hnot hnever⟩
    · rw [hrun, outcome_finishCommand]
      rfl
    · rw [hrun, dbs_finishCommand]
      rfl
    · rw [hrun, left_finishCommand]
      exact ⟨rfl, rfl⟩
  | stopped _ hstopped hstop houtcome =>
    cases hstopped.symm.trans htx'
    rw [hqueued] at hstop
    rcases houtcome with rfl | rfl
    · refine execConforms_iff_of_stopped b hallowed hstop hrun ?_ ?_
      · intro hcommitted
        cases hcommitted
      · intro habort
        cases habort
    · refine execConforms_iff_of_stopped b hallowed hstop hrun (not_committed_fail b _) ?_
      intro habort
      exact htexts (RespFrame.error.inj habort)
  | ran _ hran hdirty hmemory =>
    cases hran.symm.trans htx'
    rw [hqueued] at hmemory
    have hprevented : ¬ Prevented b v r now conn := by
      rintro (hstop | hstop)
      · cases hstop.symm.trans hdirty
      · cases hstop.symm.trans hmemory
    exact execConforms_iff_of_run b hqueued hallowed hprevented hrun

/-- A `DISCARD` inside a transaction leaves it exactly if access control lets it pass. -/
lemma left_discard_iff (hdiscard : r.Is "DISCARD") (hmulti : conn.inMulti = true) :
    (executeArgv b r now conn).1.Left ↔ Allowed r conn := by
  obtain ⟨hmem, hargs⟩ := Request.Is.mem_session (.inr (.inl hdiscard))
  have hname : r.command ∈ transactionCommands := by
    rw [hdiscard.1]
    simp [transactionCommands]
  have hmulti' : (noteCommand b r (enter conn)).inMulti = true := by simpa using hmulti
  rcases executeArgv_of_session b hmem hargs now fun _ => hname with
    ⟨hrefused, text, hrun⟩ | ⟨hallowed, hrun⟩
  · refine iff_of_false ?_ hrefused
    rw [hrun]
    rintro ⟨htx, -⟩
    have hout : (enter conn).inMulti = false := by rw [Conn.inMulti, htx]; rfl
    rw [inMulti_enter, hmulti] at hout
    cases hout
  · refine iff_of_true ?_ hallowed
    rw [hrun, left_finishCommand, dispatchCommand_discard b hdiscard, cmdDiscard]
    have hin : (!(noteCommand b r (enter conn)).client.session.tx.inMulti) = false := by
      rw [not_eq_false']
      exact hmulti'
    rw [if_neg (by simp), hin]
    exact ⟨rfl, rfl⟩

/-- A `RESET` leaves the client out of any transaction exactly if it was out of it. -/
lemma left_reset_iff (hreset : r.Is "RESET") :
    (executeArgv b r now conn).1.Left ↔ conn.inMulti = false := by
  obtain ⟨hmem, hargs⟩ := Request.Is.mem_session (.inr (.inr hreset))
  cases hmulti : conn.inMulti with
  | true =>
    have hname : r.command ∉ transactionCommands := by
      rw [hreset.1]
      decide
    refine iff_of_false ?_ (by simp)
    rintro ⟨htx, -⟩
    have hin := inMulti_executeArgv_queued b now hmulti hname
    rw [Conn.inMulti, htx] at hin
    cases hin
  | false =>
    refine iff_of_true ?_ rfl
    have hallow : allowsExecuteWithoutAuth r.command r.spec = true := by
      rw [Request.spec, hreset.1]
      rfl
    have hout : conn.inMulti = true → r.command ∈ transactionCommands := by
      intro hin
      rw [hmulti] at hin
      cases hin
    rcases executeArgv_of_session b hmem hargs now hout with ⟨hrefused, -⟩ | ⟨-, hrun⟩
    · exact absurd (accessError_of_allowWithoutAuth hallow) hrefused
    · rw [hrun, left_finishCommand, dispatchCommand_reset b hreset]
      exact ⟨rfl, rfl⟩

/-- The view and the state are in a transaction together. -/
lemma sync_cases {tx : TransactionState} (h : Sync view failed tx) :
    (view = none ∧ tx = .normal) ∨ ∃ v queue, view = some v ∧ tx = .inTransaction queue failed ∧
      queue.map QueuedRequest.request = v.queued ∧ (failed = true → v.rejected = true) := by
  cases view with
  | none =>
    cases tx with
    | normal => exact .inl ⟨rfl, rfl⟩
    | inTransaction => exact absurd h id
  | some v =>
    cases tx with
    | normal => exact absurd h id
    | inTransaction queue hasError =>
      obtain ⟨hqueued, rfl, herror⟩ := h
      exact .inr ⟨v, queue, rfl, rfl, hqueued, herror⟩

lemma inMulti_of_sync (h : Sync view failed conn.client.session.tx) :
    conn.inMulti = view.isSome := by
  unfold Conn.inMulti
  rcases sync_cases h with ⟨rfl, htx⟩ | ⟨v, queue, rfl, htx, -⟩
  · rw [htx]
    rfl
  · rw [htx]
    rfl

/-- A request keeps what the replies promise exactly if it is regular. -/
theorem stepConforms_iff (hsync : Sync view failed conn.client.session.tx)
    (htexts : b.sanitize maxmemoryOomText ≠ b.sanitize execAbortText) :
    StepConforms b view r now conn ↔ StepRegular b view failed r now conn := by
  have hmulti := inMulti_of_sync hsync
  have hexec : ∀ v, r.Is "EXEC" → view = some v →
      ((ExecConforms b v r now conn ∧ (executeArgv b r now conn).1.Left) ↔
        ExecRegular b v failed r now conn) := by
    rintro v hexec hview
    rcases sync_cases hsync with ⟨hnone, -⟩ | ⟨v', queue, hsome, htx, hqueued, herror⟩
    · cases hnone.symm.trans hview
    · cases hsome.symm.trans hview
      exact execConforms_iff b hexec htx hqueued herror htexts
  have hreset : r.Is "RESET" → ((executeArgv b r now conn).1.Left ↔ view = none) := by
    intro hreset
    rw [left_reset_iff b hreset, hmulti, isSome_eq_false_iff, isNone_iff_eq_none]
  constructor
  · intro h
    exact ⟨fun hr v hview => (hexec v hr hview).mp (h.exec hr v hview),
      fun hr hsome => (left_discard_iff b hr (hmulti.trans hsome)).mp (h.discard hr hsome),
      fun hr => (hreset hr).mp (h.reset hr)⟩
  · intro h
    exact ⟨fun hr v hview => (hexec v hr hview).mpr (h.exec hr v hview),
      fun hr hsome => (left_discard_iff b hr (hmulti.trans hsome)).mpr (h.discard hr hsome),
      fun hr => (hreset hr).mpr (h.reset hr)⟩

lemma isErrorReply_fail (text : Bytes) : isErrorReply (b.fail text).response = true := rfl

/-- A request that is refused and ends no transaction: the client is told, and the queue stays. -/
lemma sync_of_refused {tx tx' : TransactionState} {failed' : Bool} (hsync : Sync view failed tx)
    (hend : ¬ (view.isSome = true ∧ (r.Is "EXEC" ∨ r.Is "DISCARD")))
    (hnone : view = none → tx' = tx)
    (hsome : ∀ queue, tx = .inTransaction queue failed → tx' = .inTransaction queue failed')
    (text : Bytes) : Sync (TxView.after view r (b.fail text).response) failed' tx' := by
  rcases sync_cases hsync with ⟨rfl, rfl⟩ | ⟨v, queue, rfl, rfl, hqueued, -⟩
  · have hafter : TxView.after none r (b.fail text).response = none := by
      simp [TxView.after, isErrorReply_fail]
    rw [hafter, hnone rfl]
    trivial
  · have hstay : ¬ (r.Is "EXEC" ∨ r.Is "DISCARD") := fun h => hend ⟨rfl, h⟩
    have hafter : TxView.after (some v) r (b.fail text).response =
        some { v with rejected := true } := by
      simp only [TxView.after, isErrorReply_fail, Bool.or_true, if_neg hstay]
      rfl
    rw [hafter, hsome queue rfl]
    exact ⟨hqueued, rfl, fun _ => rfl⟩

/-- A request that is refused before it comes to the queue: nothing is marked. -/
lemma sync_of_refused_unmarked {tx : TransactionState} (hsync : Sync view failed tx)
    (hend : ¬ (view.isSome = true ∧ (r.Is "EXEC" ∨ r.Is "DISCARD")))
    (hchecks : ∀ queued, failsQueueChecks b r queued conn = false) (text : Bytes) :
    Sync (TxView.after view r (b.fail text).response) (failedAfter b view failed r conn) tx := by
  refine sync_of_refused b hsync hend (fun _ => rfl) (fun queue htx => ?_) text
  rcases sync_cases hsync with ⟨-, hnormal⟩ | ⟨v, queue', rfl, htx', -⟩
  · cases htx.symm.trans hnormal
  · rw [failedAfter, hchecks, Bool.or_false]
    exact htx

/-- When a command is refused for its name, its number of arguments or its user. -/
lemma isSome_validateQueuedCommand (acl : AclState) (session : Session κ) (r : Request) :
    (validateQueuedCommand acl session r).isSome =
      match findCommandSpec r.name with
      | none => true
      | some spec => !commandArityMatches spec.arity r.argv.length ||
          (!spec.flags.contains .noAuth &&
            !acl.commandAllowedMask session.aclUser (aclRequiredCategories spec)) := by
  unfold validateQueuedCommand
  cases findCommandSpec r.name with
  | none => rfl
  | some spec =>
    simp only
    split_ifs with harity haccess
    · rw [harity]
      rfl
    · rw [haccess, Bool.or_true]
      rfl
    · rw [Bool.eq_false_iff.mpr harity, Bool.eq_false_iff.mpr haccess]
      rfl

/-- A request that is no transaction command and that access control lets pass is queued exactly if
it fails none of the checks; otherwise the transaction is marked. -/
lemma queueCommand_eq (hmem : r.command ∉ transactionCommands) (hallowed : Allowed r conn)
    (queue : List QueuedRequest) (hasError : Bool) :
    (failsQueueChecks b r queue.length conn = true ∧
        ∃ text, queueCommand b ⟨r, hmem⟩ queue hasError (noteCommand b r (enter conn)) =
          ((noteCommand b r (enter conn)).setSession
            { (noteCommand b r (enter conn)).client.session with
              tx := .inTransaction queue true }, b.fail text)) ∨
      (failsQueueChecks b r queue.length conn = false ∧
        queueCommand b ⟨r, hmem⟩ queue hasError (noteCommand b r (enter conn)) =
          ((noteCommand b r (enter conn)).setSession
            { (noteCommand b r (enter conn)).client.session with
              tx := .inTransaction (queue ++ [⟨r, hmem⟩]) hasError }, .reply .queued)) := by
  unfold failsQueueChecks
  simp only [decide_eq_true hmem, decide_eq_true hallowed, Bool.true_and,
    ← isSome_validateQueuedCommand]
  unfold queueCommand
  cases hvalid : validateQueuedCommand (noteCommand b r (enter conn)).server.acl
    (noteCommand b r (enter conn)).client.session r with
  | some text =>
    simp only [hvalid]
    exact .inl ⟨rfl, text, rfl⟩
  | none =>
    simp only [hvalid, isSome_none, Bool.false_or]
    split_ifs with hmemory hfull
    · exact .inl ⟨by rw [hmemory, Bool.true_or], _, rfl⟩
    · exact .inl ⟨by rw [decide_eq_true hfull, Bool.or_true], _, rfl⟩
    · rw [Bool.eq_false_iff.mpr hmemory, decide_eq_false hfull]
      exact .inr ⟨rfl, rfl⟩

/-- A request that comes to the queue. -/
lemma sync_queueCommand {v : TxView} (hmem : r.command ∉ transactionCommands)
    (hallowed : Allowed r conn) (hsync : Sync (some v) failed (.inTransaction queue failed)) :
    Sync (TxView.after (some v) r (queueCommand b ⟨r, hmem⟩ queue failed
        (noteCommand b r (enter conn))).2.response)
      (failedAfter b (some v) failed r conn)
      (queueCommand b ⟨r, hmem⟩ queue failed
        (noteCommand b r (enter conn))).1.client.session.tx := by
  have hlength : queue.length = v.queued.length := by rw [← hsync.1, length_map]
  rcases queueCommand_eq b hmem hallowed queue failed with ⟨hfails, text, hrun⟩ | ⟨hpasses, hrun⟩
  · have hend : ¬ ((some v).isSome = true ∧ (r.Is "EXEC" ∨ r.Is "DISCARD")) := by
      rintro ⟨-, ⟨hname, -⟩ | ⟨hname, -⟩⟩
      · rw [hname] at hmem
        exact hmem (by simp [transactionCommands])
      · rw [hname] at hmem
        exact hmem (by simp [transactionCommands])
    have hfailed : failedAfter b (some v) failed r conn = true := by
      rw [failedAfter, ← hlength, hfails, Bool.or_true]
    rw [hrun, hfailed]
    refine sync_of_refused b hsync hend (fun hview => ?_) (fun queue' htx => ?_) text
    · cases hview
    · cases htx
      rfl
  · have hfailed : failedAfter b (some v) failed r conn = failed := by
      rw [failedAfter, ← hlength, hpasses, Bool.or_false]
    have hafter : TxView.after (some v) r (CommandOutcome.reply .queued).response =
        some { v with queued := v.queued ++ [r] } := rfl
    rw [hrun, hfailed, hafter]
    refine ⟨?_, rfl, hsync.2.2⟩
    rw [map_append, hsync.1]
    rfl

/-- A request that is answered, and leaves the transaction as it is. -/
lemma sync_of_answered {tx : TransactionState} (hsync : Sync view failed tx)
    (hmulti : r.command ≠ ascii "MULTI")
    (hend : ¬ (view.isSome = true ∧ (r.Is "EXEC" ∨ r.Is "DISCARD"))) :
    Sync (TxView.after view r (CommandOutcome.reply .ok).response) failed tx := by
  cases view with
  | none =>
    have hafter : TxView.after none r (CommandOutcome.reply .ok).response = none := by
      simp [TxView.after, Request.Is, hmulti]
    rw [hafter]
    exact hsync
  | some v =>
    have hstay : ¬ (r.Is "EXEC" ∨ r.Is "DISCARD") := fun h => hend ⟨rfl, h⟩
    have hreply : isQueuedReply (CommandOutcome.reply .ok).response = false := rfl
    have hafter : TxView.after (some v) r (CommandOutcome.reply .ok).response = some v := by
      simp only [TxView.after, hreply, false_eq_true, if_false, if_neg hstay]
      simp [CommandOutcome.reply, RespFrame.ok, RespFrame.simpleStr, isErrorReply]
    rw [hafter]
    exact hsync

/-- A request that ends the transaction. -/
lemma sync_of_ended {v : TxView} {response : RespFrame} (hend : r.Is "EXEC" ∨ r.Is "DISCARD")
    (hqueued : isQueuedReply response = false) :
    Sync (TxView.after (some v) r response) failed .normal := by
  simp only [TxView.after, hqueued, false_eq_true, if_false, if_pos hend]
  trivial

/-- A request that is dispatched. -/
lemma sync_dispatchCommand (hsync : Sync view failed conn.client.session.tx)
    (hfailed : view = none → failed = false)
    (hmem : conn.inMulti = true → r.command ∈ transactionCommands) :
    Sync (TxView.after view r (dispatchCommand b r now conn).2.response) failed
      (dispatchCommand b r now conn).1.client.session.tx := by
  have hmulti := inMulti_of_sync hsync
  have hnone : conn.inMulti = false → view = none := by
    intro hout
    rw [← isNone_iff_eq_none, ← isSome_eq_false_iff, ← hmulti]
    exact hout
  have hsome : conn.inMulti = true → ∃ v, view = some v := by
    intro hin
    exact isSome_iff_exists.mp (hmulti.symm.trans hin)
  have hway := dispatched b r now conn
  generalize dispatchCommand b r now conn = result at hway ⊢
  cases hway with
  | refused text hout =>
    refine sync_of_refused b hsync ?_ (fun _ => rfl) (fun _ htx => htx) _
    rintro ⟨hin, hend⟩
    rw [← hmulti, Conn.inMulti, hout hend] at hin
    cases hin
  | multi hr hout =>
    have hafter : TxView.after view r (CommandOutcome.reply .ok).response = some ⟨[], false⟩ := by
      rw [hnone hout, TxView.after, if_pos ⟨hr, rfl⟩]
    rw [hafter, hfailed (hnone hout)]
    exact ⟨rfl, rfl, id⟩
  | aborted hr htx =>
    obtain ⟨v, rfl⟩ := hsome (by rw [Conn.inMulti, htx]; rfl)
    exact sync_of_ended (.inl hr) rfl
  | stopped hr htx _ houtcome =>
    obtain ⟨v, rfl⟩ := hsome (by rw [Conn.inMulti, htx]; rfl)
    rcases houtcome with rfl | rfl
    · exact sync_of_ended (.inl hr) rfl
    · exact sync_of_ended (.inl hr) rfl
  | ran hr htx =>
    obtain ⟨v, rfl⟩ := hsome (by rw [Conn.inMulti, htx]; rfl)
    rw [tx_runQueue b now _ rfl]
    exact sync_of_ended (.inl hr) rfl
  | discarded hr hin =>
    obtain ⟨v, rfl⟩ := hsome hin
    have hreply : isQueuedReply .ok = false := rfl
    exact sync_of_ended (.inr hr) hreply
  | rewatched hr =>
    simp only [forall_mem_cons] at hr
    obtain ⟨hname, hexec, hdiscard, -⟩ := hr
    exact sync_of_answered hsync hname (by simp [Request.Is, hexec, hdiscard])
  | run hnot =>
    -- no transaction command: there is no transaction, before and after
    have hout : conn.inMulti = false := eq_false_iff.mpr fun hin => hnot (hmem hin)
    have hname : ascii "MULTI" ∈ transactionCommands := by simp [transactionCommands]
    have hafter : TxView.after view r (runCommand b r now conn).2.response = none := by
      rw [hnone hout, TxView.after, if_neg]
      rintro ⟨⟨hr, -⟩, -⟩
      exact hnot (hr ▸ hname)
    have hnormal := inMulti_runCommand b r now hout
    rw [hafter]
    cases htx : (runCommand b r now conn).1.client.session.tx with
    | normal => trivial
    | inTransaction queue hasError =>
      rw [Conn.inMulti, htx] at hnormal
      cases hnormal

/-- Outside a transaction the mark stands for nothing. -/
lemma Sync.unmarked {tx : TransactionState} (h : Sync view failed tx) :
    Sync view (view.isSome && failed) tx := by
  cases view with
  | none =>
    cases tx with
    | normal => trivial
    | inTransaction => exact absurd h id
  | some v => rwa [isSome_some, Bool.true_and]

/-- A transaction command, and every request outside a transaction, is subject to no check. -/
lemma failedAfter_of_dispatched (hmem : view.isSome = true → r.command ∈ transactionCommands) :
    failedAfter b view failed r conn = (view.isSome && failed) := by
  cases view with
  | none => rfl
  | some v =>
    have hchecks : failsQueueChecks b r v.queued.length conn = false := by
      unfold failsQueueChecks
      simp only [not_not.mpr (hmem rfl), decide_false, Bool.false_and]
    rw [failedAfter, hchecks, Bool.or_false, isSome_some, Bool.true_and]

/-- **Regular requests keep the view and the state of the transaction in step.** -/
theorem sync_step (hsync : Sync view failed conn.client.session.tx)
    (hregular : StepRegular b view failed r now conn) :
    Sync (TxView.after view r (executeArgv b r now conn).2.response)
      (failedAfter b view failed r conn) (executeArgv b r now conn).1.client.session.tx := by
  have hmulti := inMulti_of_sync hsync
  have hnoted : (noteCommand b r (enter conn)).client.session.tx = conn.client.session.tx :=
    tx_enter conn
  by_cases hallowed : Allowed r conn
  · unfold executeArgv
    rw [executeWith_admitted b _ hallowed]
    by_cases hmem : view.isSome = true → r.command ∈ transactionCommands
    · -- refused by a gate, or dispatched
      have hmem' : (noteCommand b r (enter conn)).inMulti = true →
          r.command ∈ transactionCommands := by
        rw [inMulti_noteCommand, inMulti_enter, hmulti]
        exact hmem
      have hunmarked : Sync view (view.isSome && failed)
          (noteCommand b r (enter conn)).client.session.tx := by
        rw [hnoted]
        exact hsync.unmarked
      rw [admitted_gated b _ hmem', gated, failedAfter_of_dispatched b hmem]
      cases hgate : gateError b r (noteCommand b r (enter conn)).server.store
        (noteCommand b r (enter conn)).client.session with
      | some text =>
        refine sync_of_refused b hunmarked ?_ (fun _ => rfl) (fun _ htx => htx) text
        rintro ⟨-, hend⟩
        obtain ⟨hsession, hargs⟩ := Request.Is.mem_session
          (hend.imp_right fun h => (.inl h : r.Is "DISCARD" ∨ r.Is "RESET"))
        rw [gateError_session b hsession hargs] at hgate
        cases hgate
      | none =>
        simp only
        rw [outcome_finishCommand, (outer_finishCommand b _ _ _ _).1]
        refine sync_dispatchCommand b hunmarked (fun hview => ?_) hmem'
        rw [hview]
        rfl
    · obtain ⟨hsome, hqueueable⟩ := Classical.not_imp.mp hmem
      rcases sync_cases hsync with ⟨rfl, -⟩ | ⟨v, queue, rfl, htx, -⟩
      · cases hsome
      · rw [admitted_queued b _ (hnoted.trans htx) hqueueable]
        rw [htx] at hsync
        exact sync_queueCommand b hqueueable hallowed hsync
  · have hend : ¬ (view.isSome = true ∧ (r.Is "EXEC" ∨ r.Is "DISCARD")) := by
      rintro ⟨hsome, hend⟩
      obtain ⟨v, hview⟩ := isSome_iff_exists.mp hsome
      rcases hend with hexec | hdiscard
      · exact hallowed (hregular.exec hexec v hview).allowed
      · exact hallowed (hregular.discard hdiscard hsome)
    have hchecks : ∀ queued, failsQueueChecks b r queued conn = false := by
      intro queued
      simp only [failsQueueChecks, decide_eq_false hallowed, Bool.and_false, Bool.false_and]
    obtain ⟨text, haccess⟩ := Option.ne_none_iff_exists'.mp hallowed
    have hrun : executeArgv b r now conn = (enter conn, b.fail text) := by
      simp only [executeArgv, executeWith, haccess]
    rw [hrun, tx_enter]
    exact sync_of_refused_unmarked b hsync hend hchecks text

end step

/-! ## Sequences of requests -/

section sequences

variable (b : Backend σ κ)

lemma conforms_iff_of_sync (htexts : b.sanitize maxmemoryOomText ≠ b.sanitize execAbortText)
    (turns : List (Turn σ)) (view : Option TxView) (failed : Bool) (client : Client κ)
    (hsync : Sync view failed client.session.tx) :
    Conforms b view client turns ↔ Regular b view failed client turns := by
  induction turns generalizing view failed client with
  | nil => exact Iff.rfl
  | cons turn turns ih =>
    have hstep : StepConforms b view turn.request turn.now ⟨turn.server, client⟩ ↔
        StepRegular b view failed turn.request turn.now ⟨turn.server, client⟩ :=
      stepConforms_iff b hsync htexts
    constructor
    · rintro ⟨hfirst, hrest⟩
      have hregular := hstep.mp hfirst
      exact ⟨hregular, (ih _ _ _ (sync_step b hsync hregular)).mp hrest⟩
    · rintro ⟨hregular, hrest⟩
      exact ⟨hstep.mpr hregular, (ih _ _ _ (sync_step b hsync hregular)).mpr hrest⟩

/-- **The transactions of a client.** Over every sequence of requests of a client that starts out
of a transaction, and whatever happens to the server between them: the replies are kept exactly
if `EXEC` and `DISCARD` pass access control, no `RESET` comes inside a transaction, a transaction
in which a request was rejected had one that could not be queued, and no request but the last of
those that `EXEC` runs closes the connection. -/
theorem conforms_iff_regular (client : Client κ) (turns : List (Turn σ))
    (htx : client.session.tx = .normal)
    (htexts : b.sanitize maxmemoryOomText ≠ b.sanitize execAbortText) :
    Conforms b none client turns ↔ Regular b none false client turns := by
  apply conforms_iff_of_sync b htexts
  rw [htx]
  trivial

/-- The requests of a client that nobody else works beside: the databases stay empty until its
`EXEC`. -/
def turnsOn (acl : AclState) (requests : List (List String)) : List (Turn Unit) :=
  requests.filterMap fun words =>
    (Request.ofArgv (words.map ascii)).map fun r => ⟨⟨emptyServer.store, acl⟩, r, 0⟩

/-- The first database after the last request. -/
def lastDb : Client Unit → List (Turn Unit) → Db
  | _, [] => ∅
  | client, turn :: turns =>
    let result := executeArgv .bare turn.request turn.now ⟨turn.server, client⟩
    if turns = [] then result.1.dbs ⟨0, dbCount_pos⟩ else lastDb result.1.client turns

/-- A transaction with a command that cannot be queued, and one of two writes. -/
def writeTurns : List (Turn Unit) :=
  turnsOn .default [["MULTI"], ["SET", "c", "1"], ["SET", "c"], ["EXEC"],
    ["MULTI"], ["SET", "a", "1"], ["SET", "b", "2"], ["EXEC"]]

/-- The first is aborted and the second run, as the replies promise. -/
theorem conforms_writes : Conforms .bare none (.new ()) writeTurns :=
  (conforms_iff_regular .bare (.new ()) writeTurns rfl (by decide +kernel)).mpr
    (by decide +kernel)

/-- A transaction of a default user that may not read, with a read between the writes. -/
def refusedTurns : List (Turn Unit) :=
  turnsOn ⟨AList.singleton defaultName
      ⟨true, true, ∅, false,
        HashMap.collect [⟨ascii "write", ()⟩, ⟨ascii "connection", ()⟩, ⟨ascii "fast", ()⟩]⟩, []⟩
    [["MULTI"], ["SET", "a", "1"], ["GET", "a"], ["SET", "b", "2"], ["EXEC"]]

/-- A transaction whose replies are not kept: the read is refused by access control, and `EXEC` runs
the writes all the same. -/
theorem refused_command_does_not_abort :
    ¬ Conforms .bare none (.new ()) refusedTurns ∧
      ((lastDb (.new ()) refusedTurns).lookup (ascii "a")).isSome = true ∧
      ((lastDb (.new ()) refusedTurns).lookup (ascii "b")).isSome = true := by
  have hiff : Conforms .bare none (Client.new ()) refusedTurns ↔
      Regular .bare none false (Client.new ()) refusedTurns :=
    conforms_iff_of_sync .bare (by decide +kernel) refusedTurns none false _ trivial
  rw [hiff]
  refine ⟨?_, ?_, ?_⟩
  · decide +kernel
  · decide +kernel
  · decide +kernel

end sequences

end Ratatosk.Engine
