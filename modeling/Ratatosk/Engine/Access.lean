import Ratatosk.Engine.Multi

/-!
# Access control decides, and nothing else

Commands other than `AUTH`, `HELLO`, `RESET`, `QUIT` and `ACL` see access control only through
the dispatcher's refusals.

* `accessCommands` — the five; every other command needs an authenticated client
  (`allowsExecuteWithoutAuth_eq_false`).
-/

namespace Ratatosk.Engine

open Lib Keyspace Resp

variable {σ κ : Type}

/-! ## Which commands ask for authentication -/

/-- The commands that work on access control, or on the identity of the client. -/
def accessCommands : List Bytes := ["AUTH", "HELLO", "RESET", "QUIT", "ACL"].map ascii

lemma allowsExecuteWithoutAuth_eq_false {command : Bytes} (h : command ∉ accessCommands) :
    allowsExecuteWithoutAuth command (findCommandSpecUpper command) = false := by
  have htable : ∀ s ∈ commandSpecs, s.flags.contains .noAuth = true → s.name ∈ accessCommands := by
    decide +kernel
  have hhello : command ≠ ascii "HELLO" := by
    rintro rfl
    exact h (by decide)
  have hquit : command ≠ ascii "QUIT" := by
    rintro rfl
    exact h (by decide)
  have hflag : ((findCommandSpecUpper command).any fun s => s.flags.contains .noAuth) = false := by
    cases hspec : findCommandSpecUpper command with
    | none => rfl
    | some spec =>
      rw [Option.any_some, Bool.eq_false_iff]
      intro hnoAuth
      have hname := htable spec (List.mem_of_find?_eq_some hspec) hnoAuth
      have heq : spec.name = command := by simpa using List.find?_some hspec
      exact h (heq ▸ hname)
  rw [allowsExecuteWithoutAuth, hflag]
  simp [hhello, hquit]

/-- What a state asks of a command that needs an authenticated client. -/
lemma admits_iff {acl : AclState} {command : Bytes} (h : command ∉ accessCommands) :
    acl.Admits command ↔ acl.defaultUserIsNopassEnabled = true ∧
      ∀ spec, findCommandSpecUpper command = some spec →
        acl.commandAllowedMask defaultName (aclRequiredCategories spec) = true := by
  unfold AclState.Admits
  rw [allowsExecuteWithoutAuth_eq_false h]
  simp

lemma admits_default (command : Bytes) : AclState.default.Admits command := by
  refine Or.inr ⟨AclState.defaultUserIsNopassEnabled_default, ?_⟩
  intro spec _
  exact AclState.commandAllowedMask_of_fullAccess AclState.defaultUserHasFullAccess_default _

/-! ## Refusals -/

section refusals

variable {acl : AclState} {session : Session κ} {r : Request}

/-- Who enters without a password, or as the default user, is the default user. -/
lemma authenticateDefault_of_nopass (hnopass : acl.defaultUserIsNopassEnabled = true)
    (huser : session.authenticated = true → session.aclUser = defaultName) :
    (authenticateDefault acl session).authenticated = true ∧
      (authenticateDefault acl session).aclUser = defaultName := by
  unfold authenticateDefault
  rw [hnopass]
  cases hauth : session.authenticated with
  | false => exact ⟨rfl, rfl⟩
  | true => exact ⟨hauth, huser hauth⟩

/-- Under a state that admits the request, the default user is not refused. -/
lemma accessError_of_admits (hr : r.command ∉ accessCommands) (hadmits : acl.Admits r.command)
    (huser : session.authenticated = true → session.aclUser = defaultName) :
    accessError acl (authenticateDefault acl session) r = none := by
  obtain ⟨hnopass, hmask⟩ := (admits_iff hr).mp hadmits
  obtain ⟨hauth, hname⟩ := authenticateDefault_of_nopass hnopass huser
  unfold accessError
  rw [hauth, hname, Request.spec, allowsExecuteWithoutAuth_eq_false hr]
  simp only [Bool.not_true, Bool.false_eq_true, if_false, Bool.not_false, Bool.and_true,
    beq_self_eq_true, Bool.true_and]
  split_ifs
  · cases hspec : findCommandSpecUpper r.command with
    | none => rfl
    | some spec => simp [hmask spec hspec]
  · rfl

/-- What is not admitted is refused. -/
lemma accessError_of_not_admits (hr : r.command ∉ accessCommands)
    (hadmits : ¬ acl.Admits r.command)
    (huser : session.authenticated = true →
      session.aclUser = defaultName ∧ acl.defaultUserIsNopassEnabled = true) :
    ∃ text, accessError acl (authenticateDefault acl session) r = some text := by
  rw [admits_iff hr, not_and] at hadmits
  unfold accessError
  rw [Request.spec, allowsExecuteWithoutAuth_eq_false hr]
  cases hnopass : acl.defaultUserIsNopassEnabled with
  | false =>
    have hnobody : session.authenticated = false := by
      rw [Bool.eq_false_iff]
      intro hauth
      rw [(huser hauth).2] at hnopass
      cases hnopass
    exact ⟨_, by simp [authenticateDefault, hnopass, hnobody]; rfl⟩
  | true =>
    obtain ⟨hauth, hname⟩ := authenticateDefault_of_nopass hnopass fun hauth => (huser hauth).1
    have hcovered := hadmits hnopass
    push Not at hcovered
    obtain ⟨spec, hspec, hmask⟩ := hcovered
    have hfull : acl.defaultUserHasFullAccess = false := by
      rw [Bool.eq_false_iff]
      intro hfull
      exact hmask (AclState.commandAllowedMask_of_fullAccess hfull _)
    rw [hauth, hname, hfull, hspec]
    exact ⟨_, by simp [hmask]; rfl⟩

end refusals

/-! ## The same under another state -/

namespace Conn

/-- The connection to a server with another access control state. -/
def withAcl (conn : Conn σ κ) (acl : AclState) : Conn σ κ :=
  { conn with server := { conn.server with acl := acl } }

/-- Who the client is. -/
def identity (conn : Conn σ κ) : Bool × Bytes :=
  (conn.client.session.authenticated, conn.client.session.aclUser)

end Conn

/-- A result under another access control state. -/
abbrev underAcl {α : Type} (acl : AclState) (result : Conn σ κ × α) : Conn σ κ × α :=
  (result.1.withAcl acl, result.2)

/-- The function does not see access control. -/
def Blind {α : Type} (f : Conn σ κ → Conn σ κ × α) : Prop :=
  ∀ acl conn, f (conn.withAcl acl) = ((f conn).1.withAcl acl, (f conn).2)

/-- The function keeps the identity of the client, and the access control state. -/
def KeepsIdentity {α : Type} (f : Conn σ κ → Conn σ κ × α) : Prop :=
  ∀ conn, (f conn).1.identity = conn.identity ∧ (f conn).1.server.acl = conn.server.acl

section commands

variable (b : Backend σ κ) {r : Request}

/-- The arms that a command other than the five can take. -/
lemma commandKind_cases (hr : r.command ∉ accessCommands) :
    commandKind r.command = .select ∨ commandKind r.command = .swapdb ∨
      (∃ command, commandKind r.command = .data command) ∨ commandKind r.command = .other := by
  have hnames : ∀ p ∈ commandKinds, p.2 ∈ [.auth, .hello, .reset, .quit, .acl] →
      p.1 ∈ accessCommands := by
    decide
  have hnot : commandKind r.command ∉ [.auth, .hello, .reset, .quit, .acl] := by
    intro hmem
    unfold commandKind at hmem
    cases hlookup : commandKinds.lookup r.command with
    | none =>
      rw [hlookup] at hmem
      simp at hmem
    | some kind =>
      rw [hlookup, Option.getD_some] at hmem
      exact hr (hnames _ (mem_of_lookup hlookup) hmem)
  cases hkind : commandKind r.command with
  | select => exact Or.inl rfl
  | swapdb => exact Or.inr (Or.inl rfl)
  | data command => exact Or.inr (Or.inr (Or.inl ⟨command, rfl⟩))
  | other => exact Or.inr (Or.inr (Or.inr rfl))
  | _ =>
    rw [hkind] at hnot
    simp at hnot

lemma blind_and_keeps {α : Type} {f : Conn σ κ → Conn σ κ × α}
    (h : ∀ acl conn, f (conn.withAcl acl) = ((f conn).1.withAcl acl, (f conn).2) ∧
      (f conn).1.identity = conn.identity ∧ (f conn).1.server.acl = conn.server.acl) :
    Blind f ∧ KeepsIdentity f :=
  ⟨fun acl conn => (h acl conn).1, fun conn => (h .default conn).2⟩

lemma blind_cmdSelect (args : List Bytes) :
    Blind (cmdSelect b args) ∧ KeepsIdentity (cmdSelect b args) := by
  refine blind_and_keeps fun acl conn => ?_
  unfold cmdSelect
  split
  · split
    · exact ⟨rfl, rfl, rfl⟩
    · split <;> exact ⟨rfl, rfl, rfl⟩
  · exact ⟨rfl, rfl, rfl⟩

/-- A command that is not about access does not look at the users. -/
lemma blind_runCommand (hr : r.command ∉ accessCommands) (now : Int64) :
    Blind (runCommand b r now) ∧ KeepsIdentity (runCommand b r now) := by
  refine blind_and_keeps fun acl conn => ?_
  unfold runCommand
  rcases commandKind_cases hr with h | h | ⟨command, h⟩ | h
  · rw [h]
    exact ⟨(blind_cmdSelect b r.args).1 acl conn, (blind_cmdSelect b r.args).2 conn⟩
  · rw [h]
    exact ⟨rfl, rfl, rfl⟩
  · rw [h]
    exact ⟨rfl, rfl, rfl⟩
  · rw [h]
    exact ⟨rfl, rfl, rfl⟩

lemma finishCommand_withAcl (dbBefore : Fin dbCount) (now : Int64) (acl : AclState)
    (result : Conn σ κ × CommandOutcome) :
    finishCommand b r dbBefore now (underAcl acl result) =
      underAcl acl (finishCommand b r dbBefore now result) := by
  unfold finishCommand
  dsimp only
  split
  · next h => 
      rw [if_pos]
      · rfl
      · exact h
  · next h =>
      rw [if_neg]
      · rfl
      · exact h

lemma gated_withAcl {dispatch : Request → Int64 → Conn σ κ → Conn σ κ × CommandOutcome}
    (dbBefore : Fin dbCount) {now : Int64} {acl : AclState} {conn : Conn σ κ}
    (hdispatch : dispatch r now (conn.withAcl acl) = underAcl acl (dispatch r now conn)) :
    gated b dispatch r dbBefore now (conn.withAcl acl) =
      underAcl acl (gated b dispatch r dbBefore now conn) := by
  have hgate : gateError b r (conn.withAcl acl).server.store (conn.withAcl acl).client.session =
      gateError b r conn.server.store conn.client.session := rfl
  unfold gated
  rw [hgate, hdispatch]
  cases gateError b r conn.server.store conn.client.session with
  | some text => rfl
  | none => exact finishCommand_withAcl b dbBefore now acl (dispatch r now conn)

lemma identity_finishCommand (dbBefore : Fin dbCount) (now : Int64)
    (result : Conn σ κ × CommandOutcome) :
    (finishCommand b r dbBefore now result).1.identity = result.1.identity ∧
      (finishCommand b r dbBefore now result).1.server.acl = result.1.server.acl := by
  unfold finishCommand
  dsimp only
  split <;> exact ⟨rfl, rfl⟩

lemma identity_gated {dispatch : Request → Int64 → Conn σ κ → Conn σ κ × CommandOutcome}
    (dbBefore : Fin dbCount) {now : Int64} {conn : Conn σ κ}
    (hdispatch : (dispatch r now conn).1.identity = conn.identity ∧
      (dispatch r now conn).1.server.acl = conn.server.acl) :
    (gated b dispatch r dbBefore now conn).1.identity = conn.identity ∧
      (gated b dispatch r dbBefore now conn).1.server.acl = conn.server.acl := by
  unfold gated
  split
  · exact ⟨rfl, rfl⟩
  · obtain ⟨hidentity, hacl⟩ := identity_finishCommand b (r := r) dbBefore now
      (dispatch r now conn)
    exact ⟨hidentity.trans hdispatch.1, hacl.trans hdispatch.2⟩

end commands

/-! ## Queued commands -/

/-- The client of a server with the default state is nobody yet, or the default user. -/
structure Conn.Standing (conn : Conn σ κ) : Prop where
  acl : conn.server.acl = .default
  user : conn.client.session.authenticated = true → conn.client.session.aclUser = defaultName

/-- The request is none of the five, and the state admits it. -/
def AclState.Passes (acl : AclState) (r : Request) : Prop :=
  r.command ∉ accessCommands ∧ acl.Admits r.command

section queued

variable (b : Backend σ κ) {acl : AclState} {conn : Conn σ κ}
variable {q : QueuedRequest} {st : ExecState σ κ}

lemma AclState.Passes.nopass {r : Request} (h : acl.Passes r) :
    acl.defaultUserIsNopassEnabled = true :=
  ((admits_iff h.1).mp h.2).1

/-- The client stays what it was as long as its identity does. -/
lemma Conn.Standing.congr {conn' : Conn σ κ} (h : conn.Standing)
    (hsame : conn'.identity = conn.identity ∧ conn'.server.acl = conn.server.acl) :
    conn'.Standing := by
  refine ⟨hsame.2.trans h.acl, fun hauth => ?_⟩
  have hauth' : conn.client.session.authenticated = true :=
    (congrArg Prod.fst hsame.1).symm.trans hauth
  exact (congrArg Prod.snd hsame.1).trans (h.user hauth')

lemma identity_enter (h : conn.Standing) : (enter conn).identity = (true, defaultName) := by
  have hnopass : conn.server.acl.defaultUserIsNopassEnabled = true := by
    rw [h.acl]
    exact AclState.defaultUserIsNopassEnabled_default
  obtain ⟨hauth, hname⟩ := authenticateDefault_of_nopass hnopass h.user
  exact Prod.ext hauth hname

lemma standing_noteCommand (r : Request) (h : conn.Standing) :
    (noteCommand b r (enter conn)).Standing :=
  ⟨h.acl, fun _ => congrArg Prod.snd (identity_enter h)⟩

lemma enter_withAcl (h : conn.Standing) (hnopass : acl.defaultUserIsNopassEnabled = true) :
    enter (conn.withAcl acl) = (enter conn).withAcl acl := by
  have hdefault : conn.server.acl.defaultUserIsNopassEnabled = true := by
    rw [h.acl]
    exact AclState.defaultUserIsNopassEnabled_default
  have hsession : authenticateDefault acl conn.client.session =
      authenticateDefault conn.server.acl conn.client.session := by
    simp only [authenticateDefault, hnopass, hdefault]
  show ((conn.withAcl acl).setEffects none).setSession
    (authenticateDefault acl conn.client.session) = _
  rw [hsession]
  rfl

lemma accessError_enter {r : Request} (hr : acl.Passes r) (h : conn.Standing) :
    accessError (enter conn).server.acl (enter conn).client.session r = none ∧
      accessError acl (enter conn).client.session r = none := by
  have hentered := identity_enter h
  have huser : (enter conn).client.session.authenticated = true ∧
      (enter conn).client.session.aclUser = defaultName :=
    ⟨congrArg Prod.fst hentered, congrArg Prod.snd hentered⟩
  -- entering again changes nothing
  have hagain (state : AclState) : authenticateDefault state (enter conn).client.session =
      (enter conn).client.session := by
    simp [authenticateDefault, huser.1]
  have hpass (state : AclState) (hstate : state.Admits r.command) :
      accessError state (enter conn).client.session r = none := by
    have hentering : accessError state
        (authenticateDefault state (enter conn).client.session) r = none :=
      accessError_of_admits hr.1 hstate fun _ => huser.2
    rwa [hagain] at hentering
  refine ⟨?_, hpass acl hr.2⟩
  have hacl : (enter conn).server.acl = .default := h.acl
  rw [hacl]
  exact hpass _ (admits_default _)

/-- A queued command that is not refused. -/
lemma executeQueued_eq {now : Int64} (htx : conn.client.session.tx = .normal)
    (haccess : accessError (enter conn).server.acl (enter conn).client.session q.request = none) :
    executeQueued b q now conn = gated b (runCommand b) q.request conn.client.session.selectedDb
      now (noteCommand b q.request (enter conn)) := by
  refine (executeWith_admitted b _ haccess).trans (admitted_gated b _ fun hin => ?_)
  rw [show (noteCommand b q.request (enter conn)).client.session.tx = .normal from
    (tx_enter conn).trans htx] at hin
  cases hin

/-- **A queued command does the same under both states.** -/
lemma executeQueued_withAcl (now : Int64) (hq : acl.Passes q.request) (h : conn.Standing)
    (htx : conn.client.session.tx = .normal) :
    executeQueued b q now (conn.withAcl acl) = underAcl acl (executeQueued b q now conn) := by
  obtain ⟨haccess, haccess'⟩ := accessError_enter hq h
  have henter := enter_withAcl h hq.nopass
  have hother : executeQueued b q now (conn.withAcl acl) =
      gated b (runCommand b) q.request conn.client.session.selectedDb now
        ((noteCommand b q.request (enter conn)).withAcl acl) := by
    have hrefused : accessError (enter (conn.withAcl acl)).server.acl
        (enter (conn.withAcl acl)).client.session q.request = none := by
      rw [henter]
      exact haccess'
    have htx' : (conn.withAcl acl).client.session.tx = .normal := htx
    rw [executeQueued_eq b htx' hrefused, henter]
    rfl
  rw [hother, executeQueued_eq b htx haccess]
  exact gated_withAcl b _ ((blind_runCommand b hq.1 now).1 acl _)

lemma standing_executeQueued (now : Int64) (hq : acl.Passes q.request) (h : conn.Standing)
    (htx : conn.client.session.tx = .normal) : (executeQueued b q now conn).1.Standing := by
  rw [executeQueued_eq b htx (accessError_enter hq h).1]
  exact (standing_noteCommand b q.request h).congr
    (identity_gated b _ ((blind_runCommand b hq.1 now).2 _))

/-- The loop over a queue under another state. -/
def ExecState.withAcl (st : ExecState σ κ) (acl : AclState) : ExecState σ κ :=
  { st with conn := st.conn.withAcl acl }

/-- A round of `EXEC` is the same under users that let it pass. -/
lemma execStep_withAcl (now : Int64) (hq : acl.Passes q.request) (h : st.conn.Standing)
    (htx : st.conn.client.session.tx = .normal) :
    execStep b now (st.withAcl acl) q = (execStep b now st q).withAcl acl := by
  have hstep : executeQueued b q now (st.withAcl acl).conn =
      underAcl acl (executeQueued b q now st.conn) := executeQueued_withAcl b now hq h htx
  unfold execStep
  rw [hstep]
  rfl

/-- The loop over a queue that passes does the same under both states. -/
lemma execLoop_withAcl (now : Int64) (queue : List QueuedRequest) (st : ExecState σ κ)
    (hqueue : ∀ q ∈ queue, acl.Passes q.request) (h : st.conn.Standing)
    (htx : st.conn.client.session.tx = .normal) :
    execLoop b now queue (st.withAcl acl) = (execLoop b now queue st).withAcl acl ∧
      (execLoop b now queue st).conn.Standing := by
  induction queue generalizing st with
  | nil => exact ⟨rfl, h⟩
  | cons q queue ih =>
    obtain ⟨hq, hqueue⟩ := List.forall_mem_cons.mp hqueue
    have hstep := execStep_withAcl b now hq h htx
    have hqueued := standing_executeQueued b now hq h htx
    have hstanding : (execStep b now st q).conn.Standing := ⟨hqueued.acl, hqueued.user⟩
    have htx' : (execStep b now st q).conn.client.session.tx = .normal :=
      tx_executeQueued b q now htx
    have hclose : ((execStep b now st q).withAcl acl).outcome.close =
        (execStep b now st q).outcome.close := rfl
    simp only [execLoop, hstep, hclose]
    split
    · exact ⟨rfl, hstanding⟩
    · exact ih _ hqueue hstanding htx'

lemma finishExec_withAcl (now : Int64) (st : ExecState σ κ) (acl : AclState) :
    finishExec b now (st.withAcl acl) = underAcl acl (finishExec b now st) := by
  obtain ⟨conn, replies, replyProtocol, segmentStart, durableCommands, executedCount, outcome⟩ := st
  cases durableCommands with
  | nil => rfl
  | cons command commands => rfl

lemma standing_finishExec (now : Int64) (h : st.conn.Standing) :
    (finishExec b now st).1.Standing := by
  unfold finishExec
  dsimp only
  split <;> exact ⟨h.acl, h.user⟩

lemma runQueue_withAcl (now : Int64) (queue : List QueuedRequest)
    (hqueue : ∀ q ∈ queue, acl.Passes q.request) (h : conn.Standing)
    (htx : conn.client.session.tx = .normal) :
    runQueue b now queue (conn.withAcl acl) = underAcl acl (runQueue b now queue conn) ∧
      (runQueue b now queue conn).1.Standing := by
  have hstart : (startExec conn).conn.Standing := ⟨h.acl, h.user⟩
  obtain ⟨hloop, hstanding⟩ := execLoop_withAcl b now queue (startExec conn) hqueue hstart htx
  have hacl : startExec (conn.withAcl acl) = (startExec conn).withAcl acl := rfl
  rw [runQueue_eq, runQueue_eq, hacl, hloop, finishExec_withAcl]
  exact ⟨rfl, standing_finishExec b now hstanding⟩

/-- What the client has queued passes. -/
def Conn.QueuePasses (conn : Conn σ κ) (acl : AclState) : Prop :=
  ∀ queue hasError, conn.client.session.tx = .inTransaction queue hasError →
    ∀ q ∈ queue, acl.Passes q.request

/-- So is `EXEC`. -/
lemma cmdExec_withAcl (args : List Bytes) (now : Int64) (h : conn.Standing)
    (hqueue : conn.QueuePasses acl) :
    cmdExec b args now (conn.withAcl acl) = underAcl acl (cmdExec b args now conn) ∧
      (cmdExec b args now conn).1.Standing := by
  have hsession : (conn.withAcl acl).client.session = conn.client.session := rfl
  have hstore : (conn.withAcl acl).server.store = conn.server.store := rfl
  have hleave : leaveMulti b (conn.withAcl acl) = (leaveMulti b conn).withAcl acl := rfl
  have hleft : (leaveMulti b conn).Standing := ⟨h.acl, h.user⟩
  unfold cmdExec
  simp only [hsession, hstore, hleave]
  by_cases hargs : args ≠ []
  · simp only [if_pos hargs]
    exact ⟨trivial, h⟩
  · simp only [if_neg hargs]
    cases htx : conn.client.session.tx with
    | normal => exact ⟨rfl, h⟩
    | inTransaction queue hasError =>
      cases hasError with
      | true => exact ⟨rfl, hleft⟩
      | false =>
        dsimp only
        obtain ⟨hrun, hstanding⟩ := runQueue_withAcl b now queue
          (hqueue queue false htx) hleft rfl
        rw [hrun]
        split_ifs
        · exact ⟨rfl, hleft⟩
        · exact ⟨rfl, hleft⟩
        · rename_i hmemory hmemory'
          exact absurd hmemory hmemory'
        · rename_i hmemory hmemory'
          exact absurd hmemory' hmemory
        · exact ⟨rfl, hstanding⟩

end queued

/-! ## Requests -/

section requests

variable (b : Backend σ κ) {acl : AclState} {conn : Conn σ κ} {r : Request}

lemma foldl_watchOne_withAcl (index : Fin dbCount) (keys : List Bytes) (acl : AclState)
    (conn : Conn σ κ) :
    keys.foldl (watchOne b index) (conn.withAcl acl) =
      (keys.foldl (watchOne b index) conn).withAcl acl := by
  induction keys generalizing conn with
  | nil => rfl
  | cons key keys ih =>
    have hone : watchOne b index (conn.withAcl acl) key =
        (watchOne b index conn key).withAcl acl := by
      have hwatched : (conn.withAcl acl).client.session.watched =
          conn.client.session.watched := rfl
      unfold watchOne
      dsimp only
      rw [hwatched]
      split_ifs <;> rfl
    rw [List.foldl_cons, hone, ih, List.foldl_cons]

/-- The transaction commands other than `EXEC` do not see access control. -/
lemma blind_transaction (now : Int64) (args : List Bytes) :
    ∀ f ∈ [cmdMulti b args, cmdDiscard b args, cmdWatch b args now, cmdUnwatch b args],
      Blind f ∧ KeepsIdentity f := by
  simp only [List.forall_mem_cons]
  refine ⟨?_, ?_, ?_, ?_, List.forall_mem_nil _⟩
  · refine blind_and_keeps fun acl conn => ?_
    unfold cmdMulti
    dsimp only
    rw [show (conn.withAcl acl).client.session = conn.client.session from rfl]
    split_ifs <;> exact ⟨rfl, rfl, rfl⟩
  · refine blind_and_keeps fun acl conn => ?_
    unfold cmdDiscard
    rw [show (conn.withAcl acl).client.session = conn.client.session from rfl]
    split_ifs <;> exact ⟨rfl, rfl, rfl⟩
  · refine blind_and_keeps fun acl conn => ?_
    unfold cmdWatch
    dsimp only
    rw [show (conn.withAcl acl).client.session = conn.client.session from rfl,
      show (conn.withAcl acl).server.store = conn.server.store from rfl]
    split_ifs
    · exact ⟨rfl, rfl, rfl⟩
    · exact ⟨rfl, rfl, rfl⟩
    · obtain ⟨rest, watched, hwatch⟩ := foldl_watchOne_eq b conn.client.session.selectedDb args
        (conn.setStore (args.foldl (purgeWatched b now conn.client.session.selectedDb)
          conn.server.store))
      refine ⟨congrArg (·, _) (foldl_watchOne_withAcl b _ _ acl (conn.setStore _)), ?_⟩
      rw [hwatch]
      exact ⟨rfl, rfl⟩
  · refine blind_and_keeps fun acl conn => ?_
    unfold cmdUnwatch
    split_ifs <;> exact ⟨rfl, rfl, rfl⟩

/-- So is every command that passes. -/
lemma dispatchCommand_withAcl (now : Int64) (hr : acl.Passes r) (h : conn.Standing)
    (hqueue : conn.QueuePasses acl) :
    dispatchCommand b r now (conn.withAcl acl) = underAcl acl (dispatchCommand b r now conn) ∧
      (dispatchCommand b r now conn).1.Standing := by
  have hblind := blind_transaction b now r.args
  simp only [List.forall_mem_cons] at hblind
  obtain ⟨hmulti, hdiscard, hwatch, hunwatch, -⟩ := hblind
  have hsame {f : Conn σ κ → Conn σ κ × CommandOutcome} (hf : Blind f ∧ KeepsIdentity f) :
      f (conn.withAcl acl) = underAcl acl (f conn) ∧ (f conn).1.Standing :=
    ⟨hf.1 acl conn, h.congr (hf.2 conn)⟩
  unfold dispatchCommand
  split_ifs
  · exact hsame hmulti
  · exact cmdExec_withAcl b r.args now h hqueue
  · exact hsame hdiscard
  · exact hsame hwatch
  · exact hsame hunwatch
  · exact hsame (blind_runCommand b hr.1 now)

/-- Neither state refuses to queue a request that passes. -/
lemma validateQueuedCommand_eq (hr : acl.Passes r) {session : Session κ}
    (huser : session.aclUser = defaultName) :
    validateQueuedCommand acl session r = validateQueuedCommand .default session r := by
  have hmask (state : AclState) (hstate : state.Admits r.command) (spec : CommandSpec)
      (hspec : findCommandSpec r.name = some spec) :
      state.commandAllowedMask session.aclUser (aclRequiredCategories spec) = true := by
    rw [huser]
    exact ((admits_iff hr.1).mp hstate).2 spec hspec
  unfold validateQueuedCommand
  cases hspec : findCommandSpec r.name with
  | none => rfl
  | some spec =>
    simp only [hmask acl hr.2 spec hspec, hmask .default (admits_default _) spec hspec]

lemma queueCommand_withAcl {hmem : r.command ∉ transactionCommands} (queue : List QueuedRequest)
    (hasError : Bool) (hr : acl.Passes r) (hacl : conn.server.acl = .default)
    (huser : conn.client.session.aclUser = defaultName) :
    queueCommand b ⟨r, hmem⟩ queue hasError (conn.withAcl acl) =
      underAcl acl (queueCommand b ⟨r, hmem⟩ queue hasError conn) := by
  have hvalidate : validateQueuedCommand (conn.withAcl acl).server.acl
      (conn.withAcl acl).client.session r =
        validateQueuedCommand conn.server.acl conn.client.session r := by
    rw [hacl]
    exact validateQueuedCommand_eq hr huser
  unfold queueCommand
  dsimp only
  rw [hvalidate]
  split
  · rfl
  · rw [show (conn.withAcl acl).server.store = conn.server.store from rfl,
      show (conn.withAcl acl).client.session = conn.client.session from rfl]
    split_ifs <;> rfl

lemma executeArgv_gated {now : Int64}
    (haccess : accessError (enter conn).server.acl (enter conn).client.session r = none)
    (hmem : conn.inMulti = true → r.command ∈ transactionCommands) :
    executeArgv b r now conn = gated b (dispatchCommand b) r conn.client.session.selectedDb now
      (noteCommand b r (enter conn)) := by
  rw [← inMulti_enter, ← inMulti_noteCommand b r] at hmem
  exact (executeWith_admitted b _ haccess).trans (admitted_gated b _ hmem)

lemma standing_queueCommand {hmem : r.command ∉ transactionCommands}
    (queue : List QueuedRequest) (hasError : Bool) (h : conn.Standing) :
    (queueCommand b ⟨r, hmem⟩ queue hasError conn).1.Standing := by
  rcases queueCommand_cases b ⟨r, hmem⟩ queue hasError conn with ⟨text, hqueue⟩ | ⟨-, hqueue⟩
  · rw [hqueue]
    exact ⟨h.acl, h.user⟩
  · rw [hqueue]
    exact ⟨h.acl, h.user⟩

lemma queuePasses_queueCommand {hmem : r.command ∉ transactionCommands}
    {queue : List QueuedRequest} {hasError : Bool} (hr : acl.Passes r)
    (hqueue : ∀ q ∈ queue, acl.Passes q.request) :
    (queueCommand b ⟨r, hmem⟩ queue hasError conn).1.QueuePasses acl := by
  have hadded : ∀ q ∈ queue ++ [⟨r, hmem⟩], acl.Passes q.request := by
    intro q hq
    rcases List.mem_append.mp hq with hq | hq
    · exact hqueue q hq
    · rw [List.mem_singleton.mp hq]
      exact hr
  intro queue' hasError' htx
  rcases queueCommand_cases b ⟨r, hmem⟩ queue hasError conn with ⟨text, hadd⟩ | ⟨-, hadd⟩
  · rw [hadd] at htx
    cases htx
    exact hqueue
  · rw [hadd] at htx
    cases htx
    exact hadded

/-- **A request that passes does the same under both states**, and the client stays what it
was. -/
theorem executeArgv_withAcl (now : Int64) (hr : acl.Passes r) (h : conn.Standing)
    (hqueue : conn.QueuePasses acl) :
    executeArgv b r now (conn.withAcl acl) = underAcl acl (executeArgv b r now conn) ∧
      (executeArgv b r now conn).1.Standing ∧ (executeArgv b r now conn).1.QueuePasses acl := by
  obtain ⟨haccess, haccess'⟩ := accessError_enter hr h
  have henter := enter_withAcl h hr.nopass
  have hother : accessError (enter (conn.withAcl acl)).server.acl
      (enter (conn.withAcl acl)).client.session r = none := by
    rw [henter]
    exact haccess'
  -- the connection at the dispatch
  have hnoted := standing_noteCommand b r h
  have htx : (noteCommand b r (enter conn)).client.session.tx = conn.client.session.tx :=
    tx_enter conn
  have hqueue' : (noteCommand b r (enter conn)).QueuePasses acl := by
    intro queue hasError hmode
    exact hqueue queue hasError (htx.symm.trans hmode)
  have hnote : noteCommand b r (enter (conn.withAcl acl)) =
      (noteCommand b r (enter conn)).withAcl acl := by
    rw [henter]
    rfl
  by_cases hmem : conn.inMulti = true → r.command ∈ transactionCommands
  · obtain ⟨hdispatch, hstanding⟩ := dispatchCommand_withAcl b now hr hnoted hqueue'
    rw [executeArgv_gated b haccess hmem, executeArgv_gated b hother hmem, hnote]
    refine ⟨gated_withAcl b _ hdispatch, ?_, ?_⟩
    · unfold gated
      split
      · exact hnoted
      · exact hstanding.congr (identity_finishCommand b _ now _)
    · unfold gated
      split
      · exact hqueue'
      · intro queue hasError hmode
        rw [(outer_finishCommand b r _ now _).1] at hmode
        rcases tx_dispatchCommand b r now (noteCommand b r (enter conn)) with hsame | hout | hfresh
        · exact hqueue' queue hasError (hsame.symm.trans hmode)
        · rw [hout] at hmode
          cases hmode
        · rw [hfresh] at hmode
          cases hmode
          simp
  · rw [Classical.not_imp] at hmem
    obtain ⟨hin, hmem⟩ := hmem
    cases hmode : conn.client.session.tx with
    | normal =>
      rw [Conn.inMulti, hmode] at hin
      cases hin
    | inTransaction queue hasError =>
      have hmode' : (noteCommand b r (enter conn)).client.session.tx =
          .inTransaction queue hasError := htx.trans hmode
      have huser : (noteCommand b r (enter conn)).client.session.aclUser = defaultName :=
        congrArg Prod.snd (identity_enter h)
      unfold executeArgv
      rw [executeWith_admitted b _ haccess, executeWith_admitted b _ hother, hnote,
        admitted_queued b _ hmode' hmem,
        admitted_queued b _ (show ((noteCommand b r (enter conn)).withAcl acl).client.session.tx = _
          from hmode') hmem]
      exact ⟨queueCommand_withAcl b queue hasError hr h.acl huser,
        standing_queueCommand b queue hasError hnoted,
        queuePasses_queueCommand b hr (hqueue queue hasError hmode)⟩

theorem executeArgv_of_not_admits (now : Int64) (hr : r.command ∉ accessCommands)
    (hadmits : ¬ acl.Admits r.command)
    (huser : conn.client.session.authenticated = true →
      conn.client.session.aclUser = defaultName ∧ acl.defaultUserIsNopassEnabled = true) :
    ∃ text, (executeArgv b r now (conn.withAcl acl)).2 = b.fail text := by
  obtain ⟨text, hrefused⟩ := accessError_of_not_admits hr hadmits huser
  have haccess : accessError (enter (conn.withAcl acl)).server.acl
      (enter (conn.withAcl acl)).client.session r = some text := hrefused
  refine ⟨text, ?_⟩
  simp only [executeArgv, executeWith, haccess]

end requests

end Ratatosk.Engine
