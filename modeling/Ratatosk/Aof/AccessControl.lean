import Ratatosk.Aof.CrashPrefix
import Ratatosk.Engine.Access

/-!
# Replay under access control

Replay hands every command of the file to the dispatcher, as the request of a client that has not
authenticated. Startup loads the access control state first, so the commands are checked against
it.

* `replayReader_acl_iff` — a file that replays under the default state replays to the same
  keyspace under another one exactly if that state admits every command of the file.
* `password_refuses_replay` — a state that startup can load, with a password for the default user,
  under which a file with one `SET` is refused.

The five commands of `accessCommands` are apart: what they do depends on the state itself. None of
them is a write, so none is ever logged.
-/

namespace Ratatosk.Aof

open Lib Keyspace Resp Engine

variable {σ κ : Type}

/-! ## The commands of a file -/

/-- The frames of a buffer, up to the first that is not whole. -/
def fileFrames : (fuel : Nat) → Bytes → List RespFrame
  | 0, _ => []
  | fuel + 1, buf =>
    match readFrame buf with
    | (.ok (some frame), rest) => frame :: fileFrames fuel rest
    | _ => []

/-- The request in a frame of the file. -/
def requestOf (frame : RespFrame) : Option Request :=
  match decodeTimedCommand frame with
  | .error _ => none
  | .ok (_, command) =>
    match frameToArgv command with
    | .error _ => none
    | .ok argv => Request.ofArgv argv

/-- The commands of a file, in order. -/
def fileRequests (raw : Bytes) : List Request :=
  (fileFrames (raw.length + 1) (splitHeader raw).1).filterMap requestOf

/-! ## One frame -/

section frame

variable (b : Backend σ κ) {wall : Nat → Int64} {acl : AclState}
variable {q p : Progress σ κ} {frame : RespFrame} {consumed : Nat}

/-- A replay on a server with another access control state. -/
def Progress.withAcl (p : Progress σ κ) (acl : AclState) : Progress σ κ :=
  { p with conn := p.conn.withAcl acl }

/-- A frame that is replayed is a request that ran without an error. -/
lemma replayFrame_eq_ok (h : replayFrame b wall p frame consumed = .ok q) :
    ∃ r now, requestOf frame = some r ∧
      responseIsError (executeArgv b r now p.conn).2.response = false ∧
      q = p.advance (executeArgv b r now p.conn).1 consumed ∧
      ∀ p' : Progress σ κ, p'.position = p.position → replayFrame b wall p' frame consumed =
        if responseIsError (executeArgv b r now p'.conn).2.response then
          .error (.commandFailed p'.position (executeArgv b r now p'.conn).2.response)
        else .ok (p'.advance (executeArgv b r now p'.conn).1 consumed) := by
  unfold replayFrame at h
  cases hdecode : decodeTimedCommand frame with
  | error e =>
    rw [hdecode] at h
    cases h
  | ok decoded =>
    obtain ⟨timestamp, command⟩ := decoded
    simp only [hdecode] at h
    cases hargv : frameToArgv command with
    | error text =>
      simp only [execute, hargv] at h
      cases h
    | ok argv =>
      cases argv with
      | nil =>
        simp only [execute, hargv] at h
        cases h
      | cons name args =>
        simp only [execute, hargv] at h
        have hrequest : requestOf frame = some ⟨name, args⟩ := by
          simp only [requestOf, hdecode, hargv, Request.ofArgv]
        refine ⟨⟨name, args⟩, timestamp.getD (wall p.position), hrequest, ?_, ?_, ?_⟩
        · split at h
          · cases h
          · next hok => simpa using hok
        · split at h
          · cases h
          · exact (Except.ok.inj h).symm
        · intro p' hposition
          simp only [replayFrame, hdecode, execute, hargv, hposition]

/-- Under a state that admits the request, the frame is replayed as under the default state. -/
lemma replayFrame_withAcl (h : replayFrame b wall p frame consumed = .ok q)
    (hpasses : ∀ r ∈ requestOf frame, acl.Passes r) (hstanding : p.conn.Standing)
    (hqueue : p.conn.QueuePasses acl) :
    replayFrame b wall (p.withAcl acl) frame consumed = .ok (q.withAcl acl) ∧
      q.conn.Standing ∧ q.conn.QueuePasses acl := by
  obtain ⟨r, now, hrequest, hok, rfl, hother⟩ := replayFrame_eq_ok b h
  obtain ⟨hsame, hstanding', hqueue'⟩ :=
    executeArgv_withAcl b now (hpasses r hrequest) hstanding hqueue
  have hsame' : executeArgv b r now (p.withAcl acl).conn =
      underAcl acl (executeArgv b r now p.conn) := hsame
  refine ⟨?_, hstanding', hqueue'⟩
  rw [hother (p.withAcl acl) rfl, hsame', hok]
  rfl

lemma replayFrame_refused (h : replayFrame b wall p frame consumed = .ok q) {r : Request}
    (hrequest : requestOf frame = some r) (hr : r.command ∉ accessCommands)
    (hadmits : ¬ acl.Admits r.command)
    (huser : p.conn.client.session.authenticated = true →
      p.conn.client.session.aclUser = defaultName ∧ acl.defaultUserIsNopassEnabled = true) :
    ∃ e, replayFrame b wall (p.withAcl acl) frame consumed = .error e := by
  obtain ⟨r', now, hrequest', -, -, hother⟩ := replayFrame_eq_ok b h
  obtain rfl := Option.some.inj (hrequest.symm.trans hrequest')
  obtain ⟨text, hfail⟩ := executeArgv_of_not_admits b now hr hadmits huser
  have hfail' : (executeArgv b r now (p.withAcl acl).conn).2 = b.fail text := hfail
  rw [hother (p.withAcl acl) rfl, hfail']
  exact ⟨_, rfl⟩

end frame

/-! ## The whole file -/

section file

variable (b : Backend σ κ) {wall : Nat → Int64} {acl : AclState}

lemma stop_withAcl (p : Progress σ κ) (unread : Bool) :
    (p.withAcl acl).stop unread = ((p.stop unread).1.withAcl acl, (p.stop unread).2) := by
  obtain ⟨conn, position, commandsReplayed, transactionStart⟩ := p
  cases transactionStart with
  | none => rfl
  | some start => rfl

/-- The loop under another state: as under the default state if that state admits every request,
and a failure otherwise. -/
lemma replayLoop_withAcl {fuel : Nat} {buf : Bytes} {p : Progress σ κ}
    {result : Progress σ κ × Option Nat} (h : replayLoop b wall fuel buf p = .ok result)
    (hlogged : ∀ r ∈ (fileFrames fuel buf).filterMap requestOf, r.command ∉ accessCommands)
    (hstanding : p.conn.Standing) (hqueue : p.conn.QueuePasses acl)
    (hnopass : p.conn.client.session.authenticated = true →
      acl.defaultUserIsNopassEnabled = true) :
    ((∀ r ∈ (fileFrames fuel buf).filterMap requestOf, acl.Admits r.command) ∧
      replayLoop b wall fuel buf (p.withAcl acl) = .ok (result.1.withAcl acl, result.2)) ∨
    ((¬ ∀ r ∈ (fileFrames fuel buf).filterMap requestOf, acl.Admits r.command) ∧
      ∃ e, replayLoop b wall fuel buf (p.withAcl acl) = .error e) := by
  induction fuel generalizing buf p with
  | zero => cases h
  | succ fuel ih =>
    rcases hread : readFrame buf with ⟨frame, rest⟩
    rcases frame with e | _ | frame
    · -- damage, or a torn tail: the same whatever the state
      simp only [replayLoop, hread] at h ⊢
      refine Or.inl ⟨by simp [fileFrames, hread], ?_⟩
      split at h
      · next htorn =>
          rw [if_pos htorn, stop_withAcl, ← Except.ok.inj h]
      · cases h
    · simp only [replayLoop, hread] at h ⊢
      refine Or.inl ⟨by simp [fileFrames, hread], ?_⟩
      rw [stop_withAcl, ← Except.ok.inj h]
    · simp only [replayLoop, hread] at h ⊢
      obtain ⟨q, hframe, hrest⟩ := bind_eq_ok_iff.mp h
      obtain ⟨r, now, hrequest, -⟩ := replayFrame_eq_ok b hframe
      have hfile : (fileFrames (fuel + 1) buf).filterMap requestOf =
          r :: (fileFrames fuel rest).filterMap requestOf := by
        simp only [fileFrames, hread, List.filterMap_cons, hrequest]
      rw [hfile] at hlogged ⊢
      obtain ⟨hr, hlater⟩ := List.forall_mem_cons.mp hlogged
      rw [List.forall_mem_cons]
      by_cases hadmits : acl.Admits r.command
      · have hpasses : acl.Passes r := ⟨hr, hadmits⟩
        have hframe' := replayFrame_withAcl b hframe
          (fun r' hr' => by rwa [← Option.some.inj (hrequest.symm.trans hr')]) hstanding hqueue
        obtain ⟨hsame, hstanding', hqueue'⟩ := hframe'
        rw [hsame]
        rcases ih hrest hlater hstanding' hqueue' (fun _ => hpasses.nopass) with
          ⟨hall, hloop⟩ | ⟨hnot, hloop⟩
        · exact Or.inl ⟨⟨hadmits, hall⟩, hloop⟩
        · exact Or.inr ⟨fun hall => hnot hall.2, hloop⟩
      · obtain ⟨e, herror⟩ := replayFrame_refused b hframe hrequest hr hadmits
          (fun hauth => ⟨hstanding.user hauth, hnopass hauth⟩)
        rw [herror]
        exact Or.inr ⟨fun hall => hadmits hall.1, e, rfl⟩

/-- **Replay under access control.** A file that replays under the default state, and holds none
of the commands that work on access control, replays to the same keyspace under another state
exactly if that state admits every command of the file: the default user needs no password, and
may run the command. -/
theorem replayReader_acl_iff {raw : Bytes} {store : Store σ}
    {replayed : ServerState σ × ReplayResult}
    (hreplay : replayReader b wall raw ⟨store, .default⟩ = .ok replayed)
    (hlogged : ∀ r ∈ fileRequests raw, r.command ∉ accessCommands) (acl : AclState) :
    (∃ replayed', replayReader b wall raw ⟨store, acl⟩ = .ok replayed' ∧
        replayed'.1.store.dbs = replayed.1.store.dbs) ↔
      ∀ r ∈ fileRequests raw, acl.Admits r.command := by
  have hstanding : (Progress.start b ⟨store, .default⟩
      (raw.length - (splitHeader raw).1.length)).conn.Standing := by
    refine ⟨rfl, ?_⟩
    intro hauth
    cases hauth
  unfold replayReader at hreplay ⊢
  cases hloop : replayLoop b wall (raw.length + 1) (splitHeader raw).1
      (.start b ⟨store, .default⟩ (raw.length - (splitHeader raw).1.length)) with
  | error e =>
    simp only [hloop] at hreplay
    cases hreplay
  | ok result =>
    simp only [hloop] at hreplay
    obtain rfl := Except.ok.inj hreplay
    have hstart : Progress.start b ⟨store, acl⟩ (raw.length - (splitHeader raw).1.length) =
        (Progress.start b ⟨store, .default⟩
          (raw.length - (splitHeader raw).1.length)).withAcl acl := rfl
    simp only [hstart]
    rcases replayLoop_withAcl b hloop hlogged hstanding
        (fun queue hasError htx => by cases htx) (fun hauth => by cases hauth) with
      ⟨hall, hsame⟩ | ⟨hnot, e, herror⟩
    · refine ⟨fun _ => hall, fun _ => ?_⟩
      rw [hsame]
      exact ⟨_, rfl, rfl⟩
    · refine ⟨?_, fun hall => absurd hall hnot⟩
      rintro ⟨replayed', hok, -⟩
      rw [herror] at hok
      cases hok

end file

/-! ## A file of one write -/

/-- The stored state of a default user with the given password, if any, and categories. -/
def storedDefaultUser (password : Option Bytes) (categories : List Bytes) : PersistedAclState where
  version := 1
  users := [⟨defaultName, true, password.isNone, password.toList, false, categories⟩]

/-- What startup loads for a default user that may write and select, without a password. -/
def writerAcl : AclState :=
  ⟨AList.singleton defaultName
    ⟨true, true, hashSetOf [], false, hashSetOf [ascii "write", ascii "connection", ascii "fast"]⟩,
    []⟩

/-- What startup loads for the same user with a password. -/
def passwordAcl : AclState :=
  ⟨AList.singleton defaultName
    ⟨true, false, hashSetOf [ascii "secret"], false,
      hashSetOf [ascii "write", ascii "connection", ascii "fast"]⟩,
    []⟩

lemma exists_replayReader_setUnit_default :
    ∃ replayed, replayReader .bare (fun _ => 0) (appendAll [setUnit]) ⟨emptyServer.store, .default⟩ =
      .ok replayed := by
  have hok : (replayReader .bare (fun _ => 0) (appendAll [setUnit])
      ⟨emptyServer.store, .default⟩).isOk = true := by
    decide +kernel
  cases hresult : replayReader .bare (fun _ => 0) (appendAll [setUnit])
      ⟨emptyServer.store, .default⟩ with
  | error e =>
    rw [hresult] at hok
    cases hok
  | ok replayed => exact ⟨replayed, rfl⟩

/-- Under the restricted user the file replays as under the default state. -/
theorem replayReader_setUnit_writer :
    writerAcl.Loadable ∧ ∃ replayed replayed',
      replayReader .bare (fun _ => 0) (appendAll [setUnit]) ⟨emptyServer.store, .default⟩ =
        .ok replayed ∧
      replayReader .bare (fun _ => 0) (appendAll [setUnit]) ⟨emptyServer.store, writerAcl⟩ =
        .ok replayed' ∧
      replayed'.1.store.dbs = replayed.1.store.dbs := by
  have hloadable : writerAcl.Loadable :=
    ⟨storedDefaultUser none [ascii "write", ascii "connection", ascii "fast"], rfl⟩
  obtain ⟨replayed, hreplay⟩ := exists_replayReader_setUnit_default
  have hlogged : ∀ r ∈ fileRequests (appendAll [setUnit]), r.command ∉ accessCommands := by
    decide +kernel
  have hadmits : ∀ r ∈ fileRequests (appendAll [setUnit]), writerAcl.Admits r.command := by
    decide +kernel
  obtain ⟨replayed', hreplay', hdbs⟩ :=
    (replayReader_acl_iff .bare hreplay hlogged writerAcl).mpr hadmits
  exact ⟨hloadable, replayed, replayed', hreplay, hreplay', hdbs⟩

/-- With a password for the default user, startup refuses the file that it has written. -/
theorem password_refuses_replay :
    passwordAcl.Loadable ∧
      (∃ replayed, replayReader .bare (fun _ => 0) (appendAll [setUnit])
        ⟨emptyServer.store, .default⟩ = .ok replayed) ∧
      (replayReader .bare (fun _ => 0) (appendAll [setUnit])
        ⟨emptyServer.store, passwordAcl⟩).isOk = false := by
  refine ⟨?_, exists_replayReader_setUnit_default, ?_⟩
  · exact ⟨storedDefaultUser (some (ascii "secret"))
      [ascii "write", ascii "connection", ascii "fast"], rfl⟩
  · decide +kernel

end Ratatosk.Aof
