import Ratatosk.Engine.AclCommands
import Ratatosk.Lib.Utf8

/-!
# Runs of `ACL SETUSER` and `ACL DELUSER`

The calls that change users, what each does to the table of users, and any sequence of them.

* `AclCall` — a call; `AclCall.run` is what `cmd_acl` does to the state (`acl_cmdAcl`).
* `lookup_setuser`, `lookup_deluser` — the users after a call.
* `runCalls` — a sequence of calls; `runCalls_induction` — what every call preserves holds in the
  end.
* `verifyPasswordHash` — the comparison of a password with a stored text; `AclEnv.Hashing` — what
  the hashing library promises.
-/

namespace Ratatosk.Engine

open Lib Resp

variable {σ κ : Type}

/-! ## Calls -/

/-- A call that changes users. -/
inductive AclCall where
  | setuser (username : Bytes) (rules : List Bytes)
  | deluser (username : Bytes) (usernames : List Bytes)
  deriving Repr, DecidableEq

/-- The arguments of `ACL`. -/
def AclCall.words : AclCall → List Bytes
  | .setuser username rules => ascii "SETUSER" :: username :: rules
  | .deluser username usernames => ascii "DELUSER" :: username :: usernames

/-- What a call does to the state. -/
def AclCall.run (env : AclEnv σ) (rest : σ) (acl : AclState) : AclCall → AclState
  | .setuser username rules => (aclSetuser env rest acl username rules).1
  | .deluser username usernames => (aclDeluser env acl (username :: usernames)).1

/-- The command does what the call does. -/
lemma acl_cmdAcl (env : AclEnv σ) (call : AclCall) (server : ServerState σ) (session : Session κ) :
    (cmdAcl env call.words server session).1.acl = call.run env server.store.rest server.acl := by
  cases call with
  | setuser username rules =>
    rw [AclCall.words, cmdAcl_setuser env server session (by decide)]
    rfl
  | deluser username usernames => rfl

/-- A sequence of calls; each draws its salts from the state of the world at its time. -/
def runCalls (env : AclEnv σ) (calls : List (σ × AclCall)) (acl : AclState) : AclState :=
  calls.foldl (fun acl call => call.2.run env call.1 acl) acl

/-- What every call keeps, a run keeps. -/
lemma runCalls_induction {env : AclEnv σ} {P : AclState → Prop}
    (hstep : ∀ rest call acl, P acl → P (AclCall.run env rest acl call))
    {calls : List (σ × AclCall)} {acl : AclState} (h : P acl) : P (runCalls env calls acl) := by
  induction calls generalizing acl with
  | nil => exact h
  | cons call calls ih => exact ih (hstep call.1 call.2 acl h)

/-! ## The users after a call -/

section users

variable (env : AclEnv σ) (rest : σ) (acl : AclState)

/-- The record that the rules of a call leave.
Source: `cmd_acl.rs` `cmd_acl`, `SETUSER` -/
def setuserRecord (rules : List Bytes) (user : AclUser) : AclUser :=
  match setuserLoop env.lossy (env.hashPassword rest) 0 rules user with
  | (user, .error _) => user
  | (user, .ok removePasswords) =>
    removePasswords.foldl (AclUser.removePassword env.verifyPasswordHash) user

lemma users_setuser (username : Bytes) (rules : List Bytes) :
    (AclCall.run env rest acl (.setuser username rules)).users =
      acl.users.insert username (setuserRecord env rest rules (acl.getOrCreateUser username)) := by
  rw [AclCall.run, aclSetuser, setuserRecord]
  cases setuserLoop env.lossy (env.hashPassword rest) 0 rules (acl.getOrCreateUser username) with
  | mk user outcome =>
    cases outcome with
    | error text => rfl
    | ok removePasswords => rfl

/-- `ACL SETUSER` changes its user only. -/
lemma lookup_setuser (username : Bytes) (rules : List Bytes) (name : Bytes) :
    (AclCall.run env rest acl (.setuser username rules)).users.lookup name =
      if name = username then
        some (setuserRecord env rest rules (acl.getOrCreateUser username))
      else acl.users.lookup name := by
  rw [users_setuser]
  split_ifs with hname
  · rw [hname]
    exact AList.lookup_insert _
  · exact AList.lookup_insert_ne hname

lemma lookup_delUser (state : AclState × Nat) (username name : Bytes) :
    (AclState.delUser state username).1.users.lookup name =
      if name = username ∧ name ≠ defaultName then none else state.1.users.lookup name := by
  by_cases hdefault : username = defaultName
  · have hsame : ¬ (name = username ∧ name ≠ defaultName) := fun h => h.2 (h.1.trans hdefault)
    rw [AclState.delUser, if_pos (beq_iff_eq.mpr hdefault), if_neg hsame]
  rw [AclState.delUser, if_neg fun h => hdefault (beq_iff_eq.mp h)]
  by_cases hname : name = username
  · have hgone : name = username ∧ name ≠ defaultName := ⟨hname, hname ▸ hdefault⟩
    rw [if_pos hgone, hname]
    by_cases hsome : (state.1.users.lookup username).isSome = true
    · rw [if_pos hsome]
      exact AList.lookup_erase username _
    · rw [if_neg hsome]
      exact Option.not_isSome_iff_eq_none.mp hsome
  · have hkept : ¬ (name = username ∧ name ≠ defaultName) := fun h => hname h.1
    rw [if_neg hkept]
    by_cases hsome : (state.1.users.lookup username).isSome = true
    · rw [if_pos hsome]
      exact AList.lookup_erase_ne hname
    · rw [if_neg hsome]

lemma lookup_delUsers (usernames : List Bytes) (name : Bytes) :
    (acl.delUsers usernames).1.users.lookup name =
      if name ∈ usernames ∧ name ≠ defaultName then none else acl.users.lookup name := by
  suffices hfold : ∀ state : AclState × Nat,
      (usernames.foldl AclState.delUser state).1.users.lookup name =
        if name ∈ usernames ∧ name ≠ defaultName then none else state.1.users.lookup name from
    hfold (acl, 0)
  induction usernames with
  | nil => simp
  | cons username usernames ih =>
    intro state
    rw [List.foldl_cons, ih, lookup_delUser]
    simp only [List.mem_cons]
    split_ifs <;> tauto

/-- `ACL DELUSER` takes out its users but the default one. -/
lemma lookup_deluser (username : Bytes) (usernames : List Bytes) (name : Bytes) :
    (AclCall.run env rest acl (.deluser username usernames)).users.lookup name =
      if name ∈ username :: usernames ∧ name ≠ defaultName then none
      else acl.users.lookup name := lookup_delUsers acl (username :: usernames) name

end users

/-! ## Hashing -/

/-- Source: `acl.rs` `verify_password_hash`. The library verifies a text that is UTF-8. -/
def verifyPasswordHash (verifyPassword : Bytes → Bytes → Bool) (stored candidate : Bytes) : Bool :=
  stored == candidate || validUtf8 stored && verifyPassword stored candidate

/-- What the hashing library promises, and that the command uses it. A hash is a text; it is that of
one password only, whatever the salt. -/
structure AclEnv.Hashing (env : AclEnv σ) (verifyPassword : Bytes → Bytes → Bool) : Prop where
  verify : env.verifyPasswordHash = Engine.verifyPasswordHash verifyPassword
  text : ∀ rest n raw hash, env.hashPassword rest n raw = some hash → validUtf8 hash = true
  exact : ∀ rest n raw hash, env.hashPassword rest n raw = some hash →
    ∀ candidate, verifyPassword hash candidate = true ↔ candidate = raw

/-- The passwords of texts, hashed to the text after a dollar sign. -/
def AclEnv.dollar : AclEnv Unit :=
  { AclEnv.toy with
    verifyPasswordHash :=
      Engine.verifyPasswordHash fun stored candidate => stored == 36 :: candidate
    hashPassword := fun _ _ raw => if validUtf8 raw then some (36 :: raw) else none }

lemma AclEnv.hashing_dollar :
    AclEnv.dollar.Hashing fun stored candidate => stored == 36 :: candidate where
  verify := rfl
  text := by
    intro rest n raw hash h
    rw [AclEnv.dollar, Option.ite_none_right_eq_some, Option.some.injEq] at h
    rw [← h.2, validUtf8.eq_def]
    exact h.1
  exact := by
    intro rest n raw hash h candidate
    rw [AclEnv.dollar, Option.ite_none_right_eq_some, Option.some.injEq] at h
    rw [← h.2, beq_iff_eq, List.cons.injEq]
    exact ⟨fun heq => heq.2.symm, fun heq => ⟨rfl, heq.symm⟩⟩

end Ratatosk.Engine
