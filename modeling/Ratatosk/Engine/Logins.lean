import Ratatosk.Engine.AclRuns

/-!
# Who may log in

What the history of `ACL SETUSER` and `ACL DELUSER` calls says about passwords, and what
`authenticate_user` of `ratatosk-engine/src/acl.rs` answers.

* `Login`, `Logins` — the abstract side: the flags of a user and the passwords that were added and
  not taken away since; `Login.rule` is what a rule means, `Logins.call` a call. No hash occurs.
* `InOrder` — the calls that carry out their rules in the order they are written in: a password that
  a call removes is not one that the same call adds later, and a refused call removes none.
* `authenticate_exact_iff` — **after every run of such calls the answer is the one that the history
  allows, for a password that is not the text of a stored hash, and only for such a password.**
-/

namespace Ratatosk.Engine

open Lib Resp List Option AList

variable {σ : Type}

/-! ## The history of a user -/

/-- What the rules so far leave of a user. -/
structure Login where
  enabled : Bool
  nopass : Bool
  passwords : Finset Bytes
  deriving DecidableEq

/-- A user that was just created. -/
def Login.fresh : Login := ⟨false, false, ∅⟩

/-- What a rule means. -/
def Login.rule (login : Login) : AclRule → Login
  | .on => { login with enabled := true }
  | .off => { login with enabled := false }
  | .nopass => { login with nopass := true }
  | .resetpass => { login with nopass := false, passwords := ∅ }
  | .addPassword raw => { login with nopass := false, passwords := insert raw login.passwords }
  | .removePassword raw => { login with passwords := login.passwords.erase raw }
  | .reset => .fresh
  | .allcommands | .nocommands | .addCategory _ | .removeCategory _ => login

/-- The users by name. -/
abbrev Logins := Bytes → Option Login

/-- The users of a new server. -/
def Logins.initial : Logins := fun name => if name = defaultName then some ⟨true, true, ∅⟩ else none

/-- A rule is carried out unless it adds a password that cannot be hashed. -/
def AclRule.hashable (hashPassword : Bytes → Option Bytes) : AclRule → Bool
  | .addPassword raw => (hashPassword raw).isSome
  | _ => true

/-- The rules of a call that are carried out, those before the first that is refused. -/
def executedRules (lossy : Bytes → Bytes) (hashPassword : Nat → Bytes → Option Bytes) :
    Nat → List Bytes → List AclRule
  | _, [] => []
  | n, rule :: rules =>
    match parseAclRule lossy rule with
    | .error _ => []
    | .ok parsed =>
      if parsed.hashable (hashPassword n) then
        parsed :: executedRules lossy hashPassword (n + 1) rules
      else []

section history

variable (env : AclEnv σ) (rest : σ)

/-- The login of a name after the rules of a call. -/
def Logins.after (logins : Logins) (username : Bytes) (rules : List Bytes) : Login :=
  (executedRules env.lossy (env.hashPassword rest) 0 rules).foldl Login.rule
    ((logins username).getD .fresh)

/-- What a call means. -/
def Logins.call (logins : Logins) : AclCall → Logins
  | .setuser username rules =>
    Function.update logins username (some (logins.after env rest username rules))
  | .deluser username usernames => fun name =>
    if name ∈ username :: usernames ∧ name ≠ defaultName then none else logins name

/-- The history of a run. -/
def runLogins (calls : List (σ × AclCall)) (logins : Logins) : Logins :=
  calls.foldl (fun logins call => logins.call env call.1 call.2) logins

/-- A call that carries out its rules in the order they are written in. -/
def InOrder (logins : Logins) : AclCall → Prop
  | .setuser username rules =>
    ∀ raw, .removePassword raw ∈ executedRules env.lossy (env.hashPassword rest) 0 rules →
      (executedRules env.lossy (env.hashPassword rest) 0 rules).length = rules.length ∧
        raw ∉ (logins.after env rest username rules).passwords
  | .deluser _ _ => True

/-- A text is the hash of a password. -/
def HashOf (stored raw : Bytes) : Prop := ∃ rest n, env.hashPassword rest n raw = some stored

/-- No rule of a call names the text of a hash. -/
def Unguessed : AclCall → Prop
  | .setuser _ rules =>
    ∀ text, (.addPassword text ∈ executedRules env.lossy (env.hashPassword rest) 0 rules ∨
        .removePassword text ∈ executedRules env.lossy (env.hashPassword rest) 0 rules) →
      ∀ raw, ¬ HashOf env text raw
  | .deluser _ _ => True

/-- Every call of a run is in order and names no hash. -/
def RunInOrder : List (σ × AclCall) → Logins → Prop
  | [], _ => True
  | call :: calls, logins =>
    InOrder env call.1 logins call.2 ∧ Unguessed env call.1 call.2 ∧
      RunInOrder calls (logins.call env call.1 call.2)

end history

/-- A name and a password that the history allows. -/
def Permits (logins : Logins) (username password : Bytes) : Prop :=
  ∃ login, logins username = some login ∧ login.enabled = true ∧
    (login.nopass = true ∨ password ∈ login.passwords)

/-- The password is the text that is stored for a user who needs one. -/
def IsStoredText (acl : AclState) (username password : Bytes) : Prop :=
  ∃ user, acl.users.lookup username = some user ∧ user.enabled = true ∧ user.nopass = false ∧
    password ∈ user.passwords

/-! ## Records and logins -/

/-- The record has the flags of the login, and hashes of its passwords. -/
structure Represents (env : AclEnv σ) (user : AclUser) (login : Login) : Prop where
  enabled : user.enabled = login.enabled
  nopass : user.nopass = login.nopass
  hashes : ∀ stored ∈ user.passwords, ∃ raw ∈ login.passwords, HashOf env stored raw
  covered : ∀ raw ∈ login.passwords, ∃ stored ∈ user.passwords, HashOf env stored raw
  unguessed : ∀ text ∈ login.passwords, ∀ raw, ¬ HashOf env text raw

section represents

variable {env : AclEnv σ} {verifyPassword : Bytes → Bytes → Bool} {user : AclUser} {login : Login}

lemma represents_empty (enabled nopass allowAll : Bool) :
    Represents env ⟨enabled, nopass, ∅, allowAll, ∅⟩ ⟨enabled, nopass, ∅⟩ where
  enabled := rfl
  nopass := rfl
  hashes stored hmem := absurd hmem (notMem_empty stored)
  covered raw hmem := absurd hmem (Finset.notMem_empty raw)
  unguessed raw hmem := absurd hmem (Finset.notMem_empty raw)

lemma Represents.same {user' : AclUser} (h : Represents env user login) (hsame : user'.Same user) :
    Represents env user' login where
  enabled := hsame.enabled.trans h.enabled
  nopass := hsame.nopass.trans h.nopass
  hashes stored hmem := h.hashes stored ((hsame.passwords stored).mp hmem)
  covered raw hmem := by
    obtain ⟨stored, hstored, hhash⟩ := h.covered raw hmem
    exact ⟨stored, (hsame.passwords stored).mpr hstored, hhash⟩
  unguessed := h.unguessed

/-- A hash verifies its password, and its own text. -/
lemma verify_hash_iff (hhash : env.Hashing verifyPassword) {stored raw candidate : Bytes}
    (h : HashOf env stored raw) :
    env.verifyPasswordHash stored candidate = true ↔ candidate = stored ∨ candidate = raw := by
  obtain ⟨rest, n, hstored⟩ := h
  rw [hhash.verify, verifyPasswordHash, hhash.text _ _ _ _ hstored, Bool.true_and, Bool.or_eq_true,
    beq_iff_eq, hhash.exact _ _ _ _ hstored, eq_comm]

lemma Represents.apply (h : Represents env user login) {rest : σ} {n : Nat} {rule : AclRule}
    {user' : AclUser} (hrule : rule.apply (env.hashPassword rest n) user = some user')
    (hunguessed : ∀ text, rule = .addPassword text → ∀ raw, ¬ HashOf env text raw)
    (hkeep : ∀ raw, rule ≠ .removePassword raw) : Represents env user' (login.rule rule) := by
  cases rule with
  | on | off =>
    cases hrule
    exact { h with enabled := rfl }
  | nopass =>
    cases hrule
    exact { h with nopass := rfl }
  | resetpass =>
    cases hrule
    exact { represents_empty false false false with enabled := h.enabled }
  | addPassword text =>
    obtain ⟨hash, hhash, rfl⟩ := map_eq_some_iff.mp hrule
    refine ⟨h.enabled, rfl, fun stored hmem => ?_, fun raw hmem => ?_, fun raw hmem => ?_⟩
    · rcases (mem_insert _).mp hmem with rfl | hmem
      · exact ⟨text, Finset.mem_insert_self _ _, rest, n, hhash⟩
      · obtain ⟨raw, hraw, hof⟩ := h.hashes stored hmem
        exact ⟨raw, Finset.mem_insert_of_mem hraw, hof⟩
    · rcases Finset.mem_insert.mp hmem with rfl | hmem
      · exact ⟨hash, (mem_insert _).mpr (.inl rfl), rest, n, hhash⟩
      · obtain ⟨stored, hstored, hof⟩ := h.covered raw hmem
        exact ⟨stored, (mem_insert _).mpr (.inr hstored), hof⟩
    · rcases Finset.mem_insert.mp hmem with rfl | hmem
      · exact hunguessed raw rfl
      · exact h.unguessed raw hmem
  | removePassword raw => exact absurd rfl (hkeep raw)
  | reset =>
    cases hrule
    exact represents_empty false false false
  | allcommands | nocommands | addCategory | removeCategory =>
    cases hrule
    exact { h with }

/-- A password removed where its rule stands: the hashes of that password go, and no other. -/
lemma Represents.remove (hhash : env.Hashing verifyPassword) (h : Represents env user login)
    {text : Bytes} (hunguessed : ∀ raw, ¬ HashOf env text raw) :
    Represents env (user.removePassword env.verifyPasswordHash text)
      (login.rule (.removePassword text)) where
  enabled := h.enabled
  nopass := h.nopass
  hashes stored hmem := by
    rw [AclUser.mem_passwords_removePassword] at hmem
    obtain ⟨raw, hraw, hof⟩ := h.hashes stored hmem.1
    refine ⟨raw, Finset.mem_erase.mpr ⟨?_, hraw⟩, hof⟩
    rintro rfl
    exact Bool.false_ne_true (hmem.2.symm.trans ((verify_hash_iff hhash hof).mpr (.inr rfl)))
  covered raw hmem := by
    obtain ⟨hne, hraw⟩ := Finset.mem_erase.mp hmem
    obtain ⟨stored, hstored, hof⟩ := h.covered raw hraw
    refine ⟨stored, (AclUser.mem_passwords_removePassword _ _ _ _).mpr ⟨hstored, ?_⟩, hof⟩
    rw [Bool.eq_false_iff, Ne, verify_hash_iff hhash hof]
    rintro (rfl | rfl)
    · exact hunguessed raw hof
    · exact hne rfl
  unguessed raw hmem := h.unguessed raw (Finset.mem_of_mem_erase hmem)

/-- A rule keeps the representation. -/
lemma Represents.step (hhash : env.Hashing verifyPassword) (h : Represents env user login)
    {rest : σ} {n : Nat} {rule : AclRule} {user' : AclUser}
    (hrule : rule.apply (env.hashPassword rest n) user = some user')
    (hunguessed : ∀ text, (rule = .addPassword text ∨ rule = .removePassword text) →
      ∀ raw, ¬ HashOf env text raw) :
    Represents env (rule.removed.foldl (AclUser.removePassword env.verifyPasswordHash) user')
      (login.rule rule) := by
  have hkept (hkeep : ∀ raw, rule ≠ .removePassword raw) :
      Represents env user' (login.rule rule) :=
    h.apply hrule (fun text htext => hunguessed text (.inl htext)) hkeep
  cases rule with
  | removePassword text =>
    cases hrule
    exact h.remove hhash (hunguessed text (.inr rfl))
  | _ => exact hkept nofun

end represents

/-! ## Calls -/

section calls

variable {lossy : Bytes → Bytes} {hashPassword : Nat → Bytes → Option Bytes} {n : Nat}
  {rule : Bytes} {rules : List Bytes} {user user' : AclUser}

/-- A rule is carried out unless its password cannot be hashed. -/
lemma hashable_eq (rule : AclRule) (user : AclUser) :
    rule.hashable (hashPassword n) = (rule.apply (hashPassword n) user).isSome := by
  cases rule with
  | addPassword raw => simp [AclRule.hashable, AclRule.apply]
  | _ => rfl

lemma executedRules_of_ok (rules : List Bytes) {removed : List Bytes}
    (h : setuserRule lossy (hashPassword n) rule user = .ok (user', removed)) :
    ∃ parsed : AclRule, parsed.apply (hashPassword n) user = some user' ∧
      removed = parsed.removed ∧
      executedRules lossy hashPassword n (rule :: rules) =
        parsed :: executedRules lossy hashPassword (n + 1) rules := by
  rw [setuserRule] at h
  rw [executedRules]
  cases hparsed : parseAclRule lossy rule with
  | error refusal =>
    rw [hparsed] at h
    cases h
  | ok parsed =>
    rw [hparsed] at h
    dsimp only at h
    split at h
    · cases h
    · next user'' happly =>
        cases h
        have hhashable : parsed.hashable (hashPassword n) = true := by
          rw [hashable_eq parsed user, happly]
          rfl
        exact ⟨parsed, happly, rfl, if_pos hhashable⟩

lemma executedRules_of_error (rules : List Bytes) {text : Bytes}
    (h : setuserRule lossy (hashPassword n) rule user = .error text) :
    executedRules lossy hashPassword n (rule :: rules) = [] := by
  rw [setuserRule] at h
  rw [executedRules]
  cases hparsed : parseAclRule lossy rule with
  | error refusal => rfl
  | ok parsed =>
    rw [hparsed] at h
    dsimp only at h
    split at h
    · next happly => exact if_neg (by rw [hashable_eq parsed user, happly]; decide)
    · cases h

/-- The first rule ends the call, or it is carried out and the others after it. -/
lemma setuserLoop_cons {result : Except Bytes (List Bytes)}
    (h : setuserLoop lossy hashPassword n (rule :: rules) user = (user', result)) :
    (user' = user ∧ (∃ text, result = .error text) ∧
        executedRules lossy hashPassword n (rule :: rules) = []) ∨
      ∃ (parsed : AclRule) (mid : AclUser) (tail : Except Bytes (List Bytes)),
        parsed.apply (hashPassword n) user = some mid ∧
        setuserLoop lossy hashPassword (n + 1) rules mid = (user', tail) ∧
        result = tail.map (parsed.removed ++ ·) ∧
        executedRules lossy hashPassword n (rule :: rules) =
          parsed :: executedRules lossy hashPassword (n + 1) rules := by
  rw [setuserLoop] at h
  cases hrule : setuserRule lossy (hashPassword n) rule user with
  | error text =>
    rw [hrule] at h
    cases h
    exact .inl ⟨rfl, ⟨text, rfl⟩, executedRules_of_error rules hrule⟩
  | ok done =>
    obtain ⟨mid, removed⟩ := done
    obtain ⟨parsed, happly, rfl, hexecuted⟩ := executedRules_of_ok rules hrule
    rw [hrule] at h
    cases h
    exact .inr ⟨parsed, mid, _, happly, rfl, rfl, hexecuted⟩

/-- The passwords that an accepted call removes at its end are those of its rules. -/
lemma removed_of_setuserLoop {removed : List Bytes}
    (h : setuserLoop lossy hashPassword n rules user = (user', .ok removed)) :
    removed = (executedRules lossy hashPassword n rules).flatMap AclRule.removed := by
  induction rules generalizing n user removed with
  | nil =>
    cases h
    rfl
  | cons rule rules ih =>
    rcases setuserLoop_cons h with
      ⟨-, ⟨text, htext⟩, -⟩ | ⟨parsed, mid, tail, -, hrest, hmap, hexecuted⟩
    · cases htext
    · cases tail with
      | error text => cases hmap
      | ok tail =>
        cases hmap
        rw [hexecuted, flatMap_cons, ← ih hrest]

/-- A refused call has not carried out all its rules. -/
lemma length_executedRules_lt {text : Bytes}
    (h : setuserLoop lossy hashPassword n rules user = (user', .error text)) :
    (executedRules lossy hashPassword n rules).length < rules.length := by
  induction rules generalizing n user with
  | nil => cases h
  | cons rule rules ih =>
    rcases setuserLoop_cons h with
      ⟨-, -, hexecuted⟩ | ⟨parsed, mid, tail, -, hrest, hmap, hexecuted⟩
    · rw [hexecuted]
      exact Nat.succ_pos _
    · cases tail with
      | ok tail => cases hmap
      | error text' =>
        cases hmap
        rw [hexecuted, length_cons, length_cons]
        exact Nat.succ_lt_succ (ih hrest)

end calls

section simulation

variable {env : AclEnv σ} {verifyPassword : Bytes → Bytes → Bool} {rest : σ} {n : Nat}
  {rules : List Bytes} {user user' : AclUser} {login : Login}

/-- The rules of an accepted call, one after the other. -/
lemma Represents.inOrder (hhash : env.Hashing verifyPassword) (h : Represents env user login)
    (hunguessed : ∀ text,
      (.addPassword text ∈ executedRules env.lossy (env.hashPassword rest) n rules ∨
        .removePassword text ∈ executedRules env.lossy (env.hashPassword rest) n rules) →
      ∀ raw, ¬ HashOf env text raw)
    (hrun : applyRulesInOrder env.lossy env.verifyPasswordHash (env.hashPassword rest) n rules
      user = some user') :
    Represents env user'
      ((executedRules env.lossy (env.hashPassword rest) n rules).foldl Login.rule login) := by
  induction rules generalizing n user login with
  | nil =>
    cases hrun
    exact h
  | cons rule rules ih =>
    rw [applyRulesInOrder] at hrun
    cases hrule : setuserRule env.lossy (env.hashPassword rest n) rule user with
    | error text =>
      rw [hrule] at hrun
      cases hrun
    | ok result =>
      obtain ⟨user'', removed⟩ := result
      rw [hrule] at hrun
      obtain ⟨parsed, happly, rfl, hexecuted⟩ := executedRules_of_ok rules hrule
      rw [hexecuted] at hunguessed ⊢
      refine ih (h.step hhash happly ?_) ?_ hrun
      · rintro text (rfl | rfl)
        · exact hunguessed text (.inl mem_cons_self)
        · exact hunguessed text (.inr mem_cons_self)
      · intro text htext
        exact hunguessed text (htext.imp (mem_cons_of_mem _) (mem_cons_of_mem _))

lemma Represents.refused (h : Represents env user login) {text : Bytes}
    (hunguessed : ∀ text,
      .addPassword text ∈ executedRules env.lossy (env.hashPassword rest) n rules →
      ∀ raw, ¬ HashOf env text raw)
    (hkeep : ∀ raw,
      .removePassword raw ∉ executedRules env.lossy (env.hashPassword rest) n rules)
    (hrun : setuserLoop env.lossy (env.hashPassword rest) n rules user = (user', .error text)) :
    Represents env user'
      ((executedRules env.lossy (env.hashPassword rest) n rules).foldl Login.rule login) := by
  induction rules generalizing n user login with
  | nil => cases hrun
  | cons rule rules ih =>
    rcases setuserLoop_cons hrun with
      ⟨rfl, -, hexecuted⟩ | ⟨parsed, mid, tail, happly, hrest, hmap, hexecuted⟩
    · rw [hexecuted]
      exact h
    · cases tail with
      | ok tail => cases hmap
      | error text' =>
        cases hmap
        rw [hexecuted] at hunguessed hkeep ⊢
        refine ih (h.apply happly (fun text htext => hunguessed text ?_) ?_)
          (fun text htext => hunguessed text (mem_cons_of_mem _ htext))
          (fun raw hraw => hkeep raw (mem_cons_of_mem _ hraw)) hrest
        · exact htext ▸ mem_cons_self
        · rintro raw rfl
          exact hkeep raw mem_cons_self

/-- A call of `ACL SETUSER` that is in order. -/
lemma Represents.setuser (hhash : env.Hashing verifyPassword) {logins : Logins} {username : Bytes}
    (h : Represents env user ((logins username).getD .fresh))
    (horder : InOrder env rest logins (.setuser username rules))
    (hunguessed : Unguessed env rest (.setuser username rules)) :
    Represents env (setuserRecord env rest rules user) (logins.after env rest username rules) := by
  rw [setuserRecord]
  cases hloop : setuserLoop env.lossy (env.hashPassword rest) 0 rules user with
  | mk last result =>
    cases result with
    | error text =>
      refine h.refused (fun text htext => hunguessed text (.inl htext)) ?_ hloop
      intro raw hraw
      exact absurd (horder raw hraw).1 (length_executedRules_lt hloop).ne
    | ok removed =>
      -- the removals put off make the record that the rules make in order
      obtain ⟨inOrder, hrun, hput⟩ := (PutOff.refl env.verifyPasswordHash user).loop hloop
      rw [nil_append] at hput
      have hrep := h.inOrder hhash hunguessed hrun
      refine hrep.same (hput.same_iff.mpr ?_)
      rintro ⟨stored, hstored, raw, hraw, hverify⟩
      rw [removed_of_setuserLoop hloop, mem_flatMap] at hraw
      obtain ⟨parsed, hparsed, hraw⟩ := hraw
      obtain rfl : parsed = .removePassword raw := by
        cases parsed with
        | removePassword raw' => rw [mem_singleton.mp hraw]
        | _ => cases hraw
      obtain ⟨raw', hraw', hof⟩ := hrep.hashes stored hstored
      rcases (verify_hash_iff hhash hof).mp hverify with rfl | rfl
      · exact hunguessed raw (.inr hparsed) raw' hof
      · exact (horder raw hparsed).2 hraw'

end simulation

/-! ## Runs -/

section runs

variable {env : AclEnv σ} {verifyPassword : Bytes → Bytes → Bool}
variable {acl : AclState} {logins : Logins}

lemma rel_getD {α β : Type} {r : α → β → Prop} {a : Option α} {b : Option β} {x : α} {y : β}
    (h : Option.Rel r a b) (hdefault : r x y) : r (a.getD x) (b.getD y) := by
  cases h with
  | none => exact hdefault
  | some h => exact h

/-- The records of a state are those of the history. -/
def StateRepresents (env : AclEnv σ) (acl : AclState) (logins : Logins) : Prop :=
  ∀ name, Option.Rel (Represents env) (acl.users.lookup name) (logins name)

lemma stateRepresents_default : StateRepresents env .default .initial := by
  intro name
  by_cases hname : name = defaultName
  · rw [hname]
    exact .some (represents_empty true true true)
  · have hnone : AclState.default.users.lookup name = none := HashMap.dlookup_cons_of_ne hname _ _
    rw [hnone, Logins.initial, if_neg hname]
    exact .none

/-- A call keeps it. -/
lemma StateRepresents.run (hhash : env.Hashing verifyPassword) (h : StateRepresents env acl logins)
    {rest : σ} {call : AclCall} (horder : InOrder env rest logins call)
    (hunguessed : Unguessed env rest call) :
    StateRepresents env (AclCall.run env rest acl call) (logins.call env rest call) := by
  intro name
  cases call with
  | setuser username rules =>
    rw [lookup_setuser, Logins.call]
    by_cases hname : name = username
    · subst hname
      rw [if_pos rfl, Function.update_self]
      exact .some (Represents.setuser hhash
        (rel_getD (h name) (represents_empty false false false)) horder hunguessed)
    · rw [if_neg hname, Function.update_of_ne hname]
      exact h name
  | deluser username usernames =>
    rw [lookup_deluser, Logins.call]
    dsimp only
    split_ifs
    · exact .none
    · exact h name

/-- A run keeps it. -/
lemma StateRepresents.runCalls (hhash : env.Hashing verifyPassword) {calls : List (σ × AclCall)}
    (h : StateRepresents env acl logins) (hrun : RunInOrder env calls logins) :
    StateRepresents env (runCalls env calls acl) (runLogins env calls logins) := by
  induction calls generalizing acl logins with
  | nil => exact h
  | cons call calls ih =>
    obtain ⟨horder, hunguessed, hrest⟩ := hrun
    exact ih (h.run hhash horder hunguessed) hrest

/-- The answer for a record: the password of the login, or the text of a stored hash. -/
lemma verifies_iff (hhash : env.Hashing verifyPassword) {user : AclUser} {login : Login}
    (h : Represents env user login) (password : Bytes) :
    (user.passwords.keys.any fun stored => env.verifyPasswordHash stored password) = true ↔
      password ∈ user.passwords ∨ password ∈ login.passwords := by
  rw [List.any_eq_true]
  constructor
  · rintro ⟨stored, hstored, hverify⟩
    have hmem := AList.mem_keys.mpr hstored
    obtain ⟨raw, hraw, hof⟩ := h.hashes stored hmem
    rcases (verify_hash_iff hhash hof).mp hverify with rfl | rfl
    · exact .inl hmem
    · exact .inr hraw
  · rintro (hmem | hmem)
    · obtain ⟨raw, -, hof⟩ := h.hashes password hmem
      exact ⟨password, AList.mem_keys.mp hmem, (verify_hash_iff hhash hof).mpr (.inl rfl)⟩
    · obtain ⟨stored, hstored, hof⟩ := h.covered password hmem
      exact ⟨stored, AList.mem_keys.mp hstored, (verify_hash_iff hhash hof).mpr (.inr rfl)⟩

/-- The answer of a state that has the records of a history. -/
lemma authenticateUser_iff (hhash : env.Hashing verifyPassword) (h : StateRepresents env acl logins)
    (username password : Bytes) :
    acl.authenticateUser env.verifyPasswordHash username password = true ↔
      IsStoredText acl username password ∨ Permits logins username password := by
  have hrel := h username
  unfold AclState.authenticateUser IsStoredText Permits
  generalize acl.users.lookup username = found, logins username = login at hrel
  cases hrel with
  | none => simp
  | @some user login hrep =>
    have hverifies := verifies_iff hhash hrep password
    simp only [Option.some.injEq, exists_eq_left', ← hrep.enabled, ← hrep.nopass]
    cases henabled : user.enabled with
    | false => simp
    | true =>
      cases hnopass : user.nopass with
      | true => simp
      | false => simpa using hverifies

/-- A stored text is not a password that the history allows. -/
lemma not_permits_of_isStoredText (h : StateRepresents env acl logins) {username password : Bytes}
    (hstored : IsStoredText acl username password) : ¬ Permits logins username password := by
  obtain ⟨user, huser, -, hnopass, hmem⟩ := hstored
  rintro ⟨login, hlogin, -, hallowed⟩
  have hrel := h username
  rw [huser, hlogin] at hrel
  cases hrel with
  | some hrep =>
    obtain ⟨raw, -, hof⟩ := hrep.hashes password hmem
    rcases hallowed with hallowed | hallowed
    · rw [← hrep.nopass, hnopass] at hallowed
      cases hallowed
    · exact hrep.unguessed password hallowed raw hof

end runs

/-- **Authentication.** After every run of calls that carry out their rules in order and name no
hash, for every name and password: the answer is what the history allows exactly if the password is
not the text that is stored for the user. -/
theorem authenticate_exact_iff {env : AclEnv σ} {verifyPassword : Bytes → Bytes → Bool}
    (hhash : env.Hashing verifyPassword) {calls : List (σ × AclCall)}
    (hrun : RunInOrder env calls .initial) (username password : Bytes) :
    ((runCalls env calls .default).authenticateUser env.verifyPasswordHash username password =
        true ↔ Permits (runLogins env calls .initial) username password) ↔
      ¬ IsStoredText (runCalls env calls .default) username password := by
  have h := stateRepresents_default.runCalls hhash hrun
  rw [authenticateUser_iff hhash h]
  constructor
  · intro hiff hstored
    exact not_permits_of_isStoredText h hstored (hiff.mp (.inl hstored))
  · intro hnot
    exact or_iff_right hnot

/-! ### A hash that is a password -/

/-- A user who was given a password. -/
def aliceWithPassword : List (Unit × AclCall) :=
  [((), .setuser (ascii "alice") (["on", ">pw"].map ascii))]

lemma executedRules_alice :
    executedRules AclEnv.dollar.lossy (AclEnv.dollar.hashPassword ()) 0
      (["on", ">pw"].map ascii) = [.on, .addPassword (ascii "pw")] := by
  rfl

/-- A hash begins with a dollar sign. -/
lemma not_hashOf_pw (raw : Bytes) : ¬ HashOf AclEnv.dollar (ascii "pw") raw := by
  rintro ⟨rest, n, h⟩
  rw [AclEnv.dollar, ite_none_right_eq_some, Option.some.injEq] at h
  have hhead : some (36 : UInt8) = (ascii "pw").head? := congrArg List.head? h.2
  exact absurd hhead (by decide)

lemma runInOrder_alice : RunInOrder AclEnv.dollar aliceWithPassword .initial := by
  refine ⟨fun raw hraw => ?_, fun text htext raw => ?_, trivial⟩
  · rw [executedRules_alice] at hraw
    simp at hraw
  · rw [executedRules_alice] at htext
    obtain rfl : text = ascii "pw" := by simpa using htext
    exact not_hashOf_pw raw

/-- `ACL SETUSER alice on >pw`: the text of the stored hash is taken as her password, which was
never added. -/
theorem stored_hash_is_a_password :
    RunInOrder AclEnv.dollar aliceWithPassword .initial ∧
      (runCalls AclEnv.dollar aliceWithPassword .default).authenticateUser
        AclEnv.dollar.verifyPasswordHash (ascii "alice") (ascii "$pw") = true ∧
      ¬ Permits (runLogins AclEnv.dollar aliceWithPassword .initial) (ascii "alice")
        (ascii "$pw") := by
  refine ⟨runInOrder_alice, by decide +kernel, ?_⟩
  rintro ⟨login, hlogin, -, hallowed⟩
  have hafter : runLogins AclEnv.dollar aliceWithPassword .initial (ascii "alice") =
      some ⟨true, false, {ascii "pw"}⟩ := by decide +kernel
  rw [hafter, Option.some.injEq] at hlogin
  rw [← hlogin] at hallowed
  revert hallowed
  decide +kernel

/-- Her password is taken, and no other that is not stored. -/
theorem alice_logs_in :
    (runCalls AclEnv.dollar aliceWithPassword .default).authenticateUser
        AclEnv.dollar.verifyPasswordHash (ascii "alice") (ascii "pw") = true ↔
      Permits (runLogins AclEnv.dollar aliceWithPassword .initial) (ascii "alice")
        (ascii "pw") := by
  refine (authenticate_exact_iff AclEnv.hashing_dollar runInOrder_alice _ _).mpr ?_
  rintro ⟨user, huser, -, -, hmem⟩
  have hpasswords : ((runCalls AclEnv.dollar aliceWithPassword .default).users.lookup
      (ascii "alice")).map (fun u => u.passwords.keys) = some [ascii "$pw"] := by decide +kernel
  rw [huser, map_some, Option.some.injEq] at hpasswords
  rw [AList.mem_keys, hpasswords] at hmem
  exact absurd hmem (by decide)

end Ratatosk.Engine
