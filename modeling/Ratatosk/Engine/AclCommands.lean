import Mathlib.Data.List.Sort
import Ratatosk.Engine.State

/-!
# The `ACL` command

`cmd_acl` of `ratatosk-engine/src/command/cmd_acl.rs`, with all its subcommands.

* `AclRule` — a rule of `ACL SETUSER`; `parseAclRule` reads one, in the source's order of tests.
* `setuserLoop` — the loop over the rules. It changes the record as it goes, leaves at the first
  rule that it refuses, and puts off the removal of passwords to its end.
* `cmdAcl` — the command. `AclEnv` holds what it takes from outside: hashing with the salts drawn,
  random bytes, the file of the users.
* `AclState.Same` — two states with the same users and the same log, whatever the order in which
  the maps and sets are iterated.

Main result: `setuser_atomic_iff`. A call of `ACL SETUSER` either replies `OK` with the record that
the rules make one at a time, or replies an error and changes nothing, exactly if
`SetuserDiverges` is false: a refused call must not have changed the record, which it must have
found, and in an accepted one no password that the rules leave may match one that they remove.

The audit line of the tracing subscriber is left out.
-/

namespace Ratatosk.Engine

open Lib Resp List AList

/-! ## Users -/

/-- Source: `acl.rs` `AclUser::new_disabled` -/
def AclUser.newDisabled : AclUser := ⟨false, false, ∅, false, ∅⟩

/-- Drops the stored passwords that a password matches.
Source: `acl.rs` `AclState::remove_password` -/
def AclUser.removePassword (verifyPasswordHash : Bytes → Bytes → Bool) (user : AclUser)
    (raw : Bytes) : AclUser :=
  { user with
    passwords := user.passwords.keys.foldl
      (fun passwords stored =>
        if verifyPasswordHash stored raw then passwords.erase stored else passwords)
      user.passwords }

namespace AclState

/-- Source: `acl.rs` `AclState::user_names` -/
def userNames (acl : AclState) : List Bytes := acl.users.keys.insertionSort (· ≤ ·)

/-- Source: `acl.rs` `AclState::get_or_create_user_mut` -/
def getOrCreateUser (acl : AclState) (username : Bytes) : AclUser :=
  (acl.users.lookup username).getD .newDisabled

/-- One round of the loop over the users to delete.
Source: `acl.rs` `AclState::del_users` -/
def delUser (state : AclState × Nat) (username : Bytes) : AclState × Nat :=
  if username == defaultName then state
  else if (state.1.users.lookup username).isSome then
    ({ state.1 with users := state.1.users.erase username }, state.2 + 1)
  else state

/-- Source: `acl.rs` `AclState::del_users` -/
def delUsers (acl : AclState) (usernames : List Bytes) : AclState × Nat :=
  usernames.foldl delUser (acl, 0)

/-- Source: `acl.rs` `AclState::command_allowed` -/
def commandAllowed (acl : AclState) (username : Bytes) (required : List Category) : Bool :=
  match acl.users.lookup username with
  | none => false
  | some u =>
    if !u.enabled then false
    else if u.allowAllCommands then true
    else required.all fun category => u.categoryAllowed category.name

/-- Source: `acl.rs` `AclState::push_log` -/
def pushLog (acl : AclState) (sanitizeLogLine : Bytes → Bytes) (line : Bytes) : AclState :=
  { acl with log := (sanitizeLogLine line :: acl.log).take 128 }

@[simp] lemma pushLog_users (acl : AclState) (sanitizeLogLine : Bytes → Bytes) (line : Bytes) :
    (acl.pushLog sanitizeLogLine line).users = acl.users := rfl

end AclState

/-! ## Rules -/

/-- A rule of `ACL SETUSER`. -/
inductive AclRule where
  | on | off | nopass | resetpass
  | addPassword (raw : Bytes)
  | removePassword (raw : Bytes)
  | reset | allcommands | nocommands
  | addCategory (category : Bytes)
  | removeCategory (category : Bytes)
  deriving Repr, DecidableEq

/-- Source: `cmd_acl.rs` `parse_acl_category_rule` -/
def parseAclCategoryRule (rule : Bytes) (sign : UInt8) : Option Bytes :=
  match rule with
  | first :: 64 :: category =>
    if first = sign ∧ category ≠ [] ∧ isValidAclCategory category then some (toLowercase category)
    else none
  | _ => none

/-- Source: `cmd_acl.rs` `is_accepted_non_category_rule` -/
def isAcceptedNonCategoryRule (rule : Bytes) : Bool :=
  (ascii "+").isPrefixOf rule || (ascii "-").isPrefixOf rule || (ascii "~").isPrefixOf rule ||
    (ascii "&").isPrefixOf rule || eqIgnoreCase rule "allkeys" || eqIgnoreCase rule "allchannels"

/-- Reads a rule; the text of the refusal if it is none.
Source: `cmd_acl.rs` `cmd_acl`, the loop of `SETUSER` -/
def parseAclRule (lossy : Bytes → Bytes) (rule : Bytes) : Except Bytes AclRule :=
  if eqIgnoreCase rule "on" then .ok .on
  else if eqIgnoreCase rule "off" then .ok .off
  else if eqIgnoreCase rule "nopass" then .ok .nopass
  else if eqIgnoreCase rule "resetpass" then .ok .resetpass
  else if (ascii ">").isPrefixOf rule then .ok (.addPassword (rule.drop 1))
  else if (ascii "<").isPrefixOf rule then .ok (.removePassword (rule.drop 1))
  else if eqIgnoreCase rule "reset" then .ok .reset
  else if eqIgnoreCase rule "allcommands" || eqIgnoreCase rule "+@all" then .ok .allcommands
  else if eqIgnoreCase rule "nocommands" || eqIgnoreCase rule "-@all" then .ok .nocommands
  else match parseAclCategoryRule rule 43, parseAclCategoryRule rule 45 with
    | some category, _ => .ok (.addCategory category)
    | none, some category => .ok (.removeCategory category)
    | none, none =>
      if (ascii "+@").isPrefixOf rule || (ascii "-@").isPrefixOf rule then
        .error (ascii "ERR syntax error")
      else if isAcceptedNonCategoryRule rule then
        .error (ascii "ERR ACL rule '" ++ lossy rule ++ ascii "' is not supported in this build")
      else .error (ascii "ERR syntax error")

/-- What a rule does to the record in the loop; nothing if the password cannot be hashed. A
password is not removed here.
Source: `cmd_acl.rs` `cmd_acl`, the loop of `SETUSER` -/
def AclRule.apply (hashPassword : Bytes → Option Bytes) (user : AclUser) : AclRule → Option AclUser
  | .on => some { user with enabled := true }
  | .off => some { user with enabled := false }
  | .nopass => some { user with nopass := true }
  | .resetpass => some { user with passwords := ∅, nopass := false }
  | .addPassword raw => (hashPassword raw).map fun hash =>
    { user with passwords := user.passwords.insert hash (), nopass := false }
  | .removePassword _ => some user
  | .reset => some .newDisabled
  | .allcommands => some { user with allowAllCommands := true }
  | .nocommands => some { user with allowAllCommands := false, allowedCategories := ∅ }
  | .addCategory category =>
    some { user with allowedCategories := user.allowedCategories.insert category () }
  | .removeCategory category =>
    some { user with allowedCategories := user.allowedCategories.erase category }

/-- The password that a rule removes. -/
def AclRule.removed : AclRule → List Bytes
  | .removePassword raw => [raw]
  | _ => []

/-- One round of the loop: the record, and a password to remove later.
Source: `cmd_acl.rs` `cmd_acl`, the loop of `SETUSER` -/
def setuserRule (lossy : Bytes → Bytes) (hashPassword : Bytes → Option Bytes) (rule : Bytes)
    (user : AclUser) : Except Bytes (AclUser × List Bytes) :=
  match parseAclRule lossy rule with
  | .error text => .error text
  | .ok parsed =>
    match parsed.apply hashPassword user with
    | none => .error (ascii "ERR invalid ACL password")
    | some user => .ok (user, parsed.removed)

/-- The loop over the rules, the first of which has the given number: the record that it leaves,
and the passwords to remove or the text of the refusal.
Source: `cmd_acl.rs` `cmd_acl`, the loop of `SETUSER` -/
def setuserLoop (lossy : Bytes → Bytes) (hashPassword : Nat → Bytes → Option Bytes) :
    Nat → List Bytes → AclUser → AclUser × Except Bytes (List Bytes)
  | _, [], user => (user, .ok [])
  | n, rule :: rules, user =>
    match setuserRule lossy (hashPassword n) rule user with
    | .error text => (user, .error text)
    | .ok (user, removed) =>
      let (user, more) := setuserLoop lossy hashPassword (n + 1) rules user
      (user, more.map (removed ++ ·))

/-! ## The command -/

/-- What the command takes from outside. -/
structure AclEnv (σ : Type) where
  /-- `String::from_utf8_lossy`. -/
  lossy : Bytes → Bytes
  /-- `sanitize_error_message`. -/
  sanitize : Bytes → Bytes
  /-- `sanitize_acl_log_line`. -/
  sanitizeLogLine : Bytes → Bytes
  /-- Argon2 verification, and the comparison with the stored text. -/
  verifyPasswordHash : Bytes → Bytes → Bool
  /-- Argon2 hashing, with the salt drawn at the rule of the given number. -/
  hashPassword : σ → Nat → Bytes → Option Bytes
  /-- Random bytes of the operating system. -/
  entropy : σ → Nat → Bytes
  /-- The path of the file of the users. -/
  filePath : σ → Bytes
  /-- What that file decodes to, if it exists; the text of the error if it cannot be read. -/
  loadFile : σ → Except Bytes (Option PersistedAclState)
  /-- Writing that file; the text of the error if it fails. -/
  saveFile : σ → AclState → σ × Option Bytes

/-- Source: `cmd_acl.rs` `cmd_acl`, the names -/
inductive AclSubcommand where
  | help | cat | whoami | users | list | getuser | setuser | deluser | genpass | log | load | save
  | dryrun
  deriving Repr, DecidableEq

/-- The subcommands by name. -/
def aclSubcommands : List (Bytes × AclSubcommand) :=
  [(ascii "HELP", .help), (ascii "CAT", .cat), (ascii "WHOAMI", .whoami), (ascii "USERS", .users),
    (ascii "LIST", .list), (ascii "GETUSER", .getuser), (ascii "SETUSER", .setuser),
    (ascii "DELUSER", .deluser), (ascii "GENPASS", .genpass), (ascii "LOG", .log),
    (ascii "LOAD", .load), (ascii "SAVE", .save), (ascii "DRYRUN", .dryrun)]

/-- Source: `cmd_acl.rs` `cmd_acl`, `HELP` -/
def aclHelp : RespFrame :=
  .array
    [.bulkStr "CAT [category] -- List ACL categories or commands in a category.",
      .bulkStr "DELUSER <username> [username ...] -- Remove ACL users.",
      .bulkStr "DRYRUN <username> <command> [arg ...] -- Simulate ACL rule check.",
      .bulkStr "GENPASS [bits] -- Generate a cryptographically secure password.",
      .bulkStr "GETUSER <username> -- Return ACL rules for the user.",
      .bulkStr "LIST -- Show ACL rules for all users.",
      .bulkStr "LOAD -- Reload ACL rules from disk.",
      .bulkStr "LOG [count|RESET] -- Show or reset ACL log.",
      .bulkStr "SAVE -- Persist ACL rules to disk.",
      .bulkStr ("SETUSER <username> [rule ...] -- Create/modify ACL user " ++
        "(passwords and category grants only)."),
      .bulkStr "USERS -- List ACL users.",
      .bulkStr "WHOAMI -- Return the current ACL username.",
      .bulkStr "HELP -- Show this help."]

/-- Source: `cmd_acl.rs` `cmd_acl`, `CAT` -/
def aclCat : Option Bytes → RespFrame
  | none => .array (["admin", "read", "write", "pubsub", "connection", "fast"].map .bulkStr)
  | some category =>
    .array <| .map .bulkStr <|
      if eqIgnoreCase category "ADMIN" then ["acl", "config"]
      else if eqIgnoreCase category "READ" then ["get", "mget"]
      else if eqIgnoreCase category "WRITE" then ["set", "del"]
      else if eqIgnoreCase category "CONNECTION" then ["client", "hello"]
      else []

section command

variable {σ κ : Type} (env : AclEnv σ)

/-- Source: `mod.rs` `err` -/
def AclEnv.err (text : Bytes) : RespFrame := .error (env.sanitize text)

/-- The rules that grant the categories of a user. -/
def categoryRules (user : AclUser) : List Bytes :=
  ((user.allowedCategories.keys.map fun category => toLowercase (env.lossy category)).insertionSort
    (· ≤ ·)).map (ascii "+@" ++ ·)

/-- A line of `ACL LIST`.
Source: `cmd_acl.rs` `cmd_acl`, `LIST` -/
def aclListLine (name : Bytes) (user : AclUser) : Bytes :=
  let commandRule :=
    if user.allowAllCommands then ascii "+@all"
    else if user.allowedCategories.keys.isEmpty then ascii "-@all"
    else List.intercalate [32] (categoryRules env user)
  ascii "user " ++ env.lossy name ++ [32] ++ ascii (if user.enabled then "on" else "off") ++ [32] ++
    ascii (if user.nopass then "nopass" else "#pass") ++ ascii " ~* &* " ++ commandRule

/-- Source: `cmd_acl.rs` `cmd_acl`, `GETUSER` -/
def aclGetuser (user : AclUser) : RespFrame :=
  let commands :=
    if user.allowAllCommands then ascii "+@all"
    else List.intercalate [32] (categoryRules env user)
  .map
    [(.bulkStr "flags", .array
        [.bulkStr (if user.enabled then "on" else "off"),
          .bulkStr (if user.nopass then "nopass" else "resetpass")]),
      (.bulkStr "passwords", .array []),
      (.bulkStr "commands", .bulkString (some commands)),
      (.bulkStr "keys", .bulkStr "~*"),
      (.bulkStr "channels", .bulkStr "&*"),
      (.bulkStr "selectors", .array [])]

/-- A hexadecimal digit. -/
def hexDigit (n : UInt8) : UInt8 := if n < 10 then 48 + n else 87 + n

/-- Source: `cmd_acl.rs` `to_hex` -/
def toHex (raw : Bytes) : Bytes :=
  raw.flatMap fun byte : UInt8 => [hexDigit (byte >>> 4), hexDigit (byte &&& 15)]

/-- Source: `cmd_acl.rs` `cmd_acl`, `GENPASS` -/
def aclGenpass (rest : σ) (bits : Option Bytes) : RespFrame :=
  let parsed : Option Nat :=
    match bits with
    | none => some 256
    | some raw => (parseI64 raw).bind fun v =>
      if 1 ≤ v.toInt ∧ v.toInt ≤ 4096 then some v.toInt.toNat else none
  match parsed with
  | none => env.err (ascii ("ERR ACL GENPASS argument must be the number of bits for the output " ++
      "password, a positive number up to 4096"))
  | some bits =>
    let chars := (bits + 3) / 4
    .bulkString (some ((toHex (env.entropy rest ((chars + 1) / 2))).take chars))

/-- Source: `cmd_acl.rs` `cmd_acl`, `LOG` -/
def aclLog (acl : AclState) (arg : Option Bytes) : AclState × RespFrame :=
  let rows (count : Nat) : RespFrame :=
    .array ((acl.log.take count).map fun line => .bulkString (some line))
  match arg with
  | none => (acl, rows 10)
  | some arg =>
    if eqIgnoreCase arg "reset" then ({ acl with log := [] }, .ok)
    else match parseI64 arg with
      | none => (acl, env.err (ascii "ERR value is not an integer or out of range"))
      | some v =>
        if v.toInt < 0 then (acl, env.err (ascii "ERR value is out of range"))
        else (acl, rows v.toInt.toNat)

/-- Source: `cmd_acl.rs` `cmd_acl`, `SETUSER` -/
def aclSetuser (rest : σ) (acl : AclState) (username : Bytes) (rules : List Bytes) :
    AclState × CommandOutcome :=
  match setuserLoop env.lossy (env.hashPassword rest) 0 rules (acl.getOrCreateUser username) with
  | (user, .error text) =>
    ({ acl with users := acl.users.insert username user }, .reply (env.err text))
  | (user, .ok removePasswords) =>
    let user := removePasswords.foldl (AclUser.removePassword env.verifyPasswordHash) user
    let line := ascii "SETUSER " ++ env.lossy username ++ ascii " rules=" ++ decimal rules.length ++
      ascii " OK"
    ({ acl with users := acl.users.insert username user }.pushLog env.sanitizeLogLine line,
      { CommandOutcome.reply .ok with aclDirty := true })

/-- Source: `cmd_acl.rs` `cmd_acl`, `DELUSER` -/
def aclDeluser (acl : AclState) (usernames : List Bytes) : AclState × CommandOutcome :=
  let (acl, removed) := acl.delUsers usernames
  (acl.pushLog env.sanitizeLogLine (ascii "DELUSER count=" ++ decimal removed),
    { CommandOutcome.reply (.integer (Int64.ofNat removed)) with aclDirty := true })

/-- Source: `cmd_acl.rs` `cmd_acl`, `LOAD`; `acl.rs` `AclState::load_from_file` -/
def aclLoad (rest : σ) (acl : AclState) : AclState × CommandOutcome :=
  let failed (text : Bytes) : AclState × CommandOutcome :=
    (acl, .reply (env.err (ascii "ERR ACL LOAD failed: " ++ text)))
  match env.loadFile rest with
  | .error text => failed text
  | .ok none =>
    (acl, .reply (env.err (ascii "ERR ACL file does not exist: " ++ env.filePath rest)))
  | .ok (some persisted) =>
    match AclState.fromPersisted persisted with
    | .error text => failed text
    | .ok loaded => (loaded, { CommandOutcome.reply .ok with aclDirty := true })

/-- Source: `cmd_acl.rs` `cmd_acl`, `SAVE` -/
def aclSave (server : ServerState σ) : ServerState σ × CommandOutcome :=
  let (rest, failure) := env.saveFile server.store.rest server.acl
  ({ server with store := { server.store with rest := rest } },
    .reply (match failure with
      | none => .ok
      | some text => env.err (ascii "ERR ACL SAVE failed: " ++ text)))

/-- Source: `cmd_acl.rs` `cmd_acl`, `DRYRUN` -/
def aclDryrun (acl : AclState) (username command : Bytes) : RespFrame :=
  match findCommandSpec command with
  | none => env.err (ascii "ERR unknown command")
  | some spec =>
    if acl.commandAllowed username (aclRequiredCategories spec) then .ok
    else env.err (ascii "NOPERM ACL DRYRUN denied command")

/-- Source: `cmd_acl.rs` `cmd_acl` -/
def cmdAcl (args : List Bytes) (server : ServerState σ) (session : Session κ) :
    ServerState σ × CommandOutcome :=
  let acl := server.acl
  let wrongArity : ServerState σ × CommandOutcome :=
    (server, .reply (env.err (wrongArityText (ascii "acl"))))
  match args with
  | [] => wrongArity
  | name :: args =>
    match aclSubcommands.lookup (toUppercase name), args with
    | none, _ => (server, .reply (env.err
        (ascii "ERR unknown ACL subcommand or wrong number of arguments")))
    | some .help, [] => (server, .reply aclHelp)
    | some .cat, [] => (server, .reply (aclCat none))
    | some .cat, [category] => (server, .reply (aclCat (some category)))
    | some .whoami, [] => (server, .reply (.bulkString (some session.aclUser)))
    | some .users, [] =>
      (server, .reply (.array (acl.userNames.map fun name => .bulkString (some name))))
    | some .list, [] =>
      (server, .reply (.array (acl.userNames.filterMap fun name =>
        (acl.users.lookup name).map fun user => .bulkString (some (aclListLine env name user)))))
    | some .getuser, [username] =>
      (server, .reply (((acl.users.lookup username).map (aclGetuser env)).getD .null))
    | some .setuser, username :: rules =>
      let (acl, outcome) := aclSetuser env server.store.rest acl username rules
      ({ server with acl := acl }, outcome)
    | some .deluser, username :: usernames =>
      let (acl, outcome) := aclDeluser env acl (username :: usernames)
      ({ server with acl := acl }, outcome)
    | some .genpass, [] => (server, .reply (aclGenpass env server.store.rest none))
    | some .genpass, [bits] => (server, .reply (aclGenpass env server.store.rest (some bits)))
    | some .log, [] => (server, .reply (aclLog env acl none).2)
    | some .log, [arg] =>
      let (acl, response) := aclLog env acl (some arg)
      ({ server with acl := acl }, .reply response)
    | some .load, [] =>
      let (acl, outcome) := aclLoad env server.store.rest acl
      ({ server with acl := acl }, outcome)
    | some .save, [] => aclSave env server
    | some .dryrun, username :: command :: _ =>
      (server, .reply (aclDryrun env acl username command))
    | some _, _ => wrongArity

end command

/-! ## What the rules of a call mean -/

/-- The rules of a call applied one at a time, from left to right, passwords removed where their
rule stands; nothing if a rule is refused. -/
def applyRulesInOrder (lossy : Bytes → Bytes) (verifyPasswordHash : Bytes → Bytes → Bool)
    (hashPassword : Nat → Bytes → Option Bytes) : Nat → List Bytes → AclUser → Option AclUser
  | _, [], user => some user
  | n, rule :: rules, user =>
    match setuserRule lossy (hashPassword n) rule user with
    | .error _ => none
    | .ok (user, removed) =>
      applyRulesInOrder lossy verifyPasswordHash hashPassword (n + 1) rules
        (removed.foldl (AclUser.removePassword verifyPasswordHash) user)

/-- Two records with the same flags, passwords and categories. -/
structure AclUser.Same (u v : AclUser) : Prop where
  enabled : u.enabled = v.enabled
  nopass : u.nopass = v.nopass
  passwords : ∀ stored, stored ∈ u.passwords ↔ stored ∈ v.passwords
  allowAllCommands : u.allowAllCommands = v.allowAllCommands
  allowedCategories : ∀ category, category ∈ u.allowedCategories ↔ category ∈ v.allowedCategories

/-- Two states with the same users and the same log. -/
structure AclState.Same (a b : AclState) : Prop where
  users : ∀ name, Option.Rel AclUser.Same (a.users.lookup name) (b.users.lookup name)
  log : a.log = b.log

@[refl] lemma AclUser.Same.refl (u : AclUser) : u.Same u :=
  ⟨rfl, rfl, fun _ => Iff.rfl, rfl, fun _ => Iff.rfl⟩

lemma AclUser.rel_same_refl (u : Option AclUser) : Option.Rel AclUser.Same u u := by
  cases u with
  | none => exact .none
  | some u => exact .some (.refl u)

section atomicity

variable {σ κ : Type} (env : AclEnv σ)

/-- A call is atomic and ordered: it replies `OK` and the user's record is the one that the rules
make one at a time, other users being as before; or it replies an error and the state is as
before. -/
def SetuserAtomic (server : ServerState σ) (session : Session κ) (username : Bytes)
    (rules : List Bytes) : Prop :=
  let result := cmdAcl env (ascii "SETUSER" :: username :: rules) server session
  (result.2.response = .ok ∧
    (∃ user, applyRulesInOrder env.lossy env.verifyPasswordHash (env.hashPassword server.store.rest)
        0 rules (server.acl.getOrCreateUser username) = some user ∧
      Option.Rel AclUser.Same (result.1.acl.users.lookup username) (some user)) ∧
    ∀ other ≠ username,
      Option.Rel AclUser.Same (result.1.acl.users.lookup other) (server.acl.users.lookup other)) ∨
  ((∃ text, result.2.response = .error text) ∧ result.1.acl.Same server.acl)

/-- The rules are refused at one of them; those before it are accepted and make the record. -/
def RefusedAfter (hashPassword : Nat → Bytes → Option Bytes) (n : Nat) (rules : List Bytes)
    (record user : AclUser) : Prop :=
  ∃ before rule after removed text, rules = before ++ rule :: after ∧
    setuserLoop env.lossy hashPassword n before record = (user, .ok removed) ∧
    setuserRule env.lossy (hashPassword (n + before.length)) rule user = .error text

/-- How a call can fall short: a refused one has created the user, or the rules before the refused
one have changed the record; an accepted one has removed a password that a later rule had added. -/
def SetuserDiverges (server : ServerState σ) (username : Bytes) (rules : List Bytes) : Prop :=
  let record := server.acl.getOrCreateUser username
  let hashPassword := env.hashPassword server.store.rest
  (∃ user, RefusedAfter env hashPassword 0 rules record user ∧
      (server.acl.users.lookup username = none ∨ ¬ user.Same record)) ∨
    ∃ last removed user, setuserLoop env.lossy hashPassword 0 rules record = (last, .ok removed) ∧
      applyRulesInOrder env.lossy env.verifyPasswordHash hashPassword 0 rules record = some user ∧
      ∃ stored ∈ user.passwords, ∃ raw ∈ removed, env.verifyPasswordHash stored raw = true

/-- The loop leaves the record that the rules before the refused one make. -/
lemma refusedAfter_iff (hashPassword : Nat → Bytes → Option Bytes) (n : Nat) (rules : List Bytes)
    (record user : AclUser) :
    RefusedAfter env hashPassword n rules record user ↔
      ∃ text, setuserLoop env.lossy hashPassword n rules record = (user, .error text) := by
  constructor
  · rintro ⟨before, rule, after, removed, text, rfl, hbefore, hrule⟩
    refine ⟨text, ?_⟩
    induction before generalizing n record removed with
    | nil =>
      obtain ⟨rfl, -⟩ := Prod.mk.inj hbefore
      simp only [nil_append, setuserLoop, show setuserRule env.lossy (hashPassword n) rule record =
        .error text from hrule]
    | cons first before ih =>
      rw [setuserLoop] at hbefore
      rw [cons_append, setuserLoop]
      rw [length_cons, ← Nat.add_assoc, Nat.add_right_comm] at hrule
      cases hfirst : setuserRule env.lossy (hashPassword n) first record with
      | error => simp [hfirst] at hbefore
      | ok next =>
        simp only [hfirst, Prod.mk.injEq] at hbefore
        cases hmore : (setuserLoop env.lossy hashPassword (n + 1) before next.1).2 with
        | error => simp [hmore, Except.map] at hbefore
        | ok more =>
          simp only [ih (n + 1) next.1 more (Prod.ext hbefore.1 hmore) hrule]
          rfl
  · rintro ⟨text, hloop⟩
    induction rules generalizing n record text with
    | nil => cases hloop
    | cons rule rules ih =>
      rw [setuserLoop] at hloop
      cases hrule : setuserRule env.lossy (hashPassword n) rule record with
      | error refusal =>
        simp only [hrule, Prod.mk.injEq] at hloop
        exact ⟨[], rule, rules, [], refusal, rfl, by rw [hloop.1]; rfl, hloop.1 ▸ hrule⟩
      | ok next =>
        simp only [hrule, Prod.mk.injEq] at hloop
        cases hmore : (setuserLoop env.lossy hashPassword (n + 1) rules next.1).2 with
        | ok => simp [hmore, Except.map] at hloop
        | error refusal =>
          obtain ⟨before, rule', after, removed, text', rfl, hbefore, hlast⟩ :=
            ih (n + 1) next.1 refusal (Prod.ext hloop.1 hmore)
          refine ⟨rule :: before, rule', after, next.2 ++ removed, text', rfl, ?_, ?_⟩
          · simp only [setuserLoop, hrule, hbefore]
            rfl
          · rw [length_cons, ← Nat.add_assoc, Nat.add_right_comm]
            exact hlast

/-! ### Passwords removed late -/

variable (verifyPasswordHash : Bytes → Bytes → Bool)

lemma mem_foldl_erase (p : Bytes → Bool) (keys : List Bytes) (passwords : HashSet Bytes)
    (stored : Bytes) :
    stored ∈ keys.foldl (fun passwords k => if p k then passwords.erase k else passwords)
        passwords ↔
      stored ∈ passwords ∧ ¬ (stored ∈ keys ∧ p stored = true) := by
  induction keys generalizing passwords with
  | nil => simp
  | cons k keys ih =>
    rw [foldl_cons, ih, mem_cons]
    by_cases heq : stored = k
    · subst heq
      split_ifs with hk
      · simp [hk]
      · simp [hk]
    · split_ifs
      · simp [heq, mem_erase]
      · simp [heq]

lemma AclUser.mem_passwords_removePassword (user : AclUser) (raw stored : Bytes) :
    stored ∈ (user.removePassword verifyPasswordHash raw).passwords ↔
      stored ∈ user.passwords ∧ verifyPasswordHash stored raw = false := by
  rw [AclUser.removePassword, mem_foldl_erase fun k => verifyPasswordHash k raw]
  constructor
  · rintro ⟨hmem, hnot⟩
    exact ⟨hmem, Bool.eq_false_iff.mpr fun h => hnot ⟨hmem, h⟩⟩
  · rintro ⟨hmem, hfalse⟩
    exact ⟨hmem, fun h => Bool.false_ne_true (hfalse.symm.trans h.2)⟩

/-- Removing some passwords: the rest of the record stays. -/
lemma AclUser.foldl_removePassword (removed : List Bytes) (user : AclUser) :
    ∃ passwords, removed.foldl (AclUser.removePassword verifyPasswordHash) user =
        { user with passwords := passwords } ∧
      ∀ stored, stored ∈ passwords ↔ stored ∈ user.passwords ∧
        ∀ raw ∈ removed, verifyPasswordHash stored raw = false := by
  induction removed generalizing user with
  | nil => exact ⟨user.passwords, rfl, by simp⟩
  | cons raw removed ih =>
    obtain ⟨passwords, hfold, hmem⟩ := ih (user.removePassword verifyPasswordHash raw)
    refine ⟨passwords, by rw [foldl_cons, hfold]; rfl, fun stored => ?_⟩
    rw [hmem, AclUser.mem_passwords_removePassword, forall_mem_cons, and_assoc]

/-- The record `u` of a loop that has put off the removal of some passwords, and the record `v` of
the rules applied in order. -/
structure PutOff (verifyPasswordHash : Bytes → Bytes → Bool) (removed : List Bytes)
    (u v : AclUser) : Prop where
  fields : v = { u with passwords := v.passwords }
  subset : ∀ stored ∈ v.passwords, stored ∈ u.passwords
  kept : ∀ stored ∈ u.passwords, (∀ raw ∈ removed, verifyPasswordHash stored raw = false) →
    stored ∈ v.passwords

lemma PutOff.refl (u : AclUser) : PutOff verifyPasswordHash [] u u :=
  ⟨rfl, fun _ h => h, fun _ h _ => h⟩

variable {verifyPasswordHash}

variable {removed : List Bytes} {u v : AclUser}

lemma PutOff.apply (h : PutOff verifyPasswordHash removed u v)
    {hashPassword : Bytes → Option Bytes} {rule : AclRule} {u' : AclUser}
    (hrule : rule.apply hashPassword u = some u') :
    ∃ v', rule.apply hashPassword v = some v' ∧ PutOff verifyPasswordHash removed u' v' := by
  obtain ⟨hfields, hsubset, hkept⟩ := h
  -- the record in order differs in its passwords only
  generalize v.passwords = passwords at hfields hsubset hkept
  subst hfields
  cases rule with
  | resetpass | reset =>
    obtain rfl := Option.some.inj hrule
    exact ⟨_, rfl, rfl, fun _ h => h, fun _ h _ => h⟩
  | addPassword raw =>
    cases hhash : hashPassword raw with
    | none =>
      rw [AclRule.apply, hhash] at hrule
      cases hrule
    | some hash =>
      rw [AclRule.apply, hhash] at hrule
      obtain rfl := Option.some.inj hrule
      refine ⟨{ u with passwords := passwords.insert hash (), nopass := false }, ?_, rfl, ?_, ?_⟩
      · rw [AclRule.apply, hhash]
        rfl
      · intro stored hstored
        rw [mem_insert] at hstored ⊢
        exact hstored.imp_right (hsubset stored)
      · intro stored hstored hremoved
        rw [mem_insert] at hstored ⊢
        exact hstored.imp_right fun hmem => hkept stored hmem hremoved
  | on | off | nopass | removePassword | allcommands | nocommands | addCategory | removeCategory =>
    obtain rfl := Option.some.inj hrule
    exact ⟨_, rfl, rfl, hsubset, hkept⟩

/-- A password removed in order, and put off in the loop. -/
lemma PutOff.remove (h : PutOff verifyPasswordHash removed u v) (more : List Bytes) :
    PutOff verifyPasswordHash (removed ++ more) u
      (more.foldl (AclUser.removePassword verifyPasswordHash) v) := by
  obtain ⟨passwords, hfold, hmem⟩ := AclUser.foldl_removePassword verifyPasswordHash more v
  rw [hfold]
  refine ⟨?_, fun stored hstored => h.subset stored ((hmem stored).mp hstored).1, ?_⟩
  · rw [h.fields]
  · intro stored hstored hremoved
    rw [forall_mem_append] at hremoved
    exact (hmem stored).mpr ⟨h.kept stored hstored hremoved.1, hremoved.2⟩

lemma PutOff.rule (h : PutOff verifyPasswordHash removed u v) {lossy : Bytes → Bytes}
    {hashPassword : Bytes → Option Bytes} {rule : Bytes} {u' : AclUser} {more : List Bytes}
    (hrule : setuserRule lossy hashPassword rule u = .ok (u', more)) :
    ∃ v', setuserRule lossy hashPassword rule v = .ok (v', more) ∧
      PutOff verifyPasswordHash (removed ++ more) u'
        (more.foldl (AclUser.removePassword verifyPasswordHash) v') := by
  rw [setuserRule] at hrule ⊢
  cases hparsed : parseAclRule lossy rule with
  | error text =>
    rw [hparsed] at hrule
    cases hrule
  | ok parsed =>
    rw [hparsed] at hrule
    dsimp only at hrule ⊢
    cases happly : parsed.apply hashPassword u with
    | none =>
      rw [happly] at hrule
      cases hrule
    | some u'' =>
      rw [happly] at hrule
      cases hrule
      obtain ⟨v', hv', hput⟩ := h.apply happly
      exact ⟨v', by rw [hv'], hput.remove _⟩

/-- **An accepted call, in order.** The rules in order make a record as well, and it differs from
that of the loop by the removals put off. -/
lemma PutOff.loop {lossy : Bytes → Bytes} {hashPassword : Nat → Bytes → Option Bytes}
    (h : PutOff verifyPasswordHash removed u v) {n : Nat} {rules : List Bytes} {u' : AclUser}
    {more : List Bytes} (hloop : setuserLoop lossy hashPassword n rules u = (u', .ok more)) :
    ∃ v', applyRulesInOrder lossy verifyPasswordHash hashPassword n rules v = some v' ∧
      PutOff verifyPasswordHash (removed ++ more) u' v' := by
  induction rules generalizing n u v removed more with
  | nil =>
    cases hloop
    exact ⟨v, rfl, by rwa [append_nil]⟩
  | cons rule rules ih =>
    rw [setuserLoop] at hloop
    rw [applyRulesInOrder]
    cases hrule : setuserRule lossy (hashPassword n) rule u with
    | error text =>
      rw [hrule] at hloop
      cases hloop
    | ok result =>
      obtain ⟨u'', here⟩ := result
      rw [hrule] at hloop
      dsimp only at hloop
      obtain ⟨v'', hv'', hput⟩ := h.rule hrule
      rw [hv'']
      dsimp only
      cases hrest : setuserLoop lossy hashPassword (n + 1) rules u'' with
      | mk last tail =>
        rw [hrest] at hloop
        cases tail with
        | error text => cases hloop
        | ok tail =>
          cases hloop
          obtain ⟨v', hv', hput'⟩ := ih hput hrest
          exact ⟨v', hv', by rwa [append_assoc] at hput'⟩

/-- The removals put off make the record in order, unless it has a password that one of them
matches. -/
lemma PutOff.same_iff (h : PutOff verifyPasswordHash removed u v) :
    (removed.foldl (AclUser.removePassword verifyPasswordHash) u).Same v ↔
      ¬ ∃ stored ∈ v.passwords, ∃ raw ∈ removed, verifyPasswordHash stored raw = true := by
  obtain ⟨passwords, hfold, hmem⟩ := AclUser.foldl_removePassword verifyPasswordHash removed u
  rw [hfold]
  constructor
  · rintro hsame ⟨stored, hstored, raw, hraw, hverify⟩
    have hkept := (hmem stored).mp ((hsame.passwords stored).mpr hstored)
    exact Bool.false_ne_true ((hkept.2 raw hraw).symm.trans hverify)
  · intro hnone
    refine ⟨?_, ?_, fun stored => ⟨fun hstored => ?_, fun hstored => ?_⟩, ?_, fun category => ?_⟩
    · rw [h.fields]
    · rw [h.fields]
    · obtain ⟨hin, hout⟩ := (hmem stored).mp hstored
      exact h.kept stored hin hout
    · refine (hmem stored).mpr ⟨h.subset stored hstored, fun raw hraw => ?_⟩
      exact Bool.eq_false_iff.mpr fun hverify => hnone ⟨stored, hstored, raw, hraw, hverify⟩
    · rw [h.fields]
    · rw [h.fields]

/-! ### Calls -/

lemma cmdAcl_setuser (server : ServerState σ) (session : Session κ) {name : Bytes}
    (hname : toUppercase name = ascii "SETUSER") (username : Bytes) (rules : List Bytes) :
    cmdAcl env (name :: username :: rules) server session =
      ({ server with acl := (aclSetuser env server.store.rest server.acl username rules).1 },
        (aclSetuser env server.store.rest server.acl username rules).2) := by
  have hlookup : aclSubcommands.lookup (toUppercase name) = some .setuser := by
    rw [hname]
    decide
  unfold cmdAcl
  dsimp only
  rw [hlookup]

/-- The record of the named user is replaced by one that is the same exactly if the user was there
and the record is unchanged. -/
lemma same_insert_iff (acl : AclState) (username : Bytes) (user : AclUser) :
    ({ acl with users := acl.users.insert username user } : AclState).Same acl ↔
      ¬ (acl.users.lookup username = none ∨ ¬ user.Same (acl.getOrCreateUser username)) := by
  rw [AclState.getOrCreateUser]
  constructor
  · intro hsame
    have huser := hsame.users username
    dsimp only at huser
    rw [lookup_insert] at huser
    cases hold : acl.users.lookup username with
    | none =>
      rw [hold] at huser
      cases huser
    | some old =>
      rw [hold] at huser
      cases huser with
      | some huser => simpa using huser
  · intro hnot
    obtain ⟨hsome, hsame⟩ := not_or.mp hnot
    refine ⟨fun name => ?_, rfl⟩
    by_cases hname : name = username
    · subst hname
      rw [lookup_insert]
      cases hold : acl.users.lookup name with
      | none => exact absurd hold hsome
      | some old =>
        rw [hold] at hsame
        exact .some (not_not.mp hsame)
    · rw [lookup_insert_ne hname]
      exact AclUser.rel_same_refl _

/-- **When a call is atomic and ordered.** For every state, user and list of rules: exactly if it
does not diverge. -/
theorem setuser_atomic_iff (server : ServerState σ) (session : Session κ) (username : Bytes)
    (rules : List Bytes) :
    SetuserAtomic env server session username rules ↔ ¬ SetuserDiverges env server username rules := by
  rw [SetuserAtomic, SetuserDiverges, cmdAcl_setuser env server session (by decide)]
  simp only [refusedAfter_iff]
  rw [aclSetuser]
  cases hloop : setuserLoop env.lossy (env.hashPassword server.store.rest) 0 rules
      (server.acl.getOrCreateUser username) with
  | mk user result =>
    cases result with
    | error text =>
      simp only [Prod.mk.injEq, reduceCtorEq, and_false, false_and, exists_false, or_false,
        Except.error.injEq, exists_and_left, exists_eq', and_true, exists_eq_left']
      rw [← same_insert_iff]
      constructor
      · rintro (⟨hok, -⟩ | ⟨-, hsame⟩)
        · cases hok
        · exact hsame
      · intro hsame
        exact Or.inr ⟨⟨_, rfl⟩, hsame⟩
    | ok removed =>
      dsimp only
      obtain ⟨inOrder, horder, hput⟩ := (PutOff.refl env.verifyPasswordHash
        (server.acl.getOrCreateUser username)).loop hloop
      rw [nil_append] at hput
      rw [horder]
      constructor
      · rintro (⟨-, ⟨user', huser', hsame⟩, -⟩ | ⟨⟨_, herror⟩, -⟩)
        · obtain rfl := Option.some.inj huser'
          rintro (⟨_, ⟨_, hrefused⟩, -⟩ | ⟨_, _, _, haccepted, huser'', hmatch⟩)
          · cases hrefused
          cases haccepted
          obtain rfl := Option.some.inj huser''
          rw [AclState.pushLog_users, lookup_insert] at hsame
          cases hsame with
          | some hsame => exact hput.same_iff.mp hsame hmatch
        · cases herror
      · intro hnot
        refine Or.inl ⟨rfl, ⟨inOrder, rfl, ?_⟩, fun other hother => ?_⟩
        · rw [AclState.pushLog_users, lookup_insert]
          exact .some (hput.same_iff.mpr fun hmatch =>
            hnot (.inr ⟨user, removed, inOrder, rfl, rfl, hmatch⟩))
        · rw [AclState.pushLog_users, lookup_insert_ne hother]
          exact AclUser.rel_same_refl _

end atomicity

/-! ### A call that is refused, and one that is not in order -/

/-- A toy environment: a hash is the password with the number of its rule in front. -/
def AclEnv.toy : AclEnv Unit where
  lossy := id
  sanitize := id
  sanitizeLogLine := id
  verifyPasswordHash stored raw := stored == raw || stored.drop 1 == raw
  hashPassword _ n raw := some (UInt8.ofNat n :: raw)
  entropy _ n := List.replicate n 0
  filePath _ := []
  loadFile _ := .ok none
  saveFile _ _ := ((), none)

/-- `ACL SETUSER alice on typo` replies an error, and there is a user `alice` who is enabled.
`ACL SETUSER alice <pw >pw` is accepted; one rule after the other, the record has the password,
and the stored one has none. -/
theorem setuser_diverges :
    let session := (Client.new ()).session
    let refused := cmdAcl AclEnv.toy (["SETUSER", "alice", "on", "typo"].map ascii) emptyServer
      session
    let accepted := cmdAcl AclEnv.toy (["SETUSER", "alice", "<pw", ">pw"].map ascii) emptyServer
      session
    (refused.2.response = .error (ascii "ERR syntax error") ∧
      emptyServer.acl.users.lookup (ascii "alice") = none ∧
      (refused.1.acl.users.lookup (ascii "alice")).map AclUser.enabled = some true) ∧
    (accepted.2.response = .ok ∧
      (applyRulesInOrder AclEnv.toy.lossy AclEnv.toy.verifyPasswordHash
          (AclEnv.toy.hashPassword ()) 0 (["<pw", ">pw"].map ascii) .newDisabled).map
        (fun user => user.passwords.keys) = some [1 :: ascii "pw"] ∧
      (accepted.1.acl.users.lookup (ascii "alice")).map (fun user => user.passwords.keys) =
        some []) := by
  refine ⟨⟨rfl, rfl, ?_⟩, rfl, ?_, ?_⟩
  · decide +kernel
  · decide +kernel
  · decide +kernel

end Ratatosk.Engine
