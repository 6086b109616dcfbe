import Ratatosk.Engine.Dispatch
import Ratatosk.Engine.Sanitize

/-!
# What observers see of a command

After a command the engine may record it in the slow log, with what looks like a credential
redacted (`sanitize_slowlog_argv` of `security.rs`), and it sends a line with the arguments to the
clients in `MONITOR` mode (`apply_post_execute_side_effects_with_spec` of `command/mod.rs`).

* `maskPasswords` — the arguments without the passwords of `AUTH`, `HELLO` and `ACL SETUSER`.
  Vectors with the same mask differ in passwords only. `parseHelloOptions_maskHelloOptions` says
  that the mask leaves out every password that the handler of `HELLO` reads.
* `sanitizeSlowlogArgv_maskPasswords` — the slow log shows the mask only.
* `observers_blind_iff` — the line to the monitors shows the passwords, as `docs/operations.md`
  says: observers see the mask only exactly if no other client is in `MONITOR` mode.
-/

namespace Ratatosk.Engine

open Lib

/-! ## The slow log -/

/-- Source: `security.rs` `should_redact_raw_token` -/
def shouldRedactRawToken (raw : Bytes) : Bool :=
  (20 ≤ raw.length && raw.all isAsciiAlphanumeric) ||
    tokenPrefixes.any fun start => raw.tails.any start.isPrefixOf

/-- The branch of `sanitize_slowlog_argv` for `AUTH`. -/
def redactAuth : List Bytes → List Bytes
  | [] => []
  | [_] => [redacted]
  | user :: _ :: rest => user :: redacted :: rest

/-- The loop of `sanitize_slowlog_argv` over the options of `HELLO`. -/
def redactHelloOptions : List Bytes → List Bytes
  | [] => []
  | option :: rest =>
    if toUppercase option = ascii "AUTH" then
      match rest with
      | user :: _ :: rest => option :: user :: redacted :: redactHelloOptions rest
      | rest => option :: redactHelloOptions rest
    else if toUppercase option = ascii "SETNAME" then
      match rest with
      | [] => [option]
      | name :: rest => option :: name :: redactHelloOptions rest
    else option :: redactHelloOptions rest

/-- The arguments of `HELLO`, with the options behind the version changed. -/
def mapHelloOptions (f : List Bytes → List Bytes) : List Bytes → List Bytes
  | [] => []
  | first :: rest => if (parseI64 first).isSome then first :: f rest else f (first :: rest)

/-- The arguments of `ACL`, with each rule of `SETUSER` changed. -/
def mapSetuserRules (f : Bytes → Bytes) : List Bytes → List Bytes
  | sub :: user :: rules =>
    sub :: user :: if eqIgnoreCase sub "SETUSER" then rules.map f else rules
  | args => args

/-- A rule of `ACL SETUSER`, with a text in place of the password. -/
def hidePassword (text : Bytes) : Bytes → Bytes
  | 62 :: _ => 62 :: text
  | 60 :: _ => 60 :: text
  | rule => rule

/-- Source: `security.rs` `sanitize_slowlog_argv` -/
def sanitizeSlowlogArgv : List Bytes → List Bytes
  | [] => []
  | name :: args =>
    let out :=
      if toUppercase name = ascii "AUTH" then redactAuth args
      else if toUppercase name = ascii "HELLO" then mapHelloOptions redactHelloOptions args
      else if toUppercase name = ascii "ACL" then mapSetuserRules (hidePassword redacted) args
      else args
    name :: out.map fun arg => if shouldRedactRawToken arg then redacted else arg

/-! ## The monitors -/

/-- How a byte of an argument is written in a line to the monitors. -/
def monitorByte (byte : UInt8) : Bytes :=
  let hex (digit : UInt8) := if digit < 10 then 48 + digit else 87 + digit
  if byte = 34 ∨ byte = 92 then [92, byte]
  else if 0x20 ≤ byte ∧ byte ≤ 0x7E then [byte]
  else [92, 120, hex (byte / 16), hex (byte % 16)]

/-- The line after its head, which has the time, the database and the address of the client.
Source: `command/mod.rs` `format_monitor_line` -/
def formatMonitorLine (head : Bytes) (argv : List Bytes) : Bytes :=
  head ++ argv.flatMap fun arg => [32, 34] ++ arg.flatMap monitorByte ++ [34]

/-- The arguments in the entry of the slow log, and the line that is broadcast. -/
structure Observed where
  slowlogArgv : List Bytes
  monitorLine : Option Bytes
  deriving DecidableEq

/-- What observers get of a command; `monitored` if another client is in `MONITOR` mode.
Source: `command/mod.rs` `apply_post_execute_side_effects_with_spec`, `stats.rs` `append_slowlog` -/
def observe (monitored : Bool) (head : Bytes) (argv : List Bytes) : Observed where
  slowlogArgv := sanitizeSlowlogArgv argv
  monitorLine :=
    if monitored && argv.head?.map toUppercase != some (ascii "MONITOR") then
      some (formatMonitorLine head argv)
    else none

/-! ## Passwords -/

/-- `AUTH` without its password, as `cmd_auth` reads it. -/
def maskAuth : List Bytes → List Bytes
  | [_] => [[]]
  | [user, _] => [user, []]
  | args => args

/-- The options of `HELLO` without the passwords, also those behind an option that `cmd_hello` does
not know and stops at. -/
def maskHelloOptions : List Bytes → List Bytes
  | [] => []
  | option :: rest =>
    if toUppercase option = ascii "AUTH" then
      match rest with
      | user :: _ :: rest => option :: user :: [] :: maskHelloOptions rest
      | rest => option :: rest
    else if toUppercase option = ascii "SETNAME" then
      match rest with
      | [] => [option]
      | name :: rest => option :: name :: maskHelloOptions rest
    else option :: maskHelloOptions rest

/-- The arguments, with the passwords left out. -/
def maskPasswords : List Bytes → List Bytes
  | [] => []
  | name :: args =>
    name ::
      if toUppercase name = ascii "AUTH" then maskAuth args
      else if toUppercase name = ascii "HELLO" then mapHelloOptions maskHelloOptions args
      else if toUppercase name = ascii "ACL" then mapSetuserRules (hidePassword []) args
      else args

/-- Options of `HELLO` with the passwords left out. -/
def HelloOptions.mask (o : HelloOptions) : HelloOptions :=
  { o with authAttempts := o.authAttempts.map fun attempt => (attempt.1, []) }

/-- The handler of `HELLO` reads the same from the masked options, up to the passwords. -/
theorem parseHelloOptions_maskHelloOptions (args : List Bytes) (o : HelloOptions) :
    parseHelloOptions (maskHelloOptions args) o.mask =
      (parseHelloOptions args o).map HelloOptions.mask := by
  fun_induction maskHelloOptions args generalizing o with
  | case1 => rfl
  | case2 option hauth user password rest ih =>
    simp only [parseHelloOptions, if_pos hauth]
    rw [← ih]
    simp only [HelloOptions.mask, List.map_append, List.map_cons, List.map_nil]
  | case3 option hauth rest hshort =>
    rw [parseHelloOptions.eq_def, parseHelloOptions.eq_def (option :: rest) o]
    simp only [if_pos hauth]
    rfl
  | case4 option hauth hsetname =>
    simp only [parseHelloOptions, if_neg hauth, if_pos hsetname]
    rfl
  | case5 option hauth hsetname name rest ih =>
    rw [parseHelloOptions.eq_def, parseHelloOptions.eq_def (option :: name :: rest)]
    simp only [if_neg hauth, if_pos hsetname]
    split_ifs
    · rw [← ih]
      rfl
    · rfl
  | case6 option rest hauth hsetname ih =>
    rw [parseHelloOptions.eq_def, parseHelloOptions.eq_def (option :: rest)]
    simp only [if_neg hauth, if_neg hsetname]
    rfl

/-- The scanner of the slow log overwrites what the mask leaves out. -/
lemma redactHelloOptions_maskHelloOptions (args : List Bytes) :
    redactHelloOptions (maskHelloOptions args) = redactHelloOptions args := by
  fun_induction maskHelloOptions args with
  | case2 option hauth user _ rest ih => simp only [redactHelloOptions, if_pos hauth, ih]
  | case5 option hauth hsetname name rest ih =>
    rw [redactHelloOptions.eq_def, redactHelloOptions.eq_def (option :: name :: rest)]
    simp only [if_neg hauth, if_pos hsetname, ih]
  | case6 option rest hauth hsetname ih =>
    rw [redactHelloOptions.eq_def, redactHelloOptions.eq_def (option :: rest)]
    simp only [if_neg hauth, if_neg hsetname, ih]
  | _ => rfl

/-- The scanner of the slow log finds every password that the handler of `HELLO` reads. -/
lemma redactHello_maskHello (args : List Bytes) :
    mapHelloOptions redactHelloOptions (mapHelloOptions maskHelloOptions args) =
      mapHelloOptions redactHelloOptions args := by
  match args with
  | [] => rfl
  | first :: rest =>
    rw [mapHelloOptions, mapHelloOptions]
    split_ifs with hversion
    · rw [mapHelloOptions, if_pos hversion, redactHelloOptions_maskHelloOptions]
    · obtain ⟨tail, htail⟩ : ∃ tail, maskHelloOptions (first :: rest) = first :: tail := by
        rw [maskHelloOptions.eq_def]
        dsimp only
        split_ifs
        · split <;> exact ⟨_, rfl⟩
        · split <;> exact ⟨_, rfl⟩
        · exact ⟨_, rfl⟩
      rw [← redactHelloOptions_maskHelloOptions (first :: rest), htail, mapHelloOptions,
        if_neg hversion]

lemma hidePassword_hidePassword (text : Bytes) (args : List Bytes) :
    mapSetuserRules (hidePassword text) (mapSetuserRules (hidePassword []) args) =
      mapSetuserRules (hidePassword text) args := by
  have hrule : ∀ rule, hidePassword text (hidePassword [] rule) = hidePassword text rule := by
    intro rule
    fun_cases hidePassword [] rule <;> rfl
  match args with
  | [] | [_] => rfl
  | sub :: user :: rules =>
    simp only [mapSetuserRules]
    split_ifs
    · simp [hrule]
    · rfl

/-- **The slow log shows nothing of a password.** -/
lemma sanitizeSlowlogArgv_maskPasswords (argv : List Bytes) :
    sanitizeSlowlogArgv (maskPasswords argv) = sanitizeSlowlogArgv argv := by
  have hauth : ∀ args, redactAuth (maskAuth args) = redactAuth args
    | [] | [_] | [_, _] | _ :: _ :: _ :: _ => rfl
  match argv with
  | [] => rfl
  | name :: args =>
    rw [maskPasswords, sanitizeSlowlogArgv, sanitizeSlowlogArgv]
    split_ifs
    · rw [hauth]
    · rw [redactHello_maskHello]
    · rw [hidePassword_hidePassword]
    · rfl

/-- Calls that differ in passwords only leave the same entry in the slow log. -/
lemma slowlogArgv_eq {argv argv' : List Bytes} (hmask : maskPasswords argv = maskPasswords argv') :
    sanitizeSlowlogArgv argv = sanitizeSlowlogArgv argv' := by
  rw [← sanitizeSlowlogArgv_maskPasswords argv, hmask, sanitizeSlowlogArgv_maskPasswords]

/-- **The slow log shows the mask of the arguments only, with the passwords left out; all observers
together do so exactly if no other client is in `MONITOR` mode.** -/
theorem observers_blind_iff (monitored : Bool) (head : Bytes) :
    (∀ argv argv', maskPasswords argv = maskPasswords argv' →
      (observe monitored head argv).slowlogArgv = (observe monitored head argv').slowlogArgv) ∧
    ((∀ argv argv', maskPasswords argv = maskPasswords argv' →
      observe monitored head argv = observe monitored head argv') ↔ monitored = false) := by
  refine ⟨fun argv argv' hmask => slowlogArgv_eq hmask, ?_⟩
  constructor
  · intro hblind
    by_contra hmonitored
    rw [Bool.not_eq_false] at hmonitored
    have hsame := hblind [ascii "AUTH", ascii "a"] [ascii "AUTH", ascii "b"] (by decide +kernel)
    have hname : ((some (toUppercase (ascii "AUTH"))) != some (ascii "MONITOR")) = true := by
      decide +kernel
    have hline := congrArg Observed.monitorLine hsame
    simp only [observe, hmonitored, List.head?_cons, Option.map_some, hname, Bool.true_and, if_true,
      Option.some.injEq, formatMonitorLine] at hline
    exact absurd (List.append_cancel_left hline) (by decide +kernel)
  · rintro rfl argv argv' hmask
    have hsanitize : sanitizeSlowlogArgv argv = sanitizeSlowlogArgv argv' := slowlogArgv_eq hmask
    rw [observe, observe, hsanitize]
    rfl

/-- `AUTH a` and `AUTH b` while another client is in `MONITOR` mode. -/
theorem monitor_sees_password :
    maskPasswords [ascii "AUTH", ascii "a"] = maskPasswords [ascii "AUTH", ascii "b"] ∧
      observe true (ascii "0.000000 [0 127.0.0.1:1]") [ascii "AUTH", ascii "a"] ≠
        observe true (ascii "0.000000 [0 127.0.0.1:1]") [ascii "AUTH", ascii "b"] := by
  decide +kernel

end Ratatosk.Engine
