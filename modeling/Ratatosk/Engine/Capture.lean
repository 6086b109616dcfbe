import Ratatosk.Engine.State

/-!
# Capture of durable effects

`capture_durability_effects` of `ratatosk-engine/src/command/mod.rs` and the functions it calls:
what the append-only file is to hold for a command, from the request, the reply and the
databases after the command.

* `captureDurabilityEffects` — the whole choice.
-/

namespace Ratatosk.Engine

open Lib Keyspace Resp

/-! ## Outcomes as commands -/

/-- `DEL` of a key. -/
def delArgv (key : Bytes) : List Bytes := [ascii "DEL", key]

/-- Source: `canonical_string_state` -/
def canonicalStringState (db : Db) (key : Bytes) : Option (List Bytes) :=
  match db.lookup key with
  | some entry =>
    (asStringBytes entry).map fun value =>
      [ascii "SET", key, value] ++
        match entry.expireAtMs with
        | some atMs => [ascii "PXAT", decimalInt atMs.toInt]
        | none => []
  | none => some (delArgv key)

/-- Source: `canonical_expiry_state` -/
def canonicalExpiryState (db : Db) (key : Bytes) : Option (List Bytes) :=
  match db.lookup key with
  | some entry =>
    entry.expireAtMs.map fun atMs => [ascii "PEXPIREAT", key, decimalInt atMs.toInt]
  | none => some (delArgv key)

/-- Source: `canonical_xadd` -/
def canonicalXadd (r : Request) (response : RespFrame) : Option (List Bytes) :=
  match response, r.args with
  | .bulkString (some id), key :: _ :: fields => some (r.name :: key :: id :: fields)
  | _, _ => none

/-- Source: `set_command_was_applied` -/
def setCommandWasApplied (r : Request) (db : Db) (response : RespFrame) : Bool :=
  let hasCondition := (r.args.drop 2).any fun option =>
    eqIgnoreCase option "NX" || eqIgnoreCase option "XX"
  if !hasCondition then true
  else
    let isOk := match response with
      | .simpleString value => eqIgnoreCase value "OK"
      | _ => false
    if isOk then true
    else match r.args with
      | key :: requested :: _ => ((db.lookup key).bind asStringBytes).any (· == requested)
      | _ => false

/-- Source: `SPOP_AOF_SREM_BATCH` -/
def spopAofSremBatch : Nat := 100000

/-- The members that a reply of `SPOP` names. -/
def poppedMembers : RespFrame → List Bytes
  | .bulkString (some member) => [member]
  | .array items => items.filterMap fun item =>
    match item with
    | .bulkString (some member) => some member
    | _ => none
  | _ => []

/-- Source: `spop_durability_effects` -/
def spopDurabilityEffects (r : Request) (db : Db) (dbIndex : Fin dbCount) (now : Int64)
    (response : RespFrame) : Option DurabilityEffects :=
  match r.args with
  | [] => none
  | key :: _ =>
    let members := poppedMembers response
    if members = [] then none
    else if (db.lookup key).isNone then some (.single now dbIndex (delArgv key))
    else
      let commands := (members.toChunks spopAofSremBatch).map fun chunk =>
        (⟨dbIndex, ascii "SREM" :: key :: chunk⟩ : DurableCommand)
      match commands with
      | [only] => some (.single now dbIndex only.argv)
      | commands => some ⟨commands, true, now⟩

/-- Source: `raw_command_changed_state` -/
def rawCommandChangedState (command : Bytes) (response : RespFrame) : Bool :=
  if command ∈ ["DEL", "UNLINK", "SETNX", "MSETNX", "HSETNX", "PERSIST"].map ascii then
    match response with
    | .integer n => n != 0
    | _ => true
  else true

/-! ## The choice -/

/-- The commands that are logged under no circumstances. -/
def unloggedCommands : List Bytes :=
  ["MULTI", "EXEC", "DISCARD", "WATCH", "UNWATCH", "SELECT", "CONFIG", "SAVE", "BGSAVE",
    "BGREWRITEAOF", "PUBLISH", "SPUBLISH", "XCFGSET"].map ascii

/-- A reply that reports an error. -/
def isErrorReply : RespFrame → Bool
  | .error _ => true
  | _ => false

/-- A reply that is a string. -/
def isBulkReply : RespFrame → Bool
  | .bulkString (some _) => true
  | _ => false

/-- The reply `1`. -/
def isOneReply : RespFrame → Bool
  | .integer n => n == 1
  | _ => false

/-- The request as it came, if it is a write that changed something. -/
def rawEffect (r : Request) (response : RespFrame) : Option (List Bytes) :=
  if isWriteCommand r.argv && rawCommandChangedState r.command response then some r.argv else none

/-- The command that stands for the request in the log, `SPOP` apart. -/
def canonicalEffect (r : Request) (db : Db) (response : RespFrame) : Option (List Bytes) :=
  if r.command = ascii "SET" ∧ setCommandWasApplied r db response then
    r.args.head?.bind (canonicalStringState db)
  else if r.command ∈ ["SETEX", "PSETEX"].map ascii then
    r.args.head?.bind (canonicalStringState db)
  else if r.command = ascii "GETEX" ∧ 1 < r.args.length ∧ isBulkReply response then
    r.args.head?.bind (canonicalStringState db)
  else if r.command ∈ ["EXPIRE", "PEXPIRE", "EXPIREAT", "PEXPIREAT"].map ascii ∧
      isOneReply response then
    r.args.head?.bind (canonicalExpiryState db)
  else if r.command = ascii "XADD" then canonicalXadd r response
  else if r.command ∈ unloggedCommands then none
  else rawEffect r response

/-- What a command that selected `dbIndex` and replied `response` is logged as, from the
databases it left.
Source: `capture_durability_effects` -/
def captureDurabilityEffects (r : Request) (dbs : Databases) (dbIndex : Fin dbCount)
    (now : Int64) (response : RespFrame) : Option DurabilityEffects :=
  if isErrorReply response then none
  else if r.command = ascii "SPOP" then
    spopDurabilityEffects r (dbs dbIndex) dbIndex now response
  else (canonicalEffect r (dbs dbIndex) response).map (.single now dbIndex)

/-- Nothing is captured for a command that is never logged. -/
lemma captureDurabilityEffects_unlogged {r : Request} (h : r.command ∈ unloggedCommands)
    (dbs : Databases) (dbIndex : Fin dbCount) (now : Int64) (response : RespFrame) :
    captureDurabilityEffects r dbs dbIndex now response = none := by
  have hnames : ∀ c ∈ unloggedCommands, c ≠ ascii "SPOP" ∧ c ≠ ascii "SET" ∧
      c ∉ ["SETEX", "PSETEX"].map ascii ∧ c ≠ ascii "GETEX" ∧
      c ∉ ["EXPIRE", "PEXPIRE", "EXPIREAT", "PEXPIREAT"].map ascii ∧ c ≠ ascii "XADD" := by
    decide +kernel
  obtain ⟨hspop, hset, hsetex, hgetex, hexpire, hxadd⟩ := hnames _ h
  unfold captureDurabilityEffects canonicalEffect
  simp only [hspop, hset, hsetex, hgetex, hexpire, hxadd, h, false_and, if_false, if_true,
    Option.map_none, ite_self]

end Ratatosk.Engine
