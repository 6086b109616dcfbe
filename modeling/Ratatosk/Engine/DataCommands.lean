import Ratatosk.Engine.CommandTable
import Ratatosk.Keyspace.Value
import Ratatosk.Resp.Frame

/-!
# Data commands

The handlers whose effects the server logs in a form other than the request itself, and those
that replay such a log: `SET`, `SETEX`, `PSETEX`, `GETEX`, the four forms of `EXPIRE`, `DEL`,
`UNLINK`, `SREM`, `SPOP` and `XADD`, with `GET` and `SWAPDB`. They work on the logical content of
the databases.

* `cmdSet`, `cmdGetex`, … — one definition per handler, with its argument parsing and error
  texts. `err` is how an error text becomes a reply, `now` the clock of the call.
* `cmdSpop` takes the members it pops as an argument: the handler draws them with the clock.
-/

namespace Ratatosk.Engine

open Lib Keyspace Resp

/-! ## One key -/

/-- A stored value with an expiry; an expiry that is not positive is none.
Source: `keyspace.rs` `StoredValue::new`, `StoredValue::expire_at_ms` -/
def newEntry (value : Value) (expireAtMs : Option Int64) : Entry :=
  ⟨value, expireAtMs.filter (0 < ·)⟩

/-- Source: `keyspace.rs` `StoredValue::as_string_bytes` -/
def asStringBytes (entry : Entry) : Option Bytes :=
  match entry.value with
  | .string s => some s
  | _ => none

/-- The key is stored and its time has passed. -/
def isExpired (db : Db) (key : Bytes) (now : Int64) : Bool :=
  (db.lookup key).any fun entry => entry.expireAtMs.any (· ≤ now)

/-- Source: `keyspace.rs` `DbWriteGuard::purge_expired_key` -/
def purgeExpiredKey (db : Db) (key : Bytes) (now : Int64) : Db :=
  if isExpired db key now then db.erase key else db

/-- Source: `keyspace.rs` `DbWriteGuard::set_key_expiry` -/
def setKeyExpiry (db : Db) (key : Bytes) (expireAtMs : Option Int64) : Db :=
  match db.lookup key with
  | some entry => db.insert key (newEntry entry.value expireAtMs)
  | none => db

/-! ## Arithmetic of expiry times -/

/-- The nearest `i64`. -/
def clampI64 (v : Int) : Int64 := Int64.ofInt (max (-2 ^ 63) (min v (2 ^ 63 - 1)))

/-- `i64::saturating_add`. -/
def saturatingAdd (a b : Int64) : Int64 := clampI64 (a.toInt + b.toInt)

/-- `i64::saturating_mul`. -/
def saturatingMul (a b : Int64) : Int64 := clampI64 (a.toInt * b.toInt)

/-- The `i64`, if it is one. -/
def checkedI64 (v : Int) : Option Int64 :=
  if -2 ^ 63 ≤ v ∧ v < 2 ^ 63 then some (Int64.ofInt v) else none

/-- Source: `object.rs` `parse_usize` -/
def parseUsize (raw : Bytes) : Option Nat := (parseUnsigned raw).filter (· < 2 ^ 64)

/-- Source: `expiry.rs` `ExpireMode` -/
inductive ExpireMode where
  | relativeSeconds | relativeMilliseconds | absoluteSeconds | absoluteMilliseconds
  deriving Repr, DecidableEq

/-- Source: `mod.rs` `to_expire_target_ms` -/
def toExpireTargetMs (raw : Int64) (mode : ExpireMode) (now : Int64) : Int64 :=
  match mode with
  | .relativeSeconds => saturatingAdd now (saturatingMul raw 1000)
  | .relativeMilliseconds => saturatingAdd now raw
  | .absoluteSeconds => saturatingMul raw 1000
  | .absoluteMilliseconds => raw

/-! ## Replies -/

/-- Source: `frame.rs` `RespFrame::wrongtype` -/
def wrongtype : RespFrame :=
  .errorStr "WRONGTYPE Operation against a key holding the wrong kind of value"

/-- The text of `wrong_arity`.
Source: `mod.rs` `wrong_arity` -/
def wrongArityText (command : Bytes) : Bytes :=
  ascii "ERR wrong number of arguments for '" ++ command ++ ascii "' command"

/-- The text of a number that does not parse. -/
def notIntegerText : Bytes := ascii "ERR value is not an integer or out of range"

/-- The text of options that do not parse. -/
def syntaxErrorText : Bytes := ascii "ERR syntax error"

/-- The text of an expiry that a command refuses. -/
def invalidExpireText (command : String) : Bytes :=
  ascii "ERR invalid expire time in '" ++ ascii command ++ ascii "' command"

/-- Source: `mod.rs` `parse_command_expire_at_ms` -/
def parseCommandExpireAtMs (raw : Bytes) (mode : ExpireMode) (now : Int64) (command : String) :
    Except Bytes Int64 :=
  match parseI64 raw with
  | none => .error notIntegerText
  | some value =>
    if value ≤ 0 then .error (invalidExpireText command)
    else
      let atMs := match mode with
        | .relativeSeconds => (checkedI64 (value.toInt * 1000)).bind fun delta =>
          checkedI64 (now.toInt + delta.toInt)
        | .relativeMilliseconds => checkedI64 (now.toInt + value.toInt)
        | .absoluteSeconds => checkedI64 (value.toInt * 1000)
        | .absoluteMilliseconds => some value
      match atMs with
      | none => .error (invalidExpireText command)
      | some atMs => if atMs ≤ 0 then .error (invalidExpireText command) else .ok atMs

section handlers

variable (err : Bytes → RespFrame)

/-! ## Strings -/

/-- Source: `expiry.rs` `SetExpirePolicy` -/
inductive SetExpirePolicy where
  | none
  | keepTtl
  | atMs (ms : Int64)
  deriving Repr, DecidableEq

/-- What the options of `SET` ask for. -/
structure SetOptions where
  nx : Bool
  xx : Bool
  getOld : Bool
  expire : SetExpirePolicy
  deriving Repr, DecidableEq

/-- The mode of an expiry option. -/
def expireOptionMode (option : Bytes) : Option ExpireMode :=
  if eqIgnoreCase option "EX" then some .relativeSeconds
  else if eqIgnoreCase option "PX" then some .relativeMilliseconds
  else if eqIgnoreCase option "EXAT" then some .absoluteSeconds
  else if eqIgnoreCase option "PXAT" then some .absoluteMilliseconds
  else none

/-- The loop over the options.
Source: `cmd_string_access.rs` `cmd_set` -/
def parseSetOptions (now : Int64) : List Bytes → SetOptions → Except Bytes SetOptions
  | [], o => .ok o
  | option :: rest, o =>
    if eqIgnoreCase option "NX" then parseSetOptions now rest { o with nx := true }
    else if eqIgnoreCase option "XX" then parseSetOptions now rest { o with xx := true }
    else if eqIgnoreCase option "GET" then parseSetOptions now rest { o with getOld := true }
    else if eqIgnoreCase option "KEEPTTL" then
      if o.expire ≠ .none then .error syntaxErrorText
      else parseSetOptions now rest { o with expire := .keepTtl }
    else match expireOptionMode option with
      | none => .error syntaxErrorText
      | some mode =>
        match rest with
        | [] => .error syntaxErrorText
        | raw :: rest =>
          if o.expire ≠ .none then .error syntaxErrorText
          else match parseI64 raw with
            | none => .error notIntegerText
            | some value =>
              if value ≤ 0 then .error (invalidExpireText "set")
              else parseSetOptions now rest
                { o with expire := .atMs (toExpireTargetMs value mode now) }

/-- Stores a string, or removes the key if the expiry has passed. -/
def storeString (db : Db) (key value : Bytes) (expireAtMs : Option Int64) (now : Int64) : Db :=
  match expireAtMs with
  | some ts =>
    if ts ≤ now then db.erase key else db.insert key (newEntry (.string value) (some ts))
  | none => db.insert key (newEntry (.string value) none)

/-- The part of `SET` after its options are read, on a database without the key if it had
expired. -/
def applySet (key value : Bytes) (o : SetOptions) (now : Int64) (db : Db) : Db × RespFrame :=
  let existing := db.lookup key
  let shouldSet := (!o.nx || existing.isNone) && (!o.xx || existing.isSome)
  if !shouldSet then
    if o.getOld then
      match existing with
      | some entry =>
        match asStringBytes entry with
        | some s => (db, .bulkString (some s))
        | none => (db, wrongtype)
      | none => (db, .bulkString none)
    else (db, .bulkString none)
  else if o.getOld && existing.any fun entry => (asStringBytes entry).isNone then (db, wrongtype)
  else
    let expireAtMs := match o.expire with
      | .none => none
      | .keepTtl => existing.bind Entry.expireAtMs
      | .atMs ts => some ts
    (storeString db key value expireAtMs now,
      if o.getOld then .bulkString (existing.bind asStringBytes) else .ok)

/-- Source: `cmd_string_access.rs` `cmd_set` -/
def cmdSet (args : List Bytes) (now : Int64) (db : Db) : Db × RespFrame :=
  match args with
  | key :: value :: options =>
    match parseSetOptions now options ⟨false, false, false, .none⟩ with
    | .error text => (db, err text)
    | .ok o =>
      if o.nx && o.xx then (db, err syntaxErrorText)
      else applySet key value o now (purgeExpiredKey db key now)
  | _ => (db, err (wrongArityText (ascii "set")))

/-- Source: `cmd_string_access.rs` `cmd_get` -/
def cmdGet (args : List Bytes) (now : Int64) (db : Db) : Db × RespFrame :=
  match args with
  | [key] =>
    let db := purgeExpiredKey db key now
    match db.lookup key with
    | none => (db, .bulkString none)
    | some entry =>
      match asStringBytes entry with
      | none => (db, wrongtype)
      | some s => (db, .bulkString (some s))
  | _ => (db, err (wrongArityText (ascii "get")))

/-- Source: `cmd_string_access.rs` `cmd_setex_with_mode` -/
def cmdSetexWithMode (mode : ExpireMode) (command : String) (args : List Bytes) (now : Int64)
    (db : Db) : Db × RespFrame :=
  match args with
  | [key, timeout, value] =>
    match parseCommandExpireAtMs timeout mode now command with
    | .error text => (db, err text)
    | .ok atMs => (storeString (purgeExpiredKey db key now) key value (some atMs) now, .ok)
  | _ => (db, err (wrongArityText (ascii command)))

/-- Source: `expiry.rs` `GetExPolicy` -/
inductive GetExPolicy where
  | keepTtl
  | persist
  | atMs (ms : Int64)
  deriving Repr, DecidableEq

/-- Source: `mod.rs` `parse_getex_policy` -/
def parseGetexPolicy (args : List Bytes) (now : Int64) : Except Bytes GetExPolicy :=
  match args with
  | [] => .ok .keepTtl
  | option :: rest =>
    if eqIgnoreCase option "PERSIST" then
      if rest = [] then .ok .persist else .error syntaxErrorText
    else match expireOptionMode option with
      | none => .error syntaxErrorText
      | some mode =>
        match rest with
        | [raw] => (parseCommandExpireAtMs raw mode now "getex").map .atMs
        | _ => .error syntaxErrorText

/-- Source: `cmd_string_access.rs` `cmd_getex` -/
def cmdGetex (args : List Bytes) (now : Int64) (db : Db) : Db × RespFrame :=
  match args with
  | [] => (db, err (wrongArityText (ascii "getex")))
  | key :: options =>
    match parseGetexPolicy options now with
    | .error text => (db, err text)
    | .ok policy =>
      let db := purgeExpiredKey db key now
      match db.lookup key with
      | none => (db, .bulkString none)
      | some entry =>
        match asStringBytes entry with
        | none => (db, wrongtype)
        | some current =>
          let db := match policy with
            | .keepTtl => db
            | .persist => setKeyExpiry db key none
            | .atMs ms => if ms ≤ now then db.erase key else setKeyExpiry db key (some ms)
          (db, .bulkString (some current))

/-! ## Keys -/

/-- Source: `expiry.rs` `ExpireCondition` -/
inductive ExpireCondition where
  | none | nx | xx | gt | lt
  deriving Repr, DecidableEq

/-- Source: `mod.rs` `parse_expire_condition` -/
def parseExpireCondition (raw : Bytes) : Option ExpireCondition :=
  if eqIgnoreCase raw "NX" then some .nx
  else if eqIgnoreCase raw "XX" then some .xx
  else if eqIgnoreCase raw "GT" then some .gt
  else if eqIgnoreCase raw "LT" then some .lt
  else none

/-- Source: `mod.rs` `expire_condition_matches` -/
def expireConditionMatches (condition : ExpireCondition) (current : Option Int64)
    (target : Int64) : Bool :=
  match condition with
  | .none => true
  | .nx => current.isNone
  | .xx => current.isSome
  | .gt => current.any (· < target)
  | .lt => current.all (target < ·)

/-- The part of `EXPIRE` after its arguments are read, on a database without the key if it had
expired. -/
def applyExpire (key : Bytes) (condition : ExpireCondition) (target now : Int64) (db : Db) :
    Db × RespFrame :=
  match db.lookup key with
  | none => (db, .integer 0)
  | some entry =>
    if !expireConditionMatches condition entry.expireAtMs target then (db, .integer 0)
    else if target ≤ now then (db.erase key, .integer 1)
    else (setKeyExpiry db key (some target), .integer 1)

/-- Source: `cmd_key.rs` `cmd_expire_with_mode` -/
def cmdExpireWithMode (mode : ExpireMode) (command : String) (args : List Bytes) (now : Int64)
    (db : Db) : Db × RespFrame :=
  match args with
  | key :: timeout :: options =>
    if 1 < options.length then (db, err (wrongArityText (ascii command)))
    else match parseI64 timeout with
      | none => (db, err notIntegerText)
      | some raw =>
        match options.head?.elim (some .none) parseExpireCondition with
        | none => (db, err syntaxErrorText)
        | some condition =>
          applyExpire key condition (toExpireTargetMs raw mode now) now
            (purgeExpiredKey db key now)
  | _ => (db, err (wrongArityText (ascii command)))

/-- One round of the loop of `cmd_delete_like`. -/
def deleteKey (now : Int64) (acc : Db × Int64) (key : Bytes) : Db × Int64 :=
  let db := purgeExpiredKey acc.1 key now
  (db.erase key, if (db.lookup key).isSome then acc.2 + 1 else acc.2)

/-- Source: `cmd_key.rs` `cmd_delete_like` -/
def cmdDeleteLike (command : String) (args : List Bytes) (now : Int64) (db : Db) :
    Db × RespFrame :=
  if args = [] then (db, err (wrongArityText (ascii command)))
  else
    let (db, removed) := args.foldl (deleteKey now) (db, 0)
    (db, .integer removed)

/-- Source: `cmd_server_maintenance.rs` `cmd_swapdb` -/
def cmdSwapdb (args : List Bytes) (dbs : Databases) : Databases × RespFrame :=
  match args with
  | [left, right] =>
    match parseUsize left, parseUsize right with
    | some leftIdx, some rightIdx =>
      if h : leftIdx < dbCount ∧ rightIdx < dbCount then
        (dbs ∘ Equiv.swap ⟨leftIdx, h.1⟩ ⟨rightIdx, h.2⟩, .ok)
      else (dbs, err (ascii "ERR DB index is out of range"))
    | _, _ => (dbs, err notIntegerText)
  | _ => (dbs, err (wrongArityText (ascii "swapdb")))

/-! ## Sets -/

/-- The set stored at a key without some of its members; a set left empty is removed. -/
def removeMembers (db : Db) (key : Bytes) (entry : Entry) (members : Finset Bytes) : Db :=
  if members = ∅ then db.erase key else db.insert key { entry with value := .set members }

/-- Source: `cmd_set.rs` `cmd_srem` -/
def cmdSrem (args : List Bytes) (now : Int64) (db : Db) : Db × RespFrame :=
  match args with
  | key :: first :: more =>
    let db := purgeExpiredKey db key now
    match db.lookup key with
    | none => (db, .integer 0)
    | some entry =>
      match entry.value with
      | .set members =>
        let left := members \ (first :: more).toFinset
        (removeMembers db key entry left, .integer (Int64.ofNat (members.card - left.card)))
      | _ => (db, wrongtype)
  | _ => (db, err (wrongArityText (ascii "srem")))

/-- The order in which `SPOP` removes members: for every set and count, distinct members of the
set, as many as asked for or all of them. -/
structure PopOrder where
  pick : Finset Bytes → Nat → List Bytes
  nodup : ∀ members count, (pick members count).Nodup
  subset : ∀ members count, ∀ m ∈ pick members count, m ∈ members
  length : ∀ members count, (pick members count).length = min count members.card

/-- Members in lexicographic order. -/
def PopOrder.sorted : PopOrder where
  pick members count := (members.sort (· ≤ ·)).take count
  nodup members count := (members.sort_nodup (· ≤ ·)).sublist (List.take_sublist _ _)
  subset members count := fun m hm => (Finset.mem_sort (· ≤ ·)).mp (List.mem_of_mem_take hm)
  length members count := by rw [List.length_take, Finset.length_sort]

/-- Source: `cmd_set.rs` `cmd_spop`, the argument -/
def parseSpopCount : List Bytes → Except Bytes (Option Nat)
  | [] => .ok none
  | raw :: _ =>
    match parseI64 raw with
    | none => .error notIntegerText
    | some count =>
      if count < 0 then .error (ascii "ERR value is out of range, must be positive")
      else .ok (some count.toInt.toNat)

/-- Source: `cmd_set.rs` `cmd_spop` -/
def cmdSpop (order : PopOrder) (args : List Bytes) (now : Int64) (db : Db) : Db × RespFrame :=
  match args with
  | [] => (db, err (wrongArityText (ascii "spop")))
  | key :: rest =>
    if 1 < rest.length then (db, err (wrongArityText (ascii "spop")))
    else match parseSpopCount rest with
      | .error text => (db, err text)
      | .ok (some 0) => (db, .array [])
      | .ok count =>
        let db := purgeExpiredKey db key now
        match db.lookup key with
        | none => (db, if count.isSome then .array [] else .bulkString none)
        | some entry =>
          match entry.value with
          | .set members =>
            let popped := order.pick members (count.getD 1)
            (removeMembers db key entry (members \ popped.toFinset),
              if count.isSome then .array (popped.map fun m => .bulkString (some m))
              else .bulkString popped.head?)
          | _ => (db, wrongtype)

/-! ## Streams -/

/-- Source: `cmd_stream.rs` `stream_id_to_bytes` -/
def streamIdToBytes (id : StreamId) : Bytes :=
  decimalInt id.ms.toInt ++ 45 :: decimalInt id.seq.toInt

/-- Source: `cmd_stream.rs` `parse_stream_id` -/
def parseStreamId (raw : Bytes) : Option StreamId :=
  if !validUtf8 raw then none
  else
    let ms := raw.takeWhile (· ≠ 45)
    match raw.dropWhile (· ≠ 45) with
    | [] => none
    | _ :: seq =>
      if ms = [] ∨ seq = [] then none
      else match parseI64 ms, parseI64 seq with
        | some ms, some seq => if ms < 0 ∨ seq < 0 then none else some ⟨ms, seq⟩
        | _, _ => none

/-- The largest `i64`. -/
def maxI64 : Int64 := Int64.ofInt (2 ^ 63 - 1)

/-- Source: `cmd_stream.rs` `incremented_stream_id` -/
def incrementedStreamId (id : StreamId) : Option StreamId :=
  if id.seq < maxI64 then some ⟨id.ms, id.seq + 1⟩
  else if id.ms < maxI64 then some ⟨id.ms + 1, 0⟩
  else none

/-- Source: `cmd_stream.rs` `next_stream_id` -/
def nextStreamId (lastId : StreamId) (now : Int64) : Option StreamId :=
  if lastId.ms < now then some ⟨now, 0⟩ else incrementedStreamId lastId

/-- Source: `cmd_stream.rs` `next_stream_id_for_ms` -/
def nextStreamIdForMs (lastId : StreamId) (ms : Int64) : Option StreamId :=
  if ms ≠ lastId.ms then some ⟨ms, 0⟩
  else if lastId.seq < maxI64 then some ⟨ms, lastId.seq + 1⟩
  else none

/-- How `XADD` chooses the ID.
Source: `cmd_stream.rs` `cmd_xadd` `IdSpec` -/
inductive IdSpec where
  | auto
  | autoSeq (ms : Int64)
  | explicit (id : StreamId)
  deriving Repr, DecidableEq

/-- Source: `cmd_stream.rs` `cmd_xadd`, the ID argument -/
def parseIdSpec (raw : Bytes) : Except Bytes IdSpec :=
  let invalid := ascii "ERR Invalid stream ID specified as stream command argument"
  if raw = [42] then .ok .auto
  else if [45, 42] <:+ raw then
    let msRaw := raw.take (raw.length - 2)
    match if validUtf8 msRaw then parseI64 msRaw else none with
    | some ms => if ms < 0 then .error invalid else .ok (.autoSeq ms)
    | none => .error invalid
  else match parseStreamId raw with
    | none => .error invalid
    | some id =>
      if id = .zero then .error (ascii "ERR The ID specified in XADD must be greater than 0-0")
      else .ok (.explicit id)

/-- The order of the ID, strict. -/
def idLt (a b : StreamId) : Bool := a.le b && a != b

/-- The fields of an entry, from the arguments in pairs. -/
def pairFields : List Bytes → List (Bytes × Bytes)
  | field :: value :: rest => (field, value) :: pairFields rest
  | _ => []

/-- The ID that a spec stands for. -/
def IdSpec.resolve (spec : IdSpec) (lastId : StreamId) (now : Int64) : Option StreamId :=
  match spec with
  | .auto => nextStreamId lastId now
  | .autoSeq ms => nextStreamIdForMs lastId ms
  | .explicit id => some id

/-- A stream with one more entry. -/
def appendEntry (entries : List StreamEntry) (groups : Finmap fun _ : Bytes => Group)
    (metadata : StreamMeta) (id : StreamId) (fields : List (Bytes × Bytes)) : Value :=
  .stream (entries ++ [⟨id, fields⟩]) groups
    { metadata with
      lastId := id
      entriesAdded :=
        if metadata.entriesAdded = 0xFFFFFFFFFFFFFFFF then metadata.entriesAdded
        else metadata.entriesAdded + 1 }

/-- The part of `XADD` after its arguments are read, on a database without the key if it had
expired. -/
def applyXadd (key : Bytes) (spec : IdSpec) (fields : List (Bytes × Bytes)) (now : Int64)
    (db : Db) : Db × RespFrame :=
  let entry := (db.lookup key).getD (newEntry (.stream [] ∅ (.derivedFrom [])) none)
  match entry.value with
  | .stream entries groups metadata =>
    if metadata.lastId = ⟨maxI64, maxI64⟩ then
      (db, err (ascii
        "ERR The stream has exhausted the last possible ID, unable to add more items"))
    else match (spec.resolve metadata.lastId now).filter (idLt metadata.lastId) with
      | none => (db, err (ascii
          "ERR The ID specified in XADD is equal or smaller than the target stream top item"))
      | some id =>
        (db.insert key { entry with value := appendEntry entries groups metadata id fields },
          .bulkString (some (streamIdToBytes id)))
  | _ => (db, wrongtype)

/-- Source: `cmd_stream.rs` `cmd_xadd` -/
def cmdXadd (args : List Bytes) (now : Int64) (db : Db) : Db × RespFrame :=
  match args with
  | key :: idRaw :: fields =>
    if fields.length < 2 ∨ fields.length % 2 ≠ 0 then (db, err (wrongArityText (ascii "xadd")))
    else match parseIdSpec idRaw with
      | .error text => (db, err text)
      | .ok spec => applyXadd err key spec (pairFields fields) now (purgeExpiredKey db key now)
  | _ => (db, err (wrongArityText (ascii "xadd")))

end handlers

end Ratatosk.Engine
