import Ratatosk.Engine.DataCommands
import Ratatosk.Keyspace.StreamId
import Ratatosk.Lib.FiniteMap

/-!
# The stream commands that write

`XDEL`, `XTRIM`, `XSETID`, `XGROUP`, `XREADGROUP`, `XACK`, `XCLAIM`, `XAUTOCLAIM`, `XACKDEL` and
`XDELEX` of `ratatosk-engine/src/command/cmd_stream*.rs`; `XADD` is with the data commands.

* The edits of each command are functions on `Stream` and on `Group`, with the name of the source
  function where it has one.

Whether a stream holds an ID is found by binary search in the source, and the rows of a reply by
looking selected IDs up in the entries. Here they are membership and the selected entries, which is
the same on entries in order. The request of `XREADGROUP` to block is for the event loop: its
reply is the null array either way.
-/

namespace Ratatosk.Keyspace

open Lib

/-! ## Edits of a group -/

/-- A group that nothing was delivered to. -/
def Group.new (lastDeliveredId : StreamId) : Group := ⟨lastDeliveredId, ∅, ∅⟩

/-- The consumer, created if the group has none of that name, seen now. -/
def Group.seeConsumer (group : Group) (name : Bytes) (now : Int64) : Group :=
  { group with
    consumers := group.consumers.insert name
      ⟨now, ((group.consumers.lookup name).map Consumer.pending).getD ∅⟩ }

/-- The ID is in the pending set of the consumer, which is created if need be. -/
def Group.holdPending (group : Group) (name : Bytes) (id : StreamId) (now : Int64) : Group :=
  { group with
    consumers := group.consumers.insert name
      ⟨now, insert id (((group.consumers.lookup name).map Consumer.pending).getD ∅)⟩ }

/-- The ID is in the pending set of no consumer of that name. -/
def Group.releasePending (group : Group) (name : Bytes) (id : StreamId) : Group :=
  match group.consumers.lookup name with
  | none => group
  | some consumer =>
    { group with
      consumers := group.consumers.insert name
        { consumer with pending := consumer.pending.erase id } }

/-- The group without some pending IDs, in both of its tables. -/
def Group.dropPending (removed : Finset StreamId) (group : Group) : Group :=
  { group with
    pending := FiniteMap.retain (fun id _ => decide (id ∉ removed)) group.pending
    consumers := FiniteMap.mapValues
      (fun consumer => { consumer with pending := consumer.pending \ removed }) group.consumers }

/-- The ID, acknowledged, and whether it was pending.
Source: `cmd_stream_groups.rs` `cmd_xack`, `cmd_stream_lifecycle.rs` `cmd_xackdel` -/
def Group.ack (group : Group) (id : StreamId) : Group × Bool :=
  match group.pending.lookup id with
  | none => (group, false)
  | some pending =>
    ({ group with pending := group.pending.erase id }.releasePending pending.consumer id, true)

end Ratatosk.Keyspace

namespace Ratatosk.Engine

open Lib Keyspace Resp

/-! ## Streams -/

/-- The consumer groups of a stream. -/
abbrev Groups := Finmap fun _ : Bytes => Group

/-- What a key with a stream stores. -/
structure Stream where
  entries : List StreamEntry
  groups : Groups
  metadata : StreamMeta

/-- The stored value. -/
def Stream.value (s : Stream) : Value := .stream s.entries s.groups s.metadata

/-- The stream at a key, edited. The other replies are for a key that is missing and for a value
of another type. -/
def editStream {ρ : Type} (absent wrong : ρ) (edit : Stream → Stream × ρ) (key : Bytes)
    (db : Db) : Db × ρ :=
  match db.lookup key with
  | none => (db, absent)
  | some entry =>
    match entry.value with
    | .stream entries groups metadata =>
      let (stream, reply) := edit ⟨entries, groups, metadata⟩
      (db.insert key { entry with value := stream.value }, reply)
    | _ => (db, wrong)

/-- The text of an ID that does not parse. -/
def invalidIdText : Bytes := ascii "ERR Invalid stream ID specified as stream command argument"

/-- Source: `cmd_stream.rs` `stream_entry_frame` -/
def streamEntryFrame (entry : StreamEntry) : RespFrame :=
  .array [.bulkString (some (streamIdToBytes entry.id)),
    .array (entry.fields.flatMap fun field =>
      [.bulkString (some field.1), .bulkString (some field.2)])]

/-- Source: `cmd_stream.rs` `stream_nogroup_error` -/
def streamNogroupText (key group : Bytes) : Bytes :=
  ascii "NOGROUP No such key '" ++ key ++ ascii "' or consumer group '" ++ group ++ ascii "'"

/-- Source: `cmd_stream.rs` `xreadgroup_nogroup_error` -/
def xreadgroupNogroupText (key group : Bytes) : Bytes :=
  streamNogroupText key group ++ ascii " in XREADGROUP with GROUP option"

/-- `i64::saturating_sub`. -/
def saturatingSub (a b : Int64) : Int64 := clampI64 (a.toInt - b.toInt)

/-- Source: `cmd_stream_lifecycle.rs` `stream_contains_id` -/
def streamContainsId (entries : List StreamEntry) (id : StreamId) : Bool :=
  entries.any fun item => item.id == id

/-- Source: `cmd_stream_lifecycle.rs` `stream_has_pending_references` -/
def streamHasPendingReferences (groups : Groups) (id : StreamId) : Bool :=
  groups.any fun _ group => (group.pending.lookup id).isSome

/-- Source: `cmd_stream_lifecycle.rs` `prune_stream_removed_ids` -/
def pruneStreamRemovedIds (groups : Groups) (removed : List StreamId) : Groups :=
  FiniteMap.mapValues (Group.dropPending removed.toFinset) groups

/-- Source: `cmd_stream_lifecycle.rs` `purge_stream_pending_id` -/
def purgeStreamPendingId (groups : Groups) (id : StreamId) : Groups :=
  FiniteMap.mapValues (Group.dropPending {id}) groups

/-- Source: `cmd_stream_lifecycle.rs` `record_deleted_ids` -/
def recordDeletedIds (metadata : StreamMeta) (deleted : List StreamId) : StreamMeta :=
  { metadata with maxDeletedId := deleted.foldl StreamId.max metadata.maxDeletedId }

/-- Source: `cmd_stream_lifecycle.rs` `claim_pending_id` -/
def claimPendingId (group : Group) (consumerName : Bytes) (id : StreamId) (now : Int64) :
    Group × Bool :=
  match group.pending.lookup id with
  | none => (group, false)
  | some pending =>
    let released :=
      if pending.consumer = consumerName then group
      else group.releasePending pending.consumer id
    ({ released with
      pending := released.pending.insert id
        ⟨consumerName, saturatingAdd pending.deliveries 1, now⟩ }.holdPending
          consumerName id now, true)

section handlers

variable (err : Bytes → RespFrame)

/-! ## `XTRIM` and `XDEL` -/

/-- Source: `cmd_stream_lifecycle.rs` `cmd_xtrim` `TrimStrategy` -/
inductive TrimStrategy where
  | maxLen (len : Nat)
  | minId (id : StreamId)
  deriving Repr, DecidableEq

/-- The strategy and its threshold. -/
def parseTrimStrategy (strategy threshold : Bytes) : Except Bytes TrimStrategy :=
  if eqIgnoreCase strategy "MAXLEN" then
    match parseUsize threshold with
    | none => .error notIntegerText
    | some len => .ok (.maxLen len)
  else if eqIgnoreCase strategy "MINID" then
    match parseStreamId threshold with
    | none => .error invalidIdText
    | some id => .ok (.minId id)
  else .error syntaxErrorText

/-- The loop over the options of `XTRIM`. -/
def parseTrimLimit : List Bytes → Option Nat → Except Bytes (Option Nat)
  | [], limit => .ok limit
  | option :: rest, _ =>
    if !eqIgnoreCase option "LIMIT" then .error syntaxErrorText
    else match rest with
      | [] => .error syntaxErrorText
      | raw :: rest =>
        match parseUsize raw with
        | none => .error notIntegerText
        | some parsed => parseTrimLimit rest (some parsed)

/-- How many entries a trim removes. -/
def trimCount (mode : TrimStrategy) (limit : Option Nat) (entries : List StreamEntry) : Nat :=
  let count := match mode with
    | .maxLen len => entries.length - len
    | .minId id => (entries.takeWhile fun item => idLt item.id id).length
  match limit with
  | some maxRemove => min count maxRemove
  | none => count

/-- The trim of a stream. -/
def trimStream (mode : TrimStrategy) (limit : Option Nat) (s : Stream) : Stream × RespFrame :=
  let count := trimCount mode limit s.entries
  if count = 0 then (s, .integer 0)
  else
    let removed := (s.entries.take count).map StreamEntry.id
    ({ s with
      entries := s.entries.drop count
      groups := pruneStreamRemovedIds s.groups removed },
      .integer (Int64.ofNat removed.length))

/-- Source: `cmd_stream_lifecycle.rs` `cmd_xtrim` -/
def cmdXtrim (args : List Bytes) (now : Int64) (db : Db) : Db × RespFrame :=
  match args with
  | key :: strategy :: first :: more =>
    let rest := if first = ascii "=" ∨ first = ascii "~" then more else first :: more
    match rest with
    | [] => (db, err syntaxErrorText)
    | threshold :: options =>
      match parseTrimStrategy strategy threshold with
      | .error text => (db, err text)
      | .ok mode =>
        match parseTrimLimit options none with
        | .error text => (db, err text)
        | .ok limit => editStream (.integer 0) wrongtype (trimStream mode limit) key
            (purgeExpiredKey db key now)
  | _ => (db, err (wrongArityText (ascii "xtrim")))

/-- The entries left and the IDs removed, each ID once.
Source: `cmd_stream_lifecycle.rs` `cmd_xdel`, the closure of `retain` -/
def removeIds : List StreamEntry → Finset StreamId → List StreamEntry × List StreamId
  | [], _ => ([], [])
  | item :: rest, ids =>
    if item.id ∈ ids then
      let (kept, removed) := removeIds rest (ids.erase item.id)
      (kept, item.id :: removed)
    else
      let (kept, removed) := removeIds rest ids
      (item :: kept, removed)

/-- The stream without some entries. -/
def deleteIds (ids : List StreamId) (s : Stream) : Stream × RespFrame :=
  let (kept, removed) := removeIds s.entries ids.toFinset
  (⟨kept, pruneStreamRemovedIds s.groups removed, recordDeletedIds s.metadata removed⟩,
    .integer (Int64.ofNat removed.length))

/-- Source: `cmd_stream_lifecycle.rs` `cmd_xdel` -/
def cmdXdel (args : List Bytes) (now : Int64) (db : Db) : Db × RespFrame :=
  match args with
  | key :: first :: more =>
    match (first :: more).mapM parseStreamId with
    | none => (db, err invalidIdText)
    | some ids => editStream (.integer 0) wrongtype (deleteIds ids) key
        (purgeExpiredKey db key now)
  | _ => (db, err (wrongArityText (ascii "xdel")))

/-! ## `XSETID` -/

/-- Source: `cmd_stream_admin.rs` `parse_xsetid_id` -/
def parseXsetidId (raw : Bytes) : Option StreamId :=
  if 45 ∉ raw then
    (if validUtf8 raw then parseI64 raw else none).bind fun ms =>
      if 0 ≤ ms then some ⟨ms, 0⟩ else none
  else parseStreamId raw

/-- The loop over the options of `XSETID`. -/
def parseXsetidOptions (newId : StreamId) :
    List Bytes → Option UInt64 → StreamId → Except Bytes (Option UInt64 × StreamId)
  | [], entriesAdded, maxDeletedId => .ok (entriesAdded, maxDeletedId)
  | [_], _, _ => .error syntaxErrorText
  | option :: value :: rest, entriesAdded, maxDeletedId =>
    if toUppercase option = ascii "ENTRIESADDED" then
      match parseI64 value with
      | none => .error notIntegerText
      | some parsed =>
        if parsed < 0 then .error (ascii "ERR entries_added must be positive")
        else parseXsetidOptions newId rest (some (UInt64.ofNat parsed.toInt.toNat)) maxDeletedId
    else if toUppercase option = ascii "MAXDELETEDID" then
      match parseXsetidId value with
      | none => .error invalidIdText
      | some parsed =>
        if idLt newId parsed then .error (ascii
          "ERR The ID specified in XSETID is smaller than the provided max_deleted_entry_id")
        else parseXsetidOptions newId rest entriesAdded parsed
    else .error syntaxErrorText

/-- The text with which `XSETID` refuses an ID for a stream. -/
def xsetidRefusal (newId : StreamId) (entriesAdded : Option UInt64) (s : Stream) :
    Option Bytes :=
  if idLt newId s.metadata.maxDeletedId then
    some (ascii "ERR The ID specified in XSETID is smaller than current max_deleted_entry_id")
  else match s.entries.getLast? with
    | none => none
    | some top =>
      if idLt newId top.id then some (ascii
        "ERR The ID specified in XSETID is smaller than the target stream top item")
      else if entriesAdded.any fun added => added < UInt64.ofNat s.entries.length then
        some (ascii
          "ERR The entries_added specified in XSETID is smaller than the target stream length")
      else none

/-- The metadata that `XSETID` sets. -/
def xsetidMeta (newId : StreamId) (entriesAdded : Option UInt64) (maxDeletedId : StreamId)
    (metadata : StreamMeta) : StreamMeta where
  lastId := newId
  entriesAdded := entriesAdded.getD metadata.entriesAdded
  maxDeletedId := if maxDeletedId = .zero then metadata.maxDeletedId else maxDeletedId

/-- The stream with its metadata set, if the ID is not refused. -/
def setStreamId (newId : StreamId) (entriesAdded : Option UInt64) (maxDeletedId : StreamId)
    (s : Stream) : Stream × RespFrame :=
  match xsetidRefusal newId entriesAdded s with
  | some text => (s, err text)
  | none => ({ s with metadata := xsetidMeta newId entriesAdded maxDeletedId s.metadata }, .ok)

/-- Source: `cmd_stream_admin.rs` `cmd_xsetid` -/
def cmdXsetid (args : List Bytes) (now : Int64) (db : Db) : Db × RespFrame :=
  match args with
  | key :: idRaw :: options =>
    match parseXsetidId idRaw with
    | none => (db, err invalidIdText)
    | some newId =>
      match parseXsetidOptions newId options none .zero with
      | .error text => (db, err text)
      | .ok (entriesAdded, maxDeletedId) =>
        editStream (err (ascii "ERR no such key")) wrongtype
          (setStreamId err newId entriesAdded maxDeletedId) key (purgeExpiredKey db key now)
  | _ => (db, err (wrongArityText (ascii "xsetid")))

/-! ## `XGROUP` -/

/-- Source: `cmd_stream_groups.rs` `parse_stream_id` -/
def parseGroupStreamId (raw : Bytes) : Option StreamId :=
  match parseStreamId raw with
  | some id => some id
  | none =>
    if raw = [] ∨ !(raw.all fun c => 48 ≤ c && c ≤ 57) then none
    else (parseI64 raw).map fun ms => ⟨ms, 0⟩

/-- The ID of a group's cursor: `$` is the last ID that the stream generated. -/
def parseCursor (raw : Bytes) (lastId : StreamId) : Option StreamId :=
  if raw = ascii "$" then some lastId else parseGroupStreamId raw

/-- The reply to `XGROUP HELP`. -/
def xgroupHelp : RespFrame :=
  .array (["CREATE <key> <groupname> <id|$> [MKSTREAM] -- Create a consumer group.",
    "DESTROY <key> <groupname> -- Destroy a consumer group.",
    "CREATECONSUMER <key> <groupname> <consumer> -- Create consumer in group.",
    "DELCONSUMER <key> <groupname> <consumer> -- Delete consumer from group.",
    "SETID <key> <groupname> <id|$> -- Set group's last delivered ID.",
    "HELP -- Show this help."].map RespFrame.bulkStr)

/-- A new group of a stream. -/
def createGroup (groupName idRaw : Bytes) (s : Stream) : Stream × RespFrame :=
  match parseCursor idRaw s.metadata.lastId with
  | none => (s, err invalidIdText)
  | some id =>
    if (s.groups.lookup groupName).isSome then
      (s, err (ascii "BUSYGROUP Consumer Group name already exists"))
    else ({ s with groups := s.groups.insert groupName (.new id) }, .ok)

/-- A new stream with a new group. -/
def createGroupAndStream (key groupName idRaw : Bytes) (db : Db) : Db × RespFrame :=
  match parseCursor idRaw .zero with
  | none => (db, err invalidIdText)
  | some id =>
    (db.insert key (newEntry (.stream [] (Finmap.singleton groupName (.new id))
      (.derivedFrom [])) none), .ok)

/-- `XGROUP CREATE`, on a database without the key if it had expired. -/
def xgroupCreate (key groupName idRaw : Bytes) (mkstream : Bool) (db : Db) : Db × RespFrame :=
  if (db.lookup key).isNone && mkstream then createGroupAndStream err key groupName idRaw db
  else editStream (err (ascii ("ERR The XGROUP subcommand requires the key to exist. Note that " ++
      "for CREATE you may want to use the MKSTREAM option to create an empty stream " ++
      "automatically.")))
    wrongtype (createGroup err groupName idRaw) key db

/-- A group of a stream, edited. -/
def editGroup {ρ : Type} (missing : ρ) (groupName : Bytes) (edit : Group → Group × ρ)
    (s : Stream) : Stream × ρ :=
  match s.groups.lookup groupName with
  | none => (s, missing)
  | some group =>
    let (group, reply) := edit group
    ({ s with groups := s.groups.insert groupName group }, reply)

/-- A stream without a group. -/
def destroyGroup (groupName : Bytes) (s : Stream) : Stream × RespFrame :=
  ({ s with groups := s.groups.erase groupName },
    .integer (if (s.groups.lookup groupName).isSome then 1 else 0))

/-- Another cursor of a group. -/
def setGroupId (key groupName idRaw : Bytes) (s : Stream) : Stream × RespFrame :=
  editGroup (err (xreadgroupNogroupText key groupName)) groupName
    (fun group =>
      match parseCursor idRaw s.metadata.lastId with
      | none => (group, err invalidIdText)
      | some id => ({ group with lastDeliveredId := id }, .ok)) s

/-- A new consumer of a group. -/
def createConsumer (consumerName : Bytes) (now : Int64) (group : Group) : Group × RespFrame :=
  if (group.consumers.lookup consumerName).isSome then (group, .integer 0)
  else
    ({ group with consumers := group.consumers.insert consumerName ⟨now, ∅⟩ }, .integer 1)

/-- A group without a consumer and without what is pending for it. -/
def deleteConsumer (consumerName : Bytes) (group : Group) : Group × RespFrame :=
  let removed := ((group.consumers.lookup consumerName).map fun c => c.pending.card).getD 0
  ({ group with
    consumers := group.consumers.erase consumerName
    pending :=
      if 0 < removed then
        FiniteMap.retain (fun _ pending => pending.consumer != consumerName) group.pending
      else group.pending },
    .integer (Int64.ofNat removed))

/-- Source: `cmd_stream_groups.rs` `cmd_xgroup` -/
def cmdXgroup (args : List Bytes) (now : Int64) (db : Db) : Db × RespFrame :=
  let arity := (db, err (wrongArityText (ascii "xgroup")))
  match args with
  | [] => arity
  | subcommand :: rest =>
    let name := toUppercase subcommand
    if name = ascii "HELP" then if rest = [] then (db, xgroupHelp) else arity
    else if name = ascii "CREATE" then
      match rest with
      | [key, groupName, idRaw] =>
        xgroupCreate err key groupName idRaw false (purgeExpiredKey db key now)
      | [key, groupName, idRaw, option] =>
        if !eqIgnoreCase option "MKSTREAM" then (db, err syntaxErrorText)
        else xgroupCreate err key groupName idRaw true (purgeExpiredKey db key now)
      | _ => arity
    else if name = ascii "DESTROY" then
      match rest with
      | [key, groupName] => editStream (.integer 0) wrongtype (destroyGroup groupName) key
          (purgeExpiredKey db key now)
      | _ => arity
    else if name = ascii "SETID" then
      match rest with
      | [key, groupName, idRaw] =>
        editStream (err (xreadgroupNogroupText key groupName)) wrongtype
          (setGroupId err key groupName idRaw) key (purgeExpiredKey db key now)
      | _ => arity
    else if name = ascii "CREATECONSUMER" then
      match rest with
      | [key, groupName, consumerName] =>
        editStream (err (xreadgroupNogroupText key groupName)) wrongtype
          (editGroup (err (xreadgroupNogroupText key groupName)) groupName
            (createConsumer consumerName now)) key (purgeExpiredKey db key now)
      | _ => arity
    else if name = ascii "DELCONSUMER" then
      match rest with
      | [key, groupName, consumerName] =>
        editStream (err (xreadgroupNogroupText key groupName)) wrongtype
          (editGroup (err (xreadgroupNogroupText key groupName)) groupName
            (deleteConsumer consumerName)) key (purgeExpiredKey db key now)
      | _ => arity
    else (db, err (ascii
      "ERR Unknown XGROUP subcommand or wrong number of arguments for XGROUP"))

/-! ## `XREADGROUP` -/

/-- What the options of `XREADGROUP` ask for. `BLOCK` is parsed and left to the event loop. -/
structure ReadgroupOptions where
  count : Option Nat
  noack : Bool
  deriving Repr, DecidableEq

/-- The loop over the options of `XREADGROUP`, and what follows `STREAMS`. -/
def parseReadgroupOptions : List Bytes → ReadgroupOptions →
    Except Bytes (ReadgroupOptions × List Bytes)
  | [], _ => .error syntaxErrorText
  | option :: rest, o =>
    if eqIgnoreCase option "STREAMS" then .ok (o, rest)
    else if eqIgnoreCase option "COUNT" then
      match rest with
      | [] => .error syntaxErrorText
      | raw :: rest =>
        match parseUsize raw with
        | none => .error notIntegerText
        | some parsed => parseReadgroupOptions rest { o with count := some parsed }
    else if eqIgnoreCase option "BLOCK" then
      match rest with
      | [] => .error syntaxErrorText
      | raw :: rest =>
        match parseI64 raw with
        | none => .error notIntegerText
        | some parsed =>
          if parsed < 0 then .error notIntegerText else parseReadgroupOptions rest o
    else if eqIgnoreCase option "NOACK" then
      parseReadgroupOptions rest { o with noack := true }
    else .error syntaxErrorText

/-- What `XREADGROUP` asks for: the group, the consumer, the options, and the streams with the IDs
to read from. -/
structure ReadgroupRequest where
  group : Bytes
  consumer : Bytes
  options : ReadgroupOptions
  streams : List (Bytes × Bytes)
  deriving Repr, DecidableEq

/-- The arguments of `XREADGROUP`. -/
def parseReadgroup (args : List Bytes) : Except Bytes ReadgroupRequest :=
  if args.length < 6 then .error (wrongArityText (ascii "xreadgroup"))
  else match args with
    | first :: group :: consumer :: rest =>
      if !eqIgnoreCase first "GROUP" then .error syntaxErrorText
      else match parseReadgroupOptions rest ⟨none, false⟩ with
        | .error text => .error text
        | .ok (options, tail) =>
          if tail.length < 2 ∨ tail.length % 2 ≠ 0 then .error syntaxErrorText
          else
            let count := tail.length / 2
            .ok ⟨group, consumer, options, (tail.take count).zip (tail.drop count)⟩
    | _ => .error (wrongArityText (ascii "xreadgroup"))

/-- The first entries, if a count is given. -/
def ReadgroupOptions.limit (o : ReadgroupOptions) (items : List StreamEntry) :
    List StreamEntry :=
  match o.count with
  | some limit => items.take limit
  | none => items

/-- The entries that were never delivered to the group. -/
def selectNew (o : ReadgroupOptions) (entries : List StreamEntry) (group : Group) :
    List StreamEntry :=
  o.limit (entries.filter fun item => idLt group.lastDeliveredId item.id)

/-- The entries after an ID that are pending for a consumer. -/
def selectPending (o : ReadgroupOptions) (entries : List StreamEntry) (group : Group)
    (consumerName : Bytes) (after : StreamId) : List StreamEntry :=
  o.limit ((entries.filter fun item => idLt after item.id).filter fun item =>
    (group.pending.lookup item.id).any fun pending => pending.consumer == consumerName)

/-- One ID, delivered for the first time or again. -/
def deliverId (consumerName : Bytes) (now : Int64) (group : Group) (id : StreamId) : Group :=
  { group with
    consumers := group.consumers.insert consumerName
      (((group.consumers.lookup consumerName).map fun consumer =>
        { consumer with pending := insert id consumer.pending }).getD ⟨now, {id}⟩)
    pending := group.pending.insert id
      (match group.pending.lookup id with
        | some pending => ⟨consumerName, saturatingAdd pending.deliveries 1, now⟩
        | none => ⟨consumerName, 1, now⟩) }

/-- New entries, delivered. -/
def deliverNew (o : ReadgroupOptions) (consumerName : Bytes) (now : Int64)
    (selected : List StreamEntry) (group : Group) : Group :=
  let delivered :=
    if o.noack then group
    else (selected.map StreamEntry.id).foldl (deliverId consumerName now) group
  { delivered with
    lastDeliveredId := (selected.getLast?.map StreamEntry.id).getD delivered.lastDeliveredId }

/-- One pending ID, delivered again. -/
def redeliverId (now : Int64) (group : Group) (id : StreamId) : Group :=
  match group.pending.lookup id with
  | none => group
  | some pending =>
    { group with
      pending := group.pending.insert id
        { pending with
          deliveries := saturatingAdd pending.deliveries 1
          lastDeliveredMs := now } }

/-- Pending entries, delivered again. -/
def redeliver (o : ReadgroupOptions) (now : Int64) (selected : List StreamEntry) (group : Group) :
    Group :=
  if o.noack then group else (selected.map StreamEntry.id).foldl (redeliverId now) group

/-- The part of `XREADGROUP` for a group of one of the streams: the entries selected. -/
def readGroup (o : ReadgroupOptions) (consumerName idRaw : Bytes) (now : Int64)
    (entries : List StreamEntry) (group : Group) :
    Group × Except RespFrame (List StreamEntry) :=
  let group := group.seeConsumer consumerName now
  if idRaw = ascii ">" then
    let selected := selectNew o entries group
    if selected = [] then (group, .ok [])
    else (deliverNew o consumerName now selected group, .ok selected)
  else match parseGroupStreamId idRaw with
    | none => (group, .error (err invalidIdText))
    | some after =>
      let selected := selectPending o entries group consumerName after
      if selected = [] then (group, .ok [])
      else (redeliver o now selected group, .ok selected)

/-- The part of `XREADGROUP` for one of the streams. -/
def readgroupStream (o : ReadgroupOptions) (groupName consumerName key idRaw : Bytes)
    (now : Int64) (db : Db) : Db × Except RespFrame (List StreamEntry) :=
  editStream (.error (err (xreadgroupNogroupText key groupName))) (.error wrongtype)
    (fun s => editGroup (.error (err (xreadgroupNogroupText key groupName))) groupName
      (readGroup err o consumerName idRaw now s.entries) s)
    key (purgeExpiredKey db key now)

/-- The loop over the streams, left at the first error. -/
def readgroupStreams (o : ReadgroupOptions) (groupName consumerName : Bytes) (now : Int64) :
    List (Bytes × Bytes) → Db → List RespFrame → Db × Except RespFrame (List RespFrame)
  | [], db, out => (db, .ok out)
  | (key, idRaw) :: rest, db, out =>
    match readgroupStream err o groupName consumerName key idRaw now db with
    | (db, .error reply) => (db, .error reply)
    | (db, .ok selected) =>
      readgroupStreams o groupName consumerName now rest db
        (if selected = [] then out
          else out ++ [.array [.bulkString (some key),
            .array (selected.map streamEntryFrame)]])

/-- Source: `cmd_stream_groups.rs` `cmd_xreadgroup` -/
def cmdXreadgroup (args : List Bytes) (now : Int64) (db : Db) : Db × RespFrame :=
  match parseReadgroup args with
  | .error text => (db, err text)
  | .ok r =>
    match readgroupStreams err r.options r.group r.consumer now r.streams db [] with
    | (db, .error reply) => (db, reply)
    | (db, .ok out) => (db, if out = [] then .nullArray else .array out)

/-! ## `XACK` -/

/-- The loop over the IDs of `XACK`, left at the first that does not parse. -/
def ackIds : List Bytes → Group → Int64 → Group × RespFrame
  | [], group, removed => (group, .integer removed)
  | raw :: rest, group, removed =>
    match parseGroupStreamId raw with
    | none => (group, err invalidIdText)
    | some id =>
      match group.ack id with
      | (group, true) => ackIds rest group (removed + 1)
      | (group, false) => ackIds rest group removed

/-- Source: `cmd_stream_groups.rs` `cmd_xack` -/
def cmdXack (args : List Bytes) (now : Int64) (db : Db) : Db × RespFrame :=
  match args with
  | key :: groupName :: first :: more =>
    editStream (.integer 0) wrongtype
      (editGroup (err (xreadgroupNogroupText key groupName)) groupName fun group =>
        ackIds err (first :: more) group 0) key (purgeExpiredKey db key now)
  | _ => (db, err (wrongArityText (ascii "xack")))

/-! ## `XCLAIM` and `XAUTOCLAIM` -/

/-- The loop over the IDs of `XCLAIM`. -/
def parseClaimIds : List Bytes → Bool → Except Bytes (Bool × List StreamId)
  | [], justid => .ok (justid, [])
  | raw :: rest, justid =>
    if eqIgnoreCase raw "JUSTID" then parseClaimIds rest true
    else match parseStreamId raw with
      | none => .error syntaxErrorText
      | some id =>
        match parseClaimIds rest justid with
        | .error text => .error text
        | .ok (justid, ids) => .ok (justid, id :: ids)

/-- A pending ID that has been idle for long enough, claimed. -/
def claimIdle (consumerName : Bytes) (minIdle now : Int64) (group : Group) (id : StreamId) :
    Group × Bool :=
  match group.pending.lookup id with
  | none => (group, false)
  | some pending =>
    if saturatingSub now pending.lastDeliveredMs < minIdle then (group, false)
    else claimPendingId group consumerName id now

/-- The loop of `XCLAIM`. -/
def claimIds (consumerName : Bytes) (minIdle now : Int64) :
    List StreamId → Group → Group × List StreamId
  | [], group => (group, [])
  | id :: rest, group =>
    let (group, claimed) := claimIdle consumerName minIdle now group id
    let (group, ids) := claimIds consumerName minIdle now rest group
    (group, if claimed then id :: ids else ids)

/-- The rows of claimed entries: IDs, or entries that the stream still holds. An ID that was
claimed twice has its row where it was claimed last. -/
def claimedRows (justid : Bool) (entries : List StreamEntry) (claimed : List StreamId) :
    List RespFrame :=
  if justid then claimed.map fun id => .bulkString (some (streamIdToBytes id))
  else claimed.dedup.filterMap fun id =>
    (entries.find? fun item => item.id == id).map streamEntryFrame

/-- Source: `cmd_stream_lifecycle.rs` `cmd_xclaim` -/
def cmdXclaim (args : List Bytes) (now : Int64) (db : Db) : Db × RespFrame :=
  match args with
  | key :: groupName :: consumerName :: idle :: first :: more =>
    match parseI64 idle with
    | none => (db, err notIntegerText)
    | some minIdle =>
      if minIdle < 0 then (db, err notIntegerText)
      else match parseClaimIds (first :: more) false with
        | .error text => (db, err text)
        | .ok (justid, ids) =>
          if ids = [] then (db, err (wrongArityText (ascii "xclaim")))
          else editStream (err (streamNogroupText key groupName)) wrongtype
            (fun s => editGroup (err (streamNogroupText key groupName)) groupName
              (fun group =>
                let (group, claimed) := claimIds consumerName minIdle now ids group
                (group, .array (claimedRows justid s.entries claimed))) s)
            key (purgeExpiredKey db key now)
  | _ => (db, err (wrongArityText (ascii "xclaim")))

/-- The loop over the options of `XAUTOCLAIM`. -/
def parseAutoclaimOptions : List Bytes → Nat → Bool → Except Bytes (Nat × Bool)
  | [], count, justid => .ok (count, justid)
  | option :: rest, count, justid =>
    if eqIgnoreCase option "COUNT" then
      match rest with
      | [] => .error syntaxErrorText
      | raw :: rest =>
        match parseUsize raw with
        | none => .error notIntegerText
        | some parsed => parseAutoclaimOptions rest parsed justid
    else if eqIgnoreCase option "JUSTID" then parseAutoclaimOptions rest count true
    else .error syntaxErrorText

/-- The loop of `XAUTOCLAIM` over the pending IDs in order, left once enough are claimed, with
the ID after that. -/
def autoclaimIds (consumerName : Bytes) (minIdle now : Int64) (start : StreamId) (count : Nat) :
    List StreamId → List StreamId → Group → Group × List StreamId × StreamId
  | [], claimed, group => (group, claimed, .zero)
  | id :: rest, claimed, group =>
    if idLt id start then autoclaimIds consumerName minIdle now start count rest claimed group
    else match claimIdle consumerName minIdle now group id with
      | (group, false) =>
        autoclaimIds consumerName minIdle now start count rest claimed group
      | (group, true) =>
        if count ≤ claimed.length + 1 then (group, claimed ++ [id], rest.head?.getD .zero)
        else autoclaimIds consumerName minIdle now start count rest (claimed ++ [id]) group

/-- Source: `cmd_stream_lifecycle.rs` `cmd_xautoclaim` -/
def cmdXautoclaim (args : List Bytes) (now : Int64) (db : Db) : Db × RespFrame :=
  match args with
  | key :: groupName :: consumerName :: idle :: startRaw :: options =>
    match parseI64 idle with
    | none => (db, err notIntegerText)
    | some minIdle =>
      if minIdle < 0 then (db, err notIntegerText)
      else match parseStreamId startRaw with
        | none => (db, err invalidIdText)
        | some start =>
          match parseAutoclaimOptions options 100 false with
          | .error text => (db, err text)
          | .ok (count, justid) =>
            editStream (err (streamNogroupText key groupName)) wrongtype
              (fun s => editGroup (err (streamNogroupText key groupName)) groupName
                (fun group =>
                  let (group, claimed, cursor) := autoclaimIds consumerName minIdle now
                    start count (sortIds group.pending.keys) [] group
                  (group, .array [.bulkString (some (streamIdToBytes cursor)),
                    .array (claimedRows justid s.entries claimed), .array []])) s)
              key (purgeExpiredKey db key now)
  | _ => (db, err (wrongArityText (ascii "xautoclaim")))

/-! ## `XACKDEL` and `XDELEX` -/

/-- Source: `cmd_stream_lifecycle.rs` `StreamDeleteCondition` -/
inductive StreamDeleteCondition where
  | keepRef | delRef | acked
  deriving Repr, DecidableEq

/-- Source: `cmd_stream_lifecycle.rs` `parse_stream_delete_condition` -/
def parseStreamDeleteCondition (raw : Bytes) : Option StreamDeleteCondition :=
  if eqIgnoreCase raw "KEEPREF" then some .keepRef
  else if eqIgnoreCase raw "DELREF" then some .delRef
  else if eqIgnoreCase raw "ACKED" then some .acked
  else none

/-- Source: `cmd_stream_lifecycle.rs` `parse_stream_ids_block` -/
def parseStreamIdsBlock (args : List Bytes) : Except Bytes (List StreamId) :=
  match args with
  | [] => .error syntaxErrorText
  | first :: rest =>
    if !eqIgnoreCase first "IDS" then .error syntaxErrorText
    else match rest with
      | [] => .error syntaxErrorText
      | numRaw :: ids =>
        match parseUsize numRaw with
        | none => .error notIntegerText
        | some numIds =>
          if numIds ≠ ids.length then .error syntaxErrorText
          else match ids.mapM parseStreamId with
            | none => .error invalidIdText
            | some ids => .ok ids

/-- The condition, if one is given, and the IDs. -/
def parseDeleteArgs (args : List Bytes) :
    Except Bytes (StreamDeleteCondition × List StreamId) :=
  match args with
  | [] => .error syntaxErrorText
  | first :: rest =>
    if eqIgnoreCase first "IDS" then (parseStreamIdsBlock args).map fun ids => (.keepRef, ids)
    else match parseStreamDeleteCondition first with
      | none => .error syntaxErrorText
      | some condition => (parseStreamIdsBlock rest).map fun ids => (condition, ids)

/-- The state of the loop over the IDs to delete. -/
structure DeleteState where
  groups : Groups
  removed : Finset StreamId
  out : List RespFrame

/-- The ID is not deleted. -/
def DeleteState.miss (st : DeleteState) : DeleteState :=
  { st with out := st.out ++ [.integer (-1)] }

/-- An ID that the stream holds, deleted if the condition lets it be.
Source: `cmd_stream_lifecycle.rs` `cmd_xackdel`, `cmd_xdelex` -/
def DeleteState.delete (condition : StreamDeleteCondition) (id : StreamId) (st : DeleteState) :
    DeleteState :=
  let hasPending := streamHasPendingReferences st.groups id
  match condition with
  | .keepRef =>
    { st with
      removed := insert id st.removed
      out := st.out ++ [.integer (if hasPending then 2 else 1)] }
  | .delRef =>
    { st with
      groups := purgeStreamPendingId st.groups id
      removed := insert id st.removed
      out := st.out ++ [.integer 1] }
  | .acked =>
    if hasPending then { st with out := st.out ++ [.integer 2] }
    else { st with removed := insert id st.removed, out := st.out ++ [.integer 1] }

/-- The ID, acknowledged in a group. -/
def ackInGroup (groups : Groups) (groupName : Bytes) (id : StreamId) : Groups × Bool :=
  match groups.lookup groupName with
  | none => (groups, false)
  | some group =>
    let (group, acked) := group.ack id
    (groups.insert groupName group, acked)

/-- One round of the loop of `XACKDEL`. -/
def ackdelStep (entries : List StreamEntry) (groupName : Bytes)
    (condition : StreamDeleteCondition) (st : DeleteState) (id : StreamId) : DeleteState :=
  if !streamContainsId entries id then st.miss
  else match ackInGroup st.groups groupName id with
    | (groups, false) => { st with groups := groups }.miss
    | (groups, true) => { st with groups := groups }.delete condition id

/-- One round of the loop of `XDELEX`. -/
def delexStep (entries : List StreamEntry) (condition : StreamDeleteCondition)
    (st : DeleteState) (id : StreamId) : DeleteState :=
  if !streamContainsId entries id then st.miss else st.delete condition id

/-- The stream after the loop. -/
def DeleteState.finish (s : Stream) (st : DeleteState) : Stream × RespFrame :=
  let deleted := (s.entries.filter fun item => item.id ∈ st.removed).map StreamEntry.id
  (⟨s.entries.filter fun item => item.id ∉ st.removed, st.groups,
    recordDeletedIds s.metadata deleted⟩, .array st.out)

/-- The edit of `XACKDEL`. -/
def ackdelStream (key groupName : Bytes) (condition : StreamDeleteCondition)
    (ids : List StreamId) (s : Stream) : Stream × RespFrame :=
  if (s.groups.lookup groupName).isNone then (s, err (streamNogroupText key groupName))
  else (ids.foldl (ackdelStep s.entries groupName condition) ⟨s.groups, ∅, []⟩).finish s

/-- The edit of `XDELEX`. -/
def delexStream (condition : StreamDeleteCondition) (ids : List StreamId) (s : Stream) :
    Stream × RespFrame :=
  (ids.foldl (delexStep s.entries condition) ⟨s.groups, ∅, []⟩).finish s

/-- Source: `cmd_stream_lifecycle.rs` `cmd_xackdel` -/
def cmdXackdel (args : List Bytes) (now : Int64) (db : Db) : Db × RespFrame :=
  if args.length < 5 then (db, err (wrongArityText (ascii "xackdel")))
  else match args with
    | key :: groupName :: rest =>
      match parseDeleteArgs rest with
      | .error text => (db, err text)
      | .ok (condition, ids) =>
        editStream (.array (ids.map fun _ => .integer (-1))) wrongtype
          (ackdelStream err key groupName condition ids) key (purgeExpiredKey db key now)
    | _ => (db, err (wrongArityText (ascii "xackdel")))

/-- Source: `cmd_stream_lifecycle.rs` `cmd_xdelex` -/
def cmdXdelex (args : List Bytes) (now : Int64) (db : Db) : Db × RespFrame :=
  if args.length < 4 then (db, err (wrongArityText (ascii "xdelex")))
  else match args with
    | key :: rest =>
      match parseDeleteArgs rest with
      | .error text => (db, err text)
      | .ok (condition, ids) =>
        editStream (.array (ids.map fun _ => .integer (-1))) wrongtype
          (delexStream condition ids) key (purgeExpiredKey db key now)
    | _ => (db, err (wrongArityText (ascii "xdelex")))

/-! ## The commands -/

/-- The stream commands that write. -/
inductive StreamCommand where
  | xadd | xdel | xtrim | xsetid | xgroup | xreadgroup | xack | xclaim | xautoclaim | xackdel
  | xdelex
  deriving Repr, DecidableEq

/-- The handler of a stream command.
Source: `mod.rs` `execute_argv_inner` -/
def StreamCommand.run : StreamCommand → List Bytes → Int64 → Db → Db × RespFrame
  | .xadd => cmdXadd err
  | .xdel => cmdXdel err
  | .xtrim => cmdXtrim err
  | .xsetid => cmdXsetid err
  | .xgroup => cmdXgroup err
  | .xreadgroup => cmdXreadgroup err
  | .xack => cmdXack err
  | .xclaim => cmdXclaim err
  | .xautoclaim => cmdXautoclaim err
  | .xackdel => cmdXackdel err
  | .xdelex => cmdXdelex err

end handlers

end Ratatosk.Engine
