import Ratatosk.Engine.ReadRefinement

/-!
# The commands that need neither `write` nor `admin`

The arms of the dispatch of `ratatosk-engine/src/command/mod.rs`, sorted by what their handlers do
to the databases.

* `ReaderKind`, `ReaderKind.run` — what a handler does to the databases; `readerTable` — the
  handlers, by the command.
* `sortStore`, `geoStore` — the destinations in the options of `SORT` and `GEORADIUS`. Their
  read-only forms share the handlers, and refuse the options (`sortStore_readonly`,
  `geoStore_readonly`).
* `openCommands` — the other arms. `Backend.withReaders` — the engine with the handlers of the
  table, that leaves the other arms as they are and knows no other command.
* `kept_readerKind` — **a handler of the table keeps every entry that has not expired.**

What a handler replies, and whether it accepts its arguments, is left open (`ReaderEnv`).
-/

namespace Ratatosk.Engine

open Lib Keyspace Resp

/-! ## HyperLogLog strings -/

/-- Source: `hll.rs` `HLL_HEADER_SIZE` -/
def hllHeaderSize : Nat := 16

/-- Source: `hll.rs` `HLL_SIZE` -/
def hllSize : Nat := hllHeaderSize + 12288

/-- Source: `hll.rs` `hll_is_valid` -/
def hllIsValid (data : Bytes) : Bool :=
  data.length == hllSize && data.take 4 == ascii "HYLL" && data[4]? == some 0

/-- The string with the cached cardinality of a HyperLogLog, bytes 8 to 15 of its header, set to
zero. -/
def withoutCachedCardinality (data : Bytes) : Bytes :=
  if hllIsValid data then
    data.take 8 ++ List.replicate 8 0 ++ data.drop hllHeaderSize
  else data

/-- What is compared of a stored value. -/
def settledEntry (entry : Entry) : Entry :=
  match entry.value with
  | .string data => { entry with value := .string (withoutCachedCardinality data) }
  | _ => entry

/-! ## Entries that are kept -/

/-- An entry is kept, up to a cached cardinality, or it has expired and is gone. -/
def KeptEntry (now : Int64) (before after : Option Entry) : Prop :=
  after.map settledEntry = before.map settledEntry ∨
    after = none ∧ ∃ entry ∈ before, entry.expireAtMs.any (· ≤ now) = true

/-- Every entry of a database is kept. -/
def KeptDb (now : Int64) (db db' : Db) : Prop :=
  ∀ key, KeptEntry now (db.lookup key) (db'.lookup key)

/-- Every entry of every database is kept. -/
def Kept (now : Int64) (dbs dbs' : Databases) : Prop := ∀ index, KeptDb now (dbs index) (dbs' index)

section kept

variable {now : Int64} {db db' db'' : Db} {dbs dbs' dbs'' : Databases}

lemma expireAtMs_settledEntry (entry : Entry) :
    (settledEntry entry).expireAtMs = entry.expireAtMs := by
  unfold settledEntry
  split <;> rfl

lemma KeptEntry.trans {first second third : Option Entry} (h : KeptEntry now first second)
    (h' : KeptEntry now second third) : KeptEntry now first third := by
  rcases h with hsame | ⟨rfl, hexpired⟩
  · rcases h' with hsame' | ⟨rfl, entry, hentry, hexpired⟩
    · exact .inl (hsame'.trans hsame)
    · -- the entry before has the same expiry time
      refine .inr ⟨rfl, ?_⟩
      rw [Option.mem_def.mp hentry, Option.map_some, eq_comm, Option.map_eq_some_iff] at hsame
      obtain ⟨found, hfound, hsettled⟩ := hsame
      refine ⟨found, hfound, ?_⟩
      rw [← expireAtMs_settledEntry, hsettled, expireAtMs_settledEntry]
      exact hexpired
  · rcases h' with hsame' | ⟨rfl, entry, hentry, -⟩
    · rw [Option.map_none, Option.map_eq_none_iff] at hsame'
      exact .inr ⟨hsame', hexpired⟩
    · cases hentry

lemma KeptDb.refl (now : Int64) (db : Db) : KeptDb now db db := fun _ => .inl rfl

lemma KeptDb.trans (h : KeptDb now db db') (h' : KeptDb now db' db'') : KeptDb now db db'' :=
  fun key => (h key).trans (h' key)

lemma Kept.refl (now : Int64) (dbs : Databases) : Kept now dbs dbs := fun _ => .refl now _

lemma Kept.trans (h : Kept now dbs dbs') (h' : Kept now dbs' dbs'') : Kept now dbs dbs'' :=
  fun index => (h index).trans (h' index)

lemma kept_update {index : Fin dbCount} (h : KeptDb now (dbs index) db) :
    Kept now dbs (Function.update dbs index db) :=
  (Function.forall_update_iff dbs fun i => KeptDb now (dbs i)).mpr ⟨h, fun _ _ => .refl now _⟩

/-- Dropping an expired key keeps the rest. -/
lemma keptDb_purgeExpiredKey (now : Int64) (db : Db) (key : Bytes) :
    KeptDb now db (purgeExpiredKey db key now) := by
  unfold purgeExpiredKey
  split_ifs with hexpired
  · intro k
    by_cases hk : k = key
    · rw [isExpired, Option.any_eq_true] at hexpired
      rw [hk, Finmap.lookup_erase]
      exact .inr ⟨rfl, hexpired⟩
    · rw [Finmap.lookup_erase_ne hk]
      exact .inl rfl
  · exact .refl now db

lemma keptDb_foldl_purge (keys : List Bytes) (db : Db) :
    KeptDb now db (keys.foldl (fun db key => purgeExpiredKey db key now) db) := by
  induction keys generalizing db with
  | nil => exact .refl now db
  | cons key keys ih => exact (keptDb_purgeExpiredKey now db key).trans (ih _)

lemma keptDb_purgeExpiredKeys (db : Db) : KeptDb now db (purgeExpiredKeys db now) :=
  keptDb_foldl_purge _ db

end kept

/-! ## What a handler does to the databases -/

section loops

variable {α β : Type}

/-- A loop over keys. Each is dropped if it has expired and then looked at, and the loop goes on or
stops. -/
def purgeLoop (now : Int64) (key : β → Bytes) (next : α → β → Option Entry → Option α) :
    List β → α → Db → Db
  | [], _, db => db
  | item :: rest, acc, db =>
    let db := purgeExpiredKey db (key item) now
    match next acc item (db.lookup (key item)) with
    | none => db
    | some acc => purgeLoop now key next rest acc db

/-- A loop over keys that never stops early. -/
def purgeEach (now : Int64) (keys : List Bytes) (db : Db) : Db :=
  purgeLoop now id (fun _ _ _ => some ()) keys () db

lemma keptDb_purgeLoop (now : Int64) (key : β → Bytes) (next : α → β → Option Entry → Option α)
    (items : List β) (acc : α) (db : Db) : KeptDb now db (purgeLoop now key next items acc db) := by
  induction items generalizing acc db with
  | nil => exact .refl now db
  | cons item rest ih =>
    have hfirst := keptDb_purgeExpiredKey now db (key item)
    rw [purgeLoop]
    split
    · exact hfirst
    · exact hfirst.trans (ih _ _)

end loops

/-- What is left open of the handlers of the table. -/
structure ReaderEnv (σ κ : Type) where
  /-- Whether the handler accepts its arguments. -/
  accepts : Request → Bool
  /-- The reply, and what the handler does to the rest of the server and of the session. -/
  answer : Request → Int64 → Store σ → Session κ → σ × κ × CommandOutcome
  /-- `hll_raw_count`. -/
  hllRawCount : Bytes → Int64
  /-- What a destination of `SORT` or `GEORADIUS` holds, if there is anything to store. -/
  stored : List Bytes → Db → Option Entry

/-- The loop of `SDIFF`. It stops at an operand of another type, or once nothing is left; the first
operand has to be there.
Source: `cmd_set_algebra.rs` `cmd_sdiff` -/
def sdiffNext : Option (Finset Bytes) → Bytes → Option Entry → Option (Option (Finset Bytes))
  | none, _, some ⟨.set members, _⟩ => some (some members)
  | none, _, _ => none
  | some result, _, none => some (some result)
  | some result, _, some ⟨.set members, _⟩ =>
    if result \ members = ∅ then none else some (some (result \ members))
  | some _, _, some _ => none

/-- The loop of `SUNION`, which stops at an operand of another type.
Source: `cmd_set_algebra.rs` `cmd_sunion` -/
def sunionNext : Unit → Bytes → Option Entry → Option Unit
  | _, _, none | _, _, some ⟨.set _, _⟩ => some ()
  | _, _, some _ => none

/-- The words after `STREAMS`; the options before it come with a value each.
Source: `cmd_stream.rs` `cmd_xread` -/
def streamsTail : List Bytes → List Bytes
  | [] => []
  | word :: rest =>
    if eqIgnoreCase word "STREAMS" then rest
    else match rest with
      | [] => []
      | _ :: rest => streamsTail rest

/-- The loop of `XREAD`, over keys and IDs. It stops at a key of another type, and at an ID that is
none.
Source: `cmd_stream.rs` `cmd_xread` -/
def xreadNext : Unit → Bytes × Bytes → Option Entry → Option Unit
  | _, (_, id), none | _, (_, id), some ⟨.stream _ _ _, _⟩ =>
    if id = ascii "$" ∨ (parseStreamId id).isSome then some () else none
  | _, _, some _ => none

/-- The string is a HyperLogLog.
Source: `cmd_hll.rs` `extract_hll_bytes` -/
def extractHllBytes (entry : Entry) : Option Bytes :=
  match entry.value with
  | .string data => if hllIsValid data then some data else none
  | _ => none

/-- The loop of `PFCOUNT` over several keys, which stops at one that is no HyperLogLog.
Source: `cmd_hll.rs` `cmd_pfcount` -/
def pfcountNext : Unit → Bytes → Option Entry → Option Unit
  | _, _, none => some ()
  | _, _, some entry => (extractHllBytes entry).map fun _ => ()

/-- Source: `hll.rs` `hll_get_cached` -/
def hllGetCached (data : Bytes) : Int64 :=
  (UInt64.ofNat (ofLeBytes ((data.drop 8).take 8))).toInt64

/-- Source: `hll.rs` `hll_set_cached` -/
def hllSetCached (data : Bytes) (card : Int64) : Bytes :=
  data.take 8 ++ leBytes 8 card.toUInt64.toNat ++ data.drop hllHeaderSize

/-- The string after a count, which caches the count if none is cached.
Source: `hll.rs` `hll_count_and_cache` -/
def hllCountAndCache (rawCount : Bytes → Int64) (data : Bytes) : Bytes :=
  if data.length ≠ hllSize then data
  else if 0 ≤ hllGetCached data then data
  else hllSetCached data (rawCount data)

/-- `PFCOUNT` of one key.
Source: `cmd_hll.rs` `cmd_pfcount` -/
def cacheCount (rawCount : Bytes → Int64) (now : Int64) (key : Bytes) (db : Db) : Db :=
  let db := purgeExpiredKey db key now
  match db.lookup key with
  | none => db
  | some entry =>
    match extractHllBytes entry with
    | none => db
    | some data =>
      let counted := hllCountAndCache rawCount data
      if data = counted then db else db.insert key ⟨.string counted, entry.expireAtMs⟩

/-- The destination in the options of `SORT`; none if they are refused.
Source: `cmd_key_meta.rs` `cmd_sort` -/
def sortStore (readonly : Bool) (store : Option Bytes) : List Bytes → Option (Option Bytes)
  | [] => some store
  | option :: rest =>
    if toUppercase option ∈ ["ASC", "DESC", "ALPHA"].map ascii then sortStore readonly store rest
    else if toUppercase option ∈ ["BY", "GET"].map ascii then
      match rest with
      | _ :: rest => sortStore readonly store rest
      | [] => none
    else if toUppercase option = ascii "LIMIT" then
      match rest with
      | start :: count :: rest =>
        if (parseI64 start).isSome && (parseI64 count).isSome then
          sortStore readonly store rest
        else none
      | _ => none
    else if toUppercase option = ascii "STORE" then
      match rest with
      | key :: rest => if readonly then none else sortStore readonly (some key) rest
      | [] => none
    else none

/-- The destinations in the options of `GEORADIUS`, of the members and of their distances; none if
the options are refused.
Source: `cmd_geo_radius.rs` `cmd_georadius`, `cmd_georadiusbymember` -/
def geoStore (readonly : Bool) (store : Option Bytes × Option Bytes) :
    List Bytes → Option (Option Bytes × Option Bytes)
  | [] => some store
  | option :: rest =>
    if toUppercase option ∈ ["WITHCOORD", "WITHDIST", "WITHHASH", "ASC", "DESC"].map ascii then
      geoStore readonly store rest
    else if toUppercase option = ascii "COUNT" then
      match rest with
      | [] => none
      | count :: tail =>
        if (parseI64 count).any (0 < ·) then
          match tail with
          | [] => some store
          | any :: rest =>
            if toUppercase any = ascii "ANY" then geoStore readonly store rest
            else geoStore readonly store (any :: rest)
        else none
    else if toUppercase option = ascii "STORE" ∧ readonly = false then
      match rest with
      | key :: rest => geoStore readonly (some key, store.2) rest
      | [] => none
    else if toUppercase option = ascii "STOREDIST" ∧ readonly = false then
      match rest with
      | key :: rest => geoStore readonly (store.1, some key) rest
      | [] => none
    else none

/-- What a handler does to the databases before it replies. -/
inductive ReaderKind where
  /-- It sees no database. -/
  | nothing
  /-- It drops one key, or some, by their place in the arguments. -/
  | firstKey | secondKey | twoKeys | everyKey
  /-- It drops the keys that a number announces. -/
  | sintercard | zsetKeys
  | sdiff | sunion | xread | pfcount
  /-- `SORT` and `GEORADIUS`, the latter with its options after so many arguments. -/
  | sort (readonly : Bool)
  | georadius (readonly : Bool) (skipped : Nat)
  /-- It drops all keys that have expired, of the selected database or of every one. -/
  | allKeys | allDatabases
  deriving Repr, DecidableEq

/-- Source: `cmd_sorted_set_setops.rs` `parse_numkeys_and_keys` -/
def parseNumkeys (raw : Bytes) : Nat := ((parseI64 raw).map fun n => n.toInt.toNat).getD 0

section run

variable {σ κ : Type} (env : ReaderEnv σ κ)

/-- Each destination is replaced or removed. -/
def writeDestinations (args destinations : List Bytes) (db : Db) : Db :=
  destinations.foldl (fun db key =>
    match env.stored args db with
    | some entry => db.insert key entry
    | none => db.erase key) db

/-- Source: `cmd_hll.rs` `cmd_pfcount` -/
def pfcountDb (args : List Bytes) (now : Int64) (db : Db) : Db :=
  match args with
  | [key] => cacheCount env.hllRawCount now key db
  | keys => purgeLoop now id pfcountNext keys () db

/-- Source: `cmd_key_meta.rs` `cmd_sort` -/
def sortDb (readonly : Bool) (args : List Bytes) (now : Int64) (db : Db) : Db :=
  match sortStore readonly none (args.drop 1) with
  | none => db
  | some store => writeDestinations env args store.toList (purgeEach now (args.take 1) db)

/-- Source: `cmd_geo_radius.rs` `cmd_georadius`, `cmd_georadiusbymember` -/
def georadiusDb (readonly : Bool) (skipped : Nat) (args : List Bytes) (now : Int64) (db : Db) :
    Db :=
  match geoStore readonly (none, none) (args.drop skipped) with
  | none => db
  | some (store, storedist) =>
    writeDestinations env args (store.toList ++ storedist.toList)
      (purgeEach now (args.take 1) db)

/-- What a handler that accepts its arguments does to the selected database.
Source: the handlers of `readerTable` -/
def ReaderKind.onDb (args : List Bytes) (now : Int64) (db : Db) : ReaderKind → Db
  | .nothing | .allDatabases => db
  | .firstKey => purgeEach now (args.take 1) db
  | .secondKey => purgeEach now ((args.drop 1).take 1) db
  | .twoKeys => purgeEach now (args.take 2) db
  | .everyKey => purgeEach now args db
  | .sintercard =>
    purgeEach now ((args.drop 1).take ((args.head?.bind parseUsize).getD 0)) db
  | .zsetKeys => purgeEach now ((args.drop 1).take ((args.head?.map parseNumkeys).getD 0)) db
  | .sdiff => purgeLoop now id sdiffNext args none db
  | .sunion => purgeLoop now id sunionNext args () db
  | .xread =>
    let tail := streamsTail args
    let count := tail.length / 2
    purgeLoop now Prod.fst xreadNext ((tail.take count).zip (tail.drop count)) () db
  | .pfcount => pfcountDb env args now db
  | .sort readonly => sortDb env readonly args now db
  | .georadius readonly skipped => georadiusDb env readonly skipped args now db
  | .allKeys => purgeExpiredKeys db now

/-- What a handler does to the databases. -/
def ReaderKind.run (kind : ReaderKind) (r : Request) (now : Int64) (index : Fin dbCount)
    (dbs : Databases) : Databases :=
  if env.accepts r = false then dbs
  else if kind = .allDatabases then fun i => purgeExpiredKeys (dbs i) now
  else Function.update dbs index (kind.onDb env r.args now (dbs index))

end run

/-- The commands that see no database. A build without `lua-scripting`, the default, runs no script.
Source: `mod.rs` `execute_argv_inner` -/
def databaseFreeCommands : List Bytes :=
  ["PING", "COMMAND", "CLIENT", "LASTSAVE", "WAIT", "WAITAOF", "SUBSCRIBE", "SSUBSCRIBE",
    "PSUBSCRIBE", "PUBLISH", "SPUBLISH", "UNSUBSCRIBE", "PUNSUBSCRIBE", "SUNSUBSCRIBE", "PUBSUB",
    "LOLWUT", "READONLY", "READWRITE", "ASKING", "EVAL", "EVALSHA", "EVAL_RO", "EVALSHA_RO",
    "SCRIPT", "FCALL", "FCALL_RO", "FUNCTION"].map ascii

/-- The commands whose first argument is the one key they read.
Source: `mod.rs` `execute_argv_inner` -/
def oneKeyCommands : List Bytes :=
  ["DIGEST", "DUMP", "XLEN", "XRANGE", "XREVRANGE", "XPENDING", "HRANDFIELD", "HSCAN", "LPOS",
    "SMEMBERS", "SRANDMEMBER", "SSCAN", "ZRANDMEMBER", "ZSCAN", "GEOPOS", "GEODIST", "GEOHASH",
    "GEOSEARCH", "BITPOS", "BITFIELD_RO", "HTTL", "HPTTL", "HEXPIRETIME", "HPEXPIRETIME"].map ascii

/-- The handlers, by the command.
Source: `mod.rs` `execute_argv_inner` -/
def readerTable : List (Bytes × ReaderKind) :=
  databaseFreeCommands.map (·, .nothing) ++ oneKeyCommands.map (·, .firstKey) ++
    [(ascii "OBJECT", .secondKey), (ascii "XINFO", .secondKey), (ascii "MEMORY", .secondKey),
      (ascii "LCS", .twoKeys), (ascii "TOUCH", .everyKey), (ascii "SINTER", .everyKey),
      (ascii "SINTERCARD", .sintercard), (ascii "ZUNION", .zsetKeys), (ascii "ZINTER", .zsetKeys),
      (ascii "ZINTERCARD", .zsetKeys), (ascii "ZDIFF", .zsetKeys), (ascii "SDIFF", .sdiff),
      (ascii "SUNION", .sunion), (ascii "XREAD", .xread), (ascii "PFCOUNT", .pfcount),
      (ascii "SORT_RO", .sort true), (ascii "GEORADIUS_RO", .georadius true 5),
      (ascii "GEORADIUSBYMEMBER_RO", .georadius true 4), (ascii "RANDOMKEY", .allKeys),
      (ascii "KEYS", .allKeys), (ascii "SCAN", .allKeys), (ascii "INFO", .allDatabases)]

/-- The arms of the dispatch that are neither modelled elsewhere nor in the table.
Source: `mod.rs` `execute_argv_inner` -/
def openCommands : List Bytes :=
  ["APPEND", "BGREWRITEAOF", "BGSAVE", "BITFIELD", "BITOP", "BLMOVE", "BLMPOP", "BLPOP", "BRPOP",
    "BRPOPLPUSH", "BZMPOP", "BZPOPMAX", "BZPOPMIN", "CLUSTER", "CONFIG", "COPY", "DEBUG", "DECR",
    "DECRBY", "DELEX", "FAILOVER", "FLUSHALL", "FLUSHDB", "GEOADD", "GEORADIUS",
    "GEORADIUSBYMEMBER", "GEOSEARCHSTORE", "GETDEL", "GETSET", "HDEL", "HEXPIRE", "HEXPIREAT",
    "HGETDEL", "HGETEX", "HINCRBY", "HINCRBYFLOAT", "HMSET", "HOTKEYS", "HPERSIST", "HPEXPIRE",
    "HPEXPIREAT", "HSET", "HSETEX", "HSETNX", "INCR", "INCRBY", "INCRBYFLOAT", "LATENCY", "LINSERT",
    "LMOVE", "LMPOP", "LPOP", "LPUSH", "LPUSHX", "LREM", "LSET", "LTRIM", "MIGRATE", "MODULE",
    "MONITOR", "MOVE", "MSET", "MSETEX", "MSETNX", "PERSIST", "PFADD", "PFDEBUG", "PFMERGE",
    "PFSELFTEST", "PSYNC", "RENAME", "RENAMENX", "REPLCONF", "REPLICAOF", "RESTORE",
    "RESTORE-ASKING", "ROLE", "RPOP", "RPOPLPUSH", "RPUSH", "RPUSHX", "SADD", "SAVE", "SDIFFSTORE",
    "SENTINEL", "SETBIT", "SETNX", "SETRANGE", "SFLUSH", "SHUTDOWN", "SINTERSTORE", "SLAVEOF",
    "SLOWLOG", "SMOVE", "SORT", "SUNIONSTORE", "SYNC", "TRIMSLOTS", "XACK", "XACKDEL", "XAUTOCLAIM",
    "XCFGSET", "XCLAIM", "XDEL", "XDELEX", "XGROUP", "XREADGROUP", "XSETID", "XTRIM", "ZADD",
    "ZDIFFSTORE", "ZINCRBY", "ZINTERSTORE", "ZMPOP", "ZPOPMAX", "ZPOPMIN", "ZRANGESTORE", "ZREM",
    "ZREMRANGEBYLEX", "ZREMRANGEBYRANK", "ZREMRANGEBYSCORE", "ZUNIONSTORE"].map ascii

/-- The engine with the handlers of the table. The open arms are as they were, and no other command
is known.
Source: `mod.rs` `execute_argv_inner` -/
def Backend.withReaders {σ κ : Type} (b : Backend σ κ) (env : ReaderEnv σ κ) : Backend σ κ :=
  { b with
    handler := fun r now store session =>
      match readerTable.lookup r.command with
      | some kind =>
        let dbs := kind.run env r now session.selectedDb store.dbs
        let (rest, sessionRest, outcome) := env.answer r now { store with dbs := dbs } session
        ({ store with dbs := dbs, rest := rest }, sessionRest, outcome)
      | none =>
        if r.command ∈ openCommands then b.handler r now store session
        else (store, session.rest,
          b.fail (ascii "ERR unknown command '" ++ r.name ++ ascii "'")) }

/-! ## The handlers of the table keep every entry -/

section readers

variable {σ κ : Type} (env : ReaderEnv σ κ) {now : Int64}

/-- `SORT_RO` has no destination. -/
lemma sortStore_readonly (options : List Bytes) :
    sortStore true none options = none ∨ sortStore true none options = some none := by
  -- an option takes up to three arguments, so the induction is on the length
  induction hlength : options.length using Nat.strongRecOn generalizing options with
  | _ n ih =>
    subst hlength
    rcases options with _ | ⟨option, rest⟩
    · exact .inr rfl
    unfold sortStore
    simp only [eq_self, if_true]
    split_ifs
    · exact ih _ (by simp) rest rfl
    · rcases rest with _ | ⟨_, rest⟩
      · exact .inl rfl
      · exact ih _ (by simp) rest rfl
    · rcases rest with _ | ⟨start, _ | ⟨count, rest⟩⟩
      · exact .inl rfl
      · exact .inl rfl
      · dsimp only
        split_ifs
        · exact ih _ (by simp; omega) rest rfl
        · exact .inl rfl
    · rcases rest with _ | ⟨key, rest⟩ <;> exact .inl rfl
    · exact .inl rfl

lemma geoStore_readonly (options : List Bytes) :
    geoStore true (none, none) options = none ∨
      geoStore true (none, none) options = some (none, none) := by
  fun_induction geoStore true (none, none) options with
  | case1 => exact .inr rfl
  | case8 store option _ _ hstore | case10 store option _ _ _ hstore =>
    exact absurd hstore.2 (by decide)
  | _ => first | assumption | exact .inl rfl | exact .inr rfl

/-- Whether a string is a HyperLogLog is said by its length and its first bytes. -/
lemma hllIsValid_congr {data data' : Bytes} (hlength : data.length = data'.length)
    (htake : data.take 8 = data'.take 8) : hllIsValid data = hllIsValid data' := by
  have hmagic : data.take 4 = data'.take 4 := by
    simpa [List.take_take] using congrArg (List.take 4) htake
  have hdense : data[4]? = data'[4]? := by
    have hdense := congrArg (fun bytes => bytes[4]?) htake
    rwa [List.getElem?_take_of_lt (by decide), List.getElem?_take_of_lt (by decide)] at hdense
  rw [hllIsValid, hllIsValid, hlength, hmagic, hdense]

/-- The parts of a HyperLogLog with another cached cardinality. -/
lemma parts_hllSetCached (data card : Bytes) (hdata : data.length = hllSize)
    (hcard : card.length = 8) :
    (data.take 8 ++ card ++ data.drop hllHeaderSize).take 8 = data.take 8 ∧
      (data.take 8 ++ card ++ data.drop hllHeaderSize).drop hllHeaderSize =
        data.drop hllHeaderSize ∧
      (data.take 8 ++ card ++ data.drop hllHeaderSize).length = hllSize := by
  have htake : (data.take 8).length = 8 := by
    rw [List.length_take, hdata]
    rfl
  refine ⟨?_, ?_, ?_⟩
  · rw [List.append_assoc, List.take_append_of_le_length (by omega), List.take_of_length_le
      (by omega)]
  · rw [List.drop_append_of_le_length (by simp [htake, hcard, hllHeaderSize]),
      List.drop_of_length_le (by simp [htake, hcard, hllHeaderSize]), List.nil_append]
  · simp only [List.length_append, htake, hcard, List.length_drop, hdata]
    rfl

/-- A count changes the cached cardinality only. -/
lemma withoutCachedCardinality_count (rawCount : Bytes → Int64) {data : Bytes}
    (h : hllIsValid data = true) :
    withoutCachedCardinality (hllCountAndCache rawCount data) = withoutCachedCardinality data := by
  have hlength : data.length = hllSize := by
    simp only [hllIsValid, Bool.and_eq_true, beq_iff_eq] at h
    exact h.1.1
  unfold hllCountAndCache
  rw [if_neg (not_not.mpr hlength)]
  split_ifs with hcached
  · rfl
  · obtain ⟨htake, hdrop, hsize⟩ :=
      parts_hllSetCached data (leBytes 8 (rawCount data).toUInt64.toNat) hlength (length_leBytes 8 _)
    have hvalid : hllIsValid (hllSetCached data (rawCount data)) = true :=
      (hllIsValid_congr (hsize.trans hlength.symm) htake).trans h
    rw [withoutCachedCardinality, withoutCachedCardinality, if_pos h, if_pos hvalid, hllSetCached,
      htake, hdrop]

lemma keptDb_cacheCount (rawCount : Bytes → Int64) (key : Bytes) (db : Db) :
    KeptDb now db (cacheCount rawCount now key db) := by
  have hpurge := keptDb_purgeExpiredKey now db key
  unfold cacheCount
  dsimp only
  split
  · exact hpurge
  · next entry hentry =>
      split
      · exact hpurge
      · next data hdata =>
          split_ifs with hsame
          · exact hpurge
          · refine hpurge.trans fun k => ?_
            by_cases hk : k = key
            · obtain ⟨value, expireAtMs⟩ := entry
              unfold extractHllBytes at hdata
              cases value with
              | string bytes =>
                dsimp only at hdata
                rw [Option.ite_none_right_eq_some, Option.some.injEq] at hdata
                obtain ⟨hvalid, rfl⟩ := hdata
                rw [hk, hentry, Finmap.lookup_insert]
                refine .inl ?_
                simp only [Option.map_some, settledEntry,
                  withoutCachedCardinality_count rawCount hvalid]
              | _ => cases hdata
            · rw [Finmap.lookup_insert_of_ne _ hk]
              exact .inl rfl

/-- The kinds of handlers that are read-only. -/
def ReaderKind.IsReadonly : ReaderKind → Bool
  | .sort readonly | .georadius readonly _ => readonly
  | _ => true

/-- A reader keeps its database. -/
lemma keptDb_onDb (args : List Bytes) (db : Db) {kind : ReaderKind} (h : kind.IsReadonly = true) :
    KeptDb now db (kind.onDb env args now db) := by
  cases kind with
  | nothing | allDatabases => exact .refl now db
  | firstKey | secondKey | twoKeys | everyKey | sintercard | zsetKeys | sdiff | sunion | xread =>
    exact keptDb_purgeLoop now _ _ _ _ db
  | pfcount =>
    rw [ReaderKind.onDb, pfcountDb.eq_def]
    split
    · exact keptDb_cacheCount env.hllRawCount _ db
    · exact keptDb_purgeLoop now _ _ _ _ db
  | sort readonly =>
    obtain rfl : readonly = true := h
    rw [ReaderKind.onDb, sortDb]
    rcases sortStore_readonly (args.drop 1) with hnone | hsome
    · rw [hnone]
      exact .refl now db
    · rw [hsome]
      exact keptDb_purgeLoop now _ _ _ _ db
  | georadius readonly skipped =>
    obtain rfl : readonly = true := h
    rw [ReaderKind.onDb, georadiusDb]
    rcases geoStore_readonly (args.drop skipped) with hnone | hsome
    · rw [hnone]
      exact .refl now db
    · rw [hsome]
      exact keptDb_purgeLoop now _ _ _ _ db
  | allKeys => exact keptDb_purgeExpiredKeys db

/-- **A read-only handler keeps every entry.** -/
lemma kept_readerKind (r : Request) (index : Fin dbCount) (dbs : Databases) {kind : ReaderKind}
    (h : kind.IsReadonly = true) : Kept now dbs (kind.run env r now index dbs) := by
  unfold ReaderKind.run
  split_ifs
  · exact .refl now dbs
  · exact fun i => keptDb_purgeExpiredKeys (dbs i)
  · exact kept_update (keptDb_onDb env r.args _ h)

lemma isReadonly_of_lookup {command : Bytes} {kind : ReaderKind}
    (h : readerTable.lookup command = some kind) : kind.IsReadonly = true := by
  have htable : ∀ p ∈ readerTable, p.2.IsReadonly = true := by decide +kernel
  exact htable _ (mem_of_lookup h)

/-- A query keeps its database. -/
lemma keptDb_fastQuery (query : FastQuery) (db : Db) : KeptDb now db (query.onDb now db).1 := by
  cases query with
  | reply response => exact .refl now db
  | dbsize => exact keptDb_purgeExpiredKeys db
  | keys names answer =>
    have hloop : ∀ db, KeptDb now db (lookupKeys now names db).1 := by
      induction names with
      | nil => exact fun db => .refl now db
      | cons key rest ih => exact fun db => (keptDb_purgeExpiredKey now db key).trans (ih _)
    exact hloop db

end readers

end Ratatosk.Engine
