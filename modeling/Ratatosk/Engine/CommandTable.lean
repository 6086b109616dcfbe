import Ratatosk.Lib.Numeral

/-!
# The command table

`COMMAND_SPECS` and `EXTRA_COMMAND_SPECS` of `ratatosk-engine/src/command/mod.rs`, and the
functions of `registry.rs`, `cmd_command_metadata.rs` and `mod.rs` that read them.

* `CommandFlag`, `CommandSpec` — name, arity and flags of a command. Key positions are read by
  client tracking and key introspection only and are left out.
-/

namespace Ratatosk.Engine

open Lib

/-! ## The table -/

lemma mem_of_lookup {α : Type} {table : List (Bytes × α)} {name : Bytes} {a : α}
    (h : table.lookup name = some a) : (name, a) ∈ table := by
  obtain ⟨before, after, hsplit, -⟩ := List.lookup_eq_some_iff.mp h
  rw [hsplit]
  exact List.mem_append_right _ List.mem_cons_self

/-- Source: `mod.rs`, the strings in `CommandSpec::flags` -/
inductive CommandFlag where
  | readonly | fast | write | noscript | admin | denyoom | connection | pubsub | slow | noAuth
  | loading | stale | blocking | random
  deriving Repr, DecidableEq

/-- Source: `mod.rs` `CommandSpec` -/
structure CommandSpec where
  name : Bytes
  /-- The number of arguments with the name; at least that many if negative. -/
  arity : Int
  flags : List CommandFlag
  deriving Repr, DecidableEq

/-- An entry of the table. -/
def spec (name : String) (arity : Int) (flags : List CommandFlag) : CommandSpec :=
  ⟨ascii name, arity, flags⟩

/-- Source: `mod.rs` `COMMAND_SPECS` -/
def baseCommandSpecs : List CommandSpec :=
  [spec "PING" (-1) [.fast, .connection],
   spec "ECHO" 2 [.fast, .connection],
   spec "HELLO" (-1) [.fast, .connection, .noAuth],
   spec "QUIT" (-1) [.fast, .connection, .noAuth],
   spec "COMMAND" (-1) [.loading, .stale],
   spec "SET" (-3) [.write, .denyoom],
   spec "SETEX" 4 [.write, .denyoom],
   spec "PSETEX" 4 [.write, .denyoom],
   spec "GET" 2 [.readonly, .fast],
   spec "GETDEL" 2 [.write, .fast],
   spec "GETEX" (-2) [.write, .fast],
   spec "DEL" (-2) [.write],
   spec "EXISTS" (-2) [.readonly, .fast],
   spec "SELECT" 2 [.fast, .connection],
   spec "EXPIRE" (-3) [.write, .fast],
   spec "PEXPIRE" (-3) [.write, .fast],
   spec "EXPIREAT" (-3) [.write, .fast],
   spec "PEXPIREAT" (-3) [.write, .fast],
   spec "PERSIST" 2 [.write, .fast],
   spec "TTL" 2 [.readonly, .fast],
   spec "PTTL" 2 [.readonly, .fast],
   spec "EXPIRETIME" 2 [.readonly, .fast],
   spec "PEXPIRETIME" 2 [.readonly, .fast]]

/-- Source: `mod.rs` `EXTRA_COMMAND_SPECS` -/
def extraCommandSpecs : List CommandSpec :=
  [spec "AUTH" (-2) [.fast, .connection, .noAuth],
   spec "CLIENT" (-2) [.connection, .noscript],
   spec "CLIENT INFO" 2 [.connection, .readonly, .noscript],
   spec "CLIENT LIST" (-2) [.connection, .readonly, .noscript],
   spec "CLIENT KILL" (-3) [.admin, .connection, .noscript],
   spec "CLIENT PAUSE" (-3) [.admin, .connection, .noscript],
   spec "CLIENT UNPAUSE" 2 [.admin, .connection, .noscript],
   spec "CLIENT UNBLOCK" (-3) [.admin, .connection, .noscript],
   spec "ACL" (-2) [.admin, .noscript],
   spec "ACL HELP" 2 [.admin, .readonly, .noscript],
   spec "ACL CAT" (-2) [.admin, .readonly, .noscript],
   spec "ACL DELUSER" (-3) [.admin, .noscript],
   spec "ACL DRYRUN" (-4) [.admin, .readonly, .noscript],
   spec "ACL GENPASS" (-2) [.admin, .readonly, .noscript],
   spec "ACL GETUSER" 3 [.admin, .readonly, .noscript],
   spec "ACL LIST" 2 [.admin, .readonly, .noscript],
   spec "ACL LOAD" 2 [.admin, .noscript],
   spec "ACL LOG" (-2) [.admin, .noscript],
   spec "ACL SAVE" 2 [.admin, .noscript],
   spec "ACL SETUSER" (-3) [.admin, .noscript],
   spec "ACL USERS" 2 [.admin, .readonly, .noscript],
   spec "ACL WHOAMI" 2 [.admin, .readonly, .noscript],
   spec "CLIENT CACHING" 3 [.connection, .noscript],
   spec "CLIENT GETREDIR" 2 [.connection, .readonly, .noscript],
   spec "CLIENT NO-EVICT" 3 [.connection, .noscript],
   spec "CLIENT NO-TOUCH" 3 [.connection, .noscript],
   spec "CLIENT REPLY" 3 [.connection, .noscript],
   spec "CLIENT SETINFO" 4 [.connection, .noscript],
   spec "CLIENT TRACKING" (-3) [.connection, .noscript],
   spec "CLIENT TRACKINGINFO" 2 [.connection, .readonly, .noscript],
   spec "RESET" 1 [.fast, .connection, .noAuth],
   spec "DBSIZE" 1 [.readonly, .fast],
   spec "TIME" 1 [.fast],
   spec "INFO" (-1) [.readonly],
   spec "MONITOR" 1 [.admin, .noscript],
   spec "ROLE" 1 [.admin, .noscript],
   spec "REPLCONF" (-3) [.admin, .noscript],
   spec "SYNC" 1 [.admin, .noscript],
   spec "PSYNC" 3 [.admin, .noscript],
   spec "REPLICAOF" 3 [.admin, .noscript],
   spec "SLAVEOF" 3 [.admin, .noscript],
   spec "RESTORE-ASKING" (-4) [.write, .denyoom],
   spec "CONFIG" (-2) [.admin, .noscript],
   spec "CONFIG GET" (-3) [.admin, .readonly, .noscript],
   spec "CONFIG SET" (-4) [.admin, .noscript],
   spec "CONFIG HELP" 2 [.admin, .readonly, .noscript],
   spec "CONFIG REWRITE" 2 [.admin, .noscript],
   spec "LATENCY" (-2) [.admin, .noscript],
   spec "LATENCY HELP" 2 [.admin, .readonly, .noscript],
   spec "LATENCY LATEST" 2 [.admin, .readonly, .noscript],
   spec "LATENCY HISTORY" 3 [.admin, .readonly, .noscript],
   spec "LATENCY RESET" (-2) [.admin, .noscript],
   spec "LATENCY DOCTOR" 2 [.admin, .readonly, .noscript],
   spec "LATENCY GRAPH" 3 [.admin, .readonly, .noscript],
   spec "LATENCY HISTOGRAM" (-2) [.admin, .readonly, .noscript],
   spec "SLOWLOG" (-2) [.admin, .noscript],
   spec "SLOWLOG GET" (-2) [.admin, .readonly, .noscript],
   spec "SLOWLOG LEN" 2 [.admin, .readonly, .noscript],
   spec "SLOWLOG RESET" 2 [.admin, .noscript],
   spec "SLOWLOG HELP" 2 [.admin, .readonly, .noscript],
   spec "MEMORY" (-2) [.readonly],
   spec "MEMORY USAGE" (-3) [.readonly],
   spec "MEMORY HELP" 2 [.readonly],
   spec "MEMORY STATS" 2 [.readonly],
   spec "MEMORY DOCTOR" 2 [.readonly],
   spec "MEMORY MALLOC-STATS" 2 [.readonly],
   spec "MEMORY PURGE" 2 [.readonly],
   spec "LASTSAVE" 1 [.readonly, .fast],
   spec "SAVE" 1 [.admin, .noscript],
   spec "BGSAVE" (-1) [.admin, .noscript],
   spec "FLUSHDB" (-1) [.write],
   spec "FLUSHALL" (-1) [.write],
   spec "RANDOMKEY" 1 [.readonly],
   spec "TYPE" 2 [.readonly, .fast],
   spec "KEYS" 2 [.readonly],
   spec "WAIT" 3 [.readonly, .noscript, .fast],
   spec "WAITAOF" 4 [.readonly, .noscript, .fast],
   spec "DELEX" (-2) [.write, .fast],
   spec "DIGEST" 2 [.readonly, .fast],
   spec "DUMP" 2 [.readonly],
   spec "RESTORE" (-4) [.write, .denyoom],
   spec "MIGRATE" (-6) [.write],
   spec "LCS" (-3) [.readonly],
   spec "MSETEX" (-4) [.write, .denyoom],
   spec "COPY" (-3) [.write, .denyoom],
   spec "MOVE" 3 [.write, .fast],
   spec "RENAME" 3 [.write],
   spec "RENAMENX" 3 [.write, .fast],
   spec "TOUCH" (-2) [.readonly, .fast],
   spec "UNLINK" (-2) [.write, .fast],
   spec "SCAN" (-2) [.readonly],
   spec "OBJECT" (-2) [.readonly],
   spec "OBJECT HELP" 2 [.readonly],
   spec "OBJECT ENCODING" 3 [.readonly],
   spec "OBJECT REFCOUNT" 3 [.readonly],
   spec "OBJECT IDLETIME" 3 [.readonly],
   spec "OBJECT FREQ" 3 [.readonly],
   spec "SORT" (-2) [.write, .denyoom],
   spec "SORT_RO" (-2) [.readonly],
   spec "MULTI" 1 [.fast, .noscript],
   spec "EXEC" 1 [.noscript],
   spec "DISCARD" 1 [.fast, .noscript],
   spec "WATCH" (-2) [.readonly, .noscript],
   spec "UNWATCH" 1 [.fast, .noscript],
   spec "SUBSCRIBE" (-2) [.pubsub, .noscript],
   spec "SSUBSCRIBE" (-2) [.pubsub, .noscript],
   spec "PSUBSCRIBE" (-2) [.pubsub, .noscript],
   spec "PUBLISH" 3 [.pubsub, .loading, .stale, .fast],
   spec "SPUBLISH" 3 [.pubsub, .loading, .stale, .fast],
   spec "UNSUBSCRIBE" (-1) [.pubsub, .noscript],
   spec "PUNSUBSCRIBE" (-1) [.pubsub, .noscript],
   spec "SUNSUBSCRIBE" (-1) [.pubsub, .noscript],
   spec "PUBSUB" (-2) [.pubsub, .noscript],
   spec "PUBSUB CHANNELS" (-2) [.pubsub, .readonly, .noscript],
   spec "PUBSUB NUMSUB" (-2) [.pubsub, .readonly, .noscript],
   spec "PUBSUB NUMPAT" 2 [.pubsub, .readonly, .noscript],
   spec "PUBSUB HELP" 2 [.pubsub, .readonly, .noscript],
   spec "PUBSUB SHARDCHANNELS" (-2) [.pubsub, .readonly, .noscript],
   spec "PUBSUB SHARDNUMSUB" (-2) [.pubsub, .readonly, .noscript],
   spec "XADD" (-5) [.write, .denyoom, .fast],
   spec "XLEN" 2 [.readonly, .fast],
   spec "XRANGE" (-4) [.readonly],
   spec "XREVRANGE" (-4) [.readonly],
   spec "XREAD" (-4) [.readonly, .blocking],
   spec "XGROUP" (-2) [.write, .slow],
   spec "XGROUP HELP" 2 [.readonly, .slow],
   spec "XGROUP CREATE" (-5) [.write, .slow],
   spec "XGROUP DESTROY" 4 [.write, .fast],
   spec "XGROUP SETID" 5 [.write, .fast],
   spec "XGROUP CREATECONSUMER" 5 [.write, .fast],
   spec "XGROUP DELCONSUMER" 5 [.write, .fast],
   spec "XREADGROUP" (-7) [.write, .blocking],
   spec "XACK" (-4) [.write, .fast],
   spec "XPENDING" (-3) [.readonly, .slow],
   spec "XINFO" (-2) [.readonly, .slow],
   spec "XINFO HELP" 2 [.readonly, .slow],
   spec "XINFO STREAM" (-3) [.readonly, .slow],
   spec "XINFO GROUPS" 3 [.readonly, .slow],
   spec "XINFO CONSUMERS" 4 [.readonly, .slow],
   spec "XTRIM" (-4) [.write, .fast],
   spec "XDEL" (-3) [.write, .fast],
   spec "XSETID" (-3) [.write, .fast],
   spec "XCLAIM" (-6) [.write, .fast],
   spec "XAUTOCLAIM" (-6) [.write, .slow],
   spec "XACKDEL" (-6) [.write, .fast],
   spec "XCFGSET" (-2) [.write, .fast],
   spec "XDELEX" (-5) [.write, .fast],
   spec "HSET" (-4) [.write, .denyoom, .fast],
   spec "HGET" 3 [.readonly, .fast],
   spec "HMGET" (-3) [.readonly, .fast],
   spec "HGETALL" 2 [.readonly, .fast],
   spec "HKEYS" 2 [.readonly, .fast],
   spec "HVALS" 2 [.readonly, .fast],
   spec "HINCRBY" 4 [.write, .denyoom, .fast],
   spec "HINCRBYFLOAT" 4 [.write, .denyoom, .fast],
   spec "HMSET" (-4) [.write, .denyoom, .fast],
   spec "HSETNX" 4 [.write, .denyoom, .fast],
   spec "HSTRLEN" 3 [.readonly, .fast],
   spec "HRANDFIELD" (-2) [.readonly, .random],
   spec "HDEL" (-3) [.write, .fast],
   spec "HEXISTS" 3 [.readonly, .fast],
   spec "HLEN" 2 [.readonly, .fast],
   spec "HSCAN" (-3) [.readonly],
   spec "LPUSH" (-3) [.write, .denyoom, .fast],
   spec "LPUSHX" (-3) [.write, .denyoom, .fast],
   spec "RPUSH" (-3) [.write, .denyoom, .fast],
   spec "RPUSHX" (-3) [.write, .denyoom, .fast],
   spec "LPOP" (-2) [.write, .fast],
   spec "RPOP" (-2) [.write, .fast],
   spec "BLPOP" (-3) [.write],
   spec "BRPOP" (-3) [.write],
   spec "LMOVE" 5 [.write],
   spec "BLMOVE" 6 [.write],
   spec "RPOPLPUSH" 3 [.write],
   spec "BRPOPLPUSH" 4 [.write],
   spec "LMPOP" (-4) [.write],
   spec "BLMPOP" (-5) [.write],
   spec "LRANGE" 4 [.readonly],
   spec "LLEN" 2 [.readonly, .fast],
   spec "LREM" 4 [.write],
   spec "LPOS" (-3) [.readonly],
   spec "LSET" 4 [.write, .denyoom],
   spec "LTRIM" 4 [.write],
   spec "SADD" (-3) [.write, .denyoom, .fast],
   spec "SREM" (-3) [.write, .fast],
   spec "SISMEMBER" 3 [.readonly, .fast],
   spec "SMISMEMBER" (-3) [.readonly, .fast],
   spec "SMEMBERS" 2 [.readonly],
   spec "SCARD" 2 [.readonly, .fast],
   spec "SPOP" (-2) [.write, .fast],
   spec "SRANDMEMBER" (-2) [.readonly, .random],
   spec "SSCAN" (-3) [.readonly],
   spec "SMOVE" 4 [.write, .fast],
   spec "SDIFF" (-2) [.readonly],
   spec "SDIFFSTORE" (-3) [.write, .denyoom],
   spec "SINTER" (-2) [.readonly],
   spec "SINTERCARD" (-3) [.readonly],
   spec "SINTERSTORE" (-3) [.write, .denyoom],
   spec "SUNION" (-2) [.readonly],
   spec "SUNIONSTORE" (-3) [.write, .denyoom],
   spec "APPEND" 3 [.write, .denyoom, .fast],
   spec "STRLEN" 2 [.readonly, .fast],
   spec "GETRANGE" 4 [.readonly],
   spec "SUBSTR" 4 [.readonly],
   spec "SETRANGE" 4 [.write, .denyoom],
   spec "GETSET" 3 [.write, .denyoom, .fast],
   spec "SETNX" 3 [.write, .denyoom, .fast],
   spec "MGET" (-2) [.readonly, .fast],
   spec "MSET" (-3) [.write, .denyoom],
   spec "MSETNX" (-3) [.write, .denyoom],
   spec "INCR" 2 [.write, .denyoom, .fast],
   spec "INCRBY" 3 [.write, .denyoom, .fast],
   spec "DECR" 2 [.write, .denyoom, .fast],
   spec "DECRBY" 3 [.write, .denyoom, .fast],
   spec "INCRBYFLOAT" 3 [.write, .denyoom, .fast],
   spec "COMMAND DOCS" (-2) [.readonly, .loading, .stale],
   spec "BGREWRITEAOF" 1 [.admin, .noscript],
   spec "DEBUG" (-2) [.admin, .noscript],
   spec "FAILOVER" (-1) [.admin, .noscript],
   spec "HOTKEYS" (-1) [.admin, .readonly, .noscript],
   spec "HOTKEYS GET" 2 [.admin, .readonly, .noscript],
   spec "HOTKEYS RESET" 2 [.admin, .noscript],
   spec "HOTKEYS START" 2 [.admin, .noscript],
   spec "HOTKEYS STOP" 2 [.admin, .noscript],
   spec "LOLWUT" (-1) [.readonly],
   spec "MODULE" (-2) [.admin, .noscript],
   spec "MODULE HELP" 2 [.admin, .readonly, .noscript],
   spec "MODULE LIST" 2 [.admin, .readonly, .noscript],
   spec "MODULE LOAD" (-3) [.admin, .noscript],
   spec "MODULE LOADEX" (-3) [.admin, .noscript],
   spec "MODULE UNLOAD" 3 [.admin, .noscript],
   spec "SFLUSH" (-1) [.admin, .noscript],
   spec "SHUTDOWN" (-1) [.admin, .noscript],
   spec "SWAPDB" 3 [.admin, .noscript],
   spec "TRIMSLOTS" 2 [.admin, .noscript],
   spec "PFADD" (-2) [.write, .denyoom, .fast],
   spec "PFCOUNT" (-2) [.readonly],
   spec "PFMERGE" (-2) [.write, .denyoom],
   spec "PFDEBUG" 3 [.admin],
   spec "PFSELFTEST" 1 [.admin],
   spec "LINDEX" 3 [.readonly],
   spec "LINSERT" 5 [.write, .denyoom],
   spec "ZADD" (-4) [.write, .denyoom, .fast],
   spec "ZREM" (-3) [.write, .fast],
   spec "ZSCORE" 3 [.readonly, .fast],
   spec "ZCARD" 2 [.readonly, .fast],
   spec "ZINCRBY" 4 [.write, .denyoom, .fast],
   spec "ZMSCORE" (-3) [.readonly, .fast],
   spec "ZRANGE" (-4) [.readonly],
   spec "ZRANGEBYSCORE" (-4) [.readonly],
   spec "ZREVRANGEBYSCORE" (-4) [.readonly],
   spec "ZRANGEBYLEX" (-4) [.readonly],
   spec "ZREVRANGEBYLEX" (-4) [.readonly],
   spec "ZREVRANGE" (-4) [.readonly],
   spec "ZRANGESTORE" (-5) [.write, .denyoom],
   spec "ZCOUNT" 4 [.readonly, .fast],
   spec "ZLEXCOUNT" 4 [.readonly, .fast],
   spec "ZRANK" (-3) [.readonly, .fast],
   spec "ZREVRANK" (-3) [.readonly, .fast],
   spec "ZREMRANGEBYRANK" 4 [.write],
   spec "ZREMRANGEBYSCORE" 4 [.write],
   spec "ZREMRANGEBYLEX" 4 [.write],
   spec "ZUNION" (-3) [.readonly],
   spec "ZUNIONSTORE" (-4) [.write, .denyoom],
   spec "ZINTER" (-3) [.readonly],
   spec "ZINTERSTORE" (-4) [.write, .denyoom],
   spec "ZINTERCARD" (-3) [.readonly],
   spec "ZDIFF" (-3) [.readonly],
   spec "ZDIFFSTORE" (-4) [.write, .denyoom],
   spec "ZPOPMIN" (-2) [.write, .fast],
   spec "ZPOPMAX" (-2) [.write, .fast],
   spec "ZMPOP" (-4) [.write, .fast],
   spec "ZRANDMEMBER" (-2) [.readonly],
   spec "ZSCAN" (-3) [.readonly],
   spec "BZPOPMIN" (-3) [.write, .fast],
   spec "BZPOPMAX" (-3) [.write, .fast],
   spec "BZMPOP" (-5) [.write, .fast],
   spec "GEOADD" (-5) [.write, .denyoom],
   spec "GEOPOS" (-2) [.readonly],
   spec "GEODIST" (-4) [.readonly],
   spec "GEOHASH" (-2) [.readonly],
   spec "GEOSEARCH" (-7) [.readonly],
   spec "GEOSEARCHSTORE" (-8) [.write, .denyoom],
   spec "GEORADIUS" (-6) [.write, .denyoom],
   spec "GEORADIUS_RO" (-6) [.readonly],
   spec "GEORADIUSBYMEMBER" (-5) [.write, .denyoom],
   spec "GEORADIUSBYMEMBER_RO" (-5) [.readonly],
   spec "SETBIT" 4 [.write, .denyoom],
   spec "GETBIT" 3 [.readonly, .fast],
   spec "BITCOUNT" (-2) [.readonly],
   spec "BITPOS" (-3) [.readonly],
   spec "BITOP" (-4) [.write, .denyoom],
   spec "BITFIELD" (-2) [.write, .denyoom],
   spec "BITFIELD_RO" (-2) [.readonly, .fast],
   spec "HEXPIRE" (-6) [.write, .fast],
   spec "HEXPIREAT" (-6) [.write, .fast],
   spec "HPEXPIRE" (-6) [.write, .fast],
   spec "HPEXPIREAT" (-6) [.write, .fast],
   spec "HTTL" (-5) [.readonly, .fast],
   spec "HPTTL" (-5) [.readonly, .fast],
   spec "HEXPIRETIME" (-5) [.readonly, .fast],
   spec "HPEXPIRETIME" (-5) [.readonly, .fast],
   spec "HPERSIST" (-5) [.write, .fast],
   spec "HGETDEL" (-5) [.write, .fast],
   spec "HGETEX" (-5) [.write, .fast],
   spec "HSETEX" (-6) [.write, .denyoom, .fast],
   spec "CLUSTER" (-2) [.admin],
   spec "CLUSTER INFO" 2 [.admin, .readonly],
   spec "CLUSTER MYID" 2 [.admin, .readonly],
   spec "CLUSTER KEYSLOT" 3 [.admin, .readonly],
   spec "CLUSTER COUNTKEYSINSLOT" 3 [.admin, .readonly],
   spec "CLUSTER GETKEYSINSLOT" 4 [.admin, .readonly],
   spec "CLUSTER HELP" 2 [.admin, .readonly],
   spec "CLUSTER ADDSLOTS" (-3) [.admin],
   spec "CLUSTER ADDSLOTSRANGE" (-4) [.admin],
   spec "CLUSTER DELSLOTS" (-3) [.admin],
   spec "CLUSTER DELSLOTSRANGE" (-4) [.admin],
   spec "CLUSTER FAILOVER" (-2) [.admin],
   spec "CLUSTER FLUSHSLOTS" 2 [.admin],
   spec "CLUSTER FORGET" 3 [.admin],
   spec "CLUSTER LINKS" 2 [.admin, .readonly],
   spec "CLUSTER MEET" (-4) [.admin],
   spec "CLUSTER NODES" 2 [.admin, .readonly],
   spec "CLUSTER REPLICAS" 3 [.admin, .readonly],
   spec "CLUSTER REPLICATE" 3 [.admin],
   spec "CLUSTER RESET" (-2) [.admin],
   spec "CLUSTER SAVECONFIG" 2 [.admin],
   spec "CLUSTER SET-CONFIG-EPOCH" 3 [.admin],
   spec "CLUSTER SETSLOT" (-4) [.admin],
   spec "CLUSTER SHARDS" 2 [.admin, .readonly],
   spec "CLUSTER SLAVES" 3 [.admin, .readonly],
   spec "CLUSTER SLOTS" 2 [.admin, .readonly],
   spec "READONLY" 1 [.fast, .connection],
   spec "READWRITE" 1 [.fast, .connection],
   spec "ASKING" 1 [.fast],
   spec "EVAL" (-3) [.noscript],
   spec "EVALSHA" (-3) [.noscript],
   spec "EVAL_RO" (-3) [.noscript, .readonly],
   spec "EVALSHA_RO" (-3) [.noscript, .readonly],
   spec "SCRIPT" (-2) [.noscript],
   spec "SCRIPT LOAD" 3 [.noscript],
   spec "SCRIPT EXISTS" (-3) [.noscript, .readonly],
   spec "SCRIPT FLUSH" (-2) [.noscript],
   spec "SCRIPT HELP" 2 [.noscript, .readonly],
   spec "SCRIPT KILL" 2 [.noscript],
   spec "SCRIPT DEBUG" 3 [.noscript],
   spec "FCALL" (-3) [.noscript],
   spec "FCALL_RO" (-3) [.noscript, .readonly],
   spec "FUNCTION" (-2) [.noscript],
   spec "FUNCTION LOAD" (-3) [.noscript],
   spec "FUNCTION DELETE" 3 [.noscript],
   spec "FUNCTION LIST" (-2) [.noscript, .readonly],
   spec "FUNCTION STATS" 2 [.noscript, .readonly],
   spec "FUNCTION DUMP" 2 [.noscript, .readonly],
   spec "FUNCTION RESTORE" (-3) [.noscript],
   spec "FUNCTION FLUSH" (-2) [.noscript],
   spec "FUNCTION HELP" 2 [.noscript, .readonly],
   spec "SENTINEL" (-2) [.admin],
   spec "SENTINEL HELP" 2 [.admin, .readonly],
   spec "SENTINEL GET-MASTER-ADDR-BY-NAME" 3 [.admin, .readonly],
   spec "SENTINEL MASTERS" 2 [.admin, .readonly],
   spec "SENTINEL MASTER" 3 [.admin, .readonly],
   spec "SENTINEL REPLICAS" 3 [.admin, .readonly],
   spec "SENTINEL SENTINELS" 3 [.admin, .readonly],
   spec "SENTINEL IS-MASTER-DOWN-BY-ADDR" 6 [.admin],
   spec "SENTINEL RESET" 3 [.admin],
   spec "SENTINEL FAILOVER" 3 [.admin],
   spec "SENTINEL CKQUORUM" 3 [.admin],
   spec "SENTINEL FLUSHCONFIG" 2 [.admin],
   spec "SENTINEL MONITOR" 6 [.admin],
   spec "SENTINEL REMOVE" 3 [.admin],
   spec "SENTINEL SET" (-5) [.admin],
   spec "SENTINEL PENDING-SCRIPTS" 2 [.admin, .readonly],
   spec "SENTINEL INFO-CACHE" (-3) [.admin, .readonly],
   spec "SENTINEL SIMULATE-FAILURE" (-3) [.admin],
   spec "SENTINEL CONFIG" (-4) [.admin],
   spec "SENTINEL DEBUG" (-2) [.admin],
   spec "SENTINEL MYID" 2 [.admin, .readonly]]

/-! ## Lookup -/

/-- Source: `registry.rs` `COMMAND_SPEC_MAP`; no name occurs twice. -/
def commandSpecs : List CommandSpec := baseCommandSpecs ++ extraCommandSpecs

/-- `to_ascii_uppercase` of a byte. -/
def upperByte (b : UInt8) : UInt8 := if 97 ≤ b ∧ b ≤ 122 then b - 32 else b

/-- Source: `mod.rs` `to_uppercase_stack` -/
def toUppercase (name : Bytes) : Bytes := name.map upperByte

/-- `eq_ignore_ascii_case`. -/
def eqIgnoreCase (a : Bytes) (b : String) : Bool := toUppercase a == toUppercase (ascii b)

/-- Source: `registry.rs` `find_command_spec_upper` -/
def findCommandSpecUpper (name : Bytes) : Option CommandSpec :=
  commandSpecs.find? fun s => s.name == name

/-- Source: `registry.rs` `find_command_spec` -/
def findCommandSpec (name : Bytes) : Option CommandSpec := findCommandSpecUpper (toUppercase name)

/-- Source: `registry.rs` `is_write_command_name` -/
def isWriteCommandName (name : Bytes) : Bool :=
  (findCommandSpecUpper name).any fun s => s.flags.contains .write

/-- Source: `mod.rs` `is_write_command` -/
def isWriteCommand : (argv : List Bytes) → Bool
  | [] => false
  | name :: _ => isWriteCommandName (toUppercase name)

/-- Source: `cmd_command_metadata.rs` `command_arity_matches` -/
def commandArityMatches (arity : Int) (argc : Nat) : Bool :=
  if 0 ≤ arity then argc = arity else -arity ≤ argc

/-- Source: `mod.rs` `allows_execute_without_auth` -/
def allowsExecuteWithoutAuth (command : Bytes) (spec : Option CommandSpec) : Bool :=
  command == ascii "HELLO" || command == ascii "QUIT" ||
    spec.any fun s => s.flags.contains .noAuth

/-- Source: `mod.rs` `command_may_grow_memory`, without the Lua scripting feature -/
def commandMayGrowMemory (argv : List Bytes) (spec : Option CommandSpec) : Bool :=
  if spec.any fun s => s.flags.contains .denyoom then true
  else match argv with
    | [] => false
    | name :: args =>
      if toUppercase name = ascii "XGROUP" then
        args.head?.any fun sub => eqIgnoreCase sub "CREATE" || eqIgnoreCase sub "CREATECONSUMER"
      else
        toUppercase name ∈ ["XREADGROUP", "XCLAIM", "XAUTOCLAIM", "XCFGSET", "MIGRATE", "MOVE",
          "RENAME", "RENAMENX", "SMOVE", "LMOVE", "BLMOVE", "RPOPLPUSH", "BRPOPLPUSH"].map ascii

/-! ## Access categories -/

/-- Source: `mod.rs` `ACL_CATEGORY_*` -/
inductive Category where
  | admin | write | read | pubsub | connection | fast
  deriving Repr, DecidableEq

/-- The name of a category in a user's rules. -/
def Category.name : Category → Bytes
  | .admin => ascii "admin"
  | .write => ascii "write"
  | .read => ascii "read"
  | .pubsub => ascii "pubsub"
  | .connection => ascii "connection"
  | .fast => ascii "fast"

/-- The categories a command requires, as the list of the bits of the source's mask.
Source: `mod.rs` `acl_required_category_mask` -/
def aclRequiredCategories (spec : CommandSpec) : List Category :=
  let required :=
    (if spec.flags.contains .admin then [.admin] else []) ++
    (if spec.flags.contains .write then [.write] else []) ++
    (if spec.flags.contains .readonly then [.read] else []) ++
    (if spec.flags.contains .pubsub then [.pubsub] else []) ++
    (if spec.flags.contains .connection then [.connection] else [])
  if required = [] ∧ spec.flags.contains .fast then [.fast] else required

/-! ## Strict compatibility mode -/

/-- Source: `cmd_command_metadata.rs` `resolve_leading_spec`, `max_name_parts` -/
def maxNameParts : Nat := (commandSpecs.map fun s => s.name.count 32 + 1).foldl max 1

lemma one_le_maxNameParts : 1 ≤ maxNameParts := by
  have hfold : ∀ (l : List Nat) (n : Nat), n ≤ l.foldl max n := by
    intro l
    induction l with
    | nil => exact fun n => le_refl n
    | cons m l ih => exact fun n => (Nat.le_max_left n m).trans (ih (max n m))
  exact hfold _ 1

/-- Source: `registry.rs` `find_command_spec_parts` -/
def findCommandSpecParts (parts : List Bytes) : Option CommandSpec :=
  findCommandSpecUpper (List.intercalate [32] (parts.map toUppercase))

/-- The spec of the longest leading part of a request that names a command, container and
subcommand together.
Source: `cmd_command_metadata.rs` `resolve_leading_spec` -/
def resolveLeadingSpec (argv : List Bytes) : Option CommandSpec :=
  (List.range (min argv.length maxNameParts)).reverse.findSome? fun len =>
    findCommandSpecParts (argv.take (len + 1))

/-- Source: `cmd_command_metadata.rs` `command_capability_tier`, the two tiers strict mode asks
for -/
inductive RefusedTier where
  | unsupported
  | syntaxOnly
  deriving Repr, DecidableEq

/-- The tier of a command, if strict mode refuses it.
Source: `cmd_command_metadata.rs` `command_capability_tier` -/
def refusedTier (name : Bytes) : Option RefusedTier :=
  if name ∈ ["SYNC", "PSYNC", "SENTINEL", "EVAL", "EVALSHA", "EVAL_RO", "EVALSHA_RO", "FCALL",
      "FCALL_RO", "CLIENT PAUSE", "CLIENT UNPAUSE", "MODULE LOAD", "MODULE LOADEX",
      "MODULE UNLOAD", "SCRIPT KILL", "SCRIPT DEBUG", "FUNCTION LOAD", "FUNCTION DELETE",
      "FUNCTION RESTORE", "DEBUG", "FAILOVER", "SHUTDOWN"].map ascii then some .unsupported
  else if name = ascii "SENTINEL HELP" then some .syntaxOnly
  else if ascii "SENTINEL " <+: name then some .unsupported
  else if ascii "CLUSTER " <+: name ∧
      name ∉ ["CLUSTER COUNTKEYSINSLOT", "CLUSTER GETKEYSINSLOT", "CLUSTER HELP", "CLUSTER INFO",
        "CLUSTER KEYSLOT", "CLUSTER LINKS", "CLUSTER MYID", "CLUSTER SHARDS",
        "CLUSTER SLOTS"].map ascii then some .unsupported
  else if name ∈ ["ASKING", "READONLY", "READWRITE", "CLIENT UNBLOCK", "SFLUSH", "XCFGSET"].map
      ascii then some .syntaxOnly
  else none

/-- Why a tier is refused. -/
def RefusedTier.reason : RefusedTier → Bytes
  | .unsupported => ascii "command is not supported in this single-node Ratatosk build"
  | .syntaxOnly => ascii
      "command is only accepted syntactically and has no Redis-equivalent operational effect"

/-- The text of strict mode's refusal, if it refuses the request.
Source: `cmd_command_metadata.rs` `strict_mode_error` -/
def strictModeError (argv : List Bytes) : Option Bytes :=
  (resolveLeadingSpec argv).bind fun s =>
    let reason :=
      if s.name = ascii "WAIT" ∨ s.name = ascii "WAITAOF" then
        some (ascii
          "requires replica-backed acknowledgement that a single-node server cannot provide")
      else (refusedTier s.name).map RefusedTier.reason
    reason.map fun reason => ascii "ERR command " ++ s.name ++
      ascii " is not supported in Ratatosk strict compatibility mode; reason=" ++ reason

/-! ## Session commands -/

/-- The commands that a client in a transaction runs at once instead of queueing them.
Source: `mod.rs` `execute_argv_inner` -/
def transactionCommands : List Bytes := ["EXEC", "DISCARD", "MULTI", "WATCH", "UNWATCH"].map ascii

/-- The commands that change the state of the connection itself. -/
def sessionCommands : List Bytes :=
  transactionCommands ++ ["SELECT", "HELLO", "AUTH", "RESET", "QUIT"].map ascii

end Ratatosk.Engine
