import Ratatosk.Engine.LockFree
import Ratatosk.Keyspace.ScoreRange

/-!
# The handlers of the reads

The handlers of `ratatosk-engine/src/command` for the commands that can also run without the
metadata lock. Like those reads, such a handler drops the keys that it asks for if they have expired
and answers from what is left of them, so `FastQuery` describes it too.

* `cmdHget`, `cmdZrange`, `cmdBitcount` and the like — one for each handler, with its argument
  parsing and error texts. `err` is how an error text becomes a reply.
* `ReadCommand`, `readCommands` — the commands by name; `ReadCommand.handler` — the handler of each.

`GET` is a `DataCommand` already and `PING HEALTH`, a report on the server, stays open.
-/

namespace Ratatosk.Engine

open Lib Keyspace Resp

/-! ## The commands -/

/-- The commands that can run without the metadata lock. -/
inductive ReadCommand where
  | ping | echo | time | dbsize | type | exists | get | mget | strlen | bitcount | getbit
  | getrange | substr | hget | hmget | hgetall | hkeys | hvals | hexists | hlen | hstrlen
  | sismember | smismember | scard | llen | lindex | lrange | ttl | pttl | expiretime
  | pexpiretime | zscore | zcard | zmscore | zcount | zlexcount | zrange | zrangebyscore
  | zrevrangebyscore | zrangebylex | zrevrangebylex | zrevrange | zrank | zrevrank
  deriving Repr, DecidableEq

/-- How the reply to a wrong number of arguments calls a command. -/
def ReadCommand.arityName : ReadCommand → String
  | .ping => "ping"
  | .echo => "echo"
  | .time => "time"
  | .dbsize => "dbsize"
  | .type => "type"
  | .exists => "exists"
  | .get => "get"
  | .mget => "mget"
  | .strlen => "strlen"
  | .bitcount => "bitcount"
  | .getbit => "getbit"
  | .getrange | .substr => "getrange"
  | .hget => "hget"
  | .hmget => "hmget"
  | .hgetall => "hgetall"
  | .hkeys => "hkeys"
  | .hvals => "hvals"
  | .hexists => "hexists"
  | .hlen => "hlen"
  | .hstrlen => "hstrlen"
  | .sismember => "sismember"
  | .smismember => "smismember"
  | .scard => "scard"
  | .llen => "llen"
  | .lindex => "lindex"
  | .lrange => "lrange"
  | .ttl => "ttl"
  | .pttl => "pttl"
  | .expiretime => "expiretime"
  | .pexpiretime => "pexpiretime"
  | .zscore => "zscore"
  | .zcard => "zcard"
  | .zmscore => "zmscore"
  | .zcount => "zcount"
  | .zlexcount => "zlexcount"
  | .zrange => "zrange"
  | .zrangebyscore => "zrangebyscore"
  | .zrevrangebyscore => "zrevrangebyscore"
  | .zrangebylex => "zrangebylex"
  | .zrevrangebylex => "zrevrangebylex"
  | .zrevrange => "zrevrange"
  | .zrank => "zrank"
  | .zrevrank => "zrevrank"

/-! ## What the reads depend on -/

/-- What the commands read besides the databases. -/
structure ReadEnv where
  /-- `format_f64_for_redis`. -/
  formatScore : Score → Bytes
  /-- `str::parse::<f64>`. -/
  parseFloat : Bytes → Option Score
  /-- The order in which the map of a hash is iterated. -/
  fieldOrder : (Finmap fun _ : Bytes => HashFieldEntry) → List (Bytes × HashFieldEntry)
  fieldOrder_perm : ∀ fields, (fieldOrder fields : Multiset (Bytes × HashFieldEntry)) =
    fields.entries.map fun field => (field.1, field.2)
  /-- The microseconds since 1970. The clock of the system counts nanoseconds in an `i64`. -/
  clockUs : Nat
  clockUs_lt : clockUs < 2 ^ 63

/-- Fields in the order of their names, and no scores. -/
def ReadEnv.byName : ReadEnv where
  formatScore _ := []
  parseFloat _ := none
  fieldOrder fields := (fields.keys.sort (· ≤ ·)).map fun name =>
    (name, (fields.lookup name).getD ⟨[], none⟩)
  fieldOrder_perm fields := by
    have hkeys : ((fields.keys.sort (· ≤ ·) : List Bytes) : Multiset Bytes) =
        fields.entries.map Sigma.fst := Finset.sort_eq _ _
    rw [← Multiset.map_coe, hkeys, Multiset.map_map]
    apply Multiset.map_congr rfl
    rintro ⟨name, entry⟩ hmem
    have hlookup : fields.lookup name = some entry := Finmap.mem_lookup_iff.mpr hmem
    rw [Function.comp_apply, hlookup]
    rfl
  clockUs := 0
  clockUs_lt := by decide

/-- The fields of a hash that have not expired, in the order of the map.
Source: `cmd_hash.rs` `field_alive` -/
def liveFields (env : ReadEnv) (fields : Finmap fun _ : Bytes => HashFieldEntry) (now : Int64) :
    List (Bytes × HashFieldEntry) :=
  (env.fieldOrder fields).filter fun field => !field.2.expireAtMs.any (· ≤ now)

/-- An answer from a sorted set. -/
def fromSortedSet (absent : RespFrame) (answer : (Finmap fun _ : Bytes => Score) → RespFrame) :
    Option Entry → RespFrame
  | none => absent
  | some entry =>
    match entry.value with
    | .sortedSet scores => answer scores
    | _ => wrongtype

/-! ## Ranges of sorted sets -/

/-- Source: `cmd_sorted_set_ranges.rs` `RangeMode`, `readonly_batch.rs` `LockFreeZrangeMode` -/
inductive RangeMode where
  | byRank | byScore | byLex
  deriving Repr, DecidableEq

/-- Source: `cmd_sorted_set_ranges.rs` `ZrangeOptions`, `readonly_batch.rs`
`LockFreeZrangeOptions` -/
structure ZrangeOptions where
  mode : RangeMode
  rev : Bool
  limit : Option (Int64 × Int64)
  withScores : Bool
  deriving Repr, DecidableEq

/-- The text of a bound that is not a score. -/
def notFloatText : Bytes := ascii "ERR min or max is not a float"

/-- The text of a bound that is not one of members. -/
def notLexText : Bytes := ascii "ERR min or max is not a valid string range item"

section ranges

variable (env : ReadEnv) (fail : Bytes → RespFrame)

/-- The numbers of `LIMIT`. -/
def parseLimit (offsetRaw countRaw : Bytes) : Except RespFrame (Int64 × Int64) :=
  match parseI64 offsetRaw with
  | none => .error (fail notIntegerText)
  | some offset =>
    match parseI64 countRaw with
    | none => .error (fail notIntegerText)
    | some count => .ok (offset, count)

/-- The loop over the options of `ZRANGE`, the same on both paths but for the errors.
Source: `cmd_sorted_set_ranges.rs` `parse_zrange_options`, `readonly_batch.rs`
`parse_lock_free_zrange_options` -/
def zrangeOptions : List Bytes → ZrangeOptions → Except RespFrame ZrangeOptions
  | [], o => .ok o
  | option :: rest, o =>
    if eqIgnoreCase option "BYSCORE" then zrangeOptions rest { o with mode := .byScore }
    else if eqIgnoreCase option "BYLEX" then zrangeOptions rest { o with mode := .byLex }
    else if eqIgnoreCase option "REV" then zrangeOptions rest { o with rev := true }
    else if eqIgnoreCase option "LIMIT" then
      match rest with
      | offsetRaw :: countRaw :: rest =>
        match parseLimit fail offsetRaw countRaw with
        | .error response => .error response
        | .ok limit => zrangeOptions rest { o with limit := some limit }
      | _ => .error (fail syntaxErrorText)
    else if eqIgnoreCase option "WITHSCORES" then
      zrangeOptions rest { o with withScores := true }
    else .error (fail syntaxErrorText)

/-- The entries between two bounds, in the order asked for.
Source: `cmd_sorted_set_ranges.rs` `zrange_collect`, `readonly_batch.rs`
`collect_lock_free_zrange_entries` -/
def zrangeEntries (scores : Finmap fun _ : Bytes => Score) (minRaw maxRaw : Bytes)
    (mode : RangeMode) (rev : Bool) : Except RespFrame (List SortedSetEntry) :=
  let index := sortedEntries scores
  let ordered (entries : List SortedSetEntry) := if rev then entries.reverse else entries
  match mode with
  | .byRank =>
    match parseI64 minRaw, parseI64 maxRaw with
    | some start, some stop =>
      .ok ((normalizeRange index.length start stop).elim [] (slice (ordered index)))
    | _, _ => .error (fail notIntegerText)
  | .byScore =>
    match ScoreBound.parse env.parseFloat minRaw, ScoreBound.parse env.parseFloat maxRaw with
    | some first, some second =>
      .ok (ordered (if rev then rangeByScore index second first
        else rangeByScore index first second))
    | _, _ => .error (fail notFloatText)
  | .byLex =>
    match LexBound.parse minRaw, LexBound.parse maxRaw with
    | some first, some second =>
      .ok ((ordered index).filter fun e =>
        if rev then memberInLexRange e.member second first
        else memberInLexRange e.member first second)
    | _, _ => .error (fail notLexText)

/-- Source: `cmd_sorted_set_ranges.rs` `zrange_collect`, `readonly_batch.rs`
`apply_lock_free_zrange_limit` -/
def zrangeLimit (selected : List SortedSetEntry) (limit : Option (Int64 × Int64)) :
    Except RespFrame (List SortedSetEntry) :=
  match limit with
  | none => .ok selected
  | some (offset, count) =>
    if offset < 0 then .error (fail notIntegerText)
    else
      let rest := selected.drop offset.toInt.toNat
      .ok (if 0 ≤ count then rest.take count.toInt.toNat else rest)

/-- Source: `cmd_sorted_set.rs` `entries_to_resp`, `readonly_batch.rs` `zrange_entries_to_resp` -/
def entriesToResp (entries : List SortedSetEntry) (withScores : Bool) : RespFrame :=
  .array (entries.flatMap fun e =>
    if withScores then [.bulkString (some e.member), .bulkString (some (env.formatScore e.score))]
    else [.bulkString (some e.member)])

/-- Source: `cmd_sorted_set_ranges.rs` `zrange_collect`, `readonly_batch.rs`
`lock_free_zrange_response` -/
def zrangeCollect (minRaw maxRaw : Bytes) (o : ZrangeOptions)
    (scores : Finmap fun _ : Bytes => Score) : Except RespFrame (List SortedSetEntry) :=
  match zrangeEntries env fail scores minRaw maxRaw o.mode o.rev with
  | .error response => .error response
  | .ok selected => zrangeLimit fail selected o.limit

/-- The answer of the commands that reply a range. -/
def zrangeReply (minRaw maxRaw : Bytes) (o : ZrangeOptions)
    (scores : Finmap fun _ : Bytes => Score) : RespFrame :=
  match zrangeCollect env fail minRaw maxRaw o scores with
  | .error response => response
  | .ok selected => entriesToResp env selected o.withScores

end ranges

/-! ## Handlers -/

section handlers

variable (env : ReadEnv) (err : Bytes → RespFrame) (now : Int64)

/-- Source: `mod.rs` `wrong_arity` -/
def arityReply (command : ReadCommand) : FastQuery :=
  .reply (err (wrongArityText (ascii command.arityName)))

/-- A length, `as i64`. -/
def sizeReply (n : Nat) : RespFrame := .integer (Int64.ofNat n)

/-- Source: `cmd_connection_session.rs` `cmd_ping`, but for the report on health -/
def cmdPing : List Bytes → Option FastQuery
  | [] => some (.reply (.simpleStr "PONG"))
  | [message] =>
    if eqIgnoreCase message "HEALTH" then none else some (.reply (.bulkString (some message)))
  | _ => some (arityReply err .ping)

/-- Source: `cmd_connection_session.rs` `cmd_echo` -/
def cmdEcho : List Bytes → FastQuery
  | [message] => .reply (.bulkString (some message))
  | _ => arityReply err .echo

/-- Source: `cmd_server.rs` `cmd_time` -/
def cmdTime : List Bytes → FastQuery
  | [] =>
    let totalUs := clampI64 env.clockUs
    let sec := totalUs / 1000000
    let micro := totalUs - saturatingMul sec 1000000
    .reply (.array [.bulkString (some (decimalInt sec.toInt)),
      .bulkString (some (decimalInt micro.toInt))])
  | _ => arityReply err .time

/-- Source: `cmd_server.rs` `cmd_dbsize` -/
def cmdDbsize : List Bytes → FastQuery
  | [] => .dbsize
  | _ => arityReply err .dbsize

/-- Source: `cmd_generic.rs` `cmd_type` -/
def cmdType : List Bytes → FastQuery
  | [key] => oneKeyQuery key fun
      | some entry => .simpleStr (typeName entry.value)
      | none => .simpleStr "none"
  | _ => arityReply err .type

/-- Source: `cmd_key.rs` `cmd_exists` -/
def cmdExists : List Bytes → FastQuery
  | [] => arityReply err .exists
  | keys => .keys keys fun entries => sizeReply (entries.countP Option.isSome)

/-! ### Strings -/

/-- Source: `cmd_string.rs` `cmd_mget` -/
def cmdMget : List Bytes → FastQuery
  | [] => arityReply err .mget
  | keys => .keys keys fun entries =>
    .array (entries.map fun entry => .bulkString (entry.bind asStringBytes))

/-- Source: `cmd_string.rs` `cmd_strlen` -/
def cmdStrlen : List Bytes → FastQuery
  | [key] => oneKeyQuery key (fromString (.integer 0) fun s => sizeReply s.length)
  | _ => arityReply err .strlen

/-- Source: `cmd_string.rs` `cmd_getrange` -/
def cmdGetrange : List Bytes → FastQuery
  | [key, startRaw, stopRaw] =>
    match parseI64 startRaw, parseI64 stopRaw with
    | some start, some stop =>
      oneKeyQuery key (fromString (.bulkStr "") fun s =>
        match normalizeStringRange s.length start stop with
        | none => .bulkStr ""
        | some range => .bulkString (some (slice s range)))
    | _, _ => .reply (err notIntegerText)
  | _ => arityReply err .getrange

/-- The text of a bit offset that is refused. -/
def bitOffsetText : Bytes := ascii "ERR bit offset is not an integer or out of range"

/-- Source: `cmd_bitmap.rs` `cmd_getbit` -/
def cmdGetbit : List Bytes → FastQuery
  | [key, offsetRaw] =>
    match parseI64 offsetRaw with
    | none => .reply (err bitOffsetText)
    | some offset =>
      if offset < 0 then .reply (err bitOffsetText)
      else oneKeyQuery key (fromString (.integer 0) fun data =>
        sizeReply (getBit data offset.toInt.toNat))
  | _ => arityReply err .getbit

/-- Source: `cmd_bitmap.rs` and `readonly_batch.rs` `popcount_byte` -/
def popcountByte (byte : UInt8) : Nat := (List.range 8).countP fun i => byte.toNat.testBit i

/-- The set bits of some bytes. -/
def popcount (data : Bytes) : RespFrame := sizeReply (data.map popcountByte).sum

/-- The set bits of a range of bits. -/
def countBits (data : Bytes) (range : Nat × Nat) : RespFrame :=
  sizeReply ((List.range' range.1 (range.2 - range.1 + 1)).map (getBit data)).sum

/-- Whether the last argument of `BITCOUNT` asks for bits.
Source: `cmd_bitmap.rs` `cmd_bitcount` -/
def bitcountUnit : Option Bytes → Option Bool
  | none => some false
  | some raw =>
    if toUppercase raw = ascii "BYTE" then some false
    else if toUppercase raw = ascii "BIT" then some true
    else none

/-- The part of `BITCOUNT` with a range, after the key is read. -/
def bitcountRange (startRaw stopRaw : Bytes) (unitRaw : Option Bytes) (data : Bytes) : RespFrame :=
  match parseI64 startRaw, parseI64 stopRaw with
  | some start, some stop =>
    match bitcountUnit unitRaw with
    | none => err syntaxErrorText
    | some true =>
      -- `len * 8` of a `usize`
      (normalizeStringRange (data.length * 8 % 2 ^ 64) start stop).elim (.integer 0)
        (countBits data)
    | some false =>
      (normalizeStringRange data.length start stop).elim (.integer 0) fun range =>
        popcount (slice data range)
  | _, _ => err notIntegerText

/-- Source: `cmd_bitmap.rs` `cmd_bitcount` -/
def cmdBitcount : List Bytes → FastQuery
  | [key] => oneKeyQuery key (fromString (.integer 0) fun data =>
    if data = [] then .integer 0 else popcount data)
  | [key, startRaw, stopRaw] => oneKeyQuery key (fromString (.integer 0) fun data =>
    if data = [] then .integer 0 else bitcountRange err startRaw stopRaw none data)
  | [key, startRaw, stopRaw, unitRaw] => oneKeyQuery key (fromString (.integer 0) fun data =>
    if data = [] then .integer 0 else bitcountRange err startRaw stopRaw (some unitRaw) data)
  | _ => arityReply err .bitcount

/-! ### Hashes -/

/-- Source: `cmd_hash_read.rs` `cmd_hget` -/
def cmdHget : List Bytes → FastQuery
  | [key, field] =>
    oneKeyQuery key (fromHash (.bulkString none) fun fields =>
      .bulkString ((liveField fields field now).map HashFieldEntry.value))
  | _ => arityReply err .hget

/-- Source: `cmd_hash_read.rs` `cmd_hmget` -/
def cmdHmget : List Bytes → FastQuery
  | key :: first :: more =>
    oneKeyQuery key (fromHash (.array ((first :: more).map fun _ => .bulkString none))
      fun fields => .array ((first :: more).map fun field =>
        .bulkString ((liveField fields field now).map HashFieldEntry.value)))
  | _ => arityReply err .hmget

/-- Source: `cmd_hash_read.rs` `cmd_hgetall` -/
def cmdHgetall : List Bytes → FastQuery
  | [key] =>
    oneKeyQuery key (fromHash (.map []) fun fields =>
      .map ((liveFields env fields now).map fun field =>
        (.bulkString (some field.1), .bulkString (some field.2.value))))
  | _ => arityReply err .hgetall

/-- Source: `cmd_hash_read.rs` `cmd_hkeys` -/
def cmdHkeys : List Bytes → FastQuery
  | [key] =>
    oneKeyQuery key (fromHash (.array []) fun fields =>
      .array ((liveFields env fields now).map fun field => .bulkString (some field.1)))
  | _ => arityReply err .hkeys

/-- Source: `cmd_hash_read.rs` `cmd_hvals` -/
def cmdHvals : List Bytes → FastQuery
  | [key] =>
    oneKeyQuery key (fromHash (.array []) fun fields =>
      .array ((liveFields env fields now).map fun field => .bulkString (some field.2.value)))
  | _ => arityReply err .hvals

/-- Source: `cmd_hash_read.rs` `cmd_hexists` -/
def cmdHexists : List Bytes → FastQuery
  | [key, field] =>
    oneKeyQuery key (fromHash (.integer 0) fun fields =>
      flagReply (liveField fields field now).isSome)
  | _ => arityReply err .hexists

/-- Source: `cmd_hash_read.rs` `cmd_hlen` -/
def cmdHlen : List Bytes → FastQuery
  | [key] =>
    oneKeyQuery key (fromHash (.integer 0) fun fields =>
      sizeReply (fields.keys.filter fun field => (liveField fields field now).isSome).card)
  | _ => arityReply err .hlen

/-- Source: `cmd_hash_read.rs` `cmd_hstrlen` -/
def cmdHstrlen : List Bytes → FastQuery
  | [key, field] =>
    oneKeyQuery key (fromHash (.integer 0) fun fields =>
      sizeReply ((liveField fields field now).elim 0 fun entry => entry.value.length))
  | _ => arityReply err .hstrlen

/-! ### Sets and lists -/

/-- Source: `cmd_set.rs` `cmd_sismember` -/
def cmdSismember : List Bytes → FastQuery
  | [key, member] =>
    oneKeyQuery key (fromSet (.integer 0) fun members => flagReply (member ∈ members))
  | _ => arityReply err .sismember

/-- Source: `cmd_set.rs` `cmd_smismember` -/
def cmdSmismember : List Bytes → FastQuery
  | key :: first :: more =>
    oneKeyQuery key (fromSet (.array ((first :: more).map fun _ => .integer 0)) fun members =>
      .array ((first :: more).map fun member => flagReply (member ∈ members)))
  | _ => arityReply err .smismember

/-- Source: `cmd_set.rs` `cmd_scard` -/
def cmdScard : List Bytes → FastQuery
  | [key] => oneKeyQuery key (fromSet (.integer 0) fun members => sizeReply members.card)
  | _ => arityReply err .scard

/-- Source: `cmd_list.rs` `cmd_llen` -/
def cmdLlen : List Bytes → FastQuery
  | [key] => oneKeyQuery key (fromList (.integer 0) fun items => sizeReply items.length)
  | _ => arityReply err .llen

/-- Source: `cmd_list.rs` `cmd_lindex` -/
def cmdLindex : List Bytes → FastQuery
  | [key, indexRaw] =>
    match parseI64 indexRaw with
    | none => .reply (err notIntegerText)
    | some rawIndex =>
      oneKeyQuery key (fromList (.bulkString none) fun items =>
        let len := Int64.ofNat items.length
        let index := if rawIndex < 0 then saturatingAdd len rawIndex else rawIndex
        if index < 0 ∨ len ≤ index then .bulkString none
        else .bulkString items[index.toInt.toNat]?)
  | _ => arityReply err .lindex

/-- Source: `cmd_list.rs` `cmd_lrange` -/
def cmdLrange : List Bytes → FastQuery
  | [key, startRaw, stopRaw] =>
    match parseI64 startRaw, parseI64 stopRaw with
    | some start, some stop =>
      oneKeyQuery key (fromList (.array []) fun items =>
        match normalizeRange items.length start stop with
        | none => .array []
        | some range => .array ((slice items range).map fun item => .bulkString (some item)))
    | _, _ => .reply (err notIntegerText)
  | _ => arityReply err .lrange

/-! ### Expiry -/

/-- Source: `expiry.rs` `TtlMode` and `ExpireTimeMode` -/
inductive TtlMode where
  | seconds | milliseconds
  deriving Repr, DecidableEq

/-- A number of milliseconds, in a unit. -/
def TtlMode.convert : TtlMode → Int64 → Int64
  | .seconds, ms => ms / 1000
  | .milliseconds, ms => ms

/-- A key that has no time left was dropped before; that it would be removed here is left out.
Source: `cmd_key.rs` `cmd_ttl_with_mode` -/
def cmdTtlWithMode (mode : TtlMode) (command : ReadCommand) : List Bytes → FastQuery
  | [key] => oneKeyQuery key fun
      | none => .integer (-2)
      | some entry =>
        match entry.expireAtMs with
        | none => .integer (-1)
        | some expireAtMs =>
          let left := remainingMs now expireAtMs
          if left ≤ 0 then .integer (-2) else .integer (mode.convert left)
  | _ => arityReply err command

/-- Source: `cmd_key.rs` `cmd_expiretime_with_mode` -/
def cmdExpiretimeWithMode (mode : TtlMode) (command : ReadCommand) : List Bytes → FastQuery
  | [key] => oneKeyQuery key fun
      | none => .integer (-2)
      | some entry =>
        match entry.expireAtMs with
        | none => .integer (-1)
        | some expireAtMs => .integer (mode.convert expireAtMs)
  | _ => arityReply err command

/-! ### Sorted sets -/

/-- A score as it is replied. -/
def scoreReply (score : Option Score) : RespFrame := .bulkString (score.map env.formatScore)

/-- Source: `cmd_sorted_set.rs` `cmd_zscore` -/
def cmdZscore : List Bytes → FastQuery
  | [key, member] =>
    oneKeyQuery key (fromSortedSet (.bulkString none) fun scores =>
      scoreReply env (scores.lookup member))
  | _ => arityReply err .zscore

/-- Source: `cmd_sorted_set.rs` `cmd_zcard` -/
def cmdZcard : List Bytes → FastQuery
  | [key] => oneKeyQuery key (fromSortedSet (.integer 0) fun scores => sizeReply scores.keys.card)
  | _ => arityReply err .zcard

/-- Source: `cmd_sorted_set.rs` `cmd_zmscore` -/
def cmdZmscore : List Bytes → FastQuery
  | key :: first :: more =>
    oneKeyQuery key (fromSortedSet (.array ((first :: more).map fun _ => .bulkString none))
      fun scores => .array ((first :: more).map fun member =>
        scoreReply env (scores.lookup member)))
  | _ => arityReply err .zmscore

/-- Source: `cmd_sorted_set_ranges.rs` `cmd_zcount` -/
def cmdZcount : List Bytes → FastQuery
  | [key, minRaw, maxRaw] =>
    match ScoreBound.parse env.parseFloat minRaw, ScoreBound.parse env.parseFloat maxRaw with
    | some min, some max =>
      oneKeyQuery key (fromSortedSet (.integer 0) fun scores =>
        sizeReply (rangeByScore (sortedEntries scores) min max).length)
    | _, _ => .reply (err notFloatText)
  | _ => arityReply err .zcount

/-- Source: `cmd_sorted_set_ranges.rs` `cmd_zlexcount` -/
def cmdZlexcount : List Bytes → FastQuery
  | [key, minRaw, maxRaw] =>
    match LexBound.parse minRaw, LexBound.parse maxRaw with
    | some min, some max =>
      oneKeyQuery key (fromSortedSet (.integer 0) fun scores =>
        sizeReply ((sortedEntries scores).filter fun e =>
          memberInLexRange e.member min max).length)
    | _, _ => .reply (err notLexText)
  | _ => arityReply err .zlexcount

/-- The end of the commands that reply a range, after their options are read. -/
def zrangeQuery (key minRaw maxRaw : Bytes) (o : ZrangeOptions) : FastQuery :=
  oneKeyQuery key (fromSortedSet (.array []) (zrangeReply env err minRaw maxRaw o))

/-- Source: `cmd_sorted_set_ranges.rs` `parse_zrange_options` -/
def parseZrangeOptions (options : List Bytes) : Except RespFrame ZrangeOptions :=
  zrangeOptions err options ⟨.byRank, false, none, false⟩

/-- Source: `cmd_sorted_set_ranges.rs` `cmd_zrange` -/
def cmdZrange : List Bytes → FastQuery
  | key :: minRaw :: maxRaw :: options =>
    match parseZrangeOptions err options with
    | .error response => .reply response
    | .ok o => zrangeQuery env err key minRaw maxRaw o
  | _ => arityReply err .zrange

/-- The loop over `WITHSCORES` and `LIMIT`.
Source: `cmd_sorted_set_ranges.rs` `cmd_zrangebyscore`, `cmd_zrevrangebyscore` -/
def limitWithScores : List Bytes → ZrangeOptions → Except RespFrame ZrangeOptions
  | [], o => .ok o
  | option :: rest, o =>
    if toUppercase option = ascii "WITHSCORES" then
      limitWithScores rest { o with withScores := true }
    else if toUppercase option = ascii "LIMIT" then
      match rest with
      | offsetRaw :: countRaw :: rest =>
        match parseLimit err offsetRaw countRaw with
        | .error response => .error response
        | .ok limit => limitWithScores rest { o with limit := some limit }
      | _ => .error (err syntaxErrorText)
    else .error (err syntaxErrorText)

/-- The loop over `LIMIT`.
Source: `cmd_sorted_set_ranges.rs` `cmd_zrangebylex`, `cmd_zrevrangebylex` -/
def limitOnly : List Bytes → ZrangeOptions → Except RespFrame ZrangeOptions
  | [], o => .ok o
  | option :: rest, o =>
    if toUppercase option = ascii "LIMIT" then
      match rest with
      | offsetRaw :: countRaw :: rest =>
        match parseLimit err offsetRaw countRaw with
        | .error response => .error response
        | .ok limit => limitOnly rest { o with limit := some limit }
      | _ => .error (err syntaxErrorText)
    else .error (err syntaxErrorText)

/-- Source: `cmd_sorted_set_ranges.rs` `cmd_zrangebyscore` -/
def cmdZrangebyscore : List Bytes → FastQuery
  | key :: minRaw :: maxRaw :: options =>
    match limitWithScores err options ⟨.byScore, false, none, false⟩ with
    | .error response => .reply response
    | .ok o => zrangeQuery env err key minRaw maxRaw o
  | _ => arityReply err .zrangebyscore

/-- `zrange_collect` expects the higher bound first if the order is descending; here it gets the
lower one first.
Source: `cmd_sorted_set_ranges.rs` `cmd_zrevrangebyscore` -/
def cmdZrevrangebyscore : List Bytes → FastQuery
  | key :: maxRaw :: minRaw :: options =>
    match limitWithScores err options ⟨.byScore, true, none, false⟩ with
    | .error response => .reply response
    | .ok o => zrangeQuery env err key minRaw maxRaw o
  | _ => arityReply err .zrevrangebyscore

/-- Source: `cmd_sorted_set_ranges.rs` `cmd_zrangebylex` -/
def cmdZrangebylex : List Bytes → FastQuery
  | key :: minRaw :: maxRaw :: options =>
    match limitOnly err options ⟨.byLex, false, none, false⟩ with
    | .error response => .reply response
    | .ok o => zrangeQuery env err key minRaw maxRaw o
  | _ => arityReply err .zrangebylex

/-- The bounds are in the order of `cmd_zrevrangebyscore`.
Source: `cmd_sorted_set_ranges.rs` `cmd_zrevrangebylex` -/
def cmdZrevrangebylex : List Bytes → FastQuery
  | key :: maxRaw :: minRaw :: options =>
    match limitOnly err options ⟨.byLex, true, none, false⟩ with
    | .error response => .reply response
    | .ok o => zrangeQuery env err key minRaw maxRaw o
  | _ => arityReply err .zrevrangebylex

/-- Source: `cmd_sorted_set_ranges.rs` `cmd_zrevrange` -/
def cmdZrevrange : List Bytes → FastQuery
  | [key, startRaw, stopRaw] =>
    zrangeQuery env err key startRaw stopRaw ⟨.byRank, true, none, false⟩
  | [key, startRaw, stopRaw, option] =>
    if eqIgnoreCase option "WITHSCORES" then
      zrangeQuery env err key startRaw stopRaw ⟨.byRank, true, none, true⟩
    else .reply (err syntaxErrorText)
  | _ :: _ :: _ :: _ => .reply (err syntaxErrorText)
  | _ => arityReply err .zrevrange

/-- Source: `cmd_sorted_set_ranges.rs` `cmd_zrank` -/
def cmdZrank : List Bytes → FastQuery
  | [key, member] =>
    oneKeyQuery key (fromSortedSet (.bulkString none) fun scores =>
      (rankOf scores member).elim (.bulkString none) sizeReply)
  | _ => arityReply err .zrank

/-- Source: `cmd_sorted_set_ranges.rs` `cmd_zrevrank` -/
def cmdZrevrank : List Bytes → FastQuery
  | [key, member] =>
    oneKeyQuery key (fromSortedSet (.bulkString none) fun scores =>
      (revRankOf scores member).elim (.bulkString none) sizeReply)
  | _ => arityReply err .zrevrank

end handlers

/-! ## The commands by name -/

/-- The commands by name.
Source: `mod.rs` `execute_argv_inner`, `readonly_batch.rs` `is_lock_free_fast_command_name` -/
def readCommands : List (Bytes × ReadCommand) :=
  [(ascii "PING", .ping), (ascii "ECHO", .echo), (ascii "TIME", .time), (ascii "DBSIZE", .dbsize),
    (ascii "TYPE", .type), (ascii "EXISTS", .exists), (ascii "GET", .get), (ascii "MGET", .mget),
    (ascii "STRLEN", .strlen), (ascii "BITCOUNT", .bitcount), (ascii "GETBIT", .getbit),
    (ascii "GETRANGE", .getrange), (ascii "SUBSTR", .substr), (ascii "HGET", .hget),
    (ascii "HMGET", .hmget), (ascii "HGETALL", .hgetall), (ascii "HKEYS", .hkeys),
    (ascii "HVALS", .hvals), (ascii "HEXISTS", .hexists), (ascii "HLEN", .hlen),
    (ascii "HSTRLEN", .hstrlen), (ascii "SISMEMBER", .sismember),
    (ascii "SMISMEMBER", .smismember), (ascii "SCARD", .scard), (ascii "LLEN", .llen),
    (ascii "LINDEX", .lindex), (ascii "LRANGE", .lrange), (ascii "TTL", .ttl),
    (ascii "PTTL", .pttl), (ascii "EXPIRETIME", .expiretime),
    (ascii "PEXPIRETIME", .pexpiretime), (ascii "ZSCORE", .zscore), (ascii "ZCARD", .zcard),
    (ascii "ZMSCORE", .zmscore), (ascii "ZCOUNT", .zcount), (ascii "ZLEXCOUNT", .zlexcount),
    (ascii "ZRANGE", .zrange), (ascii "ZRANGEBYSCORE", .zrangebyscore),
    (ascii "ZREVRANGEBYSCORE", .zrevrangebyscore), (ascii "ZRANGEBYLEX", .zrangebylex),
    (ascii "ZREVRANGEBYLEX", .zrevrangebylex), (ascii "ZREVRANGE", .zrevrange),
    (ascii "ZRANK", .zrank), (ascii "ZREVRANK", .zrevrank)]

/-- The handler of a command; none for `GET`, which is a data command, and for a report on health.
Source: `mod.rs` `execute_argv_inner` -/
def ReadCommand.handler (env : ReadEnv) (err : Bytes → RespFrame) (now : Int64)
    (command : ReadCommand) (args : List Bytes) : Option FastQuery :=
  match command with
  | .ping => cmdPing err args
  | .echo => some (cmdEcho err args)
  | .time => some (cmdTime env err args)
  | .dbsize => some (cmdDbsize err args)
  | .type => some (cmdType err args)
  | .exists => some (cmdExists err args)
  | .get => none
  | .mget => some (cmdMget err args)
  | .strlen => some (cmdStrlen err args)
  | .bitcount => some (cmdBitcount err args)
  | .getbit => some (cmdGetbit err args)
  | .getrange | .substr => some (cmdGetrange err args)
  | .hget => some (cmdHget err now args)
  | .hmget => some (cmdHmget err now args)
  | .hgetall => some (cmdHgetall env err now args)
  | .hkeys => some (cmdHkeys env err now args)
  | .hvals => some (cmdHvals env err now args)
  | .hexists => some (cmdHexists err now args)
  | .hlen => some (cmdHlen err now args)
  | .hstrlen => some (cmdHstrlen err now args)
  | .sismember => some (cmdSismember err args)
  | .smismember => some (cmdSmismember err args)
  | .scard => some (cmdScard err args)
  | .llen => some (cmdLlen err args)
  | .lindex => some (cmdLindex err args)
  | .lrange => some (cmdLrange err args)
  | .ttl => some (cmdTtlWithMode err now .seconds .ttl args)
  | .pttl => some (cmdTtlWithMode err now .milliseconds .pttl args)
  | .expiretime => some (cmdExpiretimeWithMode err .seconds .expiretime args)
  | .pexpiretime => some (cmdExpiretimeWithMode err .milliseconds .pexpiretime args)
  | .zscore => some (cmdZscore env err args)
  | .zcard => some (cmdZcard err args)
  | .zmscore => some (cmdZmscore env err args)
  | .zcount => some (cmdZcount env err args)
  | .zlexcount => some (cmdZlexcount err args)
  | .zrange => some (cmdZrange env err args)
  | .zrangebyscore => some (cmdZrangebyscore env err args)
  | .zrevrangebyscore => some (cmdZrevrangebyscore env err args)
  | .zrangebylex => some (cmdZrangebylex env err args)
  | .zrevrangebylex => some (cmdZrevrangebylex env err args)
  | .zrevrange => some (cmdZrevrange env err args)
  | .zrank => some (cmdZrank err args)
  | .zrevrank => some (cmdZrevrank err args)

/-! ## On a database -/

/-- The loop over the keys. -/
def lookupKeys (now : Int64) : List Bytes → Db → Db × List (Option Entry)
  | [], db => (db, [])
  | key :: rest, db =>
    let db := purgeExpiredKey db key now
    let entry := db.lookup key
    let (db, entries) := lookupKeys now rest db
    (db, entry :: entries)

/-- Source: `keyspace.rs` `DbWriteGuard::purge_expired_keys` -/
def purgeExpiredKeys (db : Db) (now : Int64) : Db :=
  (expiredKeys db now).foldl (fun db key => purgeExpiredKey db key now) db

/-- The database and the answer after a query. -/
def FastQuery.onDb (now : Int64) (query : FastQuery) (db : Db) : Db × RespFrame :=
  match query with
  | .reply response => (db, response)
  | .keys names answer =>
    let (db, entries) := lookupKeys now names db
    (db, answer entries)
  | .dbsize =>
    let db := purgeExpiredKeys db now
    (db, sizeReply db.keys.card)

/-- The engine with the handlers of the reads. -/
def Backend.withReads {σ κ : Type} (b : Backend σ κ) (env : ReadEnv) : Backend σ κ :=
  { b with
    handler := fun r now store session =>
      match (readCommands.lookup r.command).bind fun command =>
          command.handler env b.err now r.args with
      | none => b.handler r now store session
      | some query =>
        let (db, response) := query.onDb now (store.dbs session.selectedDb)
        let dbs := Function.update store.dbs session.selectedDb db
        ({ store with dbs := dbs, rest := b.noteData r store dbs }, session.rest,
          .reply response) }

end Ratatosk.Engine
