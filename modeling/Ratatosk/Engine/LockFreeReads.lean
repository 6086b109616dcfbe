import Ratatosk.Engine.AclPolicy
import Ratatosk.Engine.ReadCommands
import Ratatosk.Engine.Sanitize

/-!
# Reads without the lock, against the handlers

`try_execute_lock_free_fast_command` of `ratatosk-server/src/client/readonly_batch.rs` with the
commands that `Engine.LockFree` leaves out, and command by command what it shares with the handlers
of `Engine.ReadCommands`.

* `fastZrange`, `fastBitcount` and the like — the remaining commands; `ReadCommand.lockFree` — all
  of them.
* `FastQuery.Agrees` — two queries read the same keys and answer the same, from values that fit in
  memory (`InMemory`): the handlers cut a length to an `i64` where these reads clamp it.
* `Plainly` — error texts are replied as they are: the handlers pass them through
  `sanitize_error_message`, and these reads do not.
* `agrees_one`, `agrees_two`, `agrees_more` — commands that differ in their queries only;
  `agrees_zrange` and the like — the others, one by one.
-/

namespace Ratatosk.Engine

open Lib Keyspace Resp

/-! ## The remaining commands -/

section commands

variable (env : ReadEnv) (now : Int64)

/-- `TIME`. -/
def fastTime : List Bytes → FastQuery
  | [] =>
    let sec := env.clockUs / 1000000
    let micro := env.clockUs - sec * 1000000
    .reply (.array [.bulkString (some (decimal sec)), .bulkString (some (decimal micro))])
  | _ => fastArity "time"

/-- Whether the last argument of `BITCOUNT` asks for bits. -/
def fastBitcountUnit : Option Bytes → Option Bool
  | none => some false
  | some raw =>
    if eqIgnoreCase raw "BYTE" then some false
    else if eqIgnoreCase raw "BIT" then some true
    else none

/-- The part of `BITCOUNT` with a range, after the key is read. -/
def fastBitcountRange (startRaw stopRaw : Bytes) (unitRaw : Option Bytes) (data : Bytes) :
    RespFrame :=
  match parseI64 startRaw, parseI64 stopRaw with
  | some start, some stop =>
    match fastBitcountUnit unitRaw with
    | none => .error syntaxErrorText
    | some true =>
      -- `saturating_mul` of a `usize`
      (normalizeStringRange (min (data.length * 8) (2 ^ 64 - 1)) start stop).elim (.integer 0)
        (countBits data)
    | some false =>
      (normalizeStringRange data.length start stop).elim (.integer 0) fun range =>
        popcount (slice data range)
  | _, _ => .error notIntegerText

/-- `BITCOUNT`. -/
def fastBitcount : List Bytes → FastQuery
  | [key] => oneKeyQuery key (fromString (.integer 0) fun data =>
    if data = [] then .integer 0 else popcount data)
  | [key, startRaw, stopRaw] => oneKeyQuery key (fromString (.integer 0) fun data =>
    if data = [] then .integer 0 else fastBitcountRange startRaw stopRaw none data)
  | [key, startRaw, stopRaw, unitRaw] => oneKeyQuery key (fromString (.integer 0) fun data =>
    if data = [] then .integer 0 else fastBitcountRange startRaw stopRaw (some unitRaw) data)
  | _ => fastArity "bitcount"

/-- `HMGET`. -/
def fastHmget : List Bytes → FastQuery
  | key :: first :: more =>
    oneKeyQuery key (fromHash (.array ((first :: more).map fun _ => .bulkString none))
      fun fields => .array ((first :: more).map fun field =>
        .bulkString ((liveField fields field now).map HashFieldEntry.value)))
  | _ => fastArity "hmget"

/-- `HGETALL`. -/
def fastHgetall : List Bytes → FastQuery
  | [key] =>
    oneKeyQuery key (fromHash (.map []) fun fields =>
      .map ((liveFields env fields now).map fun field =>
        (.bulkString (some field.1), .bulkString (some field.2.value))))
  | _ => fastArity "hgetall"

/-- `HKEYS`. -/
def fastHkeys : List Bytes → FastQuery
  | [key] =>
    oneKeyQuery key (fromHash (.array []) fun fields =>
      .array ((liveFields env fields now).map fun field => .bulkString (some field.1)))
  | _ => fastArity "hkeys"

/-- `HVALS`. -/
def fastHvals : List Bytes → FastQuery
  | [key] =>
    oneKeyQuery key (fromHash (.array []) fun fields =>
      .array ((liveFields env fields now).map fun field => .bulkString (some field.2.value)))
  | _ => fastArity "hvals"

/-- `ZSCORE`. -/
def fastZscore : List Bytes → FastQuery
  | [key, member] =>
    oneKeyQuery key (fromSortedSet (.bulkString none) fun scores =>
      scoreReply env (scores.lookup member))
  | _ => fastArity "zscore"

/-- `ZCARD`. -/
def fastZcard : List Bytes → FastQuery
  | [key] => oneKeyQuery key (fromSortedSet (.integer 0) fun scores => countReply scores.keys.card)
  | _ => fastArity "zcard"

/-- `ZMSCORE`. -/
def fastZmscore : List Bytes → FastQuery
  | key :: first :: more =>
    oneKeyQuery key (fromSortedSet (.array ((first :: more).map fun _ => .bulkString none))
      fun scores => .array ((first :: more).map fun member =>
        scoreReply env (scores.lookup member)))
  | _ => fastArity "zmscore"

/-- `ZCOUNT`. -/
def fastZcount : List Bytes → FastQuery
  | [key, minRaw, maxRaw] =>
    match ScoreBound.parse env.parseFloat minRaw, ScoreBound.parse env.parseFloat maxRaw with
    | some min, some max =>
      oneKeyQuery key (fromSortedSet (.integer 0) fun scores =>
        countReply (rangeByScore (sortedEntries scores) min max).length)
    | _, _ => .reply (.error notFloatText)
  | _ => fastArity "zcount"

/-- `ZLEXCOUNT`. -/
def fastZlexcount : List Bytes → FastQuery
  | [key, minRaw, maxRaw] =>
    match LexBound.parse minRaw, LexBound.parse maxRaw with
    | some min, some max =>
      oneKeyQuery key (fromSortedSet (.integer 0) fun scores =>
        countReply ((sortedEntries scores).filter fun e =>
          memberInLexRange e.member min max).length)
    | _, _ => .reply (.error notLexText)
  | _ => fastArity "zlexcount"

/-- Source: `lock_free_zrange_response` -/
def lockFreeZrangeResponse : Bytes → Bytes → Bytes → ZrangeOptions → FastQuery :=
  zrangeQuery env .error

/-- Source: `parse_lock_free_zrange_options` -/
def parseLockFreeZrangeOptions (options : List Bytes) : Except RespFrame ZrangeOptions :=
  zrangeOptions .error options ⟨.byRank, false, none, false⟩

/-- `ZRANGE`. -/
def fastZrange : List Bytes → FastQuery
  | key :: minRaw :: maxRaw :: options =>
    match parseLockFreeZrangeOptions options with
    | .error response => .reply response
    | .ok o => lockFreeZrangeResponse env key minRaw maxRaw o
  | _ => fastArity "zrange"

/-- Source: `parse_lock_free_limit_with_scores_options` -/
def lockFreeLimitWithScores : List Bytes → ZrangeOptions → Except RespFrame ZrangeOptions
  | [], o => .ok o
  | option :: rest, o =>
    if eqIgnoreCase option "WITHSCORES" then
      lockFreeLimitWithScores rest { o with withScores := true }
    else if eqIgnoreCase option "LIMIT" then
      match rest with
      | offsetRaw :: countRaw :: rest =>
        match parseLimit .error offsetRaw countRaw with
        | .error response => .error response
        | .ok limit => lockFreeLimitWithScores rest { o with limit := some limit }
      | _ => .error (.error syntaxErrorText)
    else .error (.error syntaxErrorText)

/-- Source: `parse_lock_free_limit_only_options` -/
def lockFreeLimitOnly : List Bytes → ZrangeOptions → Except RespFrame ZrangeOptions
  | [], o => .ok o
  | option :: rest, o =>
    if !eqIgnoreCase option "LIMIT" then .error (.error syntaxErrorText)
    else match rest with
      | offsetRaw :: countRaw :: rest =>
        match parseLimit .error offsetRaw countRaw with
        | .error response => .error response
        | .ok limit => lockFreeLimitOnly rest { o with limit := some limit }
      | _ => .error (.error syntaxErrorText)

/-- `ZRANGEBYSCORE` and `ZREVRANGEBYSCORE`: the bounds are in the order of the arguments. -/
def fastZrangebyscoreLike (rev : Bool) (command : String) : List Bytes → FastQuery
  | key :: firstRaw :: secondRaw :: options =>
    match lockFreeLimitWithScores options ⟨.byScore, rev, none, false⟩ with
    | .error response => .reply response
    | .ok o => lockFreeZrangeResponse env key firstRaw secondRaw o
  | _ => fastArity command

/-- `ZRANGEBYLEX` and `ZREVRANGEBYLEX`: the bounds are in the order of the arguments. -/
def fastZrangebylexLike (rev : Bool) (command : String) : List Bytes → FastQuery
  | key :: firstRaw :: secondRaw :: options =>
    match lockFreeLimitOnly options ⟨.byLex, rev, none, false⟩ with
    | .error response => .reply response
    | .ok o => lockFreeZrangeResponse env key firstRaw secondRaw o
  | _ => fastArity command

/-- `ZREVRANGE`. -/
def fastZrevrange : List Bytes → FastQuery
  | [key, startRaw, stopRaw] =>
    lockFreeZrangeResponse env key startRaw stopRaw ⟨.byRank, true, none, false⟩
  | [key, startRaw, stopRaw, option] =>
    if eqIgnoreCase option "WITHSCORES" then
      lockFreeZrangeResponse env key startRaw stopRaw ⟨.byRank, true, none, true⟩
    else .reply (.error syntaxErrorText)
  | _ :: _ :: _ :: _ => .reply (.error syntaxErrorText)
  | _ => fastArity "zrevrange"

/-- `ZRANK`. -/
def fastZrank : List Bytes → FastQuery
  | [key, member] =>
    oneKeyQuery key (fromSortedSet (.bulkString none) fun scores =>
      (rankOf scores member).elim (.bulkString none) countReply)
  | _ => fastArity "zrank"

/-- `ZREVRANK`. -/
def fastZrevrank : List Bytes → FastQuery
  | [key, member] =>
    oneKeyQuery key (fromSortedSet (.bulkString none) fun scores =>
      (revRankOf scores member).elim (.bulkString none) countReply)
  | _ => fastArity "zrevrank"

/-- The query of a command; none for a report on health.
Source: `try_execute_lock_free_fast_command` -/
def ReadCommand.lockFree (command : ReadCommand) (args : List Bytes) : Option FastQuery :=
  match command with
  | .ping => fastPing args
  | .echo => some (fastEcho args)
  | .time => some (fastTime env args)
  | .dbsize => some (fastDbsize args)
  | .type => some (fastType args)
  | .exists => some (fastExists args)
  | .get => some (fastGet args)
  | .mget => some (fastMget args)
  | .strlen => some (fastStrlen args)
  | .bitcount => some (fastBitcount args)
  | .getbit => some (fastGetbit args)
  | .getrange | .substr => some (fastGetrange args)
  | .hget => some (fastHget now args)
  | .hmget => some (fastHmget now args)
  | .hgetall => some (fastHgetall env now args)
  | .hkeys => some (fastHkeys env now args)
  | .hvals => some (fastHvals env now args)
  | .hexists => some (fastHexists now args)
  | .hlen => some (fastHlen now args)
  | .hstrlen => some (fastHstrlen now args)
  | .sismember => some (fastSismember args)
  | .smismember => some (fastSmismember args)
  | .scard => some (fastScard args)
  | .llen => some (fastLlen args)
  | .lindex => some (fastLindex args)
  | .lrange => some (fastLrange args)
  | .ttl => some (fastTtl now args)
  | .pttl => some (fastPttl now args)
  | .expiretime => some (fastExpiretime args)
  | .pexpiretime => some (fastPexpiretime args)
  | .zscore => some (fastZscore env args)
  | .zcard => some (fastZcard args)
  | .zmscore => some (fastZmscore env args)
  | .zcount => some (fastZcount env args)
  | .zlexcount => some (fastZlexcount args)
  | .zrange => some (fastZrange env args)
  | .zrangebyscore => some (fastZrangebyscoreLike env false "zrangebyscore" args)
  | .zrevrangebyscore => some (fastZrangebyscoreLike env true "zrevrangebyscore" args)
  | .zrangebylex => some (fastZrangebylexLike env false "zrangebylex" args)
  | .zrevrangebylex => some (fastZrangebylexLike env true "zrevrangebylex" args)
  | .zrevrange => some (fastZrevrange env args)
  | .zrank => some (fastZrank args)
  | .zrevrank => some (fastZrevrank args)

end commands

/-! ## The path -/

section path

variable {σ κ : Type}

/-- Whether a client takes the path, and as whom.
Source: `try_execute_lock_free_fast_command` -/
def lockFreeSession (policy : DefaultAclPolicy) (session : Session κ) : Option (Session κ) :=
  if session.tx.inMulti then none
  else if !session.authenticated then
    if policy.defaultUserIsNopassEnabled && policy.defaultUserHasFullAccess then
      some { session with authenticated := true, aclUser := defaultName }
    else none
  else if session.aclUser ≠ defaultName ∨ !policy.defaultUserHasFullAccess then none
  else some session

/-- The statistics and what the client's record says of the command are left open, as `note`.
Source: `try_execute_lock_free_fast_command` -/
def tryExecuteLockFree (b : Backend σ κ) (env : ReadEnv)
    (note : Request → RespFrame → σ → κ → σ × κ) (r : Request) (now : Int64)
    (policy : DefaultAclPolicy) (store : Store σ) (session : Session κ) :
    Option (Store σ × Session κ × CommandOutcome) :=
  match lockFreeSession policy session, readCommands.lookup r.command with
  | some session, some command =>
    (command.lockFree env now r.args).map fun query =>
      let (store, response) := query.run b now session.selectedDb store
      let (rest, sessionRest) := note r response store.rest session.rest
      ({ store with rest := rest }, { session with rest := sessionRest }, .reply response)
  | _, _ => none

end path

/-! ## Agreement -/

/-- The value fits in the memory of the machine: an address has fewer than sixty bits. -/
def InMemory : Value → Prop
  | .string bytes => bytes.length < 2 ^ 60
  | .hash fields => fields.keys.card < 2 ^ 60 ∧
      ∀ field entry, fields.lookup field = some entry → entry.value.length < 2 ^ 60
  | .list items => items.length < 2 ^ 60
  | .set members => members.card < 2 ^ 60
  | .sortedSet scores => scores.keys.card < 2 ^ 60
  | .stream _ _ _ => True

/-- Every value of a database fits in memory. -/
def DbInMemory (db : Db) : Prop := ∀ key entry, db.lookup key = some entry → InMemory entry.value

/-- Two queries ask for the same keys and answer the same from values that fit in memory. -/
def FastQuery.Agrees : FastQuery → FastQuery → Prop
  | .reply response, .reply response' => response = response'
  | .keys names answer, .keys names' answer' => names = names' ∧
      ∀ entries, (∀ entry ∈ entries, ∀ e ∈ entry, InMemory e.value) →
        answer entries = answer' entries
  | .dbsize, .dbsize => True
  | _, _ => False

lemma FastQuery.Agrees.refl (query : FastQuery) : query.Agrees query := by
  cases query with
  | reply response => rfl
  | keys names answer => exact ⟨rfl, fun _ _ => rfl⟩
  | dbsize => trivial

/-- Plain error texts are replied as they are. -/
def Plainly (err : Bytes → RespFrame) : Prop := ∀ text, isPlain text = true → err text = .error text

section agreement

variable {env : ReadEnv} {err : Bytes → RespFrame} {now : Int64}

lemma FastQuery.Agrees.oneKey (key : Bytes) {f g : Option Entry → RespFrame}
    (h : ∀ entry, (∀ e ∈ entry, InMemory e.value) → f entry = g entry) :
    (oneKeyQuery key f).Agrees (oneKeyQuery key g) := by
  refine ⟨rfl, fun entries hentries => h _ ?_⟩
  intro e he
  obtain ⟨entry, hhead, hbind⟩ := Option.bind_eq_some_iff.mp he
  exact hentries entry (List.mem_of_head? hhead) e hbind

/-! ### Answers from values -/

section values

variable {absent : RespFrame} {entry : Option Entry}

/-- Answers that agree on values which fit in memory. -/
lemma answer_congr {f g : Option Entry → RespFrame} (hnone : f none = g none)
    (hsome : ∀ value expireAtMs, InMemory value →
      f (some ⟨value, expireAtMs⟩) = g (some ⟨value, expireAtMs⟩))
    (hentry : ∀ e ∈ entry, InMemory e.value) : f entry = g entry := by
  rcases entry with _ | ⟨value, expireAtMs⟩
  · exact hnone
  · exact hsome value expireAtMs (hentry _ rfl)

/-- Answers from strings. -/
lemma fromString_congr {f g : Bytes → RespFrame} (h : ∀ s, s.length < 2 ^ 60 → f s = g s) :
    (∀ e ∈ entry, InMemory e.value) → fromString absent f entry = fromString absent g entry :=
  answer_congr rfl fun value _ hvalue => by
    cases value with
    | string s => exact h s hvalue
    | _ => rfl

/-- Answers from hashes. -/
lemma fromHash_congr {f g : (Finmap fun _ : Bytes => HashFieldEntry) → RespFrame}
    (h : ∀ fields, InMemory (.hash fields) → f fields = g fields) :
    (∀ e ∈ entry, InMemory e.value) → fromHash absent f entry = fromHash absent g entry :=
  answer_congr rfl fun value _ hvalue => by
    cases value with
    | hash fields => exact h fields hvalue
    | _ => rfl

/-- Answers from sets. -/
lemma fromSet_congr {f g : Finset Bytes → RespFrame}
    (h : ∀ members, members.card < 2 ^ 60 → f members = g members) :
    (∀ e ∈ entry, InMemory e.value) → fromSet absent f entry = fromSet absent g entry :=
  answer_congr rfl fun value _ hvalue => by
    cases value with
    | set members => exact h members hvalue
    | _ => rfl

/-- Answers from lists. -/
lemma fromList_congr {f g : List Bytes → RespFrame}
    (h : ∀ items, items.length < 2 ^ 60 → f items = g items) :
    (∀ e ∈ entry, InMemory e.value) → fromList absent f entry = fromList absent g entry :=
  answer_congr rfl fun value _ hvalue => by
    cases value with
    | list items => exact h items hvalue
    | _ => rfl

/-- Answers from sorted sets. -/
lemma fromSortedSet_congr {f g : (Finmap fun _ : Bytes => Score) → RespFrame}
    (h : ∀ scores, scores.keys.card < 2 ^ 60 → f scores = g scores) :
    (∀ e ∈ entry, InMemory e.value) →
      fromSortedSet absent f entry = fromSortedSet absent g entry :=
  answer_congr rfl fun value _ hvalue => by
    cases value with
    | sortedSet scores => exact h scores hvalue
    | _ => rfl

end values

/-! ### Numbers -/

lemma clampI64_eq {n : Nat} (h : n < 2 ^ 63) : clampI64 n = Int64.ofNat n := by
  have hclamp : max (-2 ^ 63) (min (n : Int) (2 ^ 63 - 1)) = n := by omega
  rw [clampI64, hclamp]
  rfl

lemma sizeReply_eq {n : Nat} (h : n < 2 ^ 60) : sizeReply n = countReply n := by
  rw [countReply, clampI64_eq (h.trans (by decide))]
  rfl

lemma ofNat_div {n d : Nat} (hn : n < 2 ^ 63) (hd : d < 2 ^ 63) :
    Int64.ofNat n / Int64.ofNat d = Int64.ofNat (n / d) := by
  have hne : Int64.ofNat d ≠ -1 := by
    intro h
    have hint := congrArg Int64.toInt h
    rw [Int64.toInt_ofNat_of_lt hd, show (-1 : Int64).toInt = -1 from rfl] at hint
    omega
  apply Int64.toInt_inj.mp
  rw [Int64.toInt_div_of_ne_right _ _ hne, Int64.toInt_ofNat_of_lt hn,
    Int64.toInt_ofNat_of_lt hd, Int64.toInt_ofNat_of_lt ((Nat.div_le_self n d).trans_lt hn),
    Int.ofNat_tdiv]

lemma decimalInt_ofNat {n : Nat} (h : n < 2 ^ 63) :
    decimalInt (Int64.ofNat n).toInt = decimal n := by
  rw [Int64.toInt_ofNat_of_lt h]
  rfl

lemma getBit_le_one (data : Bytes) (offset : Nat) : getBit data offset ≤ 1 := by
  rw [getBit]
  cases data[offset / 8]? with
  | none => exact Nat.zero_le 1
  | some byte => exact Nat.lt_succ_iff.mp (Nat.mod_lt _ Nat.two_pos)

/-! ### Error texts -/

lemma isPlain_arity (command : ReadCommand) :
    isPlain (wrongArityText (ascii command.arityName)) = true := by
  cases command <;> decide +kernel

/-- The fixed texts are plain. -/
lemma isPlain_texts : ∀ text ∈ [notIntegerText, syntaxErrorText, notFloatText, notLexText,
    bitOffsetText], isPlain text = true := by
  decide +kernel

section texts

variable (herr : Plainly err)
include herr

/-- A wrong number of arguments. -/
lemma agrees_arity (command : ReadCommand) :
    (arityReply err command).Agrees (fastArity command.arityName) := herr _ (isPlain_arity command)

lemma err_notInteger : err notIntegerText = .error notIntegerText :=
  herr _ (isPlain_texts _ (by simp))

lemma err_syntaxError : err syntaxErrorText = .error syntaxErrorText :=
  herr _ (isPlain_texts _ (by simp))

lemma err_notFloat : err notFloatText = .error notFloatText :=
  herr _ (isPlain_texts _ (by simp))

lemma err_notLex : err notLexText = .error notLexText :=
  herr _ (isPlain_texts _ (by simp))

lemma err_bitOffset : err bitOffsetText = .error bitOffsetText :=
  herr _ (isPlain_texts _ (by simp))

/-! ### Commands by their arguments -/

section arguments

variable (command : ReadCommand)

/-- Commands with one argument. -/
lemma agrees_one {q q' : Bytes → FastQuery} (h : ∀ key, (q key).Agrees (q' key)) : ∀ args,
    (match args with
      | [key] => q key
      | _ => arityReply err command).Agrees
    (match args with
      | [key] => q' key
      | _ => fastArity command.arityName)
  | [key] => h key
  | [] | _ :: _ :: _ => agrees_arity herr command

/-- Commands with two arguments. -/
lemma agrees_two {q q' : Bytes → Bytes → FastQuery}
    (h : ∀ key arg, (q key arg).Agrees (q' key arg)) : ∀ args,
    (match args with
      | [key, arg] => q key arg
      | _ => arityReply err command).Agrees
    (match args with
      | [key, arg] => q' key arg
      | _ => fastArity command.arityName)
  | [key, arg] => h key arg
  | [] | [_] | _ :: _ :: _ :: _ => agrees_arity herr command

lemma agrees_more {q : Bytes → Bytes → List Bytes → FastQuery} : ∀ args,
    (match args with
      | key :: first :: more => q key first more
      | _ => arityReply err command).Agrees
    (match args with
      | key :: first :: more => q key first more
      | _ => fastArity command.arityName)
  | _ :: _ :: _ => .refl _
  | [] | [_] => agrees_arity herr command

end arguments

/-! ### Connection and strings -/

/-- `PING` agrees. -/
lemma agrees_ping : ∀ args, Option.Rel FastQuery.Agrees (cmdPing err args) (fastPing args)
  | [] => .some (.refl _)
  | [message] => by
    rw [cmdPing, fastPing]
    split_ifs
    · exact .none
    · exact .some (.refl _)
  | _ :: _ :: _ => .some (agrees_arity herr .ping)

/-- `GETRANGE` agrees. -/
lemma agrees_getrange : ∀ args, (cmdGetrange err args).Agrees (fastGetrange args)
  | [key, startRaw, stopRaw] => by
    rw [cmdGetrange, fastGetrange]
    cases parseI64 startRaw with
    | none => exact err_notInteger herr
    | some start =>
      cases parseI64 stopRaw with
      | none => exact err_notInteger herr
      | some stop =>
        refine .oneKey key fun _ => fromString_congr fun s _ => ?_
        cases normalizeStringRange s.length start stop <;> rfl
  | [] | [_] | [_, _] | _ :: _ :: _ :: _ :: _ => agrees_arity herr .getrange

/-- `GETBIT` agrees. -/
lemma agrees_getbit : ∀ args, (cmdGetbit err args).Agrees (fastGetbit args)
  | [key, offsetRaw] => by
    rw [cmdGetbit, fastGetbit]
    cases parseI64 offsetRaw with
    | none => exact err_bitOffset herr
    | some offset =>
      by_cases hneg : offset < 0
      · have hfilter : (some offset).filter (0 ≤ ·) = none := by
          rw [Option.filter_some, if_neg]
          simpa using hneg
        rw [hfilter]
        dsimp only
        rw [if_pos hneg]
        exact err_bitOffset herr
      · have hfilter : (some offset).filter (0 ≤ ·) = some offset := by
          rw [Option.filter_some, if_pos]
          simpa using hneg
        rw [hfilter]
        dsimp only
        rw [if_neg hneg]
        refine .oneKey key fun _ => fromString_congr fun s _ => sizeReply_eq ?_
        exact (getBit_le_one s _).trans_lt (by decide)
  | [] | [_] | _ :: _ :: _ :: _ => agrees_arity herr .getbit

/-! ### Hashes -/

/-- `HSTRLEN` agrees. -/
lemma agrees_hstrlen : ∀ args, (cmdHstrlen err now args).Agrees (fastHstrlen now args)
  | [key, field] => .oneKey key fun _ => fromHash_congr fun fields hfields => by
    apply sizeReply_eq
    cases hlive : liveField fields field now with
    | none => exact Nat.two_pow_pos 60
    | some entry => exact hfields.2 field entry (Option.filter_eq_some_iff.mp hlive).1
  | [] | [_] | _ :: _ :: _ :: _ => agrees_arity herr .hstrlen

/-! ### Lists -/

/-- `LINDEX` agrees. -/
lemma agrees_lindex : ∀ args, (cmdLindex err args).Agrees (fastLindex args)
  | [key, indexRaw] => by
    rw [cmdLindex, fastLindex]
    cases parseI64 indexRaw with
    | none => exact err_notInteger herr
    | some index =>
      refine .oneKey key fun _ => fromList_congr fun items hitems => ?_
      rw [clampI64_eq (hitems.trans (by decide))]
  | [] | [_] | _ :: _ :: _ :: _ => agrees_arity herr .lindex

/-- `LRANGE` agrees. -/
lemma agrees_lrange : ∀ args, (cmdLrange err args).Agrees (fastLrange args)
  | [key, startRaw, stopRaw] => by
    rw [cmdLrange, fastLrange]
    cases parseI64 startRaw with
    | none => exact err_notInteger herr
    | some start =>
      cases parseI64 stopRaw with
      | none => exact err_notInteger herr
      | some stop =>
        refine .oneKey key fun _ => fromList_congr fun items _ => ?_
        cases normalizeRange items.length start stop <;> rfl
  | [] | [_] | [_, _] | _ :: _ :: _ :: _ :: _ => agrees_arity herr .lrange

/-! ### Expiry -/

/-- `TTL` and `PTTL` agree. -/
lemma agrees_ttlWithMode (mode : TtlMode) (command : ReadCommand) : ∀ args,
    (cmdTtlWithMode err now mode command args).Agrees
      (fastExpiry command.arityName (fun expireAtMs =>
        if remainingMs now expireAtMs ≤ 0 then -2 else mode.convert (remainingMs now expireAtMs))
        args)
  | [key] => by
    rw [cmdTtlWithMode, fastExpiry]
    refine .oneKey key fun entry _ => ?_
    rcases entry with _ | ⟨value, _ | expireAtMs⟩
    · rfl
    · rfl
    · exact (apply_ite RespFrame.integer _ _ _).symm
  | [] | _ :: _ :: _ => agrees_arity herr command

/-- `EXPIRETIME` and `PEXPIRETIME` agree. -/
lemma agrees_expiretimeWithMode (mode : TtlMode) (command : ReadCommand) : ∀ args,
    (cmdExpiretimeWithMode err mode command args).Agrees
      (fastExpiry command.arityName mode.convert args)
  | [key] => by
    rw [cmdExpiretimeWithMode, fastExpiry]
    refine .oneKey key fun entry _ => ?_
    rcases entry with _ | ⟨value, _ | expireAtMs⟩ <;> rfl
  | [] | _ :: _ :: _ => agrees_arity herr command

/-! ### `TIME` and `BITCOUNT` -/

/-- `TIME` agrees. -/
lemma agrees_time : ∀ args, (cmdTime env err args).Agrees (fastTime env args)
  | [] => by
    have hclock := env.clockUs_lt
    have hsec : clampI64 env.clockUs / 1000000 = Int64.ofNat (env.clockUs / 1000000) := by
      rw [clampI64_eq hclock]
      exact ofNat_div hclock (by decide)
    have hlt : env.clockUs / 1000000 < 2 ^ 63 := (Nat.div_le_self _ _).trans_lt hclock
    have hwhole : env.clockUs / 1000000 * 1000000 ≤ env.clockUs := Nat.div_mul_le_self _ _
    have hmul : saturatingMul (Int64.ofNat (env.clockUs / 1000000)) 1000000 =
        Int64.ofNat (env.clockUs / 1000000 * 1000000) := by
      rw [saturatingMul, Int64.toInt_ofNat_of_lt hlt]
      exact clampI64_eq (hwhole.trans_lt hclock)
    rw [cmdTime, fastTime, hsec, hmul, clampI64_eq hclock, ← Int64.ofNat_sub _ _ hwhole,
      decimalInt_ofNat hlt, decimalInt_ofNat ((Nat.sub_le _ _).trans_lt hclock)]
    exact .refl _
  | _ :: _ => agrees_arity herr .time

omit herr in
/-- The two ways in which the source compares an option with a word. -/
lemma eqIgnoreCase_iff {option : Bytes} (word : String)
    (hword : toUppercase (ascii word) = ascii word) :
    eqIgnoreCase option word = true ↔ toUppercase option = ascii word := by
  rw [eqIgnoreCase, hword, beq_iff_eq]

omit herr in
lemma bitcountUnit_eq (raw : Option Bytes) : bitcountUnit raw = fastBitcountUnit raw := by
  cases raw with
  | none => rfl
  | some raw =>
    simp only [bitcountUnit, fastBitcountUnit, eqIgnoreCase_iff "BYTE" rfl,
      eqIgnoreCase_iff "BIT" rfl]

lemma bitcountRange_eq (startRaw stopRaw : Bytes) (unitRaw : Option Bytes) {data : Bytes}
    (h : data.length < 2 ^ 60) :
    bitcountRange err startRaw stopRaw unitRaw data =
      fastBitcountRange startRaw stopRaw unitRaw data := by
  have hwrap : data.length * 8 % 2 ^ 64 = min (data.length * 8) (2 ^ 64 - 1) := by omega
  rw [bitcountRange, bitcountUnit_eq, hwrap, err_notInteger herr, err_syntaxError herr]
  rfl

/-- `BITCOUNT` agrees. -/
lemma agrees_bitcount : ∀ args, (cmdBitcount err args).Agrees (fastBitcount args)
  | [_] => .refl _
  | [key, startRaw, stopRaw] => .oneKey key fun _ => fromString_congr fun data hdata => by
    rw [bitcountRange_eq herr startRaw stopRaw none hdata]
  | [key, startRaw, stopRaw, unitRaw] => .oneKey key fun _ => fromString_congr fun data hdata => by
    rw [bitcountRange_eq herr startRaw stopRaw (some unitRaw) hdata]
  | [] | [_, _] | _ :: _ :: _ :: _ :: _ :: _ => agrees_arity herr .bitcount

/-! ### Sorted sets -/

/-- `ZCOUNT` agrees. -/
lemma agrees_zcount : ∀ args, (cmdZcount env err args).Agrees (fastZcount env args)
  | [key, minRaw, maxRaw] => by
    rw [cmdZcount, fastZcount]
    cases ScoreBound.parse env.parseFloat minRaw with
    | none => exact err_notFloat herr
    | some min =>
      cases ScoreBound.parse env.parseFloat maxRaw with
      | none => exact err_notFloat herr
      | some max =>
        refine .oneKey key fun _ => fromSortedSet_congr fun scores hscores => sizeReply_eq ?_
        rw [← length_sortedEntries] at hscores
        exact (List.length_filter_le _ _).trans_lt
          ((entriesBetween_sublist _ _ _).length_le.trans_lt hscores)
  | [] | [_] | [_, _] | _ :: _ :: _ :: _ :: _ => agrees_arity herr .zcount

/-- `ZLEXCOUNT` agrees. -/
lemma agrees_zlexcount : ∀ args, (cmdZlexcount err args).Agrees (fastZlexcount args)
  | [key, minRaw, maxRaw] => by
    rw [cmdZlexcount, fastZlexcount]
    cases LexBound.parse minRaw with
    | none => exact err_notLex herr
    | some min =>
      cases LexBound.parse maxRaw with
      | none => exact err_notLex herr
      | some max =>
        refine .oneKey key fun _ => fromSortedSet_congr fun scores hscores => sizeReply_eq ?_
        rw [← length_sortedEntries] at hscores
        exact (List.length_filter_le _ _).trans_lt hscores
  | [] | [_] | [_, _] | _ :: _ :: _ :: _ :: _ => agrees_arity herr .zlexcount

/-- `ZRANK` agrees. -/
lemma agrees_zrank : ∀ args, (cmdZrank err args).Agrees (fastZrank args)
  | [key, member] => .oneKey key fun _ => fromSortedSet_congr fun scores hscores => by
    cases hrank : rankOf scores member with
    | none => rfl
    | some rank => exact sizeReply_eq ((rankOf_le hrank).trans_lt hscores)
  | [] | [_] | _ :: _ :: _ :: _ => agrees_arity herr .zrank

/-- `ZREVRANK` agrees. -/
lemma agrees_zrevrank : ∀ args, (cmdZrevrank err args).Agrees (fastZrevrank args)
  | [key, member] => .oneKey key fun _ => fromSortedSet_congr fun scores hscores => by
    rw [revRankOf]
    cases rankOf scores member with
    | none => rfl
    | some rank => exact sizeReply_eq ((Nat.sub_le _ _).trans (Nat.sub_le _ _) |>.trans_lt hscores)
  | [] | [_] | _ :: _ :: _ :: _ => agrees_arity herr .zrevrank

lemma parseLimit_eq (offsetRaw countRaw : Bytes) :
    parseLimit err offsetRaw countRaw = parseLimit .error offsetRaw countRaw := by
  rw [parseLimit, parseLimit, err_notInteger herr]

lemma zrangeOptions_eq : ∀ options o, zrangeOptions err options o = zrangeOptions .error options o
  | [], o => rfl
  | option :: rest, o => by
    unfold zrangeOptions
    split_ifs
    · exact zrangeOptions_eq rest _
    · exact zrangeOptions_eq rest _
    · exact zrangeOptions_eq rest _
    · match rest with
      | [] | [_] => exact congrArg Except.error (err_syntaxError herr)
      | offsetRaw :: countRaw :: rest =>
        dsimp only
        rw [parseLimit_eq herr]
        cases parseLimit .error offsetRaw countRaw with
        | error response => rfl
        | ok limit => exact zrangeOptions_eq rest _
    · exact zrangeOptions_eq rest _
    · exact congrArg Except.error (err_syntaxError herr)

/-- The two parsers of these options are one. -/
lemma limitWithScores_eq : ∀ options o,
    limitWithScores err options o = lockFreeLimitWithScores options o
  | [], o => rfl
  | option :: rest, o => by
    unfold limitWithScores lockFreeLimitWithScores
    simp only [eqIgnoreCase_iff "WITHSCORES" rfl,
      eqIgnoreCase_iff "LIMIT" rfl]
    split_ifs
    · exact limitWithScores_eq rest _
    · match rest with
      | [] | [_] => exact congrArg Except.error (err_syntaxError herr)
      | offsetRaw :: countRaw :: rest =>
        dsimp only
        rw [parseLimit_eq herr]
        cases parseLimit .error offsetRaw countRaw with
        | error response => rfl
        | ok limit => exact limitWithScores_eq rest _
    · exact congrArg Except.error (err_syntaxError herr)

lemma limitOnly_eq : ∀ options o, limitOnly err options o = lockFreeLimitOnly options o
  | [], o => rfl
  | option :: rest, o => by
    unfold limitOnly lockFreeLimitOnly
    by_cases hlimit : toUppercase option = ascii "LIMIT"
    · have heq : eqIgnoreCase option "LIMIT" = true := (eqIgnoreCase_iff "LIMIT" rfl).mpr hlimit
      rw [if_pos hlimit, heq, Bool.not_true, if_neg Bool.false_ne_true]
      match rest with
      | [] | [_] => exact congrArg Except.error (err_syntaxError herr)
      | offsetRaw :: countRaw :: rest =>
        dsimp only
        rw [parseLimit_eq herr]
        cases parseLimit .error offsetRaw countRaw with
        | error response => rfl
        | ok limit => exact limitOnly_eq rest _
    · have heq : eqIgnoreCase option "LIMIT" = false := by
        rw [Bool.eq_false_iff]
        exact fun h => hlimit ((eqIgnoreCase_iff "LIMIT" rfl).mp h)
      rw [if_neg hlimit, heq]
      exact congrArg Except.error (err_syntaxError herr)

lemma zrangeReply_eq (minRaw maxRaw : Bytes) (o : ZrangeOptions) :
    zrangeReply env err minRaw maxRaw o = zrangeReply env .error minRaw maxRaw o := by
  funext scores
  simp only [zrangeReply, zrangeCollect, zrangeEntries, zrangeLimit, err_notInteger herr,
    err_notFloat herr, err_notLex herr]

lemma zrangeQuery_eq (key minRaw maxRaw : Bytes) (o : ZrangeOptions) :
    zrangeQuery env err key minRaw maxRaw o = lockFreeZrangeResponse env key minRaw maxRaw o := by
  rw [lockFreeZrangeResponse, zrangeQuery, zrangeQuery, zrangeReply_eq herr]

/-- `ZRANGE` agrees. -/
lemma agrees_zrange : ∀ args, (cmdZrange env err args).Agrees (fastZrange env args)
  | key :: minRaw :: maxRaw :: options => by
    rw [cmdZrange, fastZrange, parseZrangeOptions, parseLockFreeZrangeOptions,
      zrangeOptions_eq herr]
    cases zrangeOptions .error options ⟨.byRank, false, none, false⟩ with
    | error response => exact .refl _
    | ok o =>
      dsimp only
      rw [zrangeQuery_eq herr]
      exact .refl _
  | [] | [_] | [_, _] => agrees_arity herr .zrange

/-- `ZRANGEBYSCORE` agrees. -/
lemma agrees_zrangebyscore : ∀ args, (cmdZrangebyscore env err args).Agrees
    (fastZrangebyscoreLike env false "zrangebyscore" args)
  | key :: minRaw :: maxRaw :: options => by
    rw [cmdZrangebyscore, fastZrangebyscoreLike, limitWithScores_eq herr]
    cases lockFreeLimitWithScores options ⟨.byScore, false, none, false⟩ with
    | error response => exact .refl _
    | ok o =>
      dsimp only
      rw [zrangeQuery_eq herr]
      exact .refl _
  | [] | [_] | [_, _] => agrees_arity herr .zrangebyscore

/-- `ZRANGEBYLEX` agrees. -/
lemma agrees_zrangebylex : ∀ args, (cmdZrangebylex env err args).Agrees
    (fastZrangebylexLike env false "zrangebylex" args)
  | key :: minRaw :: maxRaw :: options => by
    rw [cmdZrangebylex, fastZrangebylexLike, limitOnly_eq herr]
    cases lockFreeLimitOnly options ⟨.byLex, false, none, false⟩ with
    | error response => exact .refl _
    | ok o =>
      dsimp only
      rw [zrangeQuery_eq herr]
      exact .refl _
  | [] | [_] | [_, _] => agrees_arity herr .zrangebylex

/-- `ZREVRANGE` agrees. -/
lemma agrees_zrevrange : ∀ args, (cmdZrevrange env err args).Agrees (fastZrevrange env args)
  | [key, startRaw, stopRaw] => by
    rw [cmdZrevrange, fastZrevrange, zrangeQuery_eq herr]
    exact .refl _
  | [key, startRaw, stopRaw, option] => by
    rw [cmdZrevrange, fastZrevrange, zrangeQuery_eq herr, err_syntaxError herr]
    exact .refl _
  | _ :: _ :: _ :: _ :: _ :: _ => err_syntaxError herr
  | [] | [_] | [_, _] => agrees_arity herr .zrevrange

end texts

end agreement

end Ratatosk.Engine
