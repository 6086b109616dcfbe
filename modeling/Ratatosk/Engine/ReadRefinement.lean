import Ratatosk.Engine.LiveView
import Ratatosk.Engine.LockFreeReads

/-!
# What the reads without the lock refine

A request that `try_execute_lock_free_fast_command` answers, against the same request through
`execute_argv`.

* `agrees_handler` — every command but three has a handler that agrees with it; `GET` is a data
  command (`get_eq`), and `ZREVRANGEBYSCORE` and `ZREVRANGEBYLEX` swap their bounds
  (`reverse_cases`).
* `lockFree_refines_iff` — **the reply and the databases are the same, exactly if the request is
  not for a range in descending order that changes with the order of its bounds.** It does if its
  limit leaves some of the entries that are between them in one order only
  (`zrangeReply_swap_iff`).
* `lockFree_diverges` — `ZREVRANGEBYLEX z + -` finds the member of `z` on one path and nothing on
  the other: `zrange_collect` takes the first of two bounds for the higher one if the order is
  descending, and the handler passes the lower one first.
-/

namespace Ratatosk.Engine

open Lib Keyspace Resp List Finmap Function

variable {σ κ : Type} {env : ReadEnv} {err : Bytes → RespFrame} {now : Int64}

/-! ## Queries on a database -/

section queries

variable {db : Db} {key : Bytes}

lemma lookup_of_purgeExpiredKey {other : Bytes} {entry : Entry}
    (h : (purgeExpiredKey db key now).lookup other = some entry) :
    db.lookup other = some entry := by
  rw [purgeExpiredKey] at h
  split_ifs at h
  · by_cases hkey : other = key
    · rw [hkey, lookup_erase] at h
      cases h
    · rwa [lookup_erase_ne hkey] at h
  · exact h

lemma DbInMemory.purgeExpiredKey (h : DbInMemory db) :
    DbInMemory (purgeExpiredKey db key now) :=
  fun _ _ hlookup => h _ _ (lookup_of_purgeExpiredKey hlookup)

lemma DbInMemory.lookupKeys (names : List Bytes) (h : DbInMemory db) :
    ∀ entry ∈ (lookupKeys now names db).2, ∀ e ∈ entry, InMemory e.value := by
  induction names generalizing db with
  | nil => exact fun entry hentry => absurd hentry not_mem_nil
  | cons key rest ih =>
    intro entry hentry e he
    rcases mem_cons.mp hentry with rfl | hentry
    · exact h.purgeExpiredKey _ _ he
    · exact ih h.purgeExpiredKey entry hentry e he

/-- **Queries that agree do the same to a database that fits in memory.** -/
lemma FastQuery.Agrees.onDb_eq {query query' : FastQuery} (h : query.Agrees query')
    (hdb : DbInMemory db) : query.onDb now db = query'.onDb now db := by
  cases query <;> cases query' <;> try exact h.elim
  · exact congrArg (Prod.mk db) h
  · obtain ⟨rfl, hanswer⟩ := h
    exact congrArg (Prod.mk _) (hanswer _ (hdb.lookupKeys _))
  · rfl

end queries

section run

variable (b : Backend σ κ) (now) (index : Fin dbCount)

lemma dbs_purgeWatched (store : Store σ) (key : Bytes) :
    (purgeWatched b now index store key).dbs =
      Function.update store.dbs index (purgeExpiredKey (store.dbs index) key now) := by
  rw [purgeWatched, purgeExpiredKey]
  split_ifs
  · rfl
  · exact (update_eq_self _ _).symm

/-- The loop reads its keys in the one database. -/
lemma readKeys_eq (names : List Bytes) (store : Store σ) :
    (readKeys b now index names store).1.dbs =
        Function.update store.dbs index (lookupKeys now names (store.dbs index)).1 ∧
      (readKeys b now index names store).2 = (lookupKeys now names (store.dbs index)).2 := by
  induction names generalizing store with
  | nil => exact ⟨(update_eq_self _ _).symm, rfl⟩
  | cons key rest ih =>
    obtain ⟨hdbs, hentries⟩ := ih (purgeWatched b now index store key)
    rw [dbs_purgeWatched, update_self] at hdbs hentries
    rw [update_idem] at hdbs
    refine ⟨hdbs, ?_⟩
    rw [readKeys, lookupKeys]
    dsimp only
    rw [hentries, dbs_purgeWatched, update_self]

lemma foldl_purgeWatched_dbs (names : List Bytes) (store : Store σ) :
    (names.foldl (purgeWatched b now index) store).dbs = Function.update store.dbs index
      (names.foldl (fun db key => purgeExpiredKey db key now) (store.dbs index)) := by
  induction names generalizing store with
  | nil => exact (update_eq_self _ _).symm
  | cons key rest ih =>
    rw [foldl_cons, ih, dbs_purgeWatched, update_idem, update_self,
      foldl_cons]

/-- **A query under the lock of its database alone does what it does to that database.** -/
lemma run_eq_onDb (query : FastQuery) (store : Store σ) :
    (query.run b now index store).1.dbs =
        Function.update store.dbs index (query.onDb now (store.dbs index)).1 ∧
      (query.run b now index store).2 = (query.onDb now (store.dbs index)).2 := by
  cases query with
  | reply response => exact ⟨(update_eq_self _ _).symm, rfl⟩
  | keys names answer =>
    obtain ⟨hdbs, hentries⟩ := readKeys_eq now b index names store
    exact ⟨hdbs, congrArg answer hentries⟩
  | dbsize =>
    have hdbs := foldl_purgeWatched_dbs now b index
      (expiredKeys (store.dbs index) now) store
    refine ⟨hdbs, ?_⟩
    rw [FastQuery.run, FastQuery.onDb]
    dsimp only
    rw [hdbs, update_self]
    rfl

end run

/-! ## Ranges in descending order -/

/-- The options of the two commands that reply the range between two bounds in descending order. -/
def ReadCommand.reverseOptions : ReadCommand → List Bytes → Option ZrangeOptions
  | .zrevrangebyscore, options =>
    (lockFreeLimitWithScores options ⟨.byScore, true, none, false⟩).toOption
  | .zrevrangebylex, options => (lockFreeLimitOnly options ⟨.byLex, true, none, false⟩).toOption
  | _, _ => none

/-- One of these commands, with arguments that are not refused before the key is read. -/
def ReverseRange (command : ReadCommand) (args : List Bytes) (key first second : Bytes)
    (o : ZrangeOptions) : Prop :=
  ∃ options, args = key :: first :: second :: options ∧ command.reverseOptions options = some o

/-- The entry is between two bounds in one of their orders only. -/
def betweenOneWay (env : ReadEnv) (mode : RangeMode) (first second : Bytes) (e : SortedSetEntry) :
    Bool :=
  match mode with
  | .byRank => false
  | .byScore =>
    match ScoreBound.parse env.parseFloat first, ScoreBound.parse env.parseFloat second with
    | some first, some second =>
      scoreInRange e.score first second != scoreInRange e.score second first
    | _, _ => false
  | .byLex =>
    match LexBound.parse first, LexBound.parse second with
    | some first, some second =>
      memberInLexRange e.member first second != memberInLexRange e.member second first
    | _, _ => false

/-- A limit is not refused, and leaves some of a number of entries. -/
def LimitLeaves (limit : Option (Int64 × Int64)) (size : Nat) : Prop :=
  match limit with
  | none => 0 < size
  | some (offset, count) => 0 ≤ offset ∧ offset.toInt.toNat < size ∧ count ≠ 0

/-- The request asks for a range in descending order of a sorted set, and its limit leaves some of
the entries that are between its bounds in one of their orders only. -/
def ReverseRangeDiffers (env : ReadEnv) (r : Request) (now : Int64) (db : Db) : Prop :=
  ∃ command key first second o scores, readCommands.lookup r.command = some command ∧
    ReverseRange command r.args key first second o ∧
    (liveLookup now db key).map Entry.value = some (.sortedSet scores) ∧
    LimitLeaves o.limit
      ((sortedEntries scores).countP (betweenOneWay env o.mode first second))

section reverse

variable {scores : Finmap fun _ : Bytes => Score} {first second : Bytes} {o : ZrangeOptions}

lemma mode_lockFreeLimitWithScores : ∀ options o o',
    lockFreeLimitWithScores options o = .ok o' → o'.mode = o.mode := by
  intro options o
  fun_induction lockFreeLimitWithScores options o with
  | case1 o =>
    rintro o' ⟨⟩
    rfl
  | case2 o option rest h ih => exact ih
  | _ => simp_all

lemma mode_lockFreeLimitOnly : ∀ options o o',
    lockFreeLimitOnly options o = .ok o' → o'.mode = o.mode := by
  intro options o
  fun_induction lockFreeLimitOnly options o with
  | case1 o =>
    rintro o' ⟨⟩
    rfl
  | _ => simp_all

/-- The two commands ask for a range by score or by member. -/
lemma ReverseRange.mode_ne {command : ReadCommand} {args : List Bytes} {key : Bytes}
    (h : ReverseRange command args key first second o) : o.mode ≠ .byRank := by
  obtain ⟨options, -, ho⟩ := h
  unfold ReadCommand.reverseOptions at ho
  split at ho
  · cases hparse : lockFreeLimitWithScores options ⟨.byScore, true, none, false⟩ with
    | error response =>
      rw [hparse] at ho
      cases ho
    | ok o' =>
      rw [hparse] at ho
      cases ho
      rw [mode_lockFreeLimitWithScores _ _ _ hparse]
      decide
  · cases hparse : lockFreeLimitOnly options ⟨.byLex, true, none, false⟩ with
    | error response =>
      rw [hparse] at ho
      cases ho
    | ok o' =>
      rw [hparse] at ho
      cases ho
      rw [mode_lockFreeLimitOnly _ _ _ hparse]
      decide
  · cases ho

/-- The reply for the entries of a range, behind its limit. -/
def limitedReply (env : ReadEnv) (limit : Option (Int64 × Int64)) (withScores : Bool)
    (entries : List SortedSetEntry) : RespFrame :=
  match zrangeLimit .error entries limit with
  | .error response => response
  | .ok selected => entriesToResp env selected withScores

lemma entriesToResp_eq_nil_iff (entries : List SortedSetEntry) (withScores : Bool) :
    entriesToResp env [] withScores = entriesToResp env entries withScores ↔ entries = [] := by
  cases entries with
  | nil => exact iff_of_true rfl rfl
  | cons e rest => cases withScores <;> simp [entriesToResp]

/-- It matters whether a range has entries exactly if its limit leaves some of them. -/
lemma limitedReply_nil_ne_iff (entries : List SortedSetEntry) (limit : Option (Int64 × Int64))
    (withScores : Bool) :
    limitedReply env limit withScores [] ≠ limitedReply env limit withScores entries ↔
      LimitLeaves limit entries.length := by
  rcases limit with _ | ⟨offset, count⟩
  · simp [limitedReply, zrangeLimit, LimitLeaves, entriesToResp_eq_nil_iff, length_pos_iff]
  · rw [limitedReply, limitedReply, zrangeLimit, zrangeLimit, LimitLeaves]
    by_cases hrefused : offset < 0
    · simp [hrefused, Int64.not_le.mpr hrefused]
    · have hoffset := Int64.not_lt.mp hrefused
      simp only [if_neg hrefused, drop_nil, take_nil, ite_self, ne_eq, entriesToResp_eq_nil_iff,
        hoffset, true_and]
      by_cases hcount : 0 ≤ count
      · have hzero : count.toInt.toNat = 0 ↔ count = 0 := by
          rw [Int64.le_iff_toInt_le] at hcount
          rw [← Int64.toInt_inj]
          change 0 ≤ count.toInt at hcount
          change _ ↔ count.toInt = 0
          omega
        rw [if_pos hcount, take_eq_nil_iff, drop_eq_nil_iff, hzero, not_or, not_le, and_comm]
      · have hne : count ≠ 0 := by
          rintro rfl
          exact hcount (Int64.le_refl 0)
        rw [if_neg hcount, drop_eq_nil_iff, not_le]
        simp [hne]

lemma not_limitLeaves_zero (limit : Option (Int64 × Int64)) : ¬ LimitLeaves limit 0 := by
  rcases limit with _ | ⟨offset, count⟩
  · exact lt_irrefl 0
  · exact fun h => Nat.not_lt_zero _ h.2.1

/-- Nothing is between equal bounds in one order only. -/
lemma betweenOneWay_self (env : ReadEnv) (mode : RangeMode) (bound : Bytes) (e : SortedSetEntry) :
    betweenOneWay env mode bound bound e = false := by
  unfold betweenOneWay
  cases mode with
  | byRank => rfl
  | byScore => cases ScoreBound.parse env.parseFloat bound <;> simp
  | byLex => cases LexBound.parse bound <;> simp

/-- Two ranges of which one is empty, or that are the same, are replied differently if the limit
leaves some of the entries that are in one of them only. -/
lemma limitedReply_filter_ne_iff {p q : SortedSetEntry → Bool} (entries : List SortedSetEntry)
    (limit : Option (Int64 × Int64)) (withScores : Bool) (h : SameOrVoid p q) :
    limitedReply env limit withScores (entries.filter p) ≠
        limitedReply env limit withScores (entries.filter q) ↔
      LimitLeaves limit (entries.countP fun e => p e != q e) := by
  rcases h with hsame | hnone | hnone
  · obtain rfl : p = q := funext hsame
    simp [not_limitLeaves_zero]
  · obtain rfl : p = fun _ => false := funext hnone
    rw [filter_false, limitedReply_nil_ne_iff, ← countP_eq_length_filter]
    simp
  · obtain rfl : q = fun _ => false := funext hnone
    rw [filter_false, ne_comm, limitedReply_nil_ne_iff, ← countP_eq_length_filter]
    simp

/-- The same in descending order, for which the bounds are swapped. -/
lemma limitedReply_reverse_ne_iff {p q : SortedSetEntry → Bool} (entries : List SortedSetEntry)
    (limit : Option (Int64 × Int64)) (withScores : Bool) (h : SameOrVoid p q) :
    limitedReply env limit withScores (entries.reverse.filter q) ≠
        limitedReply env limit withScores (entries.reverse.filter p) ↔
      LimitLeaves limit (entries.countP fun e => p e != q e) := by
  rw [ne_comm, limitedReply_filter_ne_iff _ limit withScores h, countP_reverse]

/-- **Taken the other way round, two bounds are replied to differently exactly if the limit leaves
some of the entries that are between them in one order only.** -/
lemma zrangeReply_swap_iff (hmode : o.mode ≠ .byRank) :
    zrangeReply env .error first second o scores ≠ zrangeReply env .error second first o scores ↔
      LimitLeaves o.limit
        ((sortedEntries scores).countP (betweenOneWay env o.mode first second)) := by
  have hsorted : (sortedEntries scores).Pairwise fun a b => a.le b = true :=
    Multiset.pairwise_sort _ _
  obtain ⟨mode, rev, limit, withScores⟩ := o
  unfold zrangeReply zrangeCollect zrangeEntries betweenOneWay
  cases mode with
  | byRank => exact absurd rfl hmode
  | byScore =>
    dsimp only
    cases ScoreBound.parse env.parseFloat first with
    | none => cases ScoreBound.parse env.parseFloat second <;> simp [not_limitLeaves_zero]
    | some first =>
      cases ScoreBound.parse env.parseFloat second with
      | none => simp [not_limitLeaves_zero]
      | some second =>
        have hswap := (scoreInRange_swap first second).comp SortedSetEntry.score
        simp only [rangeByScore_eq_filter hsorted]
        cases rev with
        | false => exact limitedReply_filter_ne_iff _ limit withScores hswap
        | true =>
          simp only [if_true, ← filter_reverse]
          exact limitedReply_reverse_ne_iff _ limit withScores hswap
  | byLex =>
    dsimp only
    cases LexBound.parse first with
    | none => cases LexBound.parse second <;> simp [not_limitLeaves_zero]
    | some first =>
      cases LexBound.parse second with
      | none => simp [not_limitLeaves_zero]
      | some second =>
        have hswap := (memberInLexRange_swap first second).comp SortedSetEntry.member
        cases rev with
        | false => exact limitedReply_filter_ne_iff _ limit withScores hswap
        | true => exact limitedReply_reverse_ne_iff _ limit withScores hswap

end reverse

/-! ## The handlers against the reads -/

section handlers

variable (herr : Plainly err)
include herr

/-- **Every other command agrees with its handler.** -/
lemma agrees_handler {command : ReadCommand} (hget : command ≠ .get)
    (hscore : command ≠ .zrevrangebyscore) (hlex : command ≠ .zrevrangebylex) (args : List Bytes) :
    Option.Rel FastQuery.Agrees (command.handler env err now args)
      (command.lockFree env now args) := by
  cases command with
  | ping => exact agrees_ping herr args
  | echo => exact .some (agrees_one herr .echo (fun _ => .refl _) args)
  | time => exact .some (agrees_time herr args)
  | dbsize =>
    cases args with
    | nil => exact .some (.refl _)
    | cons _ _ => exact .some (agrees_arity herr .dbsize)
  | type =>
    refine .some (agrees_one herr .type (fun key => .oneKey key ?_) args)
    rintro (_ | _) _ <;> rfl
  | «exists» =>
    cases args with
    | nil => exact .some (agrees_arity herr .exists)
    | cons _ _ => exact .some (.refl _)
  | get => exact absurd rfl hget
  | mget =>
    cases args with
    | nil => exact .some (agrees_arity herr .mget)
    | cons _ _ => exact .some (.refl _)
  | strlen =>
    exact .some (agrees_one herr .strlen (fun key => .oneKey key fun _ =>
      fromString_congr fun _ => sizeReply_eq) args)
  | bitcount => exact .some (agrees_bitcount herr args)
  | getbit => exact .some (agrees_getbit herr args)
  | getrange | substr => exact .some (agrees_getrange herr args)
  | hget => exact .some (agrees_two herr .hget (fun _ _ => .refl _) args)
  | hmget => exact .some (agrees_more herr .hmget args)
  | hgetall => exact .some (agrees_one herr .hgetall (fun _ => .refl _) args)
  | hkeys => exact .some (agrees_one herr .hkeys (fun _ => .refl _) args)
  | hvals => exact .some (agrees_one herr .hvals (fun _ => .refl _) args)
  | hexists => exact .some (agrees_two herr .hexists (fun _ _ => .refl _) args)
  | hlen =>
    exact .some (agrees_one herr .hlen (fun key => .oneKey key fun _ =>
      fromHash_congr fun _ hfields =>
        sizeReply_eq ((Finset.card_filter_le _ _).trans_lt hfields.1)) args)
  | hstrlen => exact .some (agrees_hstrlen herr args)
  | sismember => exact .some (agrees_two herr .sismember (fun _ _ => .refl _) args)
  | smismember => exact .some (agrees_more herr .smismember args)
  | scard =>
    exact .some (agrees_one herr .scard (fun key => .oneKey key fun _ =>
      fromSet_congr fun _ => sizeReply_eq) args)
  | llen =>
    exact .some (agrees_one herr .llen (fun key => .oneKey key fun _ =>
      fromList_congr fun _ => sizeReply_eq) args)
  | lindex => exact .some (agrees_lindex herr args)
  | lrange => exact .some (agrees_lrange herr args)
  | ttl => exact .some (agrees_ttlWithMode herr .seconds .ttl args)
  | pttl => exact .some (agrees_ttlWithMode herr .milliseconds .pttl args)
  | expiretime => exact .some (agrees_expiretimeWithMode herr .seconds .expiretime args)
  | pexpiretime => exact .some (agrees_expiretimeWithMode herr .milliseconds .pexpiretime args)
  | zscore => exact .some (agrees_two herr .zscore (fun _ _ => .refl _) args)
  | zcard =>
    exact .some (agrees_one herr .zcard (fun key => .oneKey key fun _ =>
      fromSortedSet_congr fun _ => sizeReply_eq) args)
  | zmscore => exact .some (agrees_more herr .zmscore args)
  | zcount => exact .some (agrees_zcount herr args)
  | zlexcount => exact .some (agrees_zlexcount herr args)
  | zrange => exact .some (agrees_zrange herr args)
  | zrangebyscore => exact .some (agrees_zrangebyscore herr args)
  | zrevrangebyscore => exact absurd rfl hscore
  | zrangebylex => exact .some (agrees_zrangebylex herr args)
  | zrevrangebylex => exact absurd rfl hlex
  | zrevrange => exact .some (agrees_zrevrange herr args)
  | zrank => exact .some (agrees_zrank herr args)
  | zrevrank => exact .some (agrees_zrevrank herr args)

/-- The two commands in descending order: refused the same, or the bounds are swapped. -/
lemma reverse_cases {command : ReadCommand}
    (hcommand : command = .zrevrangebyscore ∨ command = .zrevrangebylex) (args : List Bytes) :
    ((¬ ∃ key first second o, ReverseRange command args key first second o) ∧
        Option.Rel FastQuery.Agrees (command.handler env err now args)
          (command.lockFree env now args)) ∨
      ∃ key first second o, ReverseRange command args key first second o ∧
        command.handler env err now args =
          some (lockFreeZrangeResponse env key second first o) ∧
        command.lockFree env now args = some (lockFreeZrangeResponse env key first second o) := by
  match args with
  | [] | [_] | [_, _] =>
    refine .inl ⟨?_, ?_⟩
    · rintro ⟨key, first, second, o, options, hargs, -⟩
      cases hargs
    · rcases hcommand with rfl | rfl
      · exact .some (agrees_arity herr .zrevrangebyscore)
      · exact .some (agrees_arity herr .zrevrangebylex)
  | key :: first :: second :: options =>
    rcases hcommand with rfl | rfl
    · cases hparse : lockFreeLimitWithScores options ⟨.byScore, true, none, false⟩ with
      | error response =>
        refine .inl ⟨?_, ?_⟩
        · rintro ⟨key', first', second', o, options', hargs, ho⟩
          cases hargs
          rw [ReadCommand.reverseOptions, hparse] at ho
          cases ho
        · rw [ReadCommand.handler, ReadCommand.lockFree, cmdZrevrangebyscore,
            fastZrangebyscoreLike, limitWithScores_eq herr, hparse]
          exact .some (.refl _)
      | ok o =>
        refine .inr ⟨key, first, second, o, ⟨options, rfl, ?_⟩, ?_, ?_⟩
        · rw [ReadCommand.reverseOptions, hparse]
          rfl
        · rw [ReadCommand.handler, cmdZrevrangebyscore, limitWithScores_eq herr, hparse]
          dsimp only
          rw [zrangeQuery_eq herr]
        · rw [ReadCommand.lockFree, fastZrangebyscoreLike, hparse]
    · cases hparse : lockFreeLimitOnly options ⟨.byLex, true, none, false⟩ with
      | error response =>
        refine .inl ⟨?_, ?_⟩
        · rintro ⟨key', first', second', o, options', hargs, ho⟩
          cases hargs
          rw [ReadCommand.reverseOptions, hparse] at ho
          cases ho
        · rw [ReadCommand.handler, ReadCommand.lockFree, cmdZrevrangebylex,
            fastZrangebylexLike, limitOnly_eq herr, hparse]
          exact .some (.refl _)
      | ok o =>
        refine .inr ⟨key, first, second, o, ⟨options, rfl, ?_⟩, ?_, ?_⟩
        · rw [ReadCommand.reverseOptions, hparse]
          rfl
        · rw [ReadCommand.handler, cmdZrevrangebylex, limitOnly_eq herr, hparse]
          dsimp only
          rw [zrangeQuery_eq herr]
        · rw [ReadCommand.lockFree, fastZrangebylexLike, hparse]

/-- `GET` of the engine is its query. -/
lemma get_eq (args : List Bytes) (db : Db) :
    cmdGet err args now db = (fastGet args).onDb now db := by
  match args with
  | [key] =>
    rw [cmdGet, fastGet]
    dsimp only [oneKeyQuery, FastQuery.onDb, lookupKeys]
    cases (purgeExpiredKey db key now).lookup key with
    | none => rfl
    | some entry =>
      dsimp only [head?_cons, Option.bind_some, id_eq, fromString]
      cases asStringBytes entry <;> rfl
  | [] | _ :: _ :: _ => exact congrArg (Prod.mk db) (herr _ (isPlain_arity .get))

end handlers

/-! ## The gates before the handlers -/

section gates

variable {r : Request} {command : ReadCommand}

/-- The name of a command starts with its first word. -/
lemma takeWhile_intercalate {word : Bytes} (hword : 32 ∉ word) (words : List Bytes) :
    (List.intercalate [32] (word :: words)).takeWhile (· ≠ 32) = word := by
  have hall : ∀ c ∈ word, decide (c ≠ 32) = true := by
    intro c hc
    rw [decide_eq_true_iff]
    rintro rfl
    exact hword hc
  cases words with
  | nil =>
    have hself : (word ++ []).takeWhile (· ≠ 32) = word ++ [].takeWhile (· ≠ 32) :=
      takeWhile_append_of_pos hall
    simpa using hself
  | cons next words =>
    rw [intercalate_cons_cons, append_assoc, takeWhile_append_of_pos hall]
    simp

/-- What the engine's tables say of the commands that are read without the lock. -/
lemma tables_of_read : ∀ p ∈ readCommands,
    (32 ∉ p.1 ∧ toUppercase p.1 = p.1 ∧ p.1 ≠ ascii "XGROUP" ∧
      commandMayGrowMemory [p.1] (findCommandSpecUpper p.1) = false) ∧
    (∀ name ∈ transactionCommands, p.1 ≠ name) ∧
    commandKind p.1 = if p.2 = .get then .data .get else .other := by
  decide +kernel

lemma strictModeError_of_read (h : readCommands.lookup r.command = some command) :
    strictModeError r.argv = none := by
  have htable : ∀ s ∈ commandSpecs,
      s.name.takeWhile (· ≠ 32) ∈ readCommands.map Prod.fst →
        s.name ≠ ascii "WAIT" ∧ s.name ≠ ascii "WAITAOF" ∧ refusedTier s.name = none := by
    decide +kernel
  have hspace := (tables_of_read _ (mem_of_lookup h)).1.1
  have hname : r.command ∈ readCommands.map Prod.fst :=
    mem_map_of_mem (mem_of_lookup h)
  rw [strictModeError, Option.bind_eq_none_iff]
  intro s hs
  obtain ⟨len, -, hparts⟩ := exists_of_findSome?_eq_some hs
  have hfind : commandSpecs.find? (fun spec =>
      spec.name == List.intercalate [32] (r.command :: (r.args.take len).map toUppercase)) =
        some s := hparts
  have hspec : s.name = List.intercalate [32] (r.command :: (r.args.take len).map toUppercase) := by
    have hfound := find?_some hfind
    rwa [beq_iff_eq] at hfound
  obtain ⟨hwait, hwaitaof, htier⟩ := htable s (mem_of_find?_eq_some hfind) (by
    rw [hspec, takeWhile_intercalate hspace]
    exact hname)
  rw [if_neg (not_or.mpr ⟨hwait, hwaitaof⟩), htier]
  rfl

lemma commandMayGrowMemory_of_read (h : readCommands.lookup r.command = some command) :
    commandMayGrowMemory r.argv r.spec = false := by
  obtain ⟨-, hupper, hgroup, hgrow⟩ := (tables_of_read _ (mem_of_lookup h)).1
  unfold commandMayGrowMemory at hgrow ⊢
  dsimp only [Request.argv] at hupper hgroup hgrow ⊢
  rw [hupper, if_neg hgroup] at hgrow
  have hname : ¬ toUppercase r.name = ascii "XGROUP" := hgroup
  rw [if_neg hname]
  exact hgrow

/-- No gate stops a read. -/
lemma gateError_of_read (b : Backend σ κ) (h : readCommands.lookup r.command = some command)
    (store : Store σ) (session : Session κ) : gateError b r store session = none := by
  unfold gateError shouldRejectForMaxmemory
  rw [strictModeError_of_read h, commandMayGrowMemory_of_read h]
  simp

end gates

/-! ## Through the dispatcher -/

section dispatch

variable (b : Backend σ κ) {r : Request} {command : ReadCommand} {conn : Conn σ κ}
  {session : Session κ}

/-- The session that takes the path is the one that enters the engine, which lets it in. -/
lemma session_of_lockFreeSession
    (h : lockFreeSession (.ofAcl conn.server.acl) conn.client.session = some session) :
    (enter conn).client.session = session ∧ conn.client.session.tx = .normal ∧
      session.selectedDb = conn.client.session.selectedDb ∧
      ∀ r, accessError conn.server.acl session r = none := by
  have haccess : ∀ (s : Session κ), s.authenticated = true → s.aclUser = defaultName →
      conn.server.acl.defaultUserHasFullAccess = true →
        ∀ r, accessError conn.server.acl s r = none := by
    intro s hauth huser hfull r
    unfold accessError
    rw [hauth, huser, hfull]
    simp
  have henter : (enter conn).client.session =
      authenticateDefault conn.server.acl conn.client.session := rfl
  rw [henter]
  unfold lockFreeSession at h
  unfold authenticateDefault
  split_ifs at h with hmulti hauth hpolicy huser
  · rw [Bool.and_eq_true] at hpolicy
    have hnopass : conn.server.acl.defaultUserIsNopassEnabled = true := hpolicy.1
    cases h
    rw [hauth, hnopass]
    exact ⟨rfl, TransactionState.eq_normal hmulti, rfl, haccess _ rfl rfl hpolicy.2⟩
  · rw [not_or, not_not, Bool.not_eq_true', Bool.not_eq_false] at huser
    rw [Bool.not_eq_true', Bool.not_eq_false] at hauth
    cases h
    rw [hauth]
    exact ⟨rfl, TransactionState.eq_normal hmulti, rfl, haccess _ hauth huser.1 huser.2⟩

/-- **A read goes through the gates of the engine to its handler.** -/
lemma executeArgv_of_read (hsession : lockFreeSession (.ofAcl conn.server.acl) conn.client.session =
      some session) (hcommand : readCommands.lookup r.command = some command) :
    executeArgv b r now conn = finishCommand b r conn.client.session.selectedDb now
      (runCommand b r now (noteCommand b r (enter conn))) := by
  obtain ⟨henter, htx, -, haccess⟩ := session_of_lockFreeSession hsession
  have hname := (tables_of_read _ (mem_of_lookup hcommand)).2.1
  simp only [transactionCommands, map_cons, map_nil, forall_mem_cons] at hname
  have hdispatch : dispatchCommand b r now (noteCommand b r (enter conn)) =
      runCommand b r now (noteCommand b r (enter conn)) := by
    simp [dispatchCommand, hname]
  have haccess' : accessError (enter conn).server.acl (enter conn).client.session r = none := by
    rw [henter]
    exact haccess r
  have hmulti : conn.inMulti = true → r.command ∈ transactionCommands := by
    intro h
    rw [Conn.inMulti, htx] at h
    cases h
  rw [executeArgv_gated b haccess' hmulti, gated, gateError_of_read b hcommand, ← hdispatch]

/-- The query that the engine runs for a command. -/
def Handles (b : Backend σ κ) (env : ReadEnv) (now : Int64) (command : ReadCommand)
    (args : List Bytes) (query : FastQuery) : Prop :=
  (command = .get ∧ query = fastGet args) ∨
    (command ≠ .get ∧ command.handler env b.err now args = some query)

/-- The engine runs the query of a read. -/
lemma runCommand_read (herr : Plainly b.err)
    (hcommand : readCommands.lookup r.command = some command) {query : FastQuery}
    (hquery : Handles b env now command r.args query) (conn : Conn σ κ) :
    let index := conn.client.session.selectedDb
    let result := query.onDb now (conn.server.store.dbs index)
    (runCommand (b.withReads env) r now conn).2 = .reply result.2 ∧
      (runCommand (b.withReads env) r now conn).1.server.store.dbs =
        Function.update conn.server.store.dbs index result.1 := by
  intro index result
  have hkind := (tables_of_read _ (mem_of_lookup hcommand)).2.2
  unfold runCommand
  dsimp only at hkind ⊢
  rw [hkind]
  rcases hquery with ⟨rfl, rfl⟩ | ⟨hget, hhandler⟩
  · have hrun : cmdGet b.err r.args now (conn.server.store.dbs index) = result :=
      get_eq herr r.args _
    rw [if_pos rfl, ← hrun]
    exact ⟨rfl, rfl⟩
  · have hreads : (b.withReads env).handler r now conn.server.store conn.client.session =
        ({ conn.server.store with
            dbs := Function.update conn.server.store.dbs index result.1
            rest := b.noteData r conn.server.store
              (Function.update conn.server.store.dbs index result.1) },
          conn.client.session.rest, .reply result.2) := by
      dsimp only [Backend.withReads]
      rw [hcommand, Option.bind_some, hhandler]
    rw [if_neg hget]
    exact ⟨congrArg (fun p => p.2.2) hreads, congrArg (fun p => p.1.dbs) hreads⟩

/-- **What the engine does for a read is its query on the selected database.** -/
lemma executeArgv_eq_onDb (herr : Plainly b.err)
    (hsession : lockFreeSession (.ofAcl conn.server.acl) conn.client.session = some session)
    (hcommand : readCommands.lookup r.command = some command) {query : FastQuery}
    (hquery : Handles b env now command r.args query) :
    let index := conn.client.session.selectedDb
    let result := query.onDb now (conn.server.store.dbs index)
    (executeArgv (b.withReads env) r now conn).2 = .reply result.2 ∧
      (executeArgv (b.withReads env) r now conn).1.server.store.dbs =
        Function.update conn.server.store.dbs index result.1 := by
  intro index result
  obtain ⟨henter, -, hindex, -⟩ := session_of_lockFreeSession hsession
  have hselected : (noteCommand (b.withReads env) r (enter conn)).client.session.selectedDb =
      index := by
    have hrest : (noteCommand (b.withReads env) r (enter conn)).client.session.selectedDb =
        (enter conn).client.session.selectedDb := rfl
    rw [hrest, henter, hindex]
  have hrun := runCommand_read b herr hcommand hquery (noteCommand (b.withReads env) r (enter conn))
  rw [hselected] at hrun
  rw [executeArgv_of_read (b.withReads env) hsession hcommand]
  exact ⟨(outcome_finishCommand _ _ _ _ _).trans hrun.1,
    (dbs_finishCommand _ _ _ _ _).trans hrun.2⟩

end dispatch

/-! ## Refinement -/

section refinement

variable {db : Db} {key first second : Bytes} {o : ZrangeOptions}
variable {command : ReadCommand}

lemma onDb_zrangeResponse (env : ReadEnv) (now) (db : Db) (key first second : Bytes)
    (o : ZrangeOptions) :
    (lockFreeZrangeResponse env key first second o).onDb now db =
      (purgeExpiredKey db key now,
        fromSortedSet (.array []) (zrangeReply env .error first second o)
          (liveLookup now db key)) := by
  rw [← lookup_purgeExpiredKey_self]
  rfl

/-- The two ranges are replied the same, unless there is a sorted set on which they differ. -/
lemma reverse_reply_iff :
    ((lockFreeZrangeResponse env key second first o).onDb now db).2 =
        ((lockFreeZrangeResponse env key first second o).onDb now db).2 ↔
      ¬ ∃ scores, (liveLookup now db key).map Entry.value = some (.sortedSet scores) ∧
        zrangeReply env .error first second o scores ≠
          zrangeReply env .error second first o scores := by
  rw [onDb_zrangeResponse, onDb_zrangeResponse]
  dsimp only
  rcases liveLookup now db key with _ | ⟨value, expireAtMs⟩
  · refine iff_of_true rfl ?_
    rintro ⟨scores, hvalue, -⟩
    cases hvalue
  · cases value with
    | sortedSet scores =>
      dsimp only [fromSortedSet, Option.map_some]
      constructor
      · rintro hsame ⟨scores', hvalue, hdiffers⟩
        cases hvalue
        exact hdiffers hsame.symm
      · intro hnone
        by_contra hdiffers
        exact hnone ⟨scores, rfl, Ne.symm hdiffers⟩
    | _ =>
      refine iff_of_true rfl ?_
      rintro ⟨scores, hvalue, -⟩
      cases hvalue

/-- The text of an error as the engine replies it: on ASCII texts, `sanitize_error_message` with the
home directory of the server. -/
def Backend.SanitizesWith (b : Backend σ κ) (home : Option Bytes) : Prop :=
  ∀ text, (∀ byte ∈ text, byte < 0x80) → b.sanitize text = sanitizeErrorMessage home text

lemma Backend.SanitizesWith.plainly {b : Backend σ κ} {home : Option Bytes}
    (h : b.SanitizesWith home) (hhome : ∀ dir ∈ home, dir = [] ∨ 47 ∈ dir) : Plainly b.err := by
  intro text htext
  have hascii : ∀ byte ∈ text, byte < 0x80 := ascii_of_isPlain htext
  rw [Backend.err, h text hascii, sanitizeErrorMessage_of_isPlain hhome htext]

lemma not_reverseRangeDiffers {r : Request}
    (hcommand : readCommands.lookup r.command = some command)
    (h : ¬ ∃ key first second o, ReverseRange command r.args key first second o) :
    ¬ ReverseRangeDiffers env r now db := by
  rintro ⟨command', key, first, second, o, scores, hcommand', hreverse, -⟩
  rw [hcommand] at hcommand'
  cases hcommand'
  exact h ⟨key, first, second, o, hreverse⟩

lemma reverseRangeDiffers_iff {r : Request}
    (hcommand : readCommands.lookup r.command = some command)
    (hrange : ReverseRange command r.args key first second o) :
    ReverseRangeDiffers env r now db ↔
      ∃ scores, (liveLookup now db key).map Entry.value = some (.sortedSet scores) ∧
        zrangeReply env .error first second o scores ≠
          zrangeReply env .error second first o scores := by
  simp only [zrangeReply_swap_iff hrange.mode_ne]
  constructor
  · rintro ⟨command', key', first', second', o', scores, hcommand', hrange', hlookup, hdiffers⟩
    rw [hcommand] at hcommand'
    cases hcommand'
    obtain ⟨options, hargs, ho⟩ := hrange
    obtain ⟨options', hargs', ho'⟩ := hrange'
    rw [hargs] at hargs'
    cases hargs'
    rw [ho] at ho'
    cases ho'
    exact ⟨scores, hlookup, hdiffers⟩
  · rintro ⟨scores, hlookup, hdiffers⟩
    exact ⟨command, key, first, second, o, scores, hcommand, hrange, hlookup, hdiffers⟩

lemma not_reverseRange {args : List Bytes} (hscore : command ≠ .zrevrangebyscore)
    (hlex : command ≠ .zrevrangebylex) :
    ¬ ∃ key first second o, ReverseRange command args key first second o := by
  rintro ⟨key, first, second, o, options, -, ho⟩
  unfold ReadCommand.reverseOptions at ho
  split at ho
  · exact hscore rfl
  · exact hlex rfl
  · cases ho

/-- What the engine runs for a request that the path accepts, against what the path runs: queries
that agree, or the two orders of the bounds of a range. -/
lemma handles_cases {b : Backend σ κ} (herr : Plainly b.err) {args : List Bytes} {query : FastQuery}
    (hquery : command.lockFree env now args = some query) :
    ((¬ ∃ key first second o, ReverseRange command args key first second o) ∧
        ∃ slow, Handles b env now command args slow ∧ slow.Agrees query) ∨
      ∃ key first second o, ReverseRange command args key first second o ∧
        Handles b env now command args (lockFreeZrangeResponse env key second first o) ∧
        query = lockFreeZrangeResponse env key first second o := by
  have hrel : command ≠ .get → Option.Rel FastQuery.Agrees (command.handler env b.err now args)
      (command.lockFree env now args) → ∃ slow, Handles b env now command args slow ∧
        slow.Agrees query := by
    intro hget hagrees
    rw [hquery] at hagrees
    cases hhandler : command.handler env b.err now args with
    | none =>
      rw [hhandler] at hagrees
      cases hagrees
    | some slow =>
      rw [hhandler] at hagrees
      cases hagrees with
      | some hagree => exact ⟨slow, .inr ⟨hget, hhandler⟩, hagree⟩
  by_cases hreverse : command = .zrevrangebyscore ∨ command = .zrevrangebylex
  · have hget : command ≠ .get := by
      rintro rfl
      rcases hreverse with h | h <;> cases h
    obtain ⟨hnone, hagrees⟩ | ⟨key, first, second, o, hrange, hhandler, hlockFree⟩ :=
      reverse_cases herr hreverse args
    · exact .inl ⟨hnone, hrel hget hagrees⟩
    · rw [hquery] at hlockFree
      exact .inr ⟨key, first, second, o, hrange, .inr ⟨hget, hhandler⟩, Option.some.inj hlockFree⟩
  · rw [not_or] at hreverse
    refine .inl ⟨not_reverseRange hreverse.1 hreverse.2, ?_⟩
    by_cases hget : command = .get
    · subst hget
      cases hquery
      exact ⟨_, .inl ⟨rfl, rfl⟩, .refl _⟩
    · exact hrel hget (agrees_handler herr hget hreverse.1 hreverse.2 args)

/-- **Reads without the metadata lock answer as the engine does, unless they reverse a range.** For
every state of the server and of a client that takes this path, every clock and every request that
it accepts, the reply and the databases are those of `execute_argv`, exactly if the request does not
ask for a range in descending order that is another one with its bounds the other way round. -/
theorem lockFree_refines_iff (b : Backend σ κ) (env : ReadEnv)
    (note : Request → RespFrame → σ → κ → σ × κ) {home : Option Bytes}
    (hhome : ∀ dir ∈ home, dir = [] ∨ 47 ∈ dir) (hsanitize : b.SanitizesWith home)
    (r : Request) (now : Int64) (conn : Conn σ κ)
    (hmemory : ∀ index, DbInMemory (conn.server.store.dbs index))
    {store : Store σ} {session : Session κ} {outcome : CommandOutcome}
    (h : tryExecuteLockFree b env note r now (.ofAcl conn.server.acl) conn.server.store
      conn.client.session = some (store, session, outcome)) :
    ((executeArgv (b.withReads env) r now conn).2 = outcome ∧
        (executeArgv (b.withReads env) r now conn).1.server.store.dbs = store.dbs) ↔
      ¬ ReverseRangeDiffers env r now
        (conn.server.store.dbs conn.client.session.selectedDb) := by
  have herr := hsanitize.plainly hhome
  unfold tryExecuteLockFree at h
  split at h
  · next session' command hsession hcommand =>
      obtain ⟨query, hquery, hresult⟩ := Option.map_eq_some_iff.mp h
      obtain ⟨-, -, hindex, -⟩ := session_of_lockFreeSession hsession
      obtain ⟨hdbs, hreply⟩ := run_eq_onDb now b session'.selectedDb query conn.server.store
      rw [hindex] at hdbs hreply
      -- what the read does is its query on the selected database
      have hfast : outcome = .reply (query.onDb now
            (conn.server.store.dbs conn.client.session.selectedDb)).2 ∧
          store.dbs = Function.update conn.server.store.dbs conn.client.session.selectedDb
            (query.onDb now (conn.server.store.dbs conn.client.session.selectedDb)).1 := by
        cases hresult
        rw [hindex]
        exact ⟨congrArg CommandOutcome.reply hreply, hdbs⟩
      rw [hfast.1, hfast.2]
      obtain ⟨hnone, slow, hslow, hagrees⟩ | ⟨key, first, second, o, hrange, hslow, rfl⟩ :=
        handles_cases herr hquery
      · obtain ⟨hresponse, hstore⟩ := executeArgv_eq_onDb b herr hsession hcommand hslow
        refine iff_of_true ?_ (not_reverseRangeDiffers hcommand hnone)
        rw [hresponse, hstore, hagrees.onDb_eq (hmemory _)]
        exact ⟨rfl, rfl⟩
      · obtain ⟨hresponse, hstore⟩ := executeArgv_eq_onDb b herr hsession hcommand hslow
        rw [hresponse, hstore, reverseRangeDiffers_iff hcommand hrange, ← reverse_reply_iff]
        constructor
        · rintro ⟨hsame, -⟩
          exact congrArg CommandOutcome.response hsame
        · intro hsame
          rw [hsame, onDb_zrangeResponse, onDb_zrangeResponse]
          exact ⟨rfl, rfl⟩
  · cases h

end refinement

/-! ## A range that is answered in two ways -/

section reversed

/-- The modelled commands, with error texts as a server in a home directory replies them. -/
def readBackend : Backend Unit Unit :=
  { Backend.bare with sanitize := sanitizeErrorMessage (some (ascii "/home/ratatosk")) }

/-- The scores of a sorted set with one member. -/
def readScores : Finmap fun _ : Bytes => Score :=
  (∅ : Finmap fun _ : Bytes => Score).insert (ascii "a") 0

/-- A server with that sorted set at `z`. -/
def readServer : ServerState Unit :=
  { emptyServer with
    store := { emptyServer.store with
      dbs := Function.update emptyServer.store.dbs ⟨0, dbCount_pos⟩
        ((∅ : Db).insert (ascii "z") ⟨.sortedSet readScores, none⟩) } }

/-- A client of that server. -/
def readConn : Conn Unit Unit := ⟨readServer, .new ()⟩

/-- `ZREVRANGEBYLEX z + -`, which asks for all members. -/
def reverseRequest : Request := ⟨ascii "ZREVRANGEBYLEX", [ascii "z", ascii "+", ascii "-"]⟩

lemma sortedEntries_readScores : sortedEntries readScores = [⟨0, ascii "a"⟩] := by
  rw [sortedEntries]
  exact Multiset.sort_singleton _ _

lemma plainly_readBackend : Plainly readBackend.err := by
  have hsanitize : readBackend.SanitizesWith (some (ascii "/home/ratatosk")) := fun _ _ => rfl
  apply hsanitize.plainly
  rintro dir ⟨⟩
  exact .inr (by decide)

lemma liveLookup_readServer :
    liveLookup 0 (readServer.store.dbs ⟨0, by decide⟩) (ascii "z") =
      some ⟨.sortedSet readScores, none⟩ := by
  rfl

/-- **A range in descending order, answered in two ways.** `ZREVRANGEBYLEX z + -` asks for all
members: the read without the lock replies `a`, the engine nothing. -/
theorem lockFree_diverges :
    (tryExecuteLockFree readBackend .byName (fun _ _ _ _ => ((), ())) reverseRequest 0
        (.ofAcl readConn.server.acl) readConn.server.store readConn.client.session).map
          (fun result => result.2.2.response) = some (.array [.bulkString (some (ascii "a"))]) ∧
      (executeArgv (readBackend.withReads .byName) reverseRequest 0 readConn).2.response =
        .array [] := by
  have hsession : lockFreeSession (.ofAcl readConn.server.acl) readConn.client.session =
      some { readConn.client.session with authenticated := true, aclUser := defaultName } := rfl
  have hcommand : readCommands.lookup reverseRequest.command = some .zrevrangebylex := by
    decide +kernel
  constructor
  · have hrun := (run_eq_onDb 0 readBackend ⟨0, by decide⟩ (lockFreeZrangeResponse .byName
      (ascii "z") (ascii "+") (ascii "-") ⟨.byLex, true, none, false⟩) readServer.store).2
    rw [onDb_zrangeResponse, liveLookup_readServer] at hrun
    unfold tryExecuteLockFree
    rw [hsession, hcommand]
    refine congrArg some (hrun.trans ?_)
    dsimp only [fromSortedSet, zrangeReply, zrangeCollect, zrangeEntries]
    rw [sortedEntries_readScores]
    rfl
  · have hslow : Handles readBackend .byName 0 .zrevrangebylex reverseRequest.args
        (zrangeQuery .byName readBackend.err (ascii "z") (ascii "-") (ascii "+")
          ⟨.byLex, true, none, false⟩) := .inr ⟨by decide, rfl⟩
    rw [(executeArgv_eq_onDb readBackend plainly_readBackend hsession hcommand hslow).1,
      zrangeQuery_eq plainly_readBackend, onDb_zrangeResponse]
    have hlookup : liveLookup 0 (readConn.server.store.dbs readConn.client.session.selectedDb)
        (ascii "z") = _ := liveLookup_readServer
    rw [hlookup]
    dsimp only [CommandOutcome.reply, fromSortedSet, zrangeReply, zrangeCollect, zrangeEntries]
    rw [sortedEntries_readScores]
    rfl

lemma inMemory_readServer (index : Fin dbCount) : DbInMemory (readServer.store.dbs index) := by
  intro key entry hlookup
  by_cases hindex : index = ⟨0, by decide⟩
  · subst hindex
    rw [show readServer.store.dbs ⟨0, by decide⟩ =
      (∅ : Db).insert (ascii "z") ⟨.sortedSet readScores, none⟩ from rfl] at hlookup
    by_cases hkey : key = ascii "z"
    · rw [hkey, lookup_insert] at hlookup
      cases hlookup
      have hcard : readScores.keys.card < 2 ^ 60 := by decide +kernel
      exact hcard
    · rw [lookup_insert_of_ne _ hkey, lookup_empty] at hlookup
      cases hlookup
  · have hempty : readServer.store.dbs index = ∅ := update_of_ne hindex _ _
    rw [hempty, lookup_empty] at hlookup
    cases hlookup

/-- `ZREVRANGEBYLEX z [a [a`. -/
def equalBoundsRequest : Request :=
  ⟨ascii "ZREVRANGEBYLEX", [ascii "z", ascii "[a", ascii "[a"]⟩

/-- With equal bounds the two paths answer the same. -/
theorem lockFree_refines_equal_bounds :
    ∃ store session outcome,
      tryExecuteLockFree readBackend .byName (fun _ _ _ _ => ((), ())) equalBoundsRequest 0
        (.ofAcl readConn.server.acl) readConn.server.store readConn.client.session =
          some (store, session, outcome) ∧
      (executeArgv (readBackend.withReads .byName) equalBoundsRequest 0 readConn).2 = outcome ∧
      (executeArgv (readBackend.withReads .byName) equalBoundsRequest 0
        readConn).1.server.store.dbs = store.dbs := by
  have hsession : lockFreeSession (.ofAcl readConn.server.acl) readConn.client.session =
      some { readConn.client.session with authenticated := true, aclUser := defaultName } := rfl
  have hcommand : readCommands.lookup equalBoundsRequest.command = some .zrevrangebylex := by
    decide +kernel
  obtain ⟨⟨store, session, outcome⟩, h⟩ : ∃ result,
      tryExecuteLockFree readBackend .byName (fun _ _ _ _ => ((), ())) equalBoundsRequest 0
        (.ofAcl readConn.server.acl) readConn.server.store readConn.client.session =
          some result := by
    unfold tryExecuteLockFree
    rw [hsession, hcommand]
    exact ⟨_, rfl⟩
  have hhome : ∀ dir ∈ some (ascii "/home/ratatosk"), dir = [] ∨ 47 ∈ dir := by
    rintro dir ⟨⟩
    exact .inr (by decide)
  refine ⟨store, session, outcome, h, ?_⟩
  refine (lockFree_refines_iff readBackend .byName _ hhome (fun _ _ => rfl) equalBoundsRequest 0
    readConn inMemory_readServer h).mpr ?_
  rintro ⟨command, key, first, second, o, scores, -, ⟨options, hargs, -⟩, -, hdiffers⟩
  cases hargs
  rw [countP_eq_zero.mpr fun e _ => by rw [betweenOneWay_self]; exact Bool.false_ne_true]
    at hdiffers
  exact not_limitLeaves_zero o.limit hdiffers

end reversed

end Ratatosk.Engine
