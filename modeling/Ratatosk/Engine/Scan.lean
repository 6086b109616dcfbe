import Ratatosk.Engine.LockFree
import Ratatosk.Engine.StreamEdits
import Ratatosk.Keyspace.SetRepr
import Ratatosk.Keyspace.Shard

/-!
# `SCAN`, `HSCAN`, `SSCAN` and `ZSCAN`

Iteration with a cursor, from `cmd_key.rs`, `cmd_key_meta.rs`, `cmd_hash_read.rs`, `cmd_set.rs` and
`cmd_sorted_set_sampling.rs`. A call sorts the names, be they keys, fields or members, and the
cursor is a position in this list, which the next call sorts anew.

* `ScanCommand.present` — what is there to be returned, by the content of what is stored.
* `ScanCommand.call_spec` — one call returns the names at the positions from its cursor on.
* `scan_returns_iff` — **a name that is there at every call of a full iteration is returned exactly
  if at some call the names before it are at least as many as the earlier counts add up to, and
  fewer than the counts with that call's; it is if the names before it never get fewer**.
* `scan_misses_key` — a deletion between two calls hides a key that is there throughout.
-/

namespace Ratatosk.Engine

open Lib Keyspace Resp List

/-! ## Pages -/

section pages

variable {T : Type}

/-- The loop of `scan_collect_indexes`: where it stops, and the positions that match. -/
def scanLoop (items : List T) (isMatch : T → Bool) : Nat → Nat → Nat × List Nat
  | 0, idx => (idx, [])
  | remaining + 1, idx =>
    match items[idx]? with
    | none => (idx, [])
    | some item =>
      let (stop, matched) := scanLoop items isMatch remaining (idx + 1)
      (stop, if isMatch item then idx :: matched else matched)

/-- Source: `cmd_key.rs` `scan_collect_indexes` -/
def scanCollectIndexes (items : List T) (cursor count : Nat) (isMatch : T → Bool) :
    Nat × List Nat :=
  if items.isEmpty then (0, [])
  else
    let (idx, matched) := scanLoop items isMatch count (min cursor items.length)
    (if items.length ≤ idx then 0 else idx, matched)

end pages

/-! ## The commands -/

/-- What `TYPE` asks for. -/
inductive ScanTypeFilter where
  | string | hash | list | set | zset | unknown
  deriving Repr, DecidableEq

/-- What the options ask for. -/
structure ScanOptions where
  pattern : Option Bytes
  count : Nat
  typeFilter : Option ScanTypeFilter
  deriving Repr, DecidableEq

/-- One of the commands, with the key that it names. -/
inductive ScanCommand where
  | scan
  | hscan (key : Bytes)
  | sscan (key : Bytes)
  | zscan (key : Bytes)
  deriving Repr, DecidableEq

/-- One name, with the frames that a reply has for it and, for a key, its value. -/
structure ScanItem where
  name : Bytes
  frames : List RespFrame
  value : Option ValueData

/-- Whether a value is of a type. -/
def ScanTypeFilter.accepts : ScanTypeFilter → ValueData → Bool
  | .string, .string _ => true
  | .string, .stringInt _ => true
  | .hash, .hash _ => true
  | .list, .list _ => true
  | .set, .set _ => true
  | .set, .setInt _ => true
  | .zset, .sortedSet _ => true
  | _, _ => false

/-- Source: `cmd_key.rs` `parse_scan_cursor` -/
def parseScanCursor (raw : Bytes) : Except Bytes Nat :=
  match parseI64 raw with
  | none => .error (ascii "ERR invalid cursor")
  | some cursor =>
    if cursor < 0 then .error (ascii "ERR invalid cursor") else .ok cursor.toInt.toNat

/-- The type that `TYPE` names. -/
def parseScanType (raw : Bytes) : ScanTypeFilter :=
  if eqIgnoreCase raw "STRING" then .string
  else if eqIgnoreCase raw "HASH" then .hash
  else if eqIgnoreCase raw "LIST" then .list
  else if eqIgnoreCase raw "SET" then .set
  else if eqIgnoreCase raw "ZSET" then .zset
  else .unknown

/-- The loop over the options; `SCAN` has `TYPE` besides.
Source: `cmd_key.rs` `parse_scan_match_count_options`, `cmd_key_meta.rs` `cmd_scan` -/
def parseScanOptions (withType : Bool) : List Bytes → ScanOptions → Except Bytes ScanOptions
  | [], o => .ok o
  | option :: rest, o =>
    if eqIgnoreCase option "MATCH" then
      match rest with
      | [] => .error syntaxErrorText
      | pattern :: rest => parseScanOptions withType rest { o with pattern := some pattern }
    else if eqIgnoreCase option "COUNT" then
      match rest with
      | [] => .error syntaxErrorText
      | raw :: rest =>
        match parseI64 raw with
        | none => .error notIntegerText
        | some count =>
          if count < 1 then .error syntaxErrorText
          else parseScanOptions withType rest { o with count := count.toInt.toNat }
    else if withType && eqIgnoreCase option "TYPE" then
      match rest with
      | [] => .error syntaxErrorText
      | raw :: rest =>
        parseScanOptions withType rest { o with typeFilter := some (parseScanType raw) }
    else .error syntaxErrorText

/-- Source: `cmd_key.rs` `scan_reply` -/
def scanReply (next : Nat) (entries : List RespFrame) : RespFrame :=
  .array [.bulkString (some (decimal next)), .array entries]

/-- The items in the order of their names. -/
def sortByName (items : List ScanItem) : List ScanItem :=
  items.insertionSort fun a b => a.name ≤ b.name

section commands

-- `formatScore` is `format_f64_for_redis`, `glob` is `glob_match` on the texts of its arguments
variable (err : Bytes → RespFrame) (formatScore : Score → Bytes) (glob : Bytes → Bytes → Bool)

/-- The items of one value, for the commands that name a key. -/
def ScanCommand.valueItems (c : ScanCommand) (now : Int64) (data : ValueData) :
    Except RespFrame (List ScanItem) :=
  match c, data with
  | .hscan _, .hash fields =>
    let alive := fields.entries.filter fun f => !(f.2.expireAtMs.any fun ms => ms ≤ now)
    .ok (alive.map fun f => ⟨f.1, [.bulkString (some f.1), .bulkString (some f.2.value)], none⟩)
  | .sscan _, data =>
    match data.setMembers with
    | some members => .ok (members.map fun m => ⟨m, [.bulkString (some m)], none⟩)
    | none => .error wrongtype
  | .zscan _, .sortedSet zset =>
    .ok (zset.byMember.entries.map fun e =>
      ⟨e.1, [.bulkString (some e.1), .bulkString (some (formatScore e.2))], none⟩)
  | _, _ => .error wrongtype

/-- What a command walks over: the keys that have not expired, or what is stored at its key. -/
def ScanCommand.items (c : ScanCommand) (now : Int64) (s : DbShard) :
    DbShard × Except RespFrame (List ScanItem) :=
  match c with
  | .scan =>
    let s := s.purgeExpiredKeys now
    (s, .ok (sortByName (s.data.entries.map fun e =>
      ⟨e.1, [.bulkString (some e.1)], some e.2.data⟩)))
  | .hscan key | .sscan key | .zscan key =>
    let s := (s.purgeExpiredKey key now).1
    match s.data.lookup key with
    | none => (s, .ok [])
    | some value => (s, (c.valueItems formatScore now value.data).map sortByName)

/-- The match of `MATCH` and `TYPE`. -/
def ScanOptions.isMatch (o : ScanOptions) (item : ScanItem) : Bool :=
  (o.pattern.all fun pattern => glob pattern item.name) &&
    o.typeFilter.all fun filter => item.value.any filter.accepts

/-- A command, its arguments split into the key, the cursor and the options.
Source: `cmd_key_meta.rs` `cmd_scan`, `cmd_hash_read.rs` `cmd_hscan`, `cmd_set.rs` `cmd_sscan`,
`cmd_sorted_set_sampling.rs` `cmd_zscan` -/
def ScanCommand.run (c : ScanCommand) (cursorRaw : Bytes) (options : List Bytes) (now : Int64)
    (s : DbShard) : DbShard × RespFrame :=
  match parseScanCursor cursorRaw with
  | .error text => (s, err text)
  | .ok cursor =>
    match parseScanOptions (c == .scan) options ⟨none, 10, none⟩ with
    | .error text => (s, err text)
    | .ok o =>
      match c.items formatScore now s with
      | (s, .error reply) => (s, reply)
      | (s, .ok items) =>
        let (next, matched) := scanCollectIndexes items cursor o.count (o.isMatch glob)
        (s, scanReply next (matched.flatMap fun idx => (items[idx]?.map ScanItem.frames).getD []))

/-- Source: `cmd_key_meta.rs` `cmd_scan` -/
def cmdScan (args : List Bytes) (now : Int64) (s : DbShard) : DbShard × RespFrame :=
  match args with
  | cursor :: options => ScanCommand.scan.run err formatScore glob cursor options now s
  | [] => (s, err (wrongArityText (ascii "scan")))

/-- Source: `cmd_hash_read.rs` `cmd_hscan` -/
def cmdHscan (args : List Bytes) (now : Int64) (s : DbShard) : DbShard × RespFrame :=
  match args with
  | key :: cursor :: options => (ScanCommand.hscan key).run err formatScore glob cursor options now s
  | _ => (s, err (wrongArityText (ascii "hscan")))

/-- Source: `cmd_set.rs` `cmd_sscan` -/
def cmdSscan (args : List Bytes) (now : Int64) (s : DbShard) : DbShard × RespFrame :=
  match args with
  | key :: cursor :: options => (ScanCommand.sscan key).run err formatScore glob cursor options now s
  | _ => (s, err (wrongArityText (ascii "sscan")))

/-- Source: `cmd_sorted_set_sampling.rs` `cmd_zscan` -/
def cmdZscan (args : List Bytes) (now : Int64) (s : DbShard) : DbShard × RespFrame :=
  match args with
  | key :: cursor :: options => (ScanCommand.zscan key).run err formatScore glob cursor options now s
  | _ => (s, err (wrongArityText (ascii "zscan")))

end commands

/-! ## Pages and positions -/

section positions

variable {T : Type}

/-- How many names come before a given one. -/
def namesBelow (name : Bytes) (names : List Bytes) : Nat :=
  names.countP fun other => decide (other < name)

/-- Where the loop stops, and what it collects. -/
lemma scanLoop_spec (items : List T) (isMatch : T → Bool) (count idx : Nat)
    (h : idx ≤ items.length) :
    (scanLoop items isMatch count idx).1 = min (idx + count) items.length ∧
      ∀ j, j ∈ (scanLoop items isMatch count idx).2 ↔
        idx ≤ j ∧ j < idx + count ∧ ∃ item, items[j]? = some item ∧ isMatch item = true := by
  induction count generalizing idx with
  | zero =>
    refine ⟨(min_eq_left h).symm, fun j => iff_of_false not_mem_nil ?_⟩
    rintro ⟨hle, hlt, -⟩
    omega
  | succ count ih =>
    rw [scanLoop]
    cases hitem : items[idx]? with
    | none =>
      have hend : items.length ≤ idx := List.getElem?_eq_none_iff.mp hitem
      refine ⟨?_, fun j => iff_of_false not_mem_nil ?_⟩
      · dsimp only
        omega
      · rintro ⟨hle, -, item, hj, -⟩
        obtain ⟨hlt, -⟩ := List.getElem?_eq_some_iff.mp hj
        omega
    | some item =>
      obtain ⟨hlt, -⟩ := List.getElem?_eq_some_iff.mp hitem
      obtain ⟨hstop, hmatched⟩ := ih (idx + 1) hlt
      dsimp only
      refine ⟨by omega, fun j => ?_⟩
      have hrest : j ∈ (scanLoop items isMatch count (idx + 1)).2 ↔
          idx < j ∧ j < idx + (count + 1) ∧
            ∃ item, items[j]? = some item ∧ isMatch item = true := by
        rw [hmatched j, Nat.add_right_comm idx 1 count]
        rfl
      by_cases hj : j = idx
      · subst hj
        split_ifs with hmatch
        · refine iff_of_true mem_cons_self ⟨le_rfl, by omega, item, hitem, hmatch⟩
        · rw [hrest]
          refine iff_of_false (fun h => Nat.lt_irrefl _ h.1) ?_
          rintro ⟨-, -, other, hother, hmatch'⟩
          rw [hitem, Option.some.injEq] at hother
          exact hmatch (hother ▸ hmatch')
      · have hmem : (j ∈ if isMatch item = true then
            idx :: (scanLoop items isMatch count (idx + 1)).2
            else (scanLoop items isMatch count (idx + 1)).2) ↔
            j ∈ (scanLoop items isMatch count (idx + 1)).2 := by
          split_ifs
          · rw [mem_cons]
            exact or_iff_right hj
          · rfl
        rw [hmem, hrest]
        have hle : idx < j ↔ idx ≤ j := by omega
        rw [hle]

/-- The page of a list: the positions from the cursor on, as many as the count, that match. -/
lemma scanCollectIndexes_spec (items : List T) (isMatch : T → Bool) (cursor count : Nat) :
    (scanCollectIndexes items cursor count isMatch).1 =
      (if items.length ≤ cursor + count then 0 else cursor + count) ∧
    ∀ j, j ∈ (scanCollectIndexes items cursor count isMatch).2 ↔
      cursor ≤ j ∧ j < cursor + count ∧ ∃ item, items[j]? = some item ∧ isMatch item = true := by
  rw [scanCollectIndexes]
  by_cases hempty : items.isEmpty
  · have hnil := List.isEmpty_iff.mp hempty
    subst hnil
    refine ⟨(if_pos (Nat.zero_le _)).symm, fun j => iff_of_false not_mem_nil ?_⟩
    rintro ⟨-, -, item, hitem, -⟩
    cases hitem
  · rw [if_neg hempty]
    obtain ⟨hstop, hmatched⟩ :=
      scanLoop_spec items isMatch count (min cursor items.length) (Nat.min_le_right _ _)
    dsimp only
    rw [hstop]
    constructor
    · split_ifs <;> omega
    · intro j
      rw [hmatched j]
      constructor
      · rintro ⟨hle, hlt, item, hitem, hmatch⟩
        obtain ⟨hj, -⟩ := List.getElem?_eq_some_iff.mp hitem
        exact ⟨by omega, by omega, item, hitem, hmatch⟩
      · rintro ⟨hle, hlt, item, hitem, hmatch⟩
        obtain ⟨hj, -⟩ := List.getElem?_eq_some_iff.mp hitem
        exact ⟨by omega, by omega, item, hitem, hmatch⟩

/-- In a sorted list, a name stands after those that come before it. -/
lemma getElem?_namesBelow {names : List Bytes} {name : Bytes}
    (hsorted : names.Pairwise fun a b => a ≤ b) (hmem : name ∈ names) :
    names[namesBelow name names]? = some name := by
  induction names with
  | nil => cases hmem
  | cons first rest ih =>
    rw [pairwise_cons] at hsorted
    rw [namesBelow, countP_cons]
    by_cases hfirst : first < name
    · have hrest : name ∈ rest := by
        rcases mem_cons.mp hmem with rfl | hrest
        · exact absurd hfirst (List.lt_irrefl _)
        · exact hrest
      rw [if_pos (decide_eq_true hfirst)]
      exact ih hsorted.2 hrest
    · -- nothing later can come before the name either
      have hname : first = name := by
        rcases mem_cons.mp hmem with rfl | hrest
        · rfl
        · exact List.le_antisymm (hsorted.1 name hrest) (List.not_lt.mp hfirst)
      have hnone : rest.countP (fun other => decide (other < name)) = 0 := by
        rw [countP_eq_zero]
        intro other hother hlt
        rw [decide_eq_true_iff] at hlt
        exact List.not_lt.mpr (hname ▸ hsorted.1 other hother) hlt
      rw [hnone, hname, if_neg (by simp)]
      rfl

end positions

/-! ## What is there -/

/-- A call of an iteration: the database that it finds, its options and the count that they ask for,
its time. -/
structure ScanRound where
  shard : DbShard
  options : List Bytes
  count : Nat
  now : Int64

/-- What is stored at a key, unless it has expired. -/
def ScanRound.stored (r : ScanRound) (key : Bytes) : Option StoredValue :=
  (r.shard.data.lookup key).filter fun value => !DbShard.hasExpired value r.now

/-- The content of what is stored at a key, unless it has expired. -/
def ScanRound.content (r : ScanRound) (key : Bytes) : Option Value :=
  (r.stored key).map fun value => value.data.content

/-- The names that are there at a call: the keys that have not expired, the fields of a hash that
have not expired, the members of a set or of a sorted set. -/
def ScanCommand.present (c : ScanCommand) (r : ScanRound) : Finset Bytes :=
  match c with
  | .scan => r.shard.data.keys.toFinset.filter fun key => (r.stored key).isSome
  | .hscan key =>
    match r.content key with
    | some (.hash fields) => fields.keys.filter fun field => (liveField fields field r.now).isSome
    | _ => ∅
  | .sscan key =>
    match r.content key with
    | some (.set members) => members
    | _ => ∅
  | .zscan key =>
    match r.content key with
    | some (.sortedSet scores) => scores.keys
    | _ => ∅

/-- How many of the names that are there come before a given one. -/
def ScanCommand.rank (c : ScanCommand) (name : Bytes) (r : ScanRound) : Nat :=
  ((c.present r).filter (· < name)).card

/-- A call with no option but `COUNT`, on what fits in memory; the vector of an integer set is in
strict order. -/
structure ScanCommand.Plain (c : ScanCommand) (r : ScanRound) : Prop where
  options : parseScanOptions (c == .scan) r.options ⟨none, 10, none⟩ = .ok ⟨none, r.count, none⟩
  few : (c.present r).card < vecCapacity
  ordered : ∀ key value ints, r.shard.data.lookup key = some value → value.data = .setInt ints →
    ints.Pairwise fun a b => a.toInt < b.toInt

/-! ### What is listed -/

section listed

variable {c : ScanCommand} {r : ScanRound}

lemma data_remove (s : DbShard) (key : Bytes) : (s.remove key).1.data = s.data.erase key := by
  rw [DbShard.remove, DbShard.takeWithEstimate]
  cases hkey : s.data.lookup key with
  | none => exact (AList.ext (HashMap.entries_erase_of_lookup_eq_none hkey)).symm
  | some value => rfl

/-- A call that names a key finds what is stored there and has not expired. -/
lemma lookup_purgeExpiredKey (r : ScanRound) (key : Bytes) :
    (r.shard.purgeExpiredKey key r.now).1.data.lookup key = r.stored key := by
  rw [DbShard.purgeExpiredKey, ScanRound.stored]
  cases hkey : r.shard.data.lookup key with
  | none =>
    rw [Option.any_none, if_neg Bool.false_ne_true]
    exact hkey
  | some value =>
    rw [Option.any_some, Option.filter_some]
    cases DbShard.hasExpired value r.now with
    | false => exact hkey
    | true =>
      rw [if_pos rfl]
      dsimp only
      rw [data_remove, AList.lookup_erase]
      rfl

/-- Removing keys leaves the others. -/
lemma lookup_foldl_remove (keys : List Bytes) (s : DbShard) (key : Bytes) :
    (keys.foldl (fun s key => (s.remove key).1) s).data.lookup key =
      if key ∈ keys then none else s.data.lookup key := by
  induction keys generalizing s with
  | nil => rfl
  | cons first rest ih =>
    rw [foldl_cons, ih, data_remove]
    by_cases hfirst : key = first
    · subst hfirst
      rw [AList.lookup_erase, if_pos mem_cons_self, ite_self]
    · rw [AList.lookup_erase_ne hfirst]
      simp only [mem_cons, hfirst, false_or]

/-- `SCAN` finds the keys that have not expired. -/
lemma lookup_purgedShard (r : ScanRound) (key : Bytes) :
    (r.shard.purgeExpiredKeys r.now).data.lookup key = r.stored key := by
  rw [DbShard.purgeExpiredKeys, lookup_foldl_remove, ScanRound.stored]
  have hmem : key ∈ ((r.shard.data.entries.filter fun e =>
      DbShard.hasExpired e.2 r.now).map Sigma.fst) ↔
      ∃ value, r.shard.data.lookup key = some value ∧ DbShard.hasExpired value r.now = true := by
    simp only [mem_map, mem_filter]
    constructor
    · rintro ⟨⟨name, value⟩, ⟨hentry, hexpired⟩, rfl⟩
      exact ⟨value, AList.mem_lookup_iff.mpr hentry, hexpired⟩
    · rintro ⟨value, hvalue, hexpired⟩
      exact ⟨⟨key, value⟩, ⟨AList.mem_lookup_iff.mp hvalue, hexpired⟩, rfl⟩
  cases hkey : r.shard.data.lookup key with
  | none => rw [ite_self, Option.filter_none]
  | some value =>
    rw [hkey] at hmem
    rw [Option.filter_some]
    by_cases hexpired : DbShard.hasExpired value r.now = true
    · rw [if_pos (hmem.mpr ⟨value, rfl, hexpired⟩), hexpired]
      rfl
    · have hnot : ¬ key ∈ ((r.shard.data.entries.filter fun e =>
          DbShard.hasExpired e.2 r.now).map Sigma.fst) := by
        intro hin
        obtain ⟨value', hvalue', hexpired'⟩ := hmem.mp hin
        rw [← Option.some.inj hvalue'] at hexpired'
        exact hexpired hexpired'
      rw [if_neg hnot, Bool.not_eq_true _ |>.mp hexpired]
      rfl

/-- The frames that a reply has for an item: its name, and one more for a field or scored member. -/
def ScanCommand.Shows (c : ScanCommand) (item : ScanItem) : Prop :=
  match c with
  | .scan | .sscan _ => item.frames = [.bulkString (some item.name)]
  | .hscan _ | .zscan _ => ∃ value, item.frames = [.bulkString (some item.name), value]

/-- The items list each name that is there once. -/
structure ScanCommand.Lists (c : ScanCommand) (names : Finset Bytes) (items : List ScanItem) :
    Prop where
  nodup : (items.map ScanItem.name).Nodup
  names_eq : (items.map ScanItem.name).toFinset = names
  shows : ∀ item ∈ items, c.Shows item

/-- `SCAN` lists the live keys. -/
lemma lists_scan : ScanCommand.scan.Lists (ScanCommand.scan.present r)
    ((r.shard.purgeExpiredKeys r.now).data.entries.map fun e =>
      ⟨e.1, [.bulkString (some e.1)], some e.2.data⟩) where
  nodup := by
    rw [map_map]
    exact (r.shard.purgeExpiredKeys r.now).data.nodupKeys
  names_eq := by
    ext key
    have hlookup := lookup_purgedShard r key
    have hkeys : key ∈ (r.shard.purgeExpiredKeys r.now).data.keys ↔ (r.stored key).isSome := by
      rw [← AList.mem_keys, ← AList.lookup_isSome, hlookup]
    have hstored : (r.stored key).isSome → key ∈ r.shard.data.keys := by
      intro hsome
      obtain ⟨value, hvalue⟩ := Option.isSome_iff_exists.mp hsome
      rw [← AList.mem_keys, ← AList.lookup_isSome, (Option.filter_eq_some_iff.mp hvalue).1]
      rfl
    rw [map_map, mem_toFinset, ScanCommand.present, Finset.mem_filter, mem_toFinset]
    exact hkeys.trans ⟨fun h => ⟨hstored h, h⟩, fun h => h.2⟩
  shows := by
    intro item hitem
    obtain ⟨e, -, rfl⟩ := mem_map.mp hitem
    rfl

/-- `HSCAN` lists the live fields. -/
lemma lists_hscan (key : Bytes) {fields : HashMap Bytes HashFieldEntry} (now : Int64) :
    (ScanCommand.hscan key).Lists
      (fields.toFinmap.keys.filter fun field => (liveField fields.toFinmap field now).isSome)
      ((fields.entries.filter fun f => !(f.2.expireAtMs.any fun ms => ms ≤ now)).map fun f =>
        ⟨f.1, [.bulkString (some f.1), .bulkString (some f.2.value)], none⟩) where
  nodup := by
    rw [map_map]
    exact List.Nodup.sublist (filter_sublist.map _) fields.nodupKeys
  names_eq := by
    ext field
    rw [map_map, mem_toFinset, Finset.mem_filter, Finmap.mem_keys, Finmap.mem_toFinmap, mem_map,
      liveField, Finmap.lookup_toFinmap]
    simp only [mem_filter]
    constructor
    · rintro ⟨⟨name, entry⟩, ⟨hentry, halive⟩, rfl⟩
      have hlookup : fields.lookup name = some entry := AList.mem_lookup_iff.mpr hentry
      refine ⟨AList.lookup_isSome.mp (Option.isSome_of_eq_some hlookup), ?_⟩
      dsimp only [Function.comp_apply]
      rw [hlookup, Option.filter_some, if_pos halive]
      rfl
    · rintro ⟨-, hlive⟩
      obtain ⟨entry, hentry⟩ := Option.isSome_iff_exists.mp hlive
      obtain ⟨hlookup, halive⟩ := Option.filter_eq_some_iff.mp hentry
      exact ⟨⟨field, entry⟩, ⟨AList.mem_lookup_iff.mp hlookup, halive⟩, rfl⟩
  shows := by
    intro item hitem
    obtain ⟨f, -, rfl⟩ := mem_map.mp hitem
    exact ⟨_, rfl⟩

/-- `SSCAN` lists the members. -/
lemma lists_sscan (key : Bytes) {members : List Bytes} (hnodup : members.Nodup) :
    (ScanCommand.sscan key).Lists members.toFinset
      (members.map fun m => ⟨m, [.bulkString (some m)], none⟩) where
  nodup := by
    rw [map_map]
    exact (map_id members).symm ▸ hnodup
  names_eq := by
    rw [map_map]
    exact congrArg List.toFinset (map_id members)
  shows := by
    intro item hitem
    obtain ⟨m, -, rfl⟩ := mem_map.mp hitem
    rfl

/-- `ZSCAN` lists the members. -/
lemma lists_zscan (formatScore : Score → Bytes) (key : Bytes) (scores : HashMap Bytes Score) :
    (ScanCommand.zscan key).Lists scores.toFinmap.keys
      (scores.entries.map fun e =>
        ⟨e.1, [.bulkString (some e.1), .bulkString (some (formatScore e.2))], none⟩) where
  nodup := by
    rw [map_map]
    exact scores.nodupKeys
  names_eq := by
    rw [map_map, ← HashMap.toFinset_keys]
    rfl
  shows := by
    intro item hitem
    obtain ⟨e, -, rfl⟩ := mem_map.mp hitem
    exact ⟨_, rfl⟩

/-- A set whose vector is in order is listed without duplicates. -/
lemma setMembers_of_content {data : ValueData} {members : Finset Bytes}
    (hcontent : data.content = .set members)
    (hordered : ∀ ints, data = .setInt ints → ints.Pairwise fun a b => a.toInt < b.toInt) :
    ∃ listed, data.setMembers = some listed ∧ listed.Nodup ∧ listed.toFinset = members := by
  have hrep : Keyspace.Represents data members := by
    cases data with
    | set stored =>
      have heq := Value.set.inj hcontent
      rw [← heq]
      exact HashMap.toFinset_keys stored
    | setInt ints => exact ⟨hordered ints rfl, Value.set.inj hcontent⟩
    | string | stringInt | hash | list | sortedSet | stream => cases hcontent
  obtain ⟨listed, hlisted, -, hnodup, hmembers⟩ := represents_setMembers hrep
  exact ⟨listed, hlisted, hnodup, hmembers⟩

lemma pairwise_sortByName (items : List ScanItem) :
    ((sortByName items).map ScanItem.name).Pairwise fun a b => a ≤ b := by
  have htotal : Std.Total fun a b : ScanItem => a.name ≤ b.name := ⟨fun a b => List.le_total _ _⟩
  have htrans : IsTrans ScanItem fun a b => a.name ≤ b.name := ⟨fun _ _ _ => List.le_trans⟩
  rw [pairwise_map]
  exact pairwise_insertionSort _ items

/-- Sorting lists the same names. -/
lemma ScanCommand.Lists.sort {names : Finset Bytes} {items : List ScanItem}
    (h : c.Lists names items) : c.Lists names (sortByName items) where
  nodup := ((perm_insertionSort _ items).map ScanItem.name).nodup_iff.mpr h.nodup
  names_eq := by
    rw [← h.names_eq]
    exact toFinset_eq_of_perm _ _ ((perm_insertionSort _ items).map ScanItem.name)
  shows := by
    intro item hitem
    exact h.shows item ((perm_insertionSort _ items).mem_iff.mp hitem)

lemma content_eq_some {key : Bytes} {content : Value} (h : r.content key = some content) :
    ∃ value, r.stored key = some value ∧ value.data.content = content :=
  Option.map_eq_some_iff.mp h

/-- **A call walks over the names that are there**, sorted, if there are any. -/
lemma ScanCommand.items_spec (formatScore : Score → Bytes) (hplain : c.Plain r) {name : Bytes}
    (hname : name ∈ c.present r) :
    ∃ items, (c.items formatScore r.now r.shard).2 = .ok (sortByName items) ∧
      c.Lists (c.present r) items := by
  cases c with
  | scan => exact ⟨_, rfl, lists_scan⟩
  | hscan key =>
    rw [ScanCommand.present] at hname ⊢
    split at hname
    · next fields hfields =>
        obtain ⟨value, hstored, hcontent⟩ := content_eq_some hfields
        obtain ⟨stored, hdata⟩ : ∃ stored, value.data = .hash stored := by
          cases hdata : value.data with
          | hash stored => exact ⟨stored, rfl⟩
          | string | stringInt | list | set | setInt | sortedSet | stream =>
            rw [hdata] at hcontent
            cases hcontent
        rw [hdata] at hcontent
        obtain rfl := Value.hash.inj hcontent
        refine ⟨_, ?_, lists_hscan key r.now⟩
        simp only [ScanCommand.items, lookup_purgeExpiredKey, hstored, ScanCommand.valueItems,
          hdata]
        rfl
    · exact absurd hname (Finset.notMem_empty _)
  | sscan key =>
    rw [ScanCommand.present] at hname ⊢
    split at hname
    · next members hmembers =>
        obtain ⟨value, hstored, hcontent⟩ := content_eq_some hmembers
        have hlookup := (Option.filter_eq_some_iff.mp hstored).1
        obtain ⟨listed, hlisted, hnodup, rfl⟩ := setMembers_of_content hcontent
          fun ints hints => hplain.ordered key value ints hlookup hints
        refine ⟨_, ?_, lists_sscan key hnodup⟩
        simp only [ScanCommand.items, lookup_purgeExpiredKey, hstored, ScanCommand.valueItems,
          hlisted]
        rfl
    · exact absurd hname (Finset.notMem_empty _)
  | zscan key =>
    rw [ScanCommand.present] at hname ⊢
    split at hname
    · next scores hscores =>
        obtain ⟨value, hstored, hcontent⟩ := content_eq_some hscores
        obtain ⟨zset, hdata⟩ : ∃ zset, value.data = .sortedSet zset := by
          cases hdata : value.data with
          | sortedSet zset => exact ⟨zset, rfl⟩
          | string | stringInt | list | set | setInt | hash | stream =>
            rw [hdata] at hcontent
            cases hcontent
        rw [hdata] at hcontent
        obtain rfl := Value.sortedSet.inj hcontent
        refine ⟨_, ?_, lists_zscan formatScore key zset.byMember⟩
        simp only [ScanCommand.items, lookup_purgeExpiredKey, hstored, ScanCommand.valueItems,
          hdata]
        rfl
    · exact absurd hname (Finset.notMem_empty _)

/-- The position of a name in what is listed is its rank. -/
lemma ScanCommand.Lists.rank_eq {items : List ScanItem} (h : c.Lists (c.present r) items)
    (name : Bytes) : namesBelow name (items.map ScanItem.name) = c.rank name r := by
  have hfilter : ((items.map ScanItem.name).filter fun other => decide (other < name)).toFinset =
      (c.present r).filter (· < name) := by
    rw [toFinset_filter, h.names_eq]
    simp
  rw [ScanCommand.rank, ← hfilter, toFinset_card_of_nodup (h.nodup.filter _), namesBelow,
    countP_eq_length_filter]

lemma ScanCommand.Lists.length_eq {items : List ScanItem} (h : c.Lists (c.present r) items) :
    items.length = (c.present r).card := by
  rw [← h.names_eq, toFinset_card_of_nodup h.nodup, length_map]

end listed

/-! ## Iterations -/

/-- The cursor that a reply tells the client to go on with. -/
def nextCursor : RespFrame → Option Bytes
  | .array [.bulkString (some next), _] => some next
  | _ => none

/-- The first of every two items. -/
def everyOther {α : Type} : List α → List α
  | first :: _ :: rest => first :: everyOther rest
  | items => items

/-- The bulk string of a frame. -/
def bulkText : RespFrame → Option Bytes
  | .bulkString text => text
  | _ => none

namespace ScanCommand

/-- The names in the entries of a reply; those of fields and scored members have a value each behind
them. -/
def entryNames (c : ScanCommand) (entries : List RespFrame) : List Bytes :=
  match c with
  | .scan | .sscan _ => entries.filterMap bulkText
  | .hscan _ | .zscan _ => (everyOther entries).filterMap bulkText

/-- The names in a reply. -/
def replyNames (c : ScanCommand) : RespFrame → List Bytes
  | .array [_, .array entries] => c.entryNames entries
  | _ => []

variable (err : Bytes → RespFrame) (formatScore : Score → Bytes) (glob : Bytes → Bytes → Bool)
  (c : ScanCommand)

/-- The reply to a call with a cursor. -/
def call (cursor : Bytes) (r : ScanRound) : RespFrame :=
  match c with
  | .scan => (cmdScan err formatScore glob (cursor :: r.options) r.now r.shard).2
  | .hscan key => (cmdHscan err formatScore glob (key :: cursor :: r.options) r.now r.shard).2
  | .sscan key => (cmdSscan err formatScore glob (key :: cursor :: r.options) r.now r.shard).2
  | .zscan key => (cmdZscan err formatScore glob (key :: cursor :: r.options) r.now r.shard).2

/-- The replies to the calls of an iteration; each goes on with the cursor of the reply before. -/
def replies : Bytes → List ScanRound → List RespFrame
  | _, [] => []
  | cursor, r :: rest =>
    let reply := c.call err formatScore glob cursor r
    reply :: (nextCursor reply).elim [] fun next => replies next rest

/-- The names that an iteration from cursor zero returns. -/
def returned (rounds : List ScanRound) : List Bytes :=
  (c.replies err formatScore glob (ascii "0") rounds).flatMap c.replyNames

/-- The calls are a full iteration: the last reply has cursor zero, and none before it has. -/
def Completes (cursor : Bytes) (rounds : List ScanRound) : Prop :=
  let cursors := (c.replies err formatScore glob cursor rounds).map nextCursor
  cursors.getLast? = some (some (ascii "0")) ∧ some (ascii "0") ∉ cursors.dropLast

end ScanCommand

/-! ### One call -/

section call

variable (err : Bytes → RespFrame) (formatScore : Score → Bytes) (glob : Bytes → Bytes → Bool)
  {c : ScanCommand} {r : ScanRound} {cursor : Nat} {name : Bytes}

lemma flatMap_frames (items : List ScanItem) (positions : List Nat) :
    (positions.flatMap fun idx => (items[idx]?.map ScanItem.frames).getD []) =
      (positions.filterMap fun idx => items[idx]?).flatMap ScanItem.frames := by
  induction positions with
  | nil => rfl
  | cons idx positions ih =>
    rw [flatMap_cons, ih, filterMap_cons]
    cases items[idx]? with
    | none => rfl
    | some item => rfl

/-- The names can be read off the frames of a page. -/
lemma ScanCommand.replyNames_scanReply (next : Nat) {items : List ScanItem}
    (hshows : ∀ item ∈ items, c.Shows item) :
    c.replyNames (scanReply next (items.flatMap ScanItem.frames)) = items.map ScanItem.name := by
  change c.entryNames (items.flatMap ScanItem.frames) = items.map ScanItem.name
  induction items with
  | nil =>
    cases c with
    | scan | hscan _ | sscan _ | zscan _ => rfl
  | cons item items ih =>
    have hrest := ih fun other hother => hshows other (mem_cons_of_mem _ hother)
    have hitem := hshows item mem_cons_self
    rw [flatMap_cons, map_cons, ← hrest]
    cases c with
    | scan | sscan _ =>
      have hframes : item.frames = [.bulkString (some item.name)] := hitem
      rw [hframes]
      rfl
    | hscan _ | zscan _ =>
      obtain ⟨value, hframes⟩ := hitem
      rw [hframes]
      rfl

lemma ScanCommand.call_eq_run (cursorRaw : Bytes) :
    c.call err formatScore glob cursorRaw r =
      (c.run err formatScore glob cursorRaw r.options r.now r.shard).2 := by
  cases c with
  | scan | hscan _ | sscan _ | zscan _ => rfl

/-- The reply to a call is a page of the items. -/
lemma ScanCommand.call_eq {cursorRaw : Bytes} (hcursor : parseScanCursor cursorRaw = .ok cursor)
    (hplain : c.Plain r) {items : List ScanItem}
    (hitems : (c.items formatScore r.now r.shard).2 = .ok items) :
    let page := scanCollectIndexes items cursor r.count fun _ => true
    c.call err formatScore glob cursorRaw r =
      scanReply page.1 ((page.2.filterMap fun idx => items[idx]?).flatMap ScanItem.frames) := by
  intro page
  rw [ScanCommand.call_eq_run, ScanCommand.run, hcursor]
  dsimp only
  rw [hplain.options]
  dsimp only
  split
  · next reply hreply =>
      rw [hreply] at hitems
      cases hitems
  · next items' hitems' =>
      rw [hitems'] at hitems
      obtain rfl := Except.ok.inj hitems
      rw [← flatMap_frames]
      rfl

/-- **One call** goes on behind its page, or at zero if nothing is left, and returns a name that is
there exactly if its rank is on the page. -/
lemma ScanCommand.call_spec {cursorRaw : Bytes} (hcursor : parseScanCursor cursorRaw = .ok cursor)
    (hplain : c.Plain r) (hname : name ∈ c.present r) :
    nextCursor (c.call err formatScore glob cursorRaw r) =
        some (decimal (if (c.present r).card ≤ cursor + r.count then 0 else cursor + r.count)) ∧
      (name ∈ c.replyNames (c.call err formatScore glob cursorRaw r) ↔
        cursor ≤ c.rank name r ∧ c.rank name r < cursor + r.count) := by
  obtain ⟨unsorted, hitems, hunsorted⟩ :=
    ScanCommand.items_spec formatScore hplain hname
  have hlists := hunsorted.sort
  generalize hsorted : sortByName unsorted = items at hitems hlists
  have hpairwise : (items.map ScanItem.name).Pairwise fun a b => a ≤ b :=
    hsorted ▸ pairwise_sortByName unsorted
  obtain ⟨hnext, hpage⟩ := scanCollectIndexes_spec items (fun _ => true) cursor r.count
  rw [ScanCommand.call_eq err formatScore glob hcursor hplain hitems,
    ScanCommand.replyNames_scanReply]
  · refine ⟨?_, ?_⟩
    · rw [hnext, hlists.length_eq]
      rfl
    · -- the name stands at its rank and nowhere else
      have hlisted : name ∈ items.map ScanItem.name := by
        rw [← mem_toFinset, hlists.names_eq]
        exact hname
      have hplace := getElem?_namesBelow hpairwise hlisted
      rw [hlists.rank_eq] at hplace
      rw [map_filterMap, mem_filterMap]
      simp only [← getElem?_map]
      constructor
      · rintro ⟨j, hj, hjname⟩
        obtain ⟨hle, hlt, -⟩ := (hpage j).mp hj
        obtain ⟨hbound, -⟩ := List.getElem?_eq_some_iff.mp hjname
        obtain rfl : j = c.rank name r :=
          (List.getElem?_inj hbound hlists.nodup).mp (hjname.trans hplace.symm)
        exact ⟨hle, hlt⟩
      · rintro ⟨hle, hlt⟩
        refine ⟨_, (hpage _).mpr ⟨hle, hlt, ?_⟩, hplace⟩
        rw [getElem?_map] at hplace
        obtain ⟨item, hitem, -⟩ := Option.map_eq_some_iff.mp hplace
        exact ⟨item, hitem, rfl⟩
  · intro item hitem
    obtain ⟨idx, -, hidx⟩ := mem_filterMap.mp hitem
    exact hlists.shows item (List.mem_of_getElem? hidx)

end call

/-! ### All calls -/

section iterations

/-- The counts of the calls before one, added up. -/
def countsBefore (rounds : List ScanRound) (i : Nat) : Nat :=
  ((rounds.take i).map ScanRound.count).sum

/-- At some call the rank of a name is between the sum of the earlier counts, from a start on, and
the sum with the call's own count. -/
def ScanCommand.OnPage (c : ScanCommand) (name : Bytes) (start : Nat) (rounds : List ScanRound) :
    Prop :=
  ∃ i r, rounds[i]? = some r ∧ start + countsBefore rounds i ≤ c.rank name r ∧
    c.rank name r < start + countsBefore rounds (i + 1)

/-- The rank of a name never falls from one call to the next. -/
def ScanCommand.NeverShifted (c : ScanCommand) (name : Bytes) (rounds : List ScanRound) : Prop :=
  rounds.IsChain fun r r' => c.rank name r ≤ c.rank name r'

variable {c : ScanCommand} {rounds : List ScanRound} {start : Nat} {name : Bytes}

lemma countsBefore_cons (r : ScanRound) (rest : List ScanRound) (i : Nat) :
    countsBefore (r :: rest) (i + 1) = r.count + countsBefore rest i := by
  rw [countsBefore, take_succ_cons, map_cons, sum_cons, countsBefore]

lemma ScanCommand.not_onPage_nil : ¬ c.OnPage name start [] := by
  rintro ⟨i, r, hr, -⟩
  cases hr

/-- A name is on the page of the first call, or on one of the pages behind it. -/
lemma ScanCommand.onPage_cons (r : ScanRound) (rest : List ScanRound) :
    c.OnPage name start (r :: rest) ↔
      (start ≤ c.rank name r ∧ c.rank name r < start + r.count) ∨
        c.OnPage name (start + r.count) rest := by
  constructor
  · rintro ⟨i, r₀, hr₀, hle, hlt⟩
    cases i with
    | zero =>
      obtain rfl := Option.some.inj hr₀
      rw [countsBefore_cons] at hlt
      exact .inl ⟨hle, hlt⟩
    | succ i =>
      rw [countsBefore_cons] at hle hlt
      refine .inr ⟨i, r₀, hr₀, ?_, ?_⟩
      · omega
      · omega
  · rintro (⟨hle, hlt⟩ | ⟨i, r₀, hr₀, hle, hlt⟩)
    · refine ⟨0, r, rfl, hle, ?_⟩
      rw [countsBefore_cons]
      exact hlt
    · refine ⟨i + 1, r₀, hr₀, ?_, ?_⟩
      · rw [countsBefore_cons]
        omega
      · rw [countsBefore_cons]
        omega

lemma decimal_eq_zero_iff {n : Nat} : decimal n = ascii "0" ↔ n = 0 := by
  constructor
  · intro heq
    have hparse := parseNat_decimal n
    rw [heq] at hparse
    exact (Option.some.inj hparse).symm
  · rintro rfl
    rfl

/-- A cursor that fits an `i64` is read as it was written. -/
lemma parseScanCursor_decimal {n : Nat} (hn : n < 2 ^ 63) :
    parseScanCursor (decimal n) = .ok n := by
  have hint : (Int64.ofNat n).toInt = n := Int64.toInt_ofNat_of_lt hn
  have htext : decimal n = decimalInt (Int64.ofNat n).toInt := by
    rw [hint, decimalInt, if_neg (by omega), Int.natAbs_natCast]
  have hsign : ¬ Int64.ofNat n < 0 := by
    rw [Int64.lt_iff_toInt_lt, hint]
    simp
  rw [parseScanCursor, htext, parseI64_decimalInt]
  dsimp only
  rw [if_neg hsign, hint, Int.toNat_natCast]

/-- The options ask for at least one name a call. -/
lemma count_pos_of_parseScanOptions {withType : Bool} {options : List Bytes} {o o' : ScanOptions}
    (h : parseScanOptions withType options o = .ok o') (hcount : 1 ≤ o.count) : 1 ≤ o'.count := by
  -- an option takes an argument with it, so the induction is on the length of what is left
  induction hlength : options.length using Nat.strong_induction_on generalizing options o with
  | _ n ih =>
    cases options with
    | nil =>
      rw [parseScanOptions] at h
      rwa [← Except.ok.inj h]
    | cons option rest =>
      subst hlength
      rw [parseScanOptions.eq_def] at h
      dsimp only at h
      split_ifs at h
      · cases rest with
        | nil => cases h
        | cons pattern rest => exact ih _ (by simp) h hcount rfl
      · cases rest with
        | nil => cases h
        | cons raw rest =>
          dsimp only at h
          cases hraw : parseI64 raw with
          | none =>
            rw [hraw] at h
            cases h
          | some count =>
            rw [hraw] at h
            dsimp only at h
            split_ifs at h with hsmall
            refine ih _ (by simp) h ?_ rfl
            have hone : (1 : Int64).toInt ≤ count.toInt :=
              Int64.le_iff_toInt_le.mp (Int64.not_lt.mp hsmall)
            have hint : (1 : Int64).toInt = 1 := rfl
            change 1 ≤ count.toInt.toNat
            omega
      · cases rest with
        | nil => cases h
        | cons raw rest => exact ih _ (by simp) h hcount rfl

variable (err : Bytes → RespFrame) (formatScore : Score → Bytes) (glob : Bytes → Bytes → Bool)

/-- The replies to an iteration are the reply to its first call and those to the rest, from the
cursor that the first one answers. -/
lemma replies_cons {cursorRaw : Bytes} {cursor : Nat} {r : ScanRound} {rest : List ScanRound}
    (hcursor : parseScanCursor cursorRaw = .ok cursor) (hplain : c.Plain r)
    (hname : name ∈ c.present r) :
    c.replies err formatScore glob cursorRaw (r :: rest) =
      c.call err formatScore glob cursorRaw r ::
        c.replies err formatScore glob (decimal
          (if (c.present r).card ≤ cursor + r.count then 0 else cursor + r.count)) rest := by
  rw [ScanCommand.replies, (ScanCommand.call_spec err formatScore glob hcursor hplain hname).1]
  rfl

/-- In an iteration that goes on, a call hands on the cursor behind its page. -/
lemma next_of_completes {cursorRaw : Bytes} {cursor : Nat} {r r' : ScanRound}
    {rest : List ScanRound} (hcursor : parseScanCursor cursorRaw = .ok cursor)
    (hplain : c.Plain r) (hname : name ∈ c.present r)
    (h : c.Completes err formatScore glob cursorRaw (r :: r' :: rest)) :
    cursor + r.count < (c.present r).card ∧
      c.Completes err formatScore glob (decimal (cursor + r.count)) (r' :: rest) := by
  obtain ⟨hlast, hnone⟩ := h
  rw [replies_cons err formatScore glob hcursor hplain hname, map_cons] at hlast hnone
  have hne : (c.replies err formatScore glob (decimal (if (c.present r).card ≤ cursor + r.count
      then 0 else cursor + r.count)) (r' :: rest)).map nextCursor ≠ [] := by
    rw [ScanCommand.replies]
    exact cons_ne_nil _ _
  rw [getLast?_cons_of_ne_nil hne] at hlast
  rw [dropLast_cons_of_ne_nil hne, mem_cons, not_or,
    (ScanCommand.call_spec err formatScore glob hcursor hplain hname).1] at hnone
  have hmore : ¬ (c.present r).card ≤ cursor + r.count := by
    intro hle
    rw [if_pos hle] at hnone
    exact hnone.1 rfl
  rw [if_neg hmore] at hlast hnone
  exact ⟨Nat.not_le.mp hmore, hlast, hnone.2⟩

/-- The last call of an iteration reaches the end of what is there. -/
lemma card_le_of_completes {r : ScanRound} (hstart : start < 2 ^ 63) (hplain : c.Plain r)
    (hname : name ∈ c.present r)
    (h : c.Completes err formatScore glob (decimal start) [r]) :
    (c.present r).card ≤ start + r.count := by
  have hcursor := parseScanCursor_decimal hstart
  have hlast := h.1
  rw [replies_cons err formatScore glob hcursor hplain hname, ScanCommand.replies, map_cons,
    map_nil, getLast?_singleton, (ScanCommand.call_spec err formatScore glob hcursor hplain hname).1,
    Option.some.injEq, Option.some.injEq, decimal_eq_zero_iff] at hlast
  by_contra hmore
  have hcount := count_pos_of_parseScanOptions hplain.options (by decide)
  rw [if_neg hmore] at hlast
  change 1 ≤ r.count at hcount
  omega

/-- **All calls of an iteration**: the cursor of a call is what the earlier counts add up to, so a
name is returned exactly if its rank at some call falls between two such sums. -/
lemma ScanCommand.mem_replies_iff (hplain : ∀ r ∈ rounds, c.Plain r)
    (hname : ∀ r ∈ rounds, name ∈ c.present r) (hstart : start < 2 ^ 63)
    (hend : c.Completes err formatScore glob (decimal start) rounds) :
    name ∈ (c.replies err formatScore glob (decimal start) rounds).flatMap c.replyNames ↔
      c.OnPage name start rounds := by
  induction rounds generalizing start with
  | nil => exact iff_of_false not_mem_nil ScanCommand.not_onPage_nil
  | cons r rest ih =>
    have hr := hplain r mem_cons_self
    have hnr := hname r mem_cons_self
    have hcursor := parseScanCursor_decimal hstart
    have hfirst := (ScanCommand.call_spec err formatScore glob hcursor hr hnr).2
    rw [replies_cons err formatScore glob hcursor hr hnr, flatMap_cons, mem_append, hfirst,
      ScanCommand.onPage_cons]
    cases rest with
    | nil =>
      apply or_congr_right
      exact iff_of_false not_mem_nil ScanCommand.not_onPage_nil
    | cons r' rest =>
      obtain ⟨hmore, hrest⟩ := next_of_completes err formatScore glob hcursor hr hnr hend
      have hfits : start + r.count < 2 ^ 63 := (hmore.trans hr.few).trans (by decide)
      rw [if_neg (Nat.not_le.mpr hmore)]
      apply or_congr_right
      exact ih (fun x hx => hplain x (mem_cons_of_mem _ hx))
        (fun x hx => hname x (mem_cons_of_mem _ hx)) hfits hrest

/-- A name that is there is one of those that its rank counts from. -/
lemma ScanCommand.rank_lt_card {r : ScanRound} (hname : name ∈ c.present r) :
    c.rank name r < (c.present r).card := by
  apply Finset.card_lt_card
  refine ⟨Finset.filter_subset _ _, ?_⟩
  intro hsub
  exact List.lt_irrefl name (Finset.mem_filter.mp (hsub hname)).2

/-- A name that is never shifted down comes on a page before the iteration ends. -/
lemma ScanCommand.onPage_of_neverShifted (hne : rounds ≠ []) (hplain : ∀ r ∈ rounds, c.Plain r)
    (hname : ∀ r ∈ rounds, name ∈ c.present r) (hstart : start < 2 ^ 63)
    (hend : c.Completes err formatScore glob (decimal start) rounds)
    (hshift : c.NeverShifted name rounds)
    (hrank : ∀ r ∈ rounds.head?, start ≤ c.rank name r) : c.OnPage name start rounds := by
  induction rounds generalizing start with
  | nil => exact absurd rfl hne
  | cons r rest ih =>
    have hr := hplain r mem_cons_self
    have hnr := hname r mem_cons_self
    have hfirst := hrank r rfl
    rw [ScanCommand.onPage_cons]
    rcases Nat.lt_or_ge (c.rank name r) (start + r.count) with hpage | hlater
    · exact .inl ⟨hfirst, hpage⟩
    · refine .inr ?_
      cases rest with
      | nil =>
        have hall := card_le_of_completes err formatScore glob hstart hr hnr hend
        exact absurd (ScanCommand.rank_lt_card hnr) (by omega)
      | cons r' rest =>
        have hcursor := parseScanCursor_decimal hstart
        obtain ⟨hmore, hrest⟩ := next_of_completes err formatScore glob hcursor hr hnr hend
        have hfits : start + r.count < 2 ^ 63 := (hmore.trans hr.few).trans (by decide)
        have hchain := isChain_cons_cons.mp hshift
        refine ih (cons_ne_nil _ _) (fun x hx => hplain x (mem_cons_of_mem _ hx))
          (fun x hx => hname x (mem_cons_of_mem _ hx)) hfits hrest hchain.2 ?_
        intro x hx
        obtain rfl : r' = x := Option.some.inj hx
        exact hlater.trans hchain.1

end iterations

/-- **The guarantee of an iteration, and when it holds.** Take the replies to a full iteration of
`SCAN`, `HSCAN`, `SSCAN` or `ZSCAN` from cursor zero back to zero, with any counts, on any
databases: anything may have been inserted or deleted between two calls. A key, field or member that
is there at every call is in one of the replies exactly if, at some call, the number of names that
are there and come before it is at least the sum of the earlier counts and less than the sum with
that call's. It is if the number of names before it never falls from one call to the next. -/
theorem scan_returns_iff (err : Bytes → RespFrame) (formatScore : Score → Bytes)
    (glob : Bytes → Bytes → Bool) (c : ScanCommand) (rounds : List ScanRound) (name : Bytes)
    (hplain : ∀ r ∈ rounds, c.Plain r) (hname : ∀ r ∈ rounds, name ∈ c.present r)
    (hend : c.Completes err formatScore glob (ascii "0") rounds) :
    (name ∈ c.returned err formatScore glob rounds ↔ c.OnPage name 0 rounds) ∧
      (c.NeverShifted name rounds → name ∈ c.returned err formatScore glob rounds) := by
  have hzero : decimal 0 = ascii "0" := rfl
  have hne : rounds ≠ [] := by
    rintro rfl
    cases hend.1
  have hiff : name ∈ c.returned err formatScore glob rounds ↔ c.OnPage name 0 rounds := by
    rw [ScanCommand.returned, ← hzero]
    exact ScanCommand.mem_replies_iff err formatScore glob hplain hname (by decide) hend
  refine ⟨hiff, fun hshift => hiff.mpr ?_⟩
  exact ScanCommand.onPage_of_neverShifted err formatScore glob hne hplain hname (by decide) hend
    hshift fun _ _ => Nat.zero_le _

/-- A database with some keys, at each the empty string. -/
def shardWithKeys (keys : List String) : DbShard :=
  keys.foldl (fun s key => (s.insert (ascii key) (.string [] none)).1) .empty

/-- A call `COUNT 1` on a database with some keys. -/
def roundWithKeys (keys : List String) : ScanRound :=
  ⟨shardWithKeys keys, [ascii "COUNT", ascii "1"], 1, 1⟩

lemma lookup_shardWithKeys (keys : List String) : ∀ key value,
    (shardWithKeys keys).data.lookup key = some value → value.data = .string [] := by
  unfold shardWithKeys
  apply List.foldlRecOn (motive := fun s : DbShard =>
    ∀ key value, s.data.lookup key = some value → value.data = .string [])
  · intro key value hvalue
    cases hvalue
  · intro s hs first _ key value hvalue
    rw [DbShard.data_insert] at hvalue
    by_cases hkey : key = ascii first
    · rw [hkey, AList.lookup_insert] at hvalue
      rw [← Option.some.inj hvalue]
      rfl
    · rw [AList.lookup_insert_ne hkey] at hvalue
      exact hs key value hvalue

lemma plain_roundWithKeys (keys : List String)
    (hfew : (ScanCommand.scan.present (roundWithKeys keys)).card < vecCapacity) :
    ScanCommand.scan.Plain (roundWithKeys keys) where
  options := rfl
  few := hfew
  ordered := by
    intro key value ints hvalue hdata
    rw [lookup_shardWithKeys keys key value hvalue] at hdata
    cases hdata

/-- A key is inserted before the cursor between two calls: `b` is returned all the same. -/
theorem scan_returns_after_insert :
    ascii "b" ∈ ScanCommand.scan.returned .error (fun _ => []) (fun _ _ => true)
      [roundWithKeys ["a", "b"], roundWithKeys ["A", "a", "b"], roundWithKeys ["A", "a", "b"]] := by
  have hfirst := plain_roundWithKeys ["a", "b"] (by decide)
  have hsecond := plain_roundWithKeys ["A", "a", "b"] (by decide)
  refine (scan_returns_iff .error (fun _ => []) (fun _ _ => true) .scan _ (ascii "b") ?_ ?_ ?_).2 ?_
  · simp [hfirst, hsecond]
  · decide
  · exact ⟨by decide, by decide⟩
  · exact .cons_cons (by decide) (.cons_cons (by decide) (.singleton _))

/-- The keys are `a`, `b` and `c`; `a` is returned and deleted, and the next call, from position one
on, returns `c`. `b` is there all the time and is not returned. -/
theorem scan_misses_key :
    let rounds := [roundWithKeys ["a", "b", "c"], roundWithKeys ["b", "c"]]
    ScanCommand.scan.Completes .error (fun _ => []) (fun _ _ => true) (ascii "0") rounds ∧
      ascii "b" ∈ ScanCommand.scan.present (roundWithKeys ["a", "b", "c"]) ∧
      ascii "b" ∈ ScanCommand.scan.present (roundWithKeys ["b", "c"]) ∧
      ScanCommand.scan.returned .error (fun _ => []) (fun _ _ => true) rounds =
        [ascii "a", ascii "c"] :=
  ⟨⟨by decide, by decide⟩, by decide, by decide, by decide⟩

end Ratatosk.Engine
