import Ratatosk.Resp.Requests

/-!
# The append-only file writer

`AofWriter` of `ratatosk-persist/src/aof/writer.rs`: the bytes that a sequence of appends adds to
a file.

* `Writer` — the bytes written so far and the database the file has selected;
  `appendCommandAt`, `appendTransactionAt` — the two appends, as the source writes them.
* `Record` — a RESP array of the file, with the timestamp of its envelope if it has one;
  `Append.records` — the records of an append. `appendAll_eq` says that a file is its header and
  the encodings of its records.

How the bytes reach the disk, the writer's buffer and its fsync policy, is not modelled.
-/

namespace Ratatosk.Aof

open Lib Resp List

/-! ## Bytes -/

/-- Source: `AOF_VERSION_HEADER` -/
def aofVersionHeader : Bytes := ascii "REDIS-AOF-002\n"

/-- Source: `AOF_V1_HEADER` -/
def aofV1Header : Bytes := ascii "REDIS-AOF-001\n"

/-- Source: `TIMED_COMMAND_MARKER` -/
def timedCommandMarker : Bytes := ascii "RATATOSK.AOF.AT"

/-- Source: `decimal_len_usize` -/
def decimalLenUsize (value : Nat) : Nat :=
  if 10 ≤ value then decimalLenUsize (value / 10) + 1 else 1
decreasing_by omega

/-- Source: `write_resp_array_bytes` -/
def respArrayBytes (args : List Bytes) : Bytes :=
  ascii "*" ++ decimal args.length ++ ascii "\r\n" ++
    args.flatMap fun arg =>
      ascii "$" ++ decimal arg.length ++ ascii "\r\n" ++ arg ++ ascii "\r\n"

/-- Source: `write_select_command` -/
def selectCommandBytes (dbIndex : Nat) : Bytes :=
  ascii "*2\r\n$6\r\nSELECT\r\n$" ++ decimal (decimalLenUsize dbIndex) ++ ascii "\r\n" ++
    decimal dbIndex ++ ascii "\r\n"

/-- Source: `write_timed_command` -/
def timedCommandBytes (args : List Bytes) (timestampMs : Int64) : Bytes :=
  ascii "*3\r\n" ++ ascii "$" ++ decimal timedCommandMarker.length ++ ascii "\r\n" ++
    timedCommandMarker ++ ascii "\r\n:" ++ decimalInt timestampMs.toInt ++ ascii "\r\n" ++
    respArrayBytes args

/-! ## The writer -/

/-- What the writer has written, and the database that the file has selected last; unknown in a
file that was opened with content.
Source: `AofWriter` -/
structure Writer where
  bytes : Bytes
  currentDb : Option Nat

/-- The writer of a new file.
Source: `AofWriter::open` -/
def Writer.fresh : Writer := ⟨aofVersionHeader, none⟩

namespace Writer

/-- A `SELECT` if the file has another database selected. -/
def select (w : Writer) (dbIndex : Nat) : Writer :=
  if w.currentDb ≠ some dbIndex then ⟨w.bytes ++ selectCommandBytes dbIndex, some dbIndex⟩ else w

/-- Source: `AofWriter::append_command_at` -/
def appendCommandAt (w : Writer) (dbIndex : Nat) (args : List Bytes) (timestampMs : Int64) :
    Writer :=
  if args = [] then w
  else
    let w := w.select dbIndex
    { w with bytes := w.bytes ++ timedCommandBytes args timestampMs }

/-- One round of the loop over the commands of a transaction.
Source: `AofWriter::append_transaction_at` -/
def appendQueued (w : Writer) (command : Nat × List Bytes) : Writer :=
  if command.2 = [] then w
  else
    let w := w.select command.1
    { w with bytes := w.bytes ++ respArrayBytes command.2 }

/-- Source: `AofWriter::append_transaction_at` -/
def appendTransactionAt (w : Writer) (commands : List (Nat × List Bytes)) (timestampMs : Int64) :
    Writer :=
  if commands = [] then w
  else
    let w := { w with bytes := w.bytes ++ respArrayBytes [ascii "MULTI"] }
    let w := commands.foldl appendQueued w
    { w with bytes := w.bytes ++ timedCommandBytes [ascii "EXEC"] timestampMs }

end Writer

/-- An append. -/
inductive Append where
  | command (dbIndex : Nat) (args : List Bytes) (timestampMs : Int64)
  | transaction (commands : List (Nat × List Bytes)) (timestampMs : Int64)

/-- Runs an append. -/
def Writer.append (w : Writer) : Append → Writer
  | .command dbIndex args timestampMs => w.appendCommandAt dbIndex args timestampMs
  | .transaction commands timestampMs => w.appendTransactionAt commands timestampMs

/-- The file that a fresh writer writes. -/
def appendAll (units : List Append) : Bytes := (units.foldl Writer.append .fresh).bytes

/-! ## Records -/

/-- A record of the file: the words of a command, with its timestamp if it is enveloped. -/
structure Record where
  timestamp : Option Int64
  argv : List Bytes

namespace Record

/-- The frame of a record. -/
def frame (r : Record) : RespFrame :=
  match r.timestamp with
  | none => bulkArray r.argv
  | some timestampMs =>
    .array [.bulkString (some timedCommandMarker), .integer timestampMs, bulkArray r.argv]

/-- The bytes of a record. -/
def bytes (r : Record) : Bytes := encode r.frame

end Record

/-- The records of a `SELECT`, if one is needed. -/
def selectRecords (currentDb : Option Nat) (dbIndex : Nat) : List Record :=
  if currentDb ≠ some dbIndex then [⟨none, [ascii "SELECT", decimal dbIndex]⟩] else []

/-- The records of the commands of a transaction. -/
def bodyRecords : Option Nat → List (Nat × List Bytes) → List Record
  | _, [] => []
  | currentDb, (dbIndex, args) :: commands =>
    if args = [] then bodyRecords currentDb commands
    else selectRecords currentDb dbIndex ++ ⟨none, args⟩ :: bodyRecords (some dbIndex) commands

/-- The database selected after the commands of a transaction. -/
def bodyDb : Option Nat → List (Nat × List Bytes) → Option Nat
  | currentDb, [] => currentDb
  | currentDb, (dbIndex, args) :: commands =>
    bodyDb (if args = [] then currentDb else some dbIndex) commands

namespace Append

/-- The records of an append to a file with the given database selected. -/
def records (currentDb : Option Nat) : Append → List Record
  | .command dbIndex args timestampMs =>
    if args = [] then []
    else selectRecords currentDb dbIndex ++ [⟨some timestampMs, args⟩]
  | .transaction commands timestampMs =>
    if commands = [] then []
    else ⟨none, [ascii "MULTI"]⟩ :: bodyRecords currentDb commands ++
      [⟨some timestampMs, [ascii "EXEC"]⟩]

/-- The database selected after an append. -/
def nextDb (currentDb : Option Nat) : Append → Option Nat
  | .command dbIndex args _ => if args = [] then currentDb else some dbIndex
  | .transaction commands _ => bodyDb currentDb commands

end Append

/-- The records of a sequence of appends. -/
def allRecords : Option Nat → List Append → List Record
  | _, [] => []
  | currentDb, u :: units => u.records currentDb ++ allRecords (u.nextDb currentDb) units

/-- The database selected after a sequence of appends. -/
def lastDb : Option Nat → List Append → Option Nat
  | currentDb, [] => currentDb
  | currentDb, u :: units => lastDb (u.nextDb currentDb) units

/-- The bytes of a list of records. -/
def recordsBytes (records : List Record) : Bytes := records.flatMap Record.bytes

@[simp] lemma recordsBytes_nil : recordsBytes [] = [] := rfl

@[simp] lemma recordsBytes_cons (r : Record) (records : List Record) :
    recordsBytes (r :: records) = r.bytes ++ recordsBytes records := rfl

@[simp] lemma recordsBytes_append (records records' : List Record) :
    recordsBytes (records ++ records') = recordsBytes records ++ recordsBytes records' :=
  flatMap_append

/-! ## What the writer writes is records -/

/-- `decimal_len_usize` counts the digits. -/
lemma length_decimal (n : Nat) : (decimal n).length = decimalLenUsize n := by
  induction n using Nat.strong_induction_on with
  | _ n ih =>
    rw [decimalLenUsize]
    split_ifs with hlarge
    · have hn : n ≠ 0 := by omega
      have hpos : n / 10 ≠ 0 := by omega
      rw [← ih (n / 10) (by omega)]
      simp only [decimal, hn, hpos, if_false, length_map, length_reverse]
      rw [Nat.digits_def' (by decide) (Nat.pos_of_ne_zero hn), length_cons]
    · by_cases hzero : n = 0
      · simp [decimal, hzero]
      · simp [decimal, hzero, Nat.digits_of_lt 10 n hzero (by omega)]

lemma encodeItems_bulks (args : List Bytes) :
    encodeItems (args.map fun arg => .bulkString (some arg)) =
      args.flatMap fun arg =>
        ascii "$" ++ decimal arg.length ++ ascii "\r\n" ++ arg ++ ascii "\r\n" := by
  induction args with
  | nil => rfl
  | cons arg args ih =>
    rw [map_cons, encodeItems_cons, ih, flatMap_cons]
    rfl

/-- A command is written as an array of bulk strings. -/
lemma respArrayBytes_eq (args : List Bytes) : respArrayBytes args = encode (bulkArray args) := by
  unfold respArrayBytes bulkArray
  rw [encode_array, encodeItems_bulks, length_map]
  rfl

lemma timedCommandBytes_eq (args : List Bytes) (timestampMs : Int64) :
    timedCommandBytes args timestampMs = Record.bytes ⟨some timestampMs, args⟩ := by
  have hheader : ascii "*3\r\n" = aggregateHeader 42 3 := rfl
  have hinteger : ascii "\r\n:" = crlf ++ [58] := rfl
  have hdollar : ascii "$" = [36] := rfl
  have hcrlf : ascii "\r\n" = crlf := rfl
  unfold timedCommandBytes Record.bytes Record.frame
  rw [respArrayBytes_eq, hheader, hinteger, hdollar, hcrlf]
  simp only [encode_array, encodeItems_cons, encodeItems_nil, encode_bulkString, encode_integer,
    length_cons, length_nil, append_assoc, append_nil, cons_append,
    nil_append]

lemma selectCommandBytes_eq (dbIndex : Nat) :
    selectCommandBytes dbIndex = Record.bytes ⟨none, [ascii "SELECT", decimal dbIndex]⟩ := by
  have hhead : ascii "*2\r\n$6\r\nSELECT\r\n$" =
      aggregateHeader 42 2 ++ encode (.bulkString (some (ascii "SELECT"))) ++ [36] := by
    rfl
  have hcrlf : ascii "\r\n" = crlf := rfl
  unfold selectCommandBytes Record.bytes Record.frame bulkArray
  rw [hhead, hcrlf, ← length_decimal]
  simp only [map_cons, map_nil, encode_array, encodeItems_cons, encodeItems_nil,
    encode_bulkString, length_cons, length_nil, append_assoc, append_nil,
    cons_append, nil_append]

/-- `SELECT` is written where the database changes. -/
lemma select_eq (w : Writer) (dbIndex : Nat) :
    w.select dbIndex =
      ⟨w.bytes ++ recordsBytes (selectRecords w.currentDb dbIndex), some dbIndex⟩ := by
  unfold Writer.select selectRecords
  split_ifs with h
  · rw [selectCommandBytes_eq]
    simp [recordsBytes]
  · rw [recordsBytes_nil, append_nil]
    push Not at h
    rw [← h]

lemma foldl_appendQueued (commands : List (Nat × List Bytes)) (w : Writer) :
    commands.foldl Writer.appendQueued w =
      ⟨w.bytes ++ recordsBytes (bodyRecords w.currentDb commands),
        bodyDb w.currentDb commands⟩ := by
  induction commands generalizing w with
  | nil => simp [bodyRecords, bodyDb]
  | cons command commands ih =>
    obtain ⟨dbIndex, args⟩ := command
    rw [foldl_cons, ih]
    by_cases hargs : args = []
    · simp [Writer.appendQueued, bodyRecords, bodyDb, hargs]
    · have hbytes : respArrayBytes args = Record.bytes ⟨none, args⟩ := respArrayBytes_eq args
      simp [Writer.appendQueued, bodyRecords, bodyDb, hargs, select_eq, hbytes]

/-- An append writes the records of its unit. -/
lemma append_eq (w : Writer) (u : Append) :
    w.append u = ⟨w.bytes ++ recordsBytes (u.records w.currentDb), u.nextDb w.currentDb⟩ := by
  cases u with
  | command dbIndex args timestampMs =>
    unfold Writer.append Writer.appendCommandAt Append.records Append.nextDb
    by_cases hargs : args = []
    · simp [hargs]
    · simp [hargs, select_eq, timedCommandBytes_eq]
  | transaction commands timestampMs =>
    unfold Writer.append Writer.appendTransactionAt Append.records Append.nextDb
    by_cases hcommands : commands = []
    · simp [hcommands, bodyDb]
    · have hmulti : respArrayBytes [ascii "MULTI"] = Record.bytes ⟨none, [ascii "MULTI"]⟩ :=
        respArrayBytes_eq _
      simp [hcommands, foldl_appendQueued, timedCommandBytes_eq, hmulti]

/-- Appends write the records of their units. -/
lemma foldl_append (units : List Append) (w : Writer) :
    units.foldl Writer.append w =
      ⟨w.bytes ++ recordsBytes (allRecords w.currentDb units), lastDb w.currentDb units⟩ := by
  induction units generalizing w with
  | nil => simp [allRecords, lastDb]
  | cons u units ih =>
    rw [foldl_cons, append_eq, ih]
    simp [allRecords, lastDb]

/-- **A file is its header and its records.** -/
theorem appendAll_eq (units : List Append) :
    appendAll units = aofVersionHeader ++ recordsBytes (allRecords none units) := by
  unfold appendAll
  rw [foldl_append]
  rfl

lemma allRecords_append (currentDb : Option Nat) (units units' : List Append) :
    allRecords currentDb (units ++ units') =
      allRecords currentDb units ++ allRecords (lastDb currentDb units) units' := by
  induction units generalizing currentDb with
  | nil => rfl
  | cons u units ih =>
    rw [cons_append, allRecords, ih, allRecords, lastDb, append_assoc]

end Ratatosk.Aof
