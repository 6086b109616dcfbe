import Ratatosk.Aof.Records

/-!
# Recovery after a crash

What is replayed from a file of which the end is missing.

* `InertRun` — records that change no database and are replayed the same at any time: those of a
  unit up to its last one (`inertRun_records`). A unit takes effect with its last record.
* `exists_cut` — a cut file is the records of the whole units, some records of the next unit, and
  a part of a record.
* `recovers_iff` — **the keyspace after the whole units is recovered from every cut file**, with
  any number of zero bytes behind the cut, unless the cut falls inside the version header.

A unit is one append: a command with the `SELECT` before it, or a transaction from `MULTI` to
`EXEC`.
-/

namespace Ratatosk.Aof

open Lib Keyspace Resp Engine List Option

variable {σ κ : Type} (b : Backend σ κ)

/-! ## One record -/

section record

lemma frameToArgv_bulkArray (argv : List Bytes) : frameToArgv (bulkArray argv) = .ok argv := by
  unfold bulkArray frameToArgv
  induction argv with
  | nil => rfl
  | cons arg argv ih =>
    simp only [map_cons, mapM_cons, frameToWord, ih]
    rfl

lemma execute_bulkArray_cons (name : Bytes) (args : List Bytes) (now : Int64) (conn : Conn σ κ) :
    execute b (bulkArray (name :: args)) now conn = executeArgv b ⟨name, args⟩ now conn := by
  simp only [execute, frameToArgv_bulkArray]

/-- An envelope is opened to the timestamp and the command in it, any other record is taken as it
is, or the record is refused. -/
lemma decodeTimedCommand_frame (r : Record) :
    decodeTimedCommand r.frame = .ok (r.timestamp, bulkArray r.argv) ∨
      ∃ e, decodeTimedCommand r.frame = .error e := by
  obtain ⟨timestamp, argv⟩ := r
  cases timestamp with
  | none =>
    have hframe : Record.frame ⟨none, argv⟩ = bulkArray argv := rfl
    rw [hframe]
    by_cases htimed : isTimed (bulkArray argv) = true
    · -- the items of a request are no integers, whatever their number
      refine Or.inr ?_
      unfold decodeTimedCommand
      rw [htimed]
      rcases argv with _ | ⟨_, _ | ⟨_, _ | ⟨_, _ | ⟨_, _⟩⟩⟩⟩
      all_goals exact ⟨_, rfl⟩
    · refine Or.inl ?_
      simp [decodeTimedCommand, htimed]
  | some timestampMs =>
    have htimed : isTimed (Record.frame ⟨some timestampMs, argv⟩) = true := by
      simp [isTimed, Record.frame]
    unfold decodeTimedCommand
    rw [htimed]
    by_cases hts : 0 ≤ timestampMs
    · exact Or.inl (if_pos hts)
    · exact Or.inr ⟨.invalidTimedCommand, if_neg hts⟩

lemma replayRecord_eq_ok {wall : Nat → Int64} {p q : Progress σ κ} {r : Record}
    (h : replayRecord b wall p r = .ok q) :
    ∃ name args, r.argv = name :: args ∧
      responseIsError (executeArgv b ⟨name, args⟩ (r.timestamp.getD (wall p.position))
        p.conn).2.response = false ∧
      q = p.advance (executeArgv b ⟨name, args⟩ (r.timestamp.getD (wall p.position)) p.conn).1
        r.bytes.length := by
  unfold replayRecord replayFrame at h
  rcases decodeTimedCommand_frame r with hdecode | ⟨e, hdecode⟩
  · simp only [hdecode] at h
    rcases hargv : r.argv with _ | ⟨name, args⟩
    · rw [hargv] at h
      cases h
    · rw [hargv, execute_bulkArray_cons] at h
      split at h
      · cases h
      · next hok => exact ⟨name, args, rfl, by simpa using hok, (Except.ok.inj h).symm⟩
  · rw [hdecode] at h
    cases h

/-- The record is replayed the same at any time. -/
def ClockFree (r : Record) (conn : Conn σ κ) : Prop :=
  r.timestamp = none → ∀ now now', execute b (bulkArray r.argv) now conn =
    execute b (bulkArray r.argv) now' conn

/-- A record that reads no clock is replayed the same at any clock. -/
lemma replayRecord_clock {r : Record} {p : Progress σ κ} (h : ClockFree b r p.conn)
    (wall wall' : Nat → Int64) : replayRecord b wall p r = replayRecord b wall' p r := by
  unfold replayRecord replayFrame
  rcases decodeTimedCommand_frame r with hdecode | ⟨e, hdecode⟩
  · simp only [hdecode]
    cases htime : r.timestamp with
    | none => simp only [getD_none, h htime (wall p.position) (wall' p.position)]
    | some timestampMs => rfl
  · simp only [hdecode]

end record

/-! ## Records without effect -/

/-- None of the records changes a database, and each is replayed the same at any time. -/
def InertRun (wall : Nat → Int64) : List Record → Progress σ κ → Prop
  | [], _ => True
  | r :: records, p =>
    ClockFree b r p.conn ∧
      ∀ q, replayRecord b wall p r = .ok q → q.conn.dbs = p.conn.dbs ∧ InertRun wall records q

section inert

variable {wall : Nat → Int64}
variable {records : List Record} {p : Progress σ κ}

lemma inertRun_of_append {records' : List Record} (h : InertRun b wall (records ++ records') p) :
    InertRun b wall records p := by
  induction records generalizing p with
  | nil => trivial
  | cons r records ih =>
    obtain ⟨hclock, hnext⟩ := h
    exact ⟨hclock, fun q hq => ⟨(hnext q hq).1, ih (hnext q hq).2⟩⟩

/-- An inert run leaves the databases as they are. -/
lemma dbs_of_inertRun {q : Progress σ κ} (h : InertRun b wall records p)
    (hq : replayRecords b wall records p = .ok q) : q.conn.dbs = p.conn.dbs := by
  induction records generalizing p with
  | nil =>
    cases hq
    rfl
  | cons r records ih =>
    obtain ⟨m, hm, hq⟩ := bind_eq_ok_iff.mp hq
    obtain ⟨hdbs, hrest⟩ := h.2 m hm
    exact (ih hrest hq).trans hdbs

lemma replayRecords_clock_of_inertRun (h : InertRun b wall records p) (wall' : Nat → Int64) :
    replayRecords b wall records p = replayRecords b wall' records p := by
  induction records generalizing p with
  | nil => rfl
  | cons r records ih =>
    simp only [replayRecords, ← replayRecord_clock b h.1 wall wall']
    exact bind_congr_ok fun q hq => ih (h.2 q hq).2

/-- Commands that are only queued are inert. -/
lemma inertRun_queued (records : List Record) (p : Progress σ κ)
    (hplain : ∀ r ∈ records, ∀ name ∈ r.argv.head?, toUppercase name ∉ transactionCommands)
    (hmulti : p.conn.inMulti = true) : InertRun b wall records p := by
  induction records generalizing p with
  | nil => trivial
  | cons r records ih =>
    have hhead := hplain r mem_cons_self
    constructor
    · intro _ now now'
      rcases hargv : r.argv with _ | ⟨name, args⟩
      · rfl
      · rw [hargv] at hhead
        rw [execute_bulkArray_cons, execute_bulkArray_cons]
        exact executeArgv_queued_clock b now now' hmulti (hhead name rfl)
    · intro q hq
      obtain ⟨name, args, hargv, -, rfl⟩ := replayRecord_eq_ok b hq
      rw [hargv] at hhead
      have hin := inMulti_executeArgv_queued b (r.timestamp.getD (wall p.position)) hmulti
        (r := ⟨name, args⟩) (hhead name rfl)
      refine ⟨dbs_executeArgv_of_inMulti b hin, ih _ ?_ hin⟩
      exact fun r' hr' => hplain r' (mem_cons_of_mem _ hr')

lemma toUppercase_select : toUppercase (ascii "SELECT") = ascii "SELECT" := rfl

lemma toUppercase_multi : toUppercase (ascii "MULTI") = ascii "MULTI" := rfl

lemma inertRun_selectRecords (currentDb : Option Nat) (dbIndex : Nat) (p : Progress σ κ) :
    InertRun b wall (selectRecords currentDb dbIndex) p := by
  unfold selectRecords
  split
  · refine ⟨?_, ?_⟩
    · intro _ now now'
      rw [execute_bulkArray_cons, execute_bulkArray_cons]
      exact executeArgv_select_clock b now now' toUppercase_select
    · intro q hq
      obtain ⟨name, args, hargv, -, rfl⟩ := replayRecord_eq_ok b hq
      obtain ⟨rfl, rfl⟩ := List.cons.inj hargv
      exact ⟨dbs_executeArgv_select b _ toUppercase_select, trivial⟩
  · trivial

end inert

/-! ## Units -/

/-- No command of a transaction is itself a transaction command. What is captured for a
transaction are write commands, and none of those is one. -/
def Append.Plain : Append → Prop
  | .command _ _ _ => True
  | .transaction commands _ =>
    ∀ command ∈ commands, ∀ name ∈ command.2.head?, toUppercase name ∉ transactionCommands

section units

lemma plain_bodyRecords (currentDb : Option Nat) (commands : List (Nat × List Bytes))
    (hplain : ∀ command ∈ commands, ∀ name ∈ command.2.head?,
      toUppercase name ∉ transactionCommands) :
    ∀ r ∈ bodyRecords currentDb commands, ∀ name ∈ r.argv.head?,
      toUppercase name ∉ transactionCommands := by
  have hselect : toUppercase (ascii "SELECT") ∉ transactionCommands := by decide
  induction commands generalizing currentDb with
  | nil => simp [bodyRecords]
  | cons command commands ih =>
    obtain ⟨dbIndex, args⟩ := command
    obtain ⟨hhead, htail⟩ := forall_mem_cons.mp hplain
    intro r hr name hname
    unfold bodyRecords at hr
    split_ifs at hr
    · exact ih currentDb htail r hr name hname
    · rcases mem_append.mp hr with hr | hr
      · unfold selectRecords at hr
        split_ifs at hr
        · rw [mem_singleton.mp hr] at hname
          obtain rfl := Option.some.inj hname
          exact hselect
        · cases hr
      · rcases mem_cons.mp hr with rfl | hr
        · exact hhead name hname
        · exact ih (some dbIndex) htail r hr name hname

/-- **A unit takes effect with its last record**, which carries its timestamp. -/
lemma inertRun_records {u : Append} (hplain : u.Plain) (currentDb : Option Nat) :
    u.records currentDb = [] ∨ ∃ init last, u.records currentDb = init ++ [last] ∧
      last.timestamp ≠ none ∧ ∀ wall (p : Progress σ κ), InertRun b wall init p := by
  cases u with
  | command dbIndex args timestampMs =>
    by_cases hargs : args = []
    · exact Or.inl (if_pos hargs)
    · refine Or.inr ⟨_, _, if_neg hargs, some_ne_none _, ?_⟩
      exact fun wall p => inertRun_selectRecords b currentDb dbIndex p
  | transaction commands timestampMs =>
    by_cases hcommands : commands = []
    · exact Or.inl (if_pos hcommands)
    · refine Or.inr ⟨_, _, if_neg hcommands, some_ne_none _, ?_⟩
      intro wall p
      refine ⟨?_, ?_⟩
      · intro _ now now'
        rw [execute_bulkArray_cons, execute_bulkArray_cons]
        exact executeArgv_multi_clock b now now' toUppercase_multi
      · intro q hq
        obtain ⟨name, args, hargv, hok, rfl⟩ := replayRecord_eq_ok b hq
        obtain ⟨rfl, rfl⟩ := List.cons.inj hargv
        have hstart :
            (∃ text, (executeArgv b ⟨ascii "MULTI", []⟩ (wall p.position) p.conn).2 =
              b.fail text) ∨
            (executeArgv b ⟨ascii "MULTI", []⟩ (wall p.position) p.conn).1.inMulti = true :=
          inMulti_executeArgv_multi b _ toUppercase_multi
        rcases hstart with ⟨text, hfail⟩ | hin
        · rw [getD_none, hfail] at hok
          cases hok
        · refine ⟨dbs_executeArgv_of_inMulti b hin, ?_⟩
          exact inertRun_queued b _ _ (plain_bodyRecords currentDb commands hplain) hin

lemma inertRun_of_records_eq {u : Append} (hplain : u.Plain) {currentDb : Option Nat}
    {init rest : List Record} {r : Record} (h : u.records currentDb = init ++ r :: rest)
    (wall : Nat → Int64) (p : Progress σ κ) : InertRun b wall init p := by
  rcases inertRun_records b hplain currentDb with hnil | ⟨init', last, hrecords, -, hinert⟩
  · rw [hnil] at h
    simp at h
  · -- `init` ends before the last record
    have hpre : ∃ more, init' = init ++ more := by
      rw [h] at hrecords
      obtain ⟨front, back, hback⟩ : ∃ front back, r :: rest = front ++ [back] :=
        (eq_nil_or_concat' (r :: rest)).resolve_left (cons_ne_nil r rest)
      rw [hback, ← append_assoc] at hrecords
      exact ⟨front, (append_inj' hrecords rfl).1.symm⟩
    obtain ⟨more, rfl⟩ := hpre
    exact inertRun_of_append b (hinert wall p)

/-- A unit is replayed the same at any clock. -/
lemma replayRecords_clock_unit {u : Append} (hplain : u.Plain) (currentDb : Option Nat)
    (p : Progress σ κ) (wall wall' : Nat → Int64) :
    replayRecords b wall (u.records currentDb) p =
      replayRecords b wall' (u.records currentDb) p := by
  rcases inertRun_records b hplain currentDb with hnil | ⟨init, last, hrecords, htime, hinert⟩
  · rw [hnil]
    rfl
  · have hlast (q : Progress σ κ) :
        replayRecords b wall [last] q = replayRecords b wall' [last] q := by
      simp only [replayRecords]
      rw [replayRecord_clock b (fun hnone => absurd hnone htime) wall wall']
    rw [hrecords, replayRecords_append, replayRecords_append,
      replayRecords_clock_of_inertRun b (hinert wall p) wall']
    exact bind_congr_ok fun q _ => hlast q

/-- The records of a sequence of appends are replayed the same at any time. -/
lemma replayRecords_clock {units : List Append} (hplain : ∀ u ∈ units, u.Plain)
    (currentDb : Option Nat) (p : Progress σ κ) (wall wall' : Nat → Int64) :
    replayRecords b wall (allRecords currentDb units) p =
      replayRecords b wall' (allRecords currentDb units) p := by
  induction units generalizing currentDb p with
  | nil => rfl
  | cons u units ih =>
    obtain ⟨hu, hunits⟩ := forall_mem_cons.mp hplain
    rw [allRecords, replayRecords_append, replayRecords_append,
      replayRecords_clock_unit b hu currentDb p wall wall']
    exact bind_congr_ok fun q _ => ih hunits _ q

end units

/-! ## Where a replay goes back to -/

section checkpoint

variable {wall : Nat → Int64}
variable {q p start : Progress σ κ} {records : List Record}

lemma position_of_replayRecord {r : Record} (h : replayRecord b wall p r = .ok q) :
    q.position = p.position + r.bytes.length := by
  obtain ⟨name, args, -, -, rfl⟩ := replayRecord_eq_ok b h
  rfl

/-- The position moves behind the records. -/
lemma position_of_replayRecords (h : replayRecords b wall records p = .ok q) :
    q.position = p.position + (recordsBytes records).length := by
  induction records generalizing p with
  | nil =>
    cases h
    simp
  | cons r records ih =>
    obtain ⟨m, hm, hq⟩ := bind_eq_ok_iff.mp h
    rw [ih hq, position_of_replayRecord b hm, recordsBytes_cons, length_append]
    omega

variable (wall) in
/-- A replay that is in a transaction knows where it started: a position reached by the records
before it, in no transaction, with the databases that the replay has. -/
def Checkpoint (records : List Record) (start p : Progress σ κ) : Prop :=
  match p.transactionStart with
  | none => p.conn.inMulti = false
  | some (position, _) => p.conn.inMulti = true ∧
      ∃ before rest m, records = before ++ rest ∧ replayRecords b wall before start = .ok m ∧
        m.transactionStart = none ∧ m.position = position ∧ m.conn.dbs = p.conn.dbs

lemma Checkpoint.eq_none (h : Checkpoint b wall records start p) (hmulti : p.conn.inMulti = false) :
    p.transactionStart = none := by
  unfold Checkpoint at h
  split at h
  · assumption
  · rw [hmulti] at h
    cases h.1

/-- One record keeps the checkpoint, sets it, or leaves it behind. -/
lemma checkpoint_step {r : Record} (hrun : replayRecords b wall records start = .ok p)
    (hcheck : Checkpoint b wall records start p) (hstep : replayRecord b wall p r = .ok q) :
    Checkpoint b wall (records ++ [r]) start q := by
  obtain ⟨name, args, -, -, rfl⟩ := replayRecord_eq_ok b hstep
  cases hafter : (executeArgv b ⟨name, args⟩ (r.timestamp.getD (wall p.position))
      p.conn).1.inMulti with
  | false =>
    cases hbefore : p.conn.inMulti with
    | false =>
      have hnone := Checkpoint.eq_none b hcheck hbefore
      simp only [Checkpoint, Progress.advance, hbefore, hafter, hnone]
      trivial
    | true =>
      simp only [Checkpoint, Progress.advance, hbefore, hafter]
      trivial
  | true =>
    have hdbs := dbs_executeArgv_of_inMulti b hafter
    cases hbefore : p.conn.inMulti with
    | false =>
      have hnone := Checkpoint.eq_none b hcheck hbefore
      simp only [Checkpoint, Progress.advance, hbefore, hafter]
      exact ⟨trivial, records, [r], p, rfl, hrun, hnone, rfl, hdbs.symm⟩
    | true =>
      unfold Checkpoint at hcheck
      split at hcheck
      · rw [hbefore] at hcheck
        cases hcheck
      · next position count hsome =>
          obtain ⟨-, before, rest, m, rfl, hm, hnone, hposition, hmdbs⟩ := hcheck
          simp only [Checkpoint, Progress.advance, hbefore, hafter, hsome]
          refine ⟨trivial, before, rest ++ [r], m, ?_, hm, hnone, hposition, ?_⟩
          · rw [append_assoc]
          · exact hmdbs.trans hdbs.symm

/-- **A replay has a checkpoint**, if it starts in no transaction. -/
theorem exists_checkpoint (hstart : start.transactionStart = none)
    (hmulti : start.conn.inMulti = false) (hrun : replayRecords b wall records start = .ok p) :
    Checkpoint b wall records start p := by
  induction records using List.reverseRecOn generalizing p with
  | nil =>
    cases hrun
    simp only [Checkpoint, hstart, hmulti]
  | append_singleton records r ih =>
    rw [replayRecords_append] at hrun
    obtain ⟨m, hm, hlast⟩ := bind_eq_ok_iff.mp hrun
    obtain ⟨p', hstep, hp'⟩ := bind_eq_ok_iff.mp hlast
    cases hp'
    exact checkpoint_step b hm (ih hm) hstep

end checkpoint

/-! ## Where a cut falls -/

/-- The longest prefix of the appends that is whole before the cut. -/
def wholeUnits (units : List Append) (cut : Nat) : List Append :=
  units.take (Nat.findGreatest (fun n => (appendAll (units.take n)).length ≤ cut) units.length)

section cut

/-- A part of a file of records is whole records and a part of the next one. -/
lemma exists_of_strictPrefix_recordsBytes {records : List Record} {t : Bytes}
    (h : StrictPrefix t (recordsBytes records)) :
    ∃ before r rest p, records = before ++ r :: rest ∧ t = recordsBytes before ++ p ∧
      StrictPrefix p r.bytes := by
  induction records generalizing t with
  | nil => exact absurd h not_strictPrefix_nil
  | cons r records ih =>
    rw [recordsBytes_cons] at h
    rcases strictPrefix_append h with hfirst | ⟨q, rfl, hq⟩
    · exact ⟨[], r, records, t, rfl, rfl, hfirst⟩
    · obtain ⟨before, r', rest, p, rfl, rfl, hp⟩ := ih hq
      refine ⟨r :: before, r', rest, p, rfl, ?_, hp⟩
      rw [recordsBytes_cons, append_assoc]

/-- The file of the first appends is the start of the file, and the next append is cut, if there
is one. -/
lemma wholeUnits_cases (units : List Append) {cut : Nat} (hcut : aofVersionHeader.length ≤ cut) :
    (wholeUnits units cut = units ∧ (appendAll units).length ≤ cut) ∨
      ∃ u rest, units = wholeUnits units cut ++ u :: rest ∧
        (appendAll (wholeUnits units cut)).length ≤ cut ∧
        cut < (appendAll (wholeUnits units cut ++ [u])).length := by
  set n := Nat.findGreatest (fun n => (appendAll (units.take n)).length ≤ cut) units.length
    with hn
  have hwhole : wholeUnits units cut = units.take n := rfl
  have hfits : (appendAll (units.take n)).length ≤ cut := by
    have hzero : (appendAll (units.take 0)).length ≤ cut := by
      rw [take_zero, appendAll_eq]
      simpa [allRecords] using hcut
    exact Nat.findGreatest_spec (P := fun n => (appendAll (units.take n)).length ≤ cut)
      (Nat.zero_le units.length) hzero
  by_cases hall : units.length ≤ n
  · refine Or.inl ⟨?_, ?_⟩
    · rw [hwhole, take_of_length_le hall]
    · rwa [take_of_length_le hall] at hfits
  · have hlt : n < units.length := Nat.not_le.mp hall
    have hnext : cut < (appendAll (units.take (n + 1))).length := by
      have hgreatest := Nat.findGreatest_is_greatest
        (P := fun n => (appendAll (units.take n)).length ≤ cut) (Nat.lt_succ_self n)
        (Nat.succ_le_of_lt hlt)
      exact Nat.not_le.mp hgreatest
    refine Or.inr ⟨units[n], units.drop (n + 1), ?_, ?_, ?_⟩
    · rw [hwhole, getElem_cons_drop, take_append_drop]
    · rwa [hwhole]
    · rwa [hwhole, take_append_getElem hlt]

/-- **Where a cut falls**, behind the header: the records of the whole units, inert records of the
next one, and a part of a record. -/
lemma exists_cut {units : List Append} (hplain : ∀ u ∈ units, u.Plain) {cut : Nat}
    (hcut : aofVersionHeader.length ≤ cut) :
    ∃ extra rest t,
      allRecords none units = allRecords none (wholeUnits units cut) ++ extra ++ rest ∧
      (appendAll units).take cut = aofVersionHeader ++
        (recordsBytes (allRecords none (wholeUnits units cut) ++ extra) ++ t) ∧
      (t = [] ∨ ∃ r ∈ rest, StrictPrefix t r.bytes) ∧
      ∀ wall (p : Progress σ κ), InertRun b wall extra p := by
  rcases wholeUnits_cases units hcut with ⟨hall, hlength⟩ | ⟨u, later, hunits, hfits, hnext⟩
  · refine ⟨[], [], [], ?_, ?_, Or.inl rfl, fun _ _ => trivial⟩
    · simp [hall]
    · rw [take_of_length_le hlength, appendAll_eq, hall]
      simp
  · set whole := wholeUnits units cut
    have hrecords : allRecords none units = allRecords none whole ++
        (u.records (lastDb none whole) ++ allRecords (u.nextDb (lastDb none whole)) later) := by
      rw [hunits, allRecords_append]
      rfl
    -- the part of the file behind the whole units
    set t := (recordsBytes (u.records (lastDb none whole))).take
      (cut - (appendAll whole).length) with ht
    have hshort : cut - (appendAll whole).length <
        (recordsBytes (u.records (lastDb none whole))).length := by
      have hsnoc : (appendAll (whole ++ [u])).length = (appendAll whole).length +
          (recordsBytes (u.records (lastDb none whole))).length := by
        rw [appendAll_eq, appendAll_eq, allRecords_append]
        simp only [allRecords, append_nil, recordsBytes_append, length_append]
        omega
      omega
    have htake : (appendAll units).take cut = appendAll whole ++ t := by
      have hsplit : appendAll units = appendAll whole ++
          (recordsBytes (u.records (lastDb none whole)) ++
            recordsBytes (allRecords (u.nextDb (lastDb none whole)) later)) := by
        rw [appendAll_eq, appendAll_eq, hrecords, recordsBytes_append, recordsBytes_append,
          append_assoc]
      rw [hsplit, take_append, take_of_length_le hfits,
        take_append_of_le_length hshort.le]
    obtain ⟨extra, r, rest, p, hextra, htail, hp⟩ :=
      exists_of_strictPrefix_recordsBytes (strictPrefix_take hshort)
    have hu : u.Plain := hplain u (by rw [hunits]; simp)
    refine ⟨extra, r :: rest ++ allRecords (u.nextDb (lastDb none whole)) later, p, ?_, ?_, ?_, ?_⟩
    · rw [hrecords, hextra]
      simp
    · rw [htake, ht, htail, appendAll_eq, recordsBytes_append]
      simp
    · exact Or.inr ⟨r, by simp, hp⟩
    · exact fun wall p => inertRun_of_records_eq b hu hextra wall p

end cut

/-! ## Recovery -/

/-- The connection after a record, run by the engine alone; records without a timestamp run at
`now`. -/
def runRecord (now : Int64) (conn : Conn σ κ) (r : Record) : Conn σ κ :=
  (execute b (bulkArray r.argv) (r.timestamp.getD now) conn).1

/-- The keyspace after a sequence of appends. -/
def keyspaceAfter (now : Int64) (units : List Append) (server : ServerState σ) : Databases :=
  ((allRecords none units).foldl (runRecord b now) ⟨server, .new b.newSession⟩).dbs

/-- What a crash leaves of the file: the bytes before the cut, and zero bytes. -/
def tornFile (units : List Append) (cut zeros : Nat) : Bytes :=
  (appendAll units).take cut ++ List.replicate zeros 0

/-- The keyspace after the whole units is recovered from the torn file; and if replay says where
to truncate it, the truncated file replays cleanly to the same keyspace. -/
def Recovers (units : List Append) (cut zeros : Nat) (server : ServerState σ) : Prop :=
  ∀ wall, ∃ recovered result,
    replayReader b wall (tornFile units cut zeros) server = .ok (recovered, result) ∧
    (∀ now, recovered.store.dbs = keyspaceAfter b now (wholeUnits units cut) server) ∧
    ∀ p, result.truncatedAt = some p → ∀ wall', ∃ recovered' result',
      replayReader b wall' ((tornFile units cut zeros).take p) server =
        .ok (recovered', result') ∧
      result'.corruptionDetected = false ∧ recovered'.store.dbs = recovered.store.dbs

section recovery

variable {server : ServerState σ} {wall : Nat → Int64}
variable {records : List Record} {q : Progress σ κ} {cut : Nat}

/-- Replaying runs the records in order. -/
lemma conn_of_replayRecords {now : Int64} {p : Progress σ κ}
    (h : replayRecords b (fun _ => now) records p = .ok q) :
    q.conn = records.foldl (runRecord b now) p.conn := by
  induction records generalizing p with
  | nil =>
    cases h
    rfl
  | cons r records ih =>
    obtain ⟨m, hm, hq⟩ := bind_eq_ok_iff.mp h
    obtain ⟨name, args, hargv, -, rfl⟩ := replayRecord_eq_ok b hm
    rw [ih hq, foldl_cons, runRecord, hargv, execute_bulkArray_cons]
    rfl

/-- A whole header is taken off. -/
lemma splitHeader_of_header (buf : Bytes) :
    splitHeader (aofVersionHeader ++ buf) = (buf, false, false) := by
  have hpre : aofVersionHeader.isPrefixOf (aofVersionHeader ++ buf) = true :=
    isPrefixOf_iff_prefix.mpr (prefix_append _ _)
  rw [splitHeader, hpre, Bool.true_or, if_pos rfl, drop_left]

/-- The replay of a file of whole records, with a part of one behind them. -/
lemma replayReader_of_records (server : ServerState σ) {t zeros : Bytes}
    (hwire : ∀ r ∈ records, Wire r.frame)
    (hrun : replayRecords b wall records (.start b server aofVersionHeader.length) = .ok q)
    (hcut : CutRecord t) (hzeros : ∀ z ∈ zeros, z = 0) :
    ∃ result, replayReader b wall
        (aofVersionHeader ++ (recordsBytes records ++ (t ++ zeros))) server =
          .ok (q.conn.server, result) ∧
      result.truncatedAt = (q.stop (!(t ++ zeros).isEmpty)).2 ∧
      result.corruptionDetected = (q.stop (!(t ++ zeros).isEmpty)).2.isSome := by
  have hcount := length_le_length_recordsBytes records
  have hposition (buf : Bytes) : (aofVersionHeader ++ buf).length - buf.length =
      aofVersionHeader.length := by
    rw [length_append]
    omega
  obtain ⟨fuel, hfuel⟩ : ∃ fuel, (aofVersionHeader ++ (recordsBytes records ++
      (t ++ zeros))).length + 1 = records.length + (fuel + 1) := by
    refine ⟨(aofVersionHeader ++ (recordsBytes records ++ (t ++ zeros))).length -
      records.length, ?_⟩
    rw [length_append, length_append]
    omega
  have hloop : replayLoop b wall (records.length + (fuel + 1))
      (recordsBytes records ++ (t ++ zeros)) (.start b server aofVersionHeader.length) =
        .ok (q.stop (!(t ++ zeros).isEmpty)) := by
    rw [replayLoop_records b wall records hwire, hrun]
    exact replayLoop_tail b wall hcut hzeros fuel q
  have hconn : (q.stop (!(t ++ zeros).isEmpty)).1.conn = q.conn := by
    unfold Progress.stop
    split <;> rfl
  simp only [replayReader, splitHeader_of_header, hposition, hfuel, hloop, Except.map]
  exact ⟨_, by rw [hconn], rfl, rfl⟩

/-- The position to truncate at is one that whole records end at, outside any transaction, with
the databases that the replay has. -/
lemma exists_of_stop_eq_some {start : Progress σ κ} {unread : Bool} {position : Nat}
    (hcheck : Checkpoint b wall records start q) (hrun : replayRecords b wall records start = .ok q)
    (hstop : (q.stop unread).2 = some position) :
    ∃ before rest m, records = before ++ rest ∧ replayRecords b wall before start = .ok m ∧
      m.transactionStart = none ∧ m.position = position ∧ m.conn.dbs = q.conn.dbs := by
  unfold Progress.stop at hstop
  unfold Checkpoint at hcheck
  cases hstart : q.transactionStart with
  | none =>
    simp only [hstart] at hstop
    split_ifs at hstop
    exact ⟨records, [], q, by simp, hrun, hstart, Option.some.inj hstop, rfl⟩
  | some checkpoint =>
    obtain ⟨s, count⟩ := checkpoint
    simp only [hstart] at hstop hcheck
    obtain rfl := Option.some.inj hstop
    exact hcheck.2

/-- The records of a file that replays are within the limits, and their fold succeeds. -/
lemma exists_replayRecords_of_replayReader {units : List Append}
    (h : ∃ result, replayReader b wall (appendAll units) server = .ok result) :
    (∀ r ∈ allRecords none units, Wire r.frame) ∧
      ∃ q, replayRecords b wall (allRecords none units)
        (.start b server aofVersionHeader.length) = .ok q := by
  obtain ⟨result, h⟩ := h
  have hposition : (aofVersionHeader ++ recordsBytes (allRecords none units)).length -
      (recordsBytes (allRecords none units)).length = aofVersionHeader.length := by
    rw [length_append]
    omega
  rw [appendAll_eq] at h
  simp only [replayReader, splitHeader_of_header, hposition] at h
  cases hloop : replayLoop b wall
      ((aofVersionHeader ++ recordsBytes (allRecords none units)).length + 1)
      (recordsBytes (allRecords none units)) (.start b server aofVersionHeader.length) with
  | error e =>
    rw [hloop] at h
    cases h
  | ok final => exact exists_replayRecords_of_replayLoop b wall hloop

/-- Behind the header, every cut is recovered from. -/
lemma recovers_of_header_le {units : List Append} (hplain : ∀ u ∈ units, u.Plain)
    (hreplay : ∃ wall result, replayReader b wall (appendAll units) server = .ok result)
    (hcut : aofVersionHeader.length ≤ cut) (zeros : Nat) : Recovers b units cut zeros server := by
  obtain ⟨wall₀, hreplay⟩ := hreplay
  obtain ⟨hwire, full, hfull⟩ := exists_replayRecords_of_replayReader b hreplay
  obtain ⟨extra, rest, t, hrecords, htake, ht, hinert⟩ := exists_cut b hplain hcut
  set whole := wholeUnits units cut with hwhole
  rw [hrecords] at hwire hfull
  -- the records before the cut replay to the same state at any time
  obtain ⟨q, hq, -⟩ := bind_eq_ok_iff.mp ((replayRecords_append b wall₀ _ rest _).symm.trans hfull)
  obtain ⟨m, hm, hextra⟩ := bind_eq_ok_iff.mp ((replayRecords_append b wall₀ _ extra _).symm.trans hq)
  have hplain' : ∀ u ∈ whole, u.Plain := fun u hu => hplain u (mem_of_mem_take hu)
  have hrunWhole (wall : Nat → Int64) : replayRecords b wall (allRecords none whole)
      (.start b server aofVersionHeader.length) = .ok m := by
    rw [replayRecords_clock b hplain' none _ wall wall₀, hm]
  have hrun (wall : Nat → Int64) : replayRecords b wall (allRecords none whole ++ extra)
      (.start b server aofVersionHeader.length) = .ok q := by
    rw [replayRecords_append, hrunWhole wall]
    exact (replayRecords_clock_of_inertRun b (hinert wall m) wall₀).trans hextra
  have hwireRun : ∀ r ∈ allRecords none whole ++ extra, Wire r.frame :=
    fun r hr => hwire r (mem_append_left _ hr)
  have hcutRecord : CutRecord t := by
    rcases ht with rfl | ⟨r, hr, hp⟩
    · exact Or.inl rfl
    · exact Or.inr ⟨r, hwire r (mem_append_right _ hr), hp⟩
  have hfile : tornFile units cut zeros = aofVersionHeader ++
      (recordsBytes (allRecords none whole ++ extra) ++ (t ++ List.replicate zeros 0)) := by
    rw [tornFile, htake]
    simp only [append_assoc]
  intro wall
  obtain ⟨result, hresult, htruncated, -⟩ := replayReader_of_records b server hwireRun
    (hrun wall) hcutRecord (fun z hz => eq_of_mem_replicate hz)
  refine ⟨q.conn.server, result, ?_, ?_, ?_⟩
  · rw [hfile, hresult]
  · intro now
    have hconn := conn_of_replayRecords b (hrunWhole fun _ => now)
    have hdbs : q.conn.dbs = m.conn.dbs := dbs_of_inertRun b (hinert wall₀ m) hextra
    rw [hconn] at hdbs
    exact hdbs
  · intro position hposition wall'
    rw [htruncated] at hposition
    obtain ⟨before, rest', m', hbefore, hm', hnone, rfl, hdbs⟩ := exists_of_stop_eq_some b
      (exists_checkpoint b rfl rfl (hrun wall')) (hrun wall') hposition
    have hpre : (tornFile units cut zeros).take m'.position =
        aofVersionHeader ++ (recordsBytes before ++ ([] ++ [])) := by
      rw [position_of_replayRecords b hm', hfile, hbefore, recordsBytes_append]
      simp only [Progress.start, append_nil, append_assoc]
      rw [← append_assoc, ← length_append, take_left]
    have hwireBefore : ∀ r ∈ before, Wire r.frame := by
      intro r hr
      apply hwireRun
      rw [hbefore]
      exact mem_append_left _ hr
    obtain ⟨result', hresult', -, hclean⟩ := replayReader_of_records b server
      hwireBefore hm' (Or.inl rfl) (show ∀ z ∈ ([] : Bytes), z = 0 by simp)
    refine ⟨m'.conn.server, result', ?_, ?_, hdbs⟩
    · rw [hpre, hresult']
    · rw [hclean, Progress.stop, hnone]
      rfl

lemma tornFile_of_le_header (units : List Append) (hcut : cut ≤ aofVersionHeader.length)
    (zeros : Nat) :
    tornFile units cut zeros = aofVersionHeader.take cut ++ List.replicate zeros 0 := by
  rw [tornFile, appendAll_eq, take_append_of_le_length hcut]

/-- A file cut inside the header has no header: the last byte of both headers is missing, or
zero. -/
lemma splitHeader_of_lt_header (hcut : cut < aofVersionHeader.length) (zeros : Nat) {raw : Bytes}
    (hraw : raw = aofVersionHeader.take cut ++ List.replicate zeros 0) :
    (splitHeader raw).1 = raw := by
  have hheader : aofVersionHeader[13]? = some 10 := rfl
  have hlegacy : aofV1Header[13]? = some 10 := rfl
  have hlength : aofVersionHeader.length = 14 := rfl
  have hlast : raw[13]? ≠ some 10 := by
    intro hten
    rw [hraw, getElem?_append_right (by rw [length_take]; omega)] at hten
    have := eq_of_mem_replicate (mem_of_getElem? hten)
    cases this
  have hnot : ∀ header : Bytes, header[13]? = some 10 → header.isPrefixOf raw = false := by
    intro header hten
    rw [Bool.eq_false_iff]
    intro hpre
    obtain ⟨rest, hrest⟩ := isPrefixOf_iff_prefix.mp hpre
    refine hlast ?_
    rw [← hrest, getElem?_append_left, hten]
    exact (List.getElem?_eq_some_iff.mp hten).1
  rw [splitHeader, hnot _ hheader, hnot _ hlegacy, Bool.or_false, if_neg Bool.false_ne_true]
  split_ifs <;> rfl

/-- Zero bytes replay to the state as it was, and are to be dropped. -/
lemma replayReader_zeros (server : ServerState σ) (wall : Nat → Int64) (zeros : Nat) :
    ∃ result, replayReader b wall (List.replicate zeros 0) server = .ok (server, result) ∧
      (∀ position, result.truncatedAt = some position → position = 0) ∧
      (zeros = 0 → result.corruptionDetected = false) := by
  have hbuf : (splitHeader (List.replicate zeros 0)).1 = List.replicate zeros 0 :=
    splitHeader_of_lt_header (show 0 < aofVersionHeader.length by decide) zeros rfl
  have hzeros : ∀ z ∈ List.replicate zeros (0 : UInt8), z = 0 :=
    fun z hz => eq_of_mem_replicate hz
  have hloop := replayLoop_tail b wall (t := []) (Or.inl rfl) hzeros
    (List.replicate zeros (0 : UInt8)).length (.start b server 0)
  simp only [nil_append] at hloop
  simp only [replayReader, hbuf, Nat.sub_self, hloop, Except.map]
  refine ⟨_, rfl, ?_, ?_⟩
  · intro position hposition
    simp only [Progress.stop, Progress.start] at hposition
    split_ifs at hposition
    exact (Option.some.inj hposition).symm
  · rintro rfl
    rfl

/-- A file cut to nothing is recovered. -/
lemma recovers_zero (units : List Append) (zeros : Nat) : Recovers b units 0 zeros server := by
  have hwhole : wholeUnits units 0 = [] := by
    have hnone : Nat.findGreatest (fun n => (appendAll (units.take n)).length ≤ 0)
        units.length = 0 := by
      have hlength : 0 < aofVersionHeader.length := by decide
      rw [Nat.findGreatest_eq_zero_iff]
      intro n _ _
      rw [appendAll_eq, length_append]
      omega
    rw [wholeUnits, hnone, take_zero]
  have hfile : tornFile units 0 zeros = List.replicate zeros 0 :=
    tornFile_of_le_header units (Nat.zero_le _) zeros
  intro wall
  obtain ⟨result, hresult, htruncated, -⟩ := replayReader_zeros b server wall zeros
  refine ⟨server, result, ?_, ?_, ?_⟩
  · rw [hfile, hresult]
  · intro now
    rw [hwhole]
    rfl
  · intro position hposition wall'
    obtain ⟨result', hresult', -, hclean⟩ := replayReader_zeros b server wall' 0
    refine ⟨server, result', ?_, hclean rfl, rfl⟩
    rw [htruncated position hposition, take_zero]
    exact hresult'

/-- Inside the header, no cut is recovered from. -/
lemma not_recovers (units : List Append) (hpos : 0 < cut) (hcut : cut < aofVersionHeader.length)
    (zeros : Nat) : ¬ Recovers b units cut zeros server := by
  intro hrecovers
  obtain ⟨recovered, result, hreplay, -⟩ := hrecovers fun _ => 0
  have hfile := tornFile_of_le_header units hcut.le zeros
  have hbuf := splitHeader_of_lt_header hcut zeros hfile
  obtain ⟨tail, htail⟩ : ∃ tail, tornFile units cut zeros = 82 :: tail := by
    have hheader : aofVersionHeader = 82 :: aofVersionHeader.tail := rfl
    obtain ⟨n, rfl⟩ := Nat.exists_eq_add_of_lt hpos
    rw [hfile, hheader, Nat.zero_add, take_succ_cons]
    exact ⟨_, rfl⟩
  have hread : readFrame (tornFile units cut zeros) =
      (.error (.invalidFrameType 82), tornFile units cut zeros) := by
    rw [htail]
    rfl
  -- the first byte is no array marker, so the rest is no torn tail
  have hwhole : isTornTail (tornFile units cut zeros) = false := by
    have hnil : (tornFile units cut zeros).rdropWhile (· == 0) ≠ [] := by
      rw [Ne, rdropWhile_eq_nil_iff, htail]
      intro hall
      exact absurd (hall 82 mem_cons_self) (by decide)
    simp only [isTornTail, if_neg hnil]
    rw [htail]
    simp
  simp only [replayReader, hbuf, replayLoop, hread, hwhole] at hreplay
  cases hreplay

/-- **Recovery of a cut file.** From a file whose commands replay without an error, cut anywhere
and with any number of zero bytes behind the cut, the keyspace after the whole units is recovered
exactly when the cut does not fall inside the version header. -/
theorem recovers_iff {units : List Append} (hplain : ∀ u ∈ units, u.Plain)
    (hreplay : ∃ wall result, replayReader b wall (appendAll units) server = .ok result)
    (cut zeros : Nat) :
    Recovers b units cut zeros server ↔ cut = 0 ∨ aofVersionHeader.length ≤ cut := by
  constructor
  · intro hrecovers
    by_contra hinside
    push Not at hinside
    exact not_recovers b units (Nat.pos_of_ne_zero hinside.1) hinside.2 zeros hrecovers
  · rintro (rfl | hcut)
    · exact recovers_zero b units zeros
    · exact recovers_of_header_le b hplain hreplay hcut zeros

end recovery

/-! ## A file of one write -/

/-- `SET k v` in database 0. -/
def setUnit : Append := .command 0 [ascii "SET", ascii "k", ascii "v"] 1

lemma plain_setUnit : ∀ u ∈ [setUnit], u.Plain := by
  intro u hu
  rw [mem_singleton.mp hu]
  trivial

lemma exists_replayReader_setUnit :
    ∃ wall result, replayReader .bare wall (appendAll [setUnit]) emptyServer = .ok result := by
  have hok : (replayReader .bare (fun _ => 0) (appendAll [setUnit]) emptyServer).isOk = true := by
    decide +kernel
  refine ⟨fun _ => 0, ?_⟩
  cases hresult : replayReader .bare (fun _ => 0) (appendAll [setUnit]) emptyServer with
  | error e =>
    rw [hresult] at hok
    cases hok
  | ok result => exact ⟨result, rfl⟩

/-- Cut inside the `SET`, with three zero bytes behind the cut. -/
theorem recovers_setUnit_cut :
    50 < (appendAll [setUnit]).length ∧ Recovers .bare [setUnit] 50 3 emptyServer := by
  have hinside : 50 < (appendAll [setUnit]).length := by decide +kernel
  have hheader : aofVersionHeader.length ≤ 50 := by decide +kernel
  exact ⟨hinside, (recovers_iff .bare plain_setUnit exists_replayReader_setUnit 50 3).mpr
    (Or.inr hheader)⟩

/-- Cut after the first five bytes: replay refuses the file. -/
theorem header_cut_not_recovered :
    (∃ wall result, replayReader .bare wall (appendAll [setUnit]) emptyServer = .ok result) ∧
      5 ≤ (appendAll [setUnit]).length ∧ ¬ Recovers .bare [setUnit] 5 0 emptyServer :=
  ⟨exists_replayReader_setUnit, by decide +kernel,
    not_recovers .bare [setUnit] (by decide) (by decide +kernel) 0⟩

end Ratatosk.Aof
