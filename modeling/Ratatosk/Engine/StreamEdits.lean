import Mathlib.Logic.Relation
import Ratatosk.Engine.StreamCommands

/-!
# What a stream command does to a database

Every stream command looks keys up, drops those that have expired, and edits the streams that it
finds. This module says once which edits each command makes, so that a property of all streams is
a property of the edits.

* `GroupEdit`, `StreamEdit` — the edits of a group and of a stream that a command can make.
* `KeyStep R` — one step at one key, where streams are edited as `R` says; `DbSteps R` — any
  number of them at every key.
* `StreamEvent`, `runEvents` — runs of stream commands and deletions of keys over all databases,
  with a clock that may read anything.
-/

namespace Ratatosk.Engine

open Lib Keyspace Resp List Finmap

/-! ## Edits -/

/-- A stream without entries and groups. -/
def Stream.fresh : Stream := ⟨[], ∅, .derivedFrom []⟩

/-- The stream with one more entry. -/
def Stream.append (s : Stream) (id : StreamId) (fields : List (Bytes × Bytes)) : Stream where
  entries := s.entries ++ [⟨id, fields⟩]
  groups := s.groups
  metadata :=
    { s.metadata with
      lastId := id
      entriesAdded :=
        if s.metadata.entriesAdded = 0xFFFFFFFFFFFFFFFF then s.metadata.entriesAdded
        else s.metadata.entriesAdded + 1 }

section edits

variable (err : Bytes → RespFrame) (now : Int64)

/-- What a command can do to a group of a stream with some entries. -/
inductive GroupEdit (entries : List StreamEntry) : StreamCommand → Group → Group → Prop where
  | keep (c : StreamCommand) (g : Group) : GroupEdit entries c g g
  | setCursor (id : StreamId) (g : Group) :
      GroupEdit entries .xgroup g { g with lastDeliveredId := id }
  | createConsumer (name : Bytes) (g : Group) :
      GroupEdit entries .xgroup g (createConsumer name now g).1
  | deleteConsumer (name : Bytes) (g : Group) :
      GroupEdit entries .xgroup g (deleteConsumer name g).1
  | read (o : ReadgroupOptions) (name idRaw : Bytes) (g : Group) :
      GroupEdit entries .xreadgroup g (readGroup err o name idRaw now entries g).1
  | ack (ids : List Bytes) (removed : Int64) (g : Group) :
      GroupEdit entries .xack g (ackIds err ids g removed).1
  | claim (name : Bytes) (minIdle : Int64) (ids : List StreamId) (g : Group) :
      GroupEdit entries .xclaim g (claimIds name minIdle now ids g).1
  | autoclaim (name : Bytes) (minIdle : Int64) (start : StreamId) (count : Nat)
      (ids claimed : List StreamId) (g : Group) :
      GroupEdit entries .xautoclaim g (autoclaimIds name minIdle now start count ids claimed g).1

/-- What a command with some arguments can do to the stream at a key. -/
inductive StreamEdit (args : List Bytes) (key : Bytes) : StreamCommand → Stream → Stream → Prop
    where
  | keep (c : StreamCommand) (s : Stream) : StreamEdit args key c s s
  | append (spec : IdSpec) (id : StreamId) (fields : List (Bytes × Bytes)) (s : Stream)
      (hid : (spec.resolve s.metadata.lastId now).filter (idLt s.metadata.lastId) = some id) :
      StreamEdit args key .xadd s (s.append id fields)
  | trim (mode : TrimStrategy) (limit : Option Nat) (s : Stream) :
      StreamEdit args key .xtrim s (trimStream mode limit s).1
  | delete (ids : List StreamId) (s : Stream) :
      StreamEdit args key .xdel s (deleteIds ids s).1
  | setId (newId maxDeletedId : StreamId) (entriesAdded : Option UInt64) (s : Stream)
      (hkey : args.head? = some key) (hmax : maxDeletedId = .zero ∨ idLt newId maxDeletedId = false)
      (hallowed : xsetidRefusal newId entriesAdded s = none) :
      StreamEdit args key .xsetid s
        { s with metadata := xsetidMeta newId entriesAdded maxDeletedId s.metadata }
  | createGroup (name : Bytes) (id : StreamId) (s : Stream) :
      StreamEdit args key .xgroup s { s with groups := s.groups.insert name (.new id) }
  | destroyGroup (name : Bytes) (s : Stream) :
      StreamEdit args key .xgroup s { s with groups := s.groups.erase name }
  | group (c : StreamCommand) (name : Bytes) (g g' : Group) (s : Stream)
      (hlookup : s.groups.lookup name = some g) (hedit : GroupEdit err now s.entries c g g') :
      StreamEdit args key c s { s with groups := s.groups.insert name g' }
  | ackdel (condition : StreamDeleteCondition) (name : Bytes) (ids : List StreamId) (s : Stream) :
      StreamEdit args key .xackdel s
        ((ids.foldl (ackdelStep s.entries name condition) ⟨s.groups, ∅, []⟩).finish s).1
  | delex (condition : StreamDeleteCondition) (ids : List StreamId) (s : Stream) :
      StreamEdit args key .xdelex s (delexStream condition ids s).1

end edits

/-! ## Keys that are left alone -/

section frame

variable {db : Db} {now : Int64} {key other : Bytes}

lemma isExpired_purgeExpiredKey (db : Db) (key : Bytes) (now : Int64) :
    isExpired (purgeExpiredKey db key now) key now = false := by
  rw [purgeExpiredKey]
  split_ifs with hexpired
  · rw [isExpired, lookup_erase]
    rfl
  · exact Bool.eq_false_iff.mpr hexpired

lemma purgeExpiredKey_of_live (h : isExpired db key now = false) :
    purgeExpiredKey db key now = db := by
  rw [purgeExpiredKey, h]
  rfl

lemma lookup_purgeExpiredKey_of_ne (h : other ≠ key) :
    (purgeExpiredKey db key now).lookup other = db.lookup other := by
  rw [purgeExpiredKey]
  split_ifs
  · rw [lookup_erase_ne h]
  · rfl

lemma isExpired_congr {db' : Db} (h : db'.lookup key = db.lookup key) :
    isExpired db' key now = isExpired db key now := by
  rw [isExpired, isExpired, h]

lemma lookup_editStream_of_ne {ρ : Type} {absent wrong : ρ} {edit : Stream → Stream × ρ}
    (h : other ≠ key) : (editStream absent wrong edit key db).1.lookup other = db.lookup other := by
  rw [editStream]
  split
  · rfl
  · split
    · exact lookup_insert_of_ne _ h
    · rfl

end frame

/-! ## Steps at a key -/

/-- One step at a key. -/
inductive KeyStep (R : Stream → Stream → Prop) : Option Entry → Option Entry → Prop where
  | expire (entry : Entry) (h : entry.expireAtMs ≠ none) : KeyStep R (some entry) none
  | edit (s s' : Stream) (expireAtMs : Option Int64) (h : R s s') :
      KeyStep R (some ⟨s.value, expireAtMs⟩) (some ⟨s'.value, expireAtMs⟩)
  | create (s : Stream) (h : R .fresh s) : KeyStep R none (some ⟨s.value, none⟩)

/-- Any number of steps at every key. -/
def DbSteps (R : Bytes → Stream → Stream → Prop) (db db' : Db) : Prop :=
  ∀ key, Relation.ReflTransGen (KeyStep (R key)) (db.lookup key) (db'.lookup key)

section steps

variable {R : Bytes → Stream → Stream → Prop} {db db' db'' : Db} {key : Bytes}

lemma DbSteps.refl (db : Db) : DbSteps R db db := fun _ => .refl

lemma DbSteps.trans (h : DbSteps R db db') (h' : DbSteps R db' db'') : DbSteps R db db'' :=
  fun key => (h key).trans (h' key)

/-- One key has changed, by a step. -/
lemma DbSteps.of_insert {entry : Entry} (h : KeyStep (R key) (db.lookup key) (some entry)) :
    DbSteps R db (db.insert key entry) := by
  intro other
  by_cases hkey : other = key
  · subst hkey
    rw [lookup_insert]
    exact .single h
  · rw [lookup_insert_of_ne _ hkey]

/-- Dropping an expired key is such a step. -/
lemma dbSteps_purgeExpiredKey (db : Db) (key : Bytes) (now : Int64) :
    DbSteps R db (purgeExpiredKey db key now) := by
  intro other
  rw [purgeExpiredKey]
  split_ifs with hexpired
  · by_cases hkey : other = key
    · subst hkey
      rw [lookup_erase]
      rw [isExpired] at hexpired
      cases hentry : db.lookup other with
      | none => exact .refl
      | some entry =>
        refine .single (.expire entry ?_)
        intro hnone
        simp [hentry, hnone] at hexpired
    · rw [lookup_erase_ne hkey]
  · exact .refl

/-- So is an edit of a stream. -/
lemma dbSteps_editStream {ρ : Type} (absent wrong : ρ) {edit : Stream → Stream × ρ}
    (h : ∀ s, R key s (edit s).1) (db : Db) :
    DbSteps R db (editStream absent wrong edit key db).1 := by
  rw [editStream]
  split
  · exact .refl db
  · rename_i entry hentry
    obtain ⟨value, expireAtMs⟩ := entry
    dsimp only
    split
    · rename_i entries groups metadata
      apply DbSteps.of_insert
      rw [hentry]
      exact .edit ⟨entries, groups, metadata⟩ _ expireAtMs (h _)
    · exact .refl db

end steps

/-! ## The loop of `XREADGROUP` -/

section loop

variable (err : Bytes → RespFrame) {o : ReadgroupOptions} {groupName consumer : Bytes}
  {now : Int64} {db : Db}

lemma lookup_readgroupStream_of_ne {key idRaw other : Bytes} (h : other ≠ key) :
    (readgroupStream err o groupName consumer key idRaw now db).1.lookup other =
      db.lookup other := by
  rw [readgroupStream, lookup_editStream_of_ne h, lookup_purgeExpiredKey_of_ne h]

lemma readgroupStreams_cons (stream : Bytes × Bytes) (rest : List (Bytes × Bytes)) (db : Db)
    (out : List RespFrame) :
    ((readgroupStream err o groupName consumer stream.1 stream.2 now db).2.isOk = false ∧
      (readgroupStreams err o groupName consumer now (stream :: rest) db out).1 =
        (readgroupStream err o groupName consumer stream.1 stream.2 now db).1) ∨
    ((readgroupStream err o groupName consumer stream.1 stream.2 now db).2.isOk = true ∧
      ∃ out', (readgroupStreams err o groupName consumer now (stream :: rest) db out).1 =
        (readgroupStreams err o groupName consumer now rest
          (readgroupStream err o groupName consumer stream.1 stream.2 now db).1 out').1) := by
  obtain ⟨key, idRaw⟩ := stream
  rw [readgroupStreams]
  split
  · rename_i hread
    rw [hread]
    exact .inl ⟨rfl, rfl⟩
  · rename_i hread
    rw [hread]
    exact .inr ⟨rfl, _, rfl⟩

/-- A round that fails is the last. -/
lemma readgroupStreams_of_error (stream : Bytes × Bytes) (rest : List (Bytes × Bytes))
    (out : List RespFrame)
    (h : (readgroupStream err o groupName consumer stream.1 stream.2 now db).2.isOk = false) :
    (readgroupStreams err o groupName consumer now (stream :: rest) db out).1 =
      (readgroupStream err o groupName consumer stream.1 stream.2 now db).1 := by
  rcases readgroupStreams_cons err stream rest db out with ⟨-, hloop⟩ | ⟨hok, -⟩
  · exact hloop
  · exact absurd (h.symm.trans hok) Bool.false_ne_true

/-- What every round keeps, the loop keeps. -/
lemma readgroupStreams_induction {P : Db → Prop}
    (hround : ∀ db key idRaw, P db →
      P (readgroupStream err o groupName consumer key idRaw now db).1)
    (streams : List (Bytes × Bytes)) (out : List RespFrame) (h : P db) :
    P (readgroupStreams err o groupName consumer now streams db out).1 := by
  induction streams generalizing db out with
  | nil => exact h
  | cons stream rest ih =>
    have hfirst := hround db stream.1 stream.2 h
    rcases readgroupStreams_cons err stream rest db out with ⟨-, hdb⟩ | ⟨-, out', hdb⟩
    · rw [hdb]
      exact hfirst
    · rw [hdb]
      exact ih out' hfirst

end loop

/-! ## The commands -/

section commands

variable (err : Bytes → RespFrame) (now : Int64) (args : List Bytes) (db : Db)

/-- The edits that a command can make. -/
def commandEdits (c : StreamCommand) (key : Bytes) : Stream → Stream → Prop :=
  StreamEdit err now args key c

lemma streamEdit_editGroup {ρ : Type} {c : StreamCommand} {key name : Bytes} {missing : ρ}
    {edit : Group → Group × ρ} {s : Stream}
    (h : ∀ g, GroupEdit err now s.entries c g (edit g).1) :
    StreamEdit err now args key c s (editGroup missing name edit s).1 := by
  rw [editGroup]
  split
  · exact .keep c s
  · rename_i g hg
    exact .group c name g _ s hg (h g)

/-- What `XADD` works on: the stream at the key, or a new one. -/
inductive XaddTarget (db : Db) (key : Bytes) : Stream → Option Int64 → Prop where
  | present (s : Stream) (expireAtMs : Option Int64)
      (h : db.lookup key = some ⟨s.value, expireAtMs⟩) : XaddTarget db key s expireAtMs
  | absent (h : db.lookup key = none) : XaddTarget db key .fresh none

/-- `XADD` answers with an error and changes nothing, or appends an entry with an ID over the last
one and answers with the ID. -/
inductive XaddResult (key : Bytes) : Db × RespFrame → Prop where
  | refused (text : Bytes) : XaddResult key (db, err text)
  | wrongtype : XaddResult key (db, wrongtype)
  | added (spec : IdSpec) (id : StreamId) (fields : List (Bytes × Bytes)) (s : Stream)
      (expireAtMs : Option Int64) (htarget : XaddTarget db key s expireAtMs)
      (hid : (spec.resolve s.metadata.lastId now).filter (idLt s.metadata.lastId) = some id) :
      XaddResult key (db.insert key ⟨(s.append id fields).value, expireAtMs⟩,
        .bulkString (some (streamIdToBytes id)))

/-- What `XADD` does at its key. -/
lemma xaddResult_applyXadd (key : Bytes) (spec : IdSpec) (fields : List (Bytes × Bytes)) :
    XaddResult err now db key (applyXadd err key spec fields now db) := by
  rw [applyXadd]
  split
  · rename_i entries groups metadata hvalue
    split_ifs
    · exact .refused _
    · split
      · exact .refused _
      · rename_i id hid
        cases hentry : db.lookup key with
        | none =>
          rw [hentry] at hvalue
          cases hvalue
          exact .added spec id fields .fresh none (.absent hentry) hid
        | some entry =>
          obtain ⟨value, expireAtMs⟩ := entry
          rw [hentry] at hvalue
          cases hvalue
          exact .added spec id fields ⟨entries, groups, metadata⟩ expireAtMs
            (.present _ _ hentry) hid
  · exact .wrongtype

/-- `XADD` refuses its arguments, or does what is said of a database without the expired key. -/
lemma cmdXadd_cases :
    (∃ text, cmdXadd err args now db = (db, err text)) ∨
      ∃ key, args.head? = some key ∧
        XaddResult err now (purgeExpiredKey db key now) key (cmdXadd err args now db) := by
  unfold cmdXadd
  split
  · rename_i key idRaw fields
    split_ifs
    · exact .inl ⟨_, rfl⟩
    · split
      · exact .inl ⟨_, rfl⟩
      · exact .inr ⟨key, rfl, xaddResult_applyXadd err now _ key _ _⟩
  · exact .inl ⟨_, rfl⟩

lemma XaddResult.dbSteps {key : Bytes} {result : Db × RespFrame}
    (h : XaddResult err now db key result) :
    DbSteps (commandEdits err now args .xadd) db result.1 := by
  cases h with
  | refused text => exact .refl db
  | wrongtype => exact .refl db
  | added spec id fields s expireAtMs htarget hid =>
    apply DbSteps.of_insert
    cases htarget with
    | present _ _ hentry =>
      rw [hentry]
      exact .edit s _ expireAtMs (StreamEdit.append spec id fields s hid)
    | absent hentry =>
      rw [hentry]
      exact .create _ (StreamEdit.append spec id fields .fresh hid)

/-- The deleted ID that the options of `XSETID` give is at most the new ID. -/
lemma parseXsetidOptions_max {newId : StreamId} {options : List Bytes}
    {entriesAdded entriesAdded' : Option UInt64} {maxDeletedId maxDeletedId' : StreamId}
    (h : parseXsetidOptions newId options entriesAdded maxDeletedId =
      .ok (entriesAdded', maxDeletedId'))
    (hmax : maxDeletedId = .zero ∨ idLt newId maxDeletedId = false) :
    maxDeletedId' = .zero ∨ idLt newId maxDeletedId' = false := by
  fun_induction parseXsetidOptions newId options entriesAdded maxDeletedId <;>
    first
    | (cases h; exact hmax)
    | cases h
    | (rename_i ih; exact ih h hmax)
    | (rename_i hle ih; exact ih h (.inr (by simpa using hle)))

lemma dbSteps_xgroupCreate (key name idRaw : Bytes) (mkstream : Bool) :
    DbSteps (commandEdits err now args .xgroup) db
      (xgroupCreate err key name idRaw mkstream db).1 := by
  rw [xgroupCreate]
  split_ifs with hnew
  · rw [createGroupAndStream]
    split
    · exact .refl db
    · rename_i id _
      have hnone : db.lookup key = none := by
        rw [Bool.and_eq_true, Option.isNone_iff_eq_none] at hnew
        exact hnew.1
      apply DbSteps.of_insert
      rw [hnone]
      exact .create ⟨[], Finmap.singleton name (.new id), .derivedFrom []⟩
        (.createGroup name id .fresh)
  · refine dbSteps_editStream _ _ (fun s => ?_) db
    rw [createGroup]
    split
    · exact .keep .xgroup s
    · split_ifs
      · exact .keep .xgroup s
      · exact .createGroup name _ s

lemma dbSteps_readgroupStreams (o : ReadgroupOptions) (group consumer : Bytes)
    (streams : List (Bytes × Bytes)) (out : List RespFrame) :
    DbSteps (commandEdits err now args .xreadgroup) db
      (readgroupStreams err o group consumer now streams db out).1 := by
  refine readgroupStreams_induction err (P := DbSteps _ db) ?_ streams out (.refl db)
  intro middle key idRaw hsteps
  exact (hsteps.trans (dbSteps_purgeExpiredKey _ key now)).trans (dbSteps_editStream _ _ (fun s =>
    streamEdit_editGroup err now args fun g => .read o consumer idRaw g) _)

lemma cmdXreadgroup_fst {request : ReadgroupRequest} (h : parseReadgroup args = .ok request) :
    (cmdXreadgroup err args now db).1 =
      (readgroupStreams err request.options request.group request.consumer now request.streams
        db []).1 := by
  rw [cmdXreadgroup, h]
  dsimp only
  split
  · rename_i hread
    rw [hread]
  · rename_i hread
    rw [hread]

/-- `XREADGROUP` makes such steps. -/
lemma dbSteps_cmdXreadgroup :
    DbSteps (commandEdits err now args .xreadgroup) db (cmdXreadgroup err args now db).1 := by
  cases hparse : parseReadgroup args with
  | error text =>
    rw [cmdXreadgroup, hparse]
    exact .refl db
  | ok request =>
    rw [cmdXreadgroup_fst err now args db hparse]
    exact dbSteps_readgroupStreams err now args db _ _ _ _ _

end commands

/-! ## Properties of all streams -/

/-- What is stored at a key, if it is a stream, has the property. -/
def EntryOk (P : Stream → Prop) (entry : Option Entry) : Prop :=
  ∀ s expireAtMs, entry = some ⟨s.value, expireAtMs⟩ → P s

/-- Every stream of the database has the property. -/
def AllStreams (P : Stream → Prop) (db : Db) : Prop := ∀ key, EntryOk P (db.lookup key)

section allStreams

variable {P : Stream → Prop} {R : Bytes → Stream → Stream → Prop} {db db' : Db} {key : Bytes}

lemma Stream.value_injective : Function.Injective Stream.value := by
  rintro ⟨entries, groups, metadata⟩ ⟨entries', groups', metadata'⟩ h
  cases h
  rfl

lemma entryOk_none : EntryOk P none := by
  intro s expireAtMs h
  cases h

lemma entryOk_some {s : Stream} {expireAtMs : Option Int64} :
    EntryOk P (some ⟨s.value, expireAtMs⟩) ↔ P s := by
  constructor
  · intro h
    exact h s expireAtMs rfl
  · intro h s' expireAtMs' heq
    rw [Option.some.injEq, Entry.mk.injEq] at heq
    rw [← Stream.value_injective heq.1]
    exact h

lemma AllStreams.empty : AllStreams P ∅ := by
  intro key
  rw [lookup_empty]
  exact entryOk_none

lemma AllStreams.insert {s : Stream} {expireAtMs : Option Int64} (h : AllStreams P db)
    (hs : P s) : AllStreams P (db.insert key ⟨s.value, expireAtMs⟩) := by
  intro other
  by_cases hkey : other = key
  · rw [hkey, lookup_insert]
    exact entryOk_some.mpr hs
  · rw [lookup_insert_of_ne _ hkey]
    exact h other

lemma AllStreams.erase (h : AllStreams P db) : AllStreams P (db.erase key) := by
  intro other
  by_cases hkey : other = key
  · rw [hkey, lookup_erase]
    exact entryOk_none
  · rw [lookup_erase_ne hkey]
    exact h other

lemma AllStreams.purgeExpiredKey (h : AllStreams P db) (now : Int64) :
    AllStreams P (purgeExpiredKey db key now) := by
  rw [Engine.purgeExpiredKey]
  split_ifs
  · exact h.erase
  · exact h

/-- A property that the edits keep, and that new streams have, is kept by steps. -/
lemma DbSteps.allStreams (hsteps : DbSteps R db db') (hfresh : P .fresh)
    (hedit : ∀ key s s', R key s s' → P s → P s') (h : AllStreams P db) : AllStreams P db' := by
  intro key
  have hstart := h key
  have hrun := hsteps key
  generalize db'.lookup key = last at hrun ⊢
  -- The induction is on the steps at this key.
  induction hrun with
  | refl => exact hstart
  | tail _ hstep ih =>
    cases hstep with
    | expire entry _ => exact entryOk_none
    | edit s s' expireAtMs hR => exact entryOk_some.mpr (hedit key s s' hR (entryOk_some.mp ih))
    | create s hR => exact entryOk_some.mpr (hedit key _ s hR hfresh)

end allStreams

/-! ## Runs -/

/-- A stream command of a client in some database, with what its clock reads, or the deletion of a
key. -/
inductive StreamEvent where
  | command (index : Fin dbCount) (c : StreamCommand) (args : List Bytes) (now : Int64)
  | delete (index : Fin dbCount) (key : Bytes)
  deriving Repr, DecidableEq

/-- `isize::MAX`. No vector has more bytes, so none has more elements. -/
def vecCapacity : Nat := 2 ^ 63 - 1

/-- The stream at a key. -/
def streamAt (db : Db) (key : Bytes) : Option Stream :=
  (db.lookup key).bind fun entry =>
    match entry.value with
    | .stream entries groups metadata => some ⟨entries, groups, metadata⟩
    | _ => none

lemma streamAt_eq_some {db : Db} {key : Bytes} {s : Stream} :
    streamAt db key = some s ↔ ∃ expireAtMs, db.lookup key = some ⟨s.value, expireAtMs⟩ := by
  rw [streamAt, Option.bind_eq_some_iff]
  constructor
  · rintro ⟨⟨value, expireAtMs⟩, hlookup, hvalue⟩
    dsimp only at hvalue
    split at hvalue
    · cases hvalue
      exact ⟨expireAtMs, hlookup⟩
    · cases hvalue
  · rintro ⟨expireAtMs, hlookup⟩
    exact ⟨_, hlookup, rfl⟩

/-! ## One group -/

section group

variable {ρ : Type} {db : Db} {now : Int64} {key name : Bytes}

/-- The database with another group in the stream at a key. -/
def setGroup (db : Db) (key name : Bytes) (s : Stream) (expireAtMs : Option Int64) (g : Group) :
    Db :=
  db.insert key ⟨{ s with groups := s.groups.insert name g }.value, expireAtMs⟩

/-- A live key has the stream and the stream has the group. -/
structure GroupAt (now : Int64) (db : Db) (key name : Bytes) (s : Stream)
    (expireAtMs : Option Int64) (g : Group) : Prop where
  live : isExpired db key now = false
  stored : db.lookup key = some ⟨s.value, expireAtMs⟩
  group : s.groups.lookup name = some g

/-- A command that edits a group of a stream finds the key expired, finds no such group, or edits
the group. -/
lemma editGroupAt_cases (now : Int64) (db : Db) (key name : Bytes) (absent wrong missing : ρ)
    (edit : Stream → Group → Group × ρ) :
    let result := editStream absent wrong (fun s => editGroup missing name (edit s) s) key
      (purgeExpiredKey db key now)
    (isExpired db key now = true ∧ result = (purgeExpiredKey db key now, absent)) ∨
    (isExpired db key now = false ∧ (∃ reply ∈ [absent, wrong, missing], result = (db, reply)) ∧
      ∀ s g, streamAt db key = some s → s.groups.lookup name ≠ some g) ∨
    ∃ s expireAtMs g, GroupAt now db key name s expireAtMs g ∧
      result = (setGroup db key name s expireAtMs (edit s g).1, (edit s g).2) := by
  intro result
  cases hexpired : isExpired db key now with
  | true =>
    refine .inl ⟨rfl, ?_⟩
    have hgone : (purgeExpiredKey db key now).lookup key = none := by
      rw [purgeExpiredKey, if_pos hexpired, lookup_erase]
    change editStream _ _ _ _ _ = _
    rw [editStream, hgone]
  | false =>
    refine .inr ?_
    have hresult : result = editStream absent wrong
        (fun s => editGroup missing name (edit s) s) key db := by
      change editStream _ _ _ _ _ = _
      rw [purgeExpiredKey_of_live hexpired]
    rw [hresult, editStream]
    cases hstored : db.lookup key with
    | none =>
      refine .inl ⟨rfl, ⟨absent, by simp, rfl⟩, ?_⟩
      intro s g hs
      rw [streamAt, hstored] at hs
      cases hs
    | some entry =>
      obtain ⟨value, expireAtMs⟩ := entry
      dsimp only
      split
      · rename_i entries groups metadata
        have hstream : streamAt db key = some ⟨entries, groups, metadata⟩ :=
          streamAt_eq_some.mpr ⟨expireAtMs, hstored⟩
        cases hgroup : groups.lookup name with
        | none =>
          refine .inl ⟨rfl, ⟨missing, by simp, ?_⟩, ?_⟩
          · rw [editGroup, hgroup]
            exact congrArg (·, missing) (FiniteMap.insert_eq_self hstored)
          · intro s g hs
            rw [hstream, Option.some.injEq] at hs
            rw [← hs, hgroup]
            exact fun h => nomatch h
        | some g =>
          refine .inr ⟨⟨entries, groups, metadata⟩, expireAtMs, g,
            ⟨hexpired, hstored, hgroup⟩, ?_⟩
          rw [editGroup, hgroup]
          rfl
      · rename_i hother
        refine .inl ⟨rfl, ⟨wrong, by simp, rfl⟩, ?_⟩
        intro s g hs
        obtain ⟨expireAtMs', hs'⟩ := streamAt_eq_some.mp hs
        rw [hstored, Option.some.injEq, Entry.mk.injEq] at hs'
        exact absurd hs'.1 (hother _ _ _)

variable {s : Stream} {expireAtMs : Option Int64} {g g' : Group}

lemma GroupAt.streamAt_eq (h : GroupAt now db key name s expireAtMs g) :
    streamAt db key = some s := streamAt_eq_some.mpr ⟨expireAtMs, h.stored⟩

lemma streamAt_setGroup :
    streamAt (setGroup db key name s expireAtMs g) key =
      some { s with groups := s.groups.insert name g } :=
  streamAt_eq_some.mpr ⟨expireAtMs, lookup_insert db⟩

lemma GroupAt.setGroup (h : GroupAt now db key name s expireAtMs g) (g' : Group) :
    GroupAt now (setGroup db key name s expireAtMs g') key name
      { s with groups := s.groups.insert name g' } expireAtMs g' where
  live := by
    have hexpiry := h.live
    rw [isExpired, h.stored] at hexpiry
    rw [isExpired, Engine.setGroup, lookup_insert]
    exact hexpiry
  stored := lookup_insert db
  group := lookup_insert s.groups

lemma GroupAt.setGroup_self (h : GroupAt now db key name s expireAtMs g) :
    Engine.setGroup db key name s expireAtMs g = db := by
  rw [Engine.setGroup, FiniteMap.insert_eq_self h.group]
  exact FiniteMap.insert_eq_self h.stored

/-- A round that finds the group reads it. -/
lemma GroupAt.readgroupStream (h : GroupAt now db key name s expireAtMs g) (err : Bytes → RespFrame)
    (o : ReadgroupOptions) (consumer idRaw : Bytes) :
    readgroupStream err o name consumer key idRaw now db =
      (Engine.setGroup db key name s expireAtMs (readGroup err o consumer idRaw now s.entries g).1,
        (readGroup err o consumer idRaw now s.entries g).2) := by
  rw [Engine.readgroupStream, purgeExpiredKey_of_live h.live, editStream, h.stored]
  simp only [Stream.value, editGroup, h.group]
  rfl

lemma GroupAt.readgroupStream_of_ne (h : GroupAt now db key name s expireAtMs g)
    (err : Bytes → RespFrame) (o : ReadgroupOptions) (consumer idRaw : Bytes) {other : Bytes}
    (hne : key ≠ other) :
    GroupAt now (Engine.readgroupStream err o name consumer other idRaw now db).1 key name s
      expireAtMs g where
  live := (isExpired_congr (lookup_readgroupStream_of_ne err hne)).trans h.live
  stored := (lookup_readgroupStream_of_ne err hne).trans h.stored
  group := h.group

/-- The round for one stream: the key has expired, the group is not there, or it is read. -/
lemma readgroupStream_cases (err : Bytes → RespFrame) (o : ReadgroupOptions)
    (groupName consumer key idRaw : Bytes) (now : Int64) (db : Db) :
    let result := readgroupStream err o groupName consumer key idRaw now db
    (isExpired db key now = true ∧ result.1 = purgeExpiredKey db key now ∧
      result.2.isOk = false) ∨
    (isExpired db key now = false ∧ result.1 = db ∧ result.2.isOk = false ∧
      ∀ s g, streamAt db key = some s → s.groups.lookup groupName ≠ some g) ∨
    ∃ s expireAtMs g, GroupAt now db key groupName s expireAtMs g ∧
      result = (setGroup db key groupName s expireAtMs
        (readGroup err o consumer idRaw now s.entries g).1,
        (readGroup err o consumer idRaw now s.entries g).2) := by
  intro result
  have hcases := editGroupAt_cases now db key groupName
    (.error (err (xreadgroupNogroupText key groupName)) : Except RespFrame (List StreamEntry))
    (.error wrongtype) (.error (err (xreadgroupNogroupText key groupName)))
    fun s => readGroup err o consumer idRaw now s.entries
  rcases hcases with ⟨hexpired, hresult⟩ | ⟨hlive, ⟨reply, hreply, hresult⟩, hnone⟩ | hread
  · have hthis : result = _ := hresult
    rw [hthis]
    exact .inl ⟨hexpired, rfl, rfl⟩
  · have hthis : result = _ := hresult
    rw [hthis]
    refine .inr (.inl ⟨hlive, rfl, ?_, hnone⟩)
    simp only [mem_cons, not_mem_nil, or_false] at hreply
    rcases hreply with rfl | rfl | rfl <;> rfl
  · exact .inr (.inr hread)

end group

/-- A vector can hold the entries of the stream at a key. -/
def fitsVec (db : Db) (key : Bytes) : Bool :=
  (streamAt db key).all fun s => s.entries.length ≤ vecCapacity

section runs

variable (err : Bytes → RespFrame)

/-- The databases after an event; `none` when the process ends because `Vec::push` cannot grow the
vector. -/
def stepEvent (dbs : Databases) : StreamEvent → Option Databases
  | .command index c args now =>
    let db := (c.run err args now (dbs index)).1
    if c = .xadd ∧ fitsVec db (args.headD []) = false then none
    else some (Function.update dbs index db)
  | .delete index key => some (Function.update dbs index ((dbs index).erase key))

/-- The databases after some events. -/
def runEvents : List StreamEvent → Databases → Option Databases
  | [], dbs => some dbs
  | event :: rest, dbs => (stepEvent err dbs event).bind (runEvents rest)

variable {err}

/-- What holds at first and is kept by every event holds after a run. -/
lemma runEvents_induction {I : Databases → Prop}
    (hstep : ∀ dbs event dbs', stepEvent err dbs event = some dbs' → I dbs → I dbs')
    {events : List StreamEvent} {dbs dbs' : Databases}
    (hrun : runEvents err events dbs = some dbs') (h : I dbs) : I dbs' := by
  induction events generalizing dbs with
  | nil =>
    rw [runEvents, Option.some.injEq] at hrun
    exact hrun ▸ h
  | cons event rest ih =>
    rw [runEvents, Option.bind_eq_some_iff] at hrun
    obtain ⟨middle, hevent, hrest⟩ := hrun
    exact ih hrest (hstep dbs event middle hevent h)

lemma stepEvent_cases {dbs dbs' : Databases} {event : StreamEvent}
    (h : stepEvent err dbs event = some dbs') :
    (∃ index c args now, event = .command index c args now ∧
      dbs' = Function.update dbs index (c.run err args now (dbs index)).1 ∧
      (c = .xadd → fitsVec (c.run err args now (dbs index)).1 (args.headD []) = true)) ∨
    ∃ index key, event = .delete index key ∧
      dbs' = Function.update dbs index ((dbs index).erase key) := by
  cases event with
  | command index c args now =>
    rw [stepEvent] at h
    split_ifs at h with hfits
    rw [Option.some.injEq] at h
    refine .inl ⟨index, c, args, now, rfl, h.symm, ?_⟩
    intro hxadd
    by_contra hnot
    exact hfits ⟨hxadd, Bool.eq_false_iff.mpr hnot⟩
  | delete index key =>
    rw [stepEvent, Option.some.injEq] at h
    exact .inr ⟨index, key, rfl, h.symm⟩

lemma forall_update {P : Db → Prop} {dbs : Databases} {index : Fin dbCount} {db : Db}
    (h : ∀ i, P (dbs i)) (hdb : P db) (i : Fin dbCount) : P (Function.update dbs index db i) :=
  (Function.forall_update_iff dbs fun _ db => P db).mpr ⟨hdb, fun i _ => h i⟩ i

end runs

end Ratatosk.Engine
