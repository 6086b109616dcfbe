import Ratatosk.Lib.FileSystem
import Ratatosk.Rdb.RoundTrip

/-!
# SAVE, BGSAVE and a crash in the middle

The dump file is written by `rdb::saver::save`, which creates the file in place and then writes
it; `save_atomic`, which goes through a temporary file, is used for AOF base snapshots only.

* `SaveCommand.ops` — what SAVE and BGSAVE issue: nothing while a background save is in progress,
  `save` otherwise.
-/

namespace Ratatosk.Persist

open Lib Keyspace Rdb List Option

variable {ν : Type}

/-! ## File operations -/

/-- The bytes of a snapshot, split over the write calls of `save_snapshot`; a call with nothing
to write issues none. -/
structure Writes (snapshot : DbSnapshot) where
  chunks : List Bytes
  flatten_eq : chunks.flatten = saveSnapshot snapshot
  nonempty : ∀ chunk ∈ chunks, chunk ≠ []

/-- Source: `saver.rs` `save` -/
def save (path : ν) {snapshot : DbSnapshot} (writes : Writes snapshot) : List (FileOp ν) :=
  .create path :: writes.chunks.map (.append path)

/-- Source: `saver.rs` `save_atomic` -/
def saveAtomic (temp path : ν) {snapshot : DbSnapshot} (writes : Writes snapshot) :
    List (FileOp ν) :=
  atomicWrite temp path writes.chunks

/-- The commands that write the dump file. -/
inductive SaveCommand where
  /-- Source: `persistence/rdb.rs` `run_save` -/
  | save
  /-- Source: `persistence/mod.rs` `start_bgsave` -/
  | bgsave
  deriving Repr, DecidableEq

/-- The file operations a command issues; both refuse while a background save is running. -/
def SaveCommand.ops (command : SaveCommand) (saveInProgress : Bool) (path : ν)
    {snapshot : DbSnapshot} (writes : Writes snapshot) : List (FileOp ν) :=
  if saveInProgress then []
  else match command with
    | .save => Persist.save path writes
    | .bgsave => Persist.save path writes

/-- The databases that loading a path gives, if it loads. -/
def dumpContent (fs : FileSystem ν) (path : ν) : Option Databases :=
  (fs path).bind fun f => ((load f.data).toOption).map loadedContent

/-! ## Crash points -/

section crash

variable {fs : FileSystem ν} {path : ν} {snapshot : DbSnapshot}

lemma dumpContent_of_saved (h : SnapshotWellFormed snapshot) {synced : Nat}
    (hfile : fs path = some ⟨saveSnapshot snapshot, synced⟩) :
    dumpContent fs path = some (snapshotContent snapshot) := by
  obtain ⟨dbs, hload, hcontent, -⟩ := load_saveSnapshot h
  rw [dumpContent, hfile, bind_some, hload, ← hcontent]
  rfl

lemma dumpContent_of_cut (h : SnapshotWellFormed snapshot) {data : Bytes} {synced : Nat}
    (hcut : StrictPrefix data (saveSnapshot snapshot)) (hfile : fs path = some ⟨data, synced⟩) :
    dumpContent fs path = none := by
  obtain ⟨e, hload⟩ := load_strictPrefix h hcut
  rw [dumpContent, hfile, bind_some, hload]
  rfl

variable [DecidableEq ν]

/-- What the dump file holds after `k + 1` operations of a save: the first `k` writes. -/
lemma runOps_take_save (writes : Writes snapshot) (k : Nat) :
    runOps ((save path writes).take (k + 1)) fs path =
      some ⟨(writes.chunks.take k).flatten, 0⟩ := by
  have hcreate : (FileOp.create path).apply fs path = some ⟨[], 0⟩ := Function.update_self _ _ _
  rw [save, take_succ_cons, ← map_take, runOps_cons,
    runOps_appends hcreate (writes.chunks.take k), nil_append]

/-- The writes left at a crash point hold at least a byte. -/
lemma Writes.strictPrefix_take (writes : Writes snapshot) {k : Nat}
    (hk : k < writes.chunks.length) :
    StrictPrefix (writes.chunks.take k).flatten (saveSnapshot snapshot) := by
  refine ⟨(writes.chunks.drop k).flatten, ?_, ?_⟩
  · rw [drop_eq_getElem_cons hk, flatten_cons]
    intro hnil
    exact writes.nonempty _ (getElem_mem hk) (append_eq_nil_iff.mp hnil).1
  · rw [← writes.flatten_eq, ← flatten_append, take_append_drop]

/-- **The crash points of a save.** Before it the old dump loads and after it the new one; at
every point between, the file does not load. -/
lemma dumpContent_take_save (h : SnapshotWellFormed snapshot) (writes : Writes snapshot)
    {k : Nat} (hk : k ≤ (save path writes).length) :
    dumpContent (runOps ((save path writes).take k) fs) path =
      if k = 0 then dumpContent fs path
      else if k = (save path writes).length then some (snapshotContent snapshot) else none := by
  cases k with
  | zero => rfl
  | succ k =>
    have hfile : runOps ((save path writes).take (k + 1)) fs path =
        some ⟨(writes.chunks.take k).flatten, 0⟩ := runOps_take_save writes k
    rw [if_neg (Nat.succ_ne_zero k)]
    have hlength : (save path writes).length = writes.chunks.length + 1 := by
      rw [save, length_cons, length_map]
    rw [hlength] at hk ⊢
    by_cases hall : k = writes.chunks.length
    · rw [if_pos (congrArg Nat.succ hall)]
      rw [hall, take_length, writes.flatten_eq] at hfile
      subst hall
      exact dumpContent_of_saved h hfile
    · have hlt : k < writes.chunks.length :=
        Nat.lt_of_le_of_ne (Nat.le_of_succ_le_succ hk) hall
      rw [if_neg fun heq => hall (Nat.succ.inj heq)]
      exact dumpContent_of_cut h (writes.strictPrefix_take hlt) hfile

/-- `save_atomic` leaves the old dump or the new one at every crash point. -/
theorem dumpContent_take_saveAtomic {temp : ν} (htemp : temp ≠ path)
    (h : SnapshotWellFormed snapshot) (writes : Writes snapshot) (k : Nat) :
    dumpContent (runOps ((saveAtomic temp path writes).take k) fs) path = dumpContent fs path ∨
      dumpContent (runOps ((saveAtomic temp path writes).take k) fs) path =
        some (snapshotContent snapshot) := by
  have hfile := runOps_take_atomicWrite htemp writes.chunks k fs
  rw [writes.flatten_eq] at hfile
  by_cases hk : k < (atomicWrite temp path writes.chunks).length
  · rw [if_pos hk] at hfile
    exact Or.inl (by rw [dumpContent, saveAtomic, hfile, dumpContent])
  · rw [if_neg hk] at hfile
    exact Or.inr (dumpContent_of_saved h hfile)

/-- **SAVE and BGSAVE are crash-atomic at their two ends only.** With a dump that loads in place,
a crash leaves the old or the new snapshot exactly when it comes before the first file operation
or after the last one. -/
theorem saveCommand_crash_iff (command : SaveCommand) (saveInProgress : Bool)
    (fs : FileSystem ν) (path : ν) (old : Databases) (hold : dumpContent fs path = some old)
    (snapshot : DbSnapshot) (h : SnapshotWellFormed snapshot) (writes : Writes snapshot) (k : Nat)
    (hk : k ≤ (command.ops saveInProgress path writes).length) :
    (dumpContent (runOps ((command.ops saveInProgress path writes).take k) fs) path = some old ∨
      dumpContent (runOps ((command.ops saveInProgress path writes).take k) fs) path =
        some (snapshotContent snapshot)) ↔
    k = 0 ∨ k = (command.ops saveInProgress path writes).length := by
  cases saveInProgress with
  | true =>
    obtain rfl : k = 0 := Nat.le_zero.mp hk
    exact iff_of_true (Or.inl hold) (Or.inl rfl)
  | false =>
    have hops : command.ops false path writes = save path writes := by
      cases command with
      | save => rfl
      | bgsave => rfl
    rw [hops] at hk ⊢
    rw [dumpContent_take_save h writes hk]
    constructor
    · intro hloads
      by_contra hmid
      obtain ⟨hfirst, hlast⟩ := not_or.mp hmid
      rw [if_neg hfirst, if_neg hlast] at hloads
      rcases hloads with hloads | hloads <;> cases hloads
    · rintro (rfl | rfl)
      · exact Or.inl hold
      · have hcreated : (save path writes).length ≠ 0 := Nat.succ_ne_zero _
        right
        rw [if_neg hcreated, if_pos rfl]

/-- The whole snapshot in one write call. -/
def Writes.whole (snapshot : DbSnapshot) : Writes snapshot where
  chunks := [saveSnapshot snapshot]
  flatten_eq := by rw [flatten_singleton]
  nonempty := by
    intro chunk hchunk
    rw [mem_singleton.mp hchunk]
    exact cons_ne_nil _ _

/-- A directory with the dump of the sample snapshot. -/
def sampleDir : FileSystem Unit := fun _ => some ⟨saveSnapshot sampleSnapshot, 0⟩

lemma dumpContent_sampleDir : dumpContent sampleDir () = some (snapshotContent sampleSnapshot) :=
  dumpContent_of_saved sampleSnapshot_wellFormed rfl

lemma snapshotWellFormed_nil : SnapshotWellFormed [] :=
  ⟨Nat.zero_le _, fun _ h => absurd h not_mem_nil⟩

/-- A snapshot with one key. -/
def newerSnapshot : DbSnapshot := [AList.singleton (ascii "k") ⟨.string (ascii "v"), 0⟩]

lemma newerSnapshot_wellFormed : SnapshotWellFormed newerSnapshot := by
  refine ⟨by decide, ?_⟩
  intro db hdb
  obtain rfl := mem_singleton.mp hdb
  have hvalue : Sized (ascii "v") := by decide
  exact counted_singleton.mpr ⟨by decide, hvalue⟩

/-- The header, the records and the checksum in a write call each. -/
def Writes.parts (snapshot : DbSnapshot) : Writes snapshot where
  chunks := [magic ++ versionStr, fileRecords snapshot ++ [0xFF],
    writeU64 (crc64 (snapshotBody snapshot))]
  flatten_eq := by
    rw [saveSnapshot]
    nth_rewrite 2 [snapshotBody_eq]
    simp only [flatten_cons, flatten_nil, append_nil, append_assoc]
  nonempty := by
    intro chunk hchunk
    simp only [mem_cons, not_mem_nil, or_false] at hchunk
    rcases hchunk with rfl | rfl | rfl
    · exact cons_ne_nil _ _
    · exact append_ne_nil_of_right_ne_nil _ (cons_ne_nil _ _)
    · intro hnil
      have hlength := congrArg List.length hnil
      rw [writeU64, length_leBytes] at hlength
      cases hlength

/-- The dump of the sample snapshot in place, and no temporary file. -/
def dumpedDir : FileSystem Bool :=
  fun temporary => if temporary then none else some ⟨saveSnapshot sampleSnapshot, 0⟩

/-- A crash when all of the temporary file is written and synced, before the rename. -/
theorem saveAtomic_crash_before_rename :
    dumpContent dumpedDir false = some (snapshotContent sampleSnapshot) ∧
      (saveAtomic true false (Writes.parts newerSnapshot)).length = 6 ∧
      (dumpContent (runOps ((saveAtomic true false (Writes.parts newerSnapshot)).take 5) dumpedDir)
            false = dumpContent dumpedDir false ∨
        dumpContent (runOps ((saveAtomic true false (Writes.parts newerSnapshot)).take 5) dumpedDir)
            false = some (snapshotContent newerSnapshot)) :=
  ⟨dumpContent_of_saved sampleSnapshot_wellFormed rfl, rfl,
    dumpContent_take_saveAtomic (by decide) newerSnapshot_wellFormed (Writes.parts newerSnapshot) 5⟩

/-- A background save over the sample dump: without its last write neither snapshot is there, with
it one of them is. -/
theorem bgsave_crash_at_last_write :
    ¬ (dumpContent (runOps ((SaveCommand.bgsave.ops false () (Writes.parts newerSnapshot)).take 3)
            sampleDir) () = some (snapshotContent sampleSnapshot) ∨
        dumpContent (runOps ((SaveCommand.bgsave.ops false () (Writes.parts newerSnapshot)).take 3)
            sampleDir) () = some (snapshotContent newerSnapshot)) ∧
      (dumpContent (runOps ((SaveCommand.bgsave.ops false () (Writes.parts newerSnapshot)).take 4)
            sampleDir) () = some (snapshotContent sampleSnapshot) ∨
        dumpContent (runOps ((SaveCommand.bgsave.ops false () (Writes.parts newerSnapshot)).take 4)
            sampleDir) () = some (snapshotContent newerSnapshot)) := by
  have hlength : (SaveCommand.bgsave.ops false () (Writes.parts newerSnapshot)).length = 4 := rfl
  constructor
  · rw [saveCommand_crash_iff .bgsave false sampleDir () _ dumpContent_sampleDir newerSnapshot
      newerSnapshot_wellFormed (Writes.parts newerSnapshot) 3 (by rw [hlength]; decide), hlength]
    decide
  · exact (saveCommand_crash_iff .bgsave false sampleDir () _ dumpContent_sampleDir newerSnapshot
      newerSnapshot_wellFormed (Writes.parts newerSnapshot) 4 hlength.ge).mpr (.inr hlength.symm)

/-- A crash right after SAVE has created the file: the old dump is gone and the new one is not
there yet. -/
theorem save_crash_after_create :
    dumpContent sampleDir () = some (snapshotContent sampleSnapshot) ∧
    dumpContent (runOps ((SaveCommand.save.ops false () (Writes.whole [])).take 1) sampleDir) () =
      none := by
  refine ⟨dumpContent_sampleDir, ?_⟩
  exact dumpContent_take_save snapshotWellFormed_nil (Writes.whole []) (by decide)

end crash

end Ratatosk.Persist
