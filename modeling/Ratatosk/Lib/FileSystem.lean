import Mathlib.Logic.Function.Basic
import Ratatosk.Lib.Numeral

/-!
# A file system with crashes

Files of one directory, with the operations a program issues on them one after the other.

* `FileOp`, `runOps` — creation with truncation, opening for append, appending, syncing and
  renaming. Directory operations take effect at once and in order.
* `atomicWrite` — write a temporary file, sync it, rename it. `runOps_take_atomicWrite` says that
  every crash point leaves the old file or the complete new one.

A crash of the program alone, which the operations issued so far survive, is a prefix of the list
of operations.
-/

namespace Ratatosk.Lib

open List Function

/-- A file. -/
@[ext] structure File where
  /-- What a reader sees. -/
  data : Bytes
  /-- The length of the part that is on disk. -/
  synced : Nat
  deriving Repr, DecidableEq

/-- A file whose whole content is on disk. -/
def File.durable (data : Bytes) : File := ⟨data, data.length⟩

/-- The files of a directory. -/
abbrev FileSystem (ν : Type) := ν → Option File

/-- An operation on files. -/
inductive FileOp (ν : Type) where
  /-- Creates an empty file, also in place of an existing one. -/
  | create (path : ν)
  /-- Opens a file for appending and creates it if it is missing. -/
  | openAppend (path : ν)
  | append (path : ν) (bytes : Bytes)
  | sync (path : ν)
  /-- Moves a file, also over an existing one. -/
  | rename (source target : ν)
  deriving Repr, DecidableEq

section ops

variable {ν : Type}

/-- The paths an operation names. -/
def FileOp.paths : FileOp ν → List ν
  | .create path => [path]
  | .openAppend path => [path]
  | .append path _ => [path]
  | .sync path => [path]
  | .rename source target => [source, target]

variable [DecidableEq ν]

/-- What an operation does. -/
def FileOp.apply (fs : FileSystem ν) : FileOp ν → FileSystem ν
  | .create path => Function.update fs path (some ⟨[], 0⟩)
  | .openAppend path => Function.update fs path (some ((fs path).getD ⟨[], 0⟩))
  | .append path bytes =>
    Function.update fs path ((fs path).map fun f => { f with data := f.data ++ bytes })
  | .sync path => Function.update fs path ((fs path).map fun f => File.durable f.data)
  | .rename source target =>
    match fs source with
    | none => fs
    | some f => Function.update (Function.update fs source none) target (some f)

/-- The files after a list of operations. -/
def runOps (ops : List (FileOp ν)) (fs : FileSystem ν) : FileSystem ν := ops.foldl FileOp.apply fs

@[simp] lemma runOps_nil (fs : FileSystem ν) : runOps [] fs = fs := rfl

@[simp] lemma runOps_cons (op : FileOp ν) (ops : List (FileOp ν)) (fs : FileSystem ν) :
    runOps (op :: ops) fs = runOps ops (op.apply fs) := rfl

lemma runOps_append (ops ops' : List (FileOp ν)) (fs : FileSystem ν) :
    runOps (ops ++ ops') fs = runOps ops' (runOps ops fs) :=
  List.foldl_append

/-- An operation leaves the paths it does not name alone. -/
lemma FileOp.apply_frame {op : FileOp ν} {path : ν} (h : path ∉ op.paths) (fs : FileSystem ν) :
    op.apply fs path = fs path := by
  cases op with
  | create p | openAppend p | append p bytes | sync p =>
    exact update_of_ne (ne_of_not_mem_cons h) _ _
  | rename source target =>
    have hsource : path ≠ source := ne_of_not_mem_cons h
    have htarget : path ≠ target := ne_of_not_mem_cons (not_mem_of_not_mem_cons h)
    cases hfile : fs source with
    | none => simp only [FileOp.apply, hfile]
    | some f =>
      simp only [FileOp.apply, hfile]
      rw [update_of_ne htarget, update_of_ne hsource]

/-- Operations leave the paths that none of them names alone. -/
theorem runOps_frame {ops : List (FileOp ν)} {path : ν} (h : ∀ op ∈ ops, path ∉ op.paths)
    (fs : FileSystem ν) : runOps ops fs path = fs path := by
  induction ops generalizing fs with
  | nil => rfl
  | cons op ops ih =>
    rw [runOps_cons, ih fun op' hop' => h op' (mem_cons_of_mem _ hop')]
    exact FileOp.apply_frame (h op mem_cons_self) fs

lemma runOps_appends {fs : FileSystem ν} {path : ν} {f : File} (h : fs path = some f)
    (chunks : List Bytes) :
    runOps (chunks.map (FileOp.append path)) fs path =
      some { f with data := f.data ++ chunks.flatten } := by
  induction chunks generalizing fs f with
  | nil =>
    rw [flatten_nil, append_nil]
    exact h
  | cons chunk chunks ih =>
    have hstep : (FileOp.append path chunk).apply fs path =
        some { f with data := f.data ++ chunk } := by
      simp only [FileOp.apply, update_self, h, Option.map_some]
    rw [map_cons, runOps_cons, ih hstep, flatten_cons, append_assoc]

end ops

/-! ## Atomic replacement -/

section atomic

variable {ν : Type}

/-- Fills the temporary file, in any number of pieces, and syncs it. -/
def tempWrite (temp : ν) (chunks : List Bytes) : List (FileOp ν) :=
  (.create temp :: chunks.map (.append temp)) ++ [.sync temp]

/-- Writes `target` through the temporary file `temp`. -/
def atomicWrite (temp target : ν) (chunks : List Bytes) : List (FileOp ν) :=
  tempWrite temp chunks ++ [.rename temp target]

lemma paths_tempWrite {temp : ν} {chunks : List Bytes} {op : FileOp ν}
    (h : op ∈ tempWrite temp chunks) : op.paths = [temp] := by
  rcases mem_append.mp h with h | h
  · rcases mem_cons.mp h with rfl | h
    · rfl
    · obtain ⟨chunk, -, rfl⟩ := mem_map.mp h
      rfl
  · obtain rfl := mem_singleton.mp h
    rfl

variable [DecidableEq ν]

lemma runOps_tempWrite (temp : ν) (chunks : List Bytes) (fs : FileSystem ν) :
    runOps (tempWrite temp chunks) fs temp = some (File.durable chunks.flatten) := by
  have hcreate : (FileOp.create temp).apply fs temp = some ⟨[], 0⟩ := update_self _ _ _
  have hwritten := runOps_appends hcreate chunks
  rw [tempWrite, runOps_append, runOps_cons, runOps_cons, runOps_nil]
  simp only [FileOp.apply, update_self] at hwritten ⊢
  rw [hwritten]
  rfl

/-- Until the rename only the temporary file changes. -/
lemma runOps_take_tempWrite {temp path : ν} (hpath : path ≠ temp) (chunks : List Bytes) (k : Nat)
    (fs : FileSystem ν) : runOps ((tempWrite temp chunks).take k) fs path = fs path := by
  apply runOps_frame
  intro op hop hmem
  rw [paths_tempWrite (mem_of_mem_take hop)] at hmem
  exact hpath (mem_singleton.mp hmem)

/-- **Atomic replacement.** Before the rename every crash point leaves the target alone; after it
the target is the complete new file, on disk. -/
theorem runOps_take_atomicWrite {temp target : ν} (htemp : temp ≠ target) (chunks : List Bytes)
    (k : Nat) (fs : FileSystem ν) :
    runOps ((atomicWrite temp target chunks).take k) fs target =
      if k < (atomicWrite temp target chunks).length then fs target
      else some (File.durable chunks.flatten) := by
  split_ifs with hk
  · have htake : (atomicWrite temp target chunks).take k = (tempWrite temp chunks).take k := by
      rw [atomicWrite, length_append, length_singleton] at hk
      exact take_append_of_le_length (Nat.lt_succ_iff.mp hk)
    rw [htake, runOps_take_tempWrite htemp.symm]
  · rw [take_of_length_le (Nat.not_lt.mp hk), atomicWrite, runOps_append, runOps_cons,
      runOps_nil]
    simp only [FileOp.apply, runOps_tempWrite, update_self]

end atomic

end Ratatosk.Lib
