import Ratatosk.Engine.StreamHandlers

/-!
# Databases up to what has expired

A key whose time has passed is removed when a command meets it, and not before: two databases
that differ in such keys only are the same to every command.

* `liveLookup` — what a command finds at a key; `LiveEq` — databases in which it finds the same.
* `lookup_purgeExpiredKey_self`, `liveEq_purgeExpiredKey` — removing an expired key changes what is
  stored at it to what is found there, and cannot be seen.
-/

namespace Ratatosk.Engine

open Lib Keyspace Resp Option Finmap Function

/-! ## What a command finds -/

/-- What is stored, if its time has not passed. -/
def liveEntry (now : Int64) (stored : Option Entry) : Option Entry :=
  stored.filter fun entry => !entry.expireAtMs.any (· ≤ now)

/-- What a command at `now` finds at a key. -/
def liveLookup (now : Int64) (db : Db) (key : Bytes) : Option Entry :=
  liveEntry now (db.lookup key)

/-- The databases are the same to a command at `now`. -/
def LiveEq (now : Int64) (db db' : Db) : Prop :=
  ∀ key, liveLookup now db key = liveLookup now db' key

section live

variable {now now' : Int64} {db db' db'' : Db} {key k : Bytes}

lemma liveEntry_some (entry : Entry) :
    liveEntry now (some entry) =
      if entry.expireAtMs.any (· ≤ now) then none else some entry := by
  rw [liveEntry, filter_some]
  cases entry.expireAtMs.any (· ≤ now) <;> rfl

lemma any_of_live {entry : Entry} (hlive : liveLookup now db key = some entry) :
    entry.expireAtMs.any (· ≤ now) = false := by
  simpa using (filter_eq_some_iff.mp hlive).2

lemma liveLookup_insert (db : Db) (key : Bytes) {entry : Entry}
    (h : entry.expireAtMs.any (· ≤ now) = false) :
    liveLookup now (db.insert key entry) key = some entry := by
  rw [liveLookup, lookup_insert, liveEntry_some, if_neg (by simp [h])]

lemma liveEntry_liveEntry (h : now ≤ now') (stored : Option Entry) :
    liveEntry now' (liveEntry now stored) = liveEntry now' stored := by
  cases stored with
  | none => rfl
  | some entry =>
    rw [liveEntry_some]
    split_ifs with hexpired
    · have hlater : entry.expireAtMs.any (· ≤ now') = true := by
        cases hat : entry.expireAtMs with
        | none =>
          rw [hat] at hexpired
          cases hexpired
        | some atMs =>
          rw [hat] at hexpired
          simp only [any_some, decide_eq_true_eq] at hexpired ⊢
          exact Int64.le_trans hexpired h
      rw [liveEntry_some, if_pos hlater]
      rfl
    · rfl

/-- A command that meets an expired key removes it, and finds nothing. -/
lemma lookup_purgeExpiredKey_self :
    (purgeExpiredKey db key now).lookup key = liveLookup now db key := by
  rw [purgeExpiredKey, liveLookup]
  cases hstored : db.lookup key with
  | none =>
    rw [isExpired, hstored, any_none, if_neg Bool.false_ne_true, hstored]
    rfl
  | some entry =>
    rw [isExpired, hstored, any_some, liveEntry_some]
    split_ifs with hexpired
    · exact lookup_erase key db
    · exact hstored

/-- Removing a key that has expired cannot be seen. -/
lemma liveEq_purgeExpiredKey (now : Int64) (db : Db) (key : Bytes) :
    LiveEq now (purgeExpiredKey db key now) db := by
  intro k
  by_cases hk : k = key
  · rw [hk, liveLookup, lookup_purgeExpiredKey_self, liveLookup,
      liveEntry_liveEntry Int64.le_rfl]
  · rw [liveLookup, liveLookup, lookup_purgeExpiredKey_of_ne hk]

end live

end Ratatosk.Engine
