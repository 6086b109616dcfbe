import Mathlib.Data.Finset.Sort
import Ratatosk.Keyspace.Value

/-!
# The order of stream IDs

`StreamId` is ordered by its two fields, one after the other.

* `StreamId.rank` — an ID as one integer; `le_iff_rank` and `rank_injective` say that the order
  of IDs is the order of their ranks, so that facts about IDs are facts of arithmetic.
-/

namespace Ratatosk.Keyspace

open Lib

namespace StreamId

/-- The ID as one integer. -/
def rank (id : StreamId) : Int := id.ms.toInt * 2 ^ 64 + id.seq.toInt

lemma le_iff_rank (a b : StreamId) : a.le b = true ↔ a.rank ≤ b.rank := by
  have hms := Int64.le_toInt a.seq
  have hms' := Int64.toInt_lt a.seq
  have hseq := Int64.le_toInt b.seq
  have hseq' := Int64.toInt_lt b.seq
  have hlt : a.ms < b.ms ↔ a.ms.toInt < b.ms.toInt := Int64.lt_iff_toInt_lt
  have heq : a.ms = b.ms ↔ a.ms.toInt = b.ms.toInt := Int64.toInt_inj.symm
  have hle : a.seq ≤ b.seq ↔ a.seq.toInt ≤ b.seq.toInt := Int64.le_iff_toInt_le
  rw [le, Bool.or_eq_true, Bool.and_eq_true, decide_eq_true_iff, decide_eq_true_iff,
    beq_iff_eq, hlt, heq, hle, rank, rank]
  omega

lemma rank_injective : Function.Injective rank := by
  intro a b h
  have hms := Int64.le_toInt a.seq
  have hms' := Int64.toInt_lt a.seq
  have hseq := Int64.le_toInt b.seq
  have hseq' := Int64.toInt_lt b.seq
  rw [rank, rank] at h
  have hfirst : a.ms.toInt = b.ms.toInt := by omega
  have hsecond : a.seq.toInt = b.seq.toInt := by omega
  cases a
  cases b
  rw [mk.injEq]
  exact ⟨Int64.toInt_inj.mp hfirst, Int64.toInt_inj.mp hsecond⟩

/-- The order, as a relation. -/
def Le (a b : StreamId) : Prop := a.le b = true

instance : DecidableRel Le := fun a b => inferInstanceAs (Decidable (a.le b = true))

instance : IsTrans StreamId Le where
  trans a b c hab hbc := by
    rw [Le, le_iff_rank] at *
    omega

instance : Std.Antisymm Le where
  antisymm a b hab hba := by
    rw [Le, le_iff_rank] at hab hba
    exact rank_injective (by omega)

instance : Std.Total Le where
  total a b := by
    rw [Le, Le, le_iff_rank, le_iff_rank]
    omega

/-- `Ord::max`. -/
def max (a b : StreamId) : StreamId := if a.le b then b else a

lemma max_eq_or (a b : StreamId) : a.max b = a ∨ a.max b = b := by
  rw [max]
  split_ifs
  · exact .inr rfl
  · exact .inl rfl

end StreamId

/-- The IDs of a table, in order. -/
def sortIds (ids : Finset StreamId) : List StreamId := ids.sort StreamId.Le

end Ratatosk.Keyspace
