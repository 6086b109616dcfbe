import Mathlib.Tactic

/-!
# Reading a log through a watermark

A log grows at its end, with keys that ascend, and its readers share one watermark: a reader takes
some of the first items over the watermark and moves it to the last one taken.

* `Reads` — what was delivered and what is left make up the log after the start; kept by a read of
  any size (`Reads.take`) and by an append (`Reads.append`).
-/

namespace Ratatosk.Lib.Watermark

open List

variable {α κ : Type} [LinearOrder κ] (key : α → κ)

/-- The items over the watermark. -/
def after (mark : κ) (log : List α) : List α := log.filter fun x => decide (mark < key x)

/-- The watermark after a read. -/
def advance (mark : κ) (read : List α) : κ := (read.getLast?.map key).getD mark

section after

variable {key} {mark : κ} {log : List α}

lemma mem_after {x : α} : x ∈ after key mark log ↔ x ∈ log ∧ mark < key x := by
  rw [after, mem_filter, decide_eq_true_iff]

lemma after_append (more : List α) :
    after key mark (log ++ more) = after key mark log ++ after key mark more :=
  filter_append ..

lemma after_eq_self (h : ∀ x ∈ log, mark < key x) : after key mark log = log := by
  rw [after, filter_eq_self]
  exact fun x hx => decide_eq_true (h x hx)

lemma after_eq_nil (h : ∀ x ∈ log, key x ≤ mark) : after key mark log = [] := by
  rw [after, filter_eq_nil_iff]
  exact fun x hx => by simpa using h x hx

/-- Over the higher of two watermarks. -/
lemma after_after {higher : κ} (h : mark ≤ higher) :
    after key higher (after key mark log) = after key higher log := by
  rw [after, after, filter_filter]
  apply filter_congr
  intro x _
  rw [Bool.and_eq_left_iff_imp, decide_eq_true_iff, decide_eq_true_iff]
  exact h.trans_lt

/-- The items after one of them. -/
lemma after_key_append_cons {front rest : List α} {x : α}
    (h : (front ++ x :: rest).Pairwise fun a b => key a < key b) :
    after key (key x) (front ++ x :: rest) = rest := by
  rw [pairwise_append, pairwise_cons] at h
  obtain ⟨-, ⟨hrest, -⟩, hfront⟩ := h
  have hnone : after key (key x) (front ++ [x]) = [] := by
    apply after_eq_nil
    intro y hy
    rcases mem_append.mp hy with hy | hy
    · exact (hfront y hy x mem_cons_self).le
    · rw [mem_singleton.mp hy]
  rw [← singleton_append, ← append_assoc, after_append, hnone, nil_append]
  exact after_eq_self hrest

/-- **What is left after a read is the rest of what there was.** -/
lemma after_advance_take (h : log.Pairwise fun a b => key a < key b) (n : Nat) :
    after key (advance key mark ((after key mark log).take n)) log =
      (after key mark log).drop n := by
  have hsorted : (after key mark log).Pairwise fun a b => key a < key b :=
    h.sublist filter_sublist
  have hsplit := take_append_drop n (after key mark log)
  rcases eq_nil_or_concat ((after key mark log).take n) with hnil | ⟨front, x, hread⟩
  · rw [hnil, nil_append] at hsplit
    rw [hnil, hsplit]
    rfl
  · rw [concat_eq_append] at hread
    have hx : mark < key x := by
      have hmem : x ∈ after key mark log := by
        apply mem_of_mem_take (i := n)
        rw [hread]
        exact mem_append_right _ (mem_singleton_self x)
      exact (mem_after.mp hmem).2
    have hadvance : advance key mark ((after key mark log).take n) = key x := by
      rw [advance, hread, getLast?_concat]
      rfl
    rw [hread, append_assoc, singleton_append] at hsplit
    rw [hadvance, ← after_after hx.le]
    rw [← hsplit] at hsorted
    have hrest := after_key_append_cons hsorted
    rwa [hsplit] at hrest

end after

/-- The readers have moved the watermark of a log from `start` to `mark` and have got `delivered`. -/
structure Reads (start mark : κ) (log delivered : List α) : Prop where
  /-- What was delivered and what is left. -/
  split : delivered ++ after key mark log = after key start log
  /-- The watermark has not moved, or stands at an item of the log. -/
  stands : mark = start ∨ start ≤ mark ∧ ∃ x ∈ log, mark = key x

section reads

variable {key} {start mark : κ} {log delivered : List α}

lemma Reads.refl : Reads key start start log [] := ⟨rfl, .inl rfl⟩

/-- A read of at most `n` items. -/
lemma Reads.take (h : Reads key start mark log delivered)
    (hsorted : log.Pairwise fun a b => key a < key b) (n : Nat) :
    Reads key start (advance key mark ((after key mark log).take n)) log
      (delivered ++ (after key mark log).take n) where
  split := by
    rw [after_advance_take hsorted, append_assoc, take_append_drop]
    exact h.split
  stands := by
    rw [advance]
    cases hlast : ((after key mark log).take n).getLast? with
    | none => exact h.stands
    | some x =>
      obtain ⟨hmem, hover⟩ := mem_after.mp (mem_of_mem_take (mem_of_getLast? hlast))
      have hstart : start ≤ mark := by
        rcases h.stands with hmark | ⟨hle, -⟩
        · exact hmark.ge
        · exact hle
      exact .inr ⟨hstart.trans hover.le, x, hmem, rfl⟩

/-- An item is appended. -/
lemma Reads.append (h : Reads key start mark log delivered) {x : α}
    (hx : ∀ y ∈ log, key y < key x) : Reads key start mark (log ++ [x]) delivered where
  split := by
    -- the watermark and the start are on the same side of the new item
    have hside : start < key x ↔ mark < key x := by
      rcases h.stands with hmark | ⟨hle, y, hy, hmark⟩
      · rw [hmark]
      · have hlt : mark < key x := hmark ▸ hx y hy
        exact iff_of_true (hle.trans_lt hlt) hlt
    have hlast : after key mark [x] = after key start [x] := by
      rw [after, after]
      apply filter_congr
      intro y hy
      rw [mem_singleton.mp hy, decide_eq_decide]
      exact hside.symm
    rw [after_append, after_append, hlast, ← append_assoc, h.split]
  stands := by
    refine h.stands.imp_right fun ⟨hle, y, hy, hmark⟩ => ⟨hle, y, ?_, hmark⟩
    exact mem_append_left _ hy

end reads

end Ratatosk.Lib.Watermark
