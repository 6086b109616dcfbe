import Mathlib.Tactic

/-!
# Binary search in a sorted list

`slice::binary_search`: the loop that halves a window, and what it finds when the keys ascend.

* `bisect` — the loop; `bisect_spec` — it ends at the last position whose key is not over the one
  sought, or at the front.
-/

namespace Ratatosk.Lib

open List

variable {α κ : Type} [LinearOrder κ] (key : α → κ)

/-- The loop of a binary search: a window of `size` positions from `base` on is halved until one is
left. The fuel is the length of the list. -/
def bisect (xs : List α) (x : κ) : Nat → Nat → Nat → Nat
  | 0, base, _ => base
  | fuel + 1, base, size =>
    if size ≤ 1 then base
    else
      let half := size / 2
      let mid := base + half
      bisect xs x fuel (if xs[mid]?.any (fun y => x < key y) then base else mid) (size - half)

/-- The position of a key, or else the position where it would have to stand. -/
def binarySearch (xs : List α) (x : κ) : Except Nat Nat :=
  let base := bisect key xs x xs.length 0 xs.length
  match xs[base]? with
  | none => .error 0
  | some y =>
    if key y = x then .ok base else .error (if key y < x then base + 1 else base)

section search

variable {key} {xs : List α} {x : κ}

/-- The keys from a position on are over the one sought. -/
def OverFrom (key : α → κ) (xs : List α) (x : κ) (pos : Nat) : Prop :=
  ∀ i y, pos ≤ i → xs[i]? = some y → x < key y

/-- The keys before a position are below the one sought. -/
def BelowTo (key : α → κ) (xs : List α) (x : κ) (pos : Nat) : Prop :=
  ∀ i y, i < pos → xs[i]? = some y → key y < x

lemma key_lt_of_lt (h : xs.Pairwise fun a b => key a < key b) {i j : Nat} {a b : α} (hij : i < j)
    (ha : xs[i]? = some a) (hb : xs[j]? = some b) : key a < key b := by
  obtain ⟨hi, rfl⟩ := List.getElem?_eq_some_iff.mp ha
  obtain ⟨hj, rfl⟩ := List.getElem?_eq_some_iff.mp hb
  exact pairwise_iff_getElem.mp h i j hi hj hij

/-- **What the loop ends at**: nothing after it can be the key, and it is not over the key unless it
is the front. -/
lemma bisect_spec (h : xs.Pairwise fun a b => key a < key b) (fuel base size : Nat)
    (hfuel : size ≤ fuel + 1) (hsize : 1 ≤ size) (hbound : base + size ≤ xs.length)
    (hover : OverFrom key xs x (base + size))
    (hbase : base = 0 ∨ ∃ y, xs[base]? = some y ∧ key y ≤ x) :
    bisect key xs x fuel base size < xs.length ∧
      OverFrom key xs x (bisect key xs x fuel base size + 1) ∧
      (bisect key xs x fuel base size = 0 ∨
        ∃ y, xs[bisect key xs x fuel base size]? = some y ∧ key y ≤ x) := by
  induction fuel generalizing base size with
  | zero =>
    obtain rfl : size = 1 := by omega
    exact ⟨hbound, hover, hbase⟩
  | succ fuel ih =>
    rw [bisect]
    split_ifs with hone
    · obtain rfl : size = 1 := by omega
      exact ⟨hbound, hover, hbase⟩
    · have hmid : base + size / 2 < xs.length := by omega
      have hget := getElem?_eq_getElem hmid
      dsimp only
      rw [hget, Option.any_some]
      by_cases hlt : x < key xs[base + size / 2]
      · -- the middle is over the key: the first half is left
        rw [decide_eq_true hlt, if_pos rfl]
        refine ih base (size - size / 2) (by omega) (by omega) (by omega) ?_ hbase
        intro i y hi hy
        have hle : base + size / 2 ≤ i := by omega
        rcases Nat.eq_or_lt_of_le hle with rfl | hgt
        · rw [hget] at hy
          exact Option.some.inj hy ▸ hlt
        · exact hlt.trans (key_lt_of_lt h hgt hget hy)
      · rw [decide_eq_false hlt, if_neg Bool.false_ne_true]
        refine ih (base + size / 2) (size - size / 2) (by omega) (by omega) (by omega) ?_
          (.inr ⟨_, hget, not_lt.mp hlt⟩)
        intro i y hi hy
        exact hover i y (by omega) hy

/-- The list is empty, or the loop has ended at a position. -/
lemma bisect_cases (h : xs.Pairwise fun a b => key a < key b) (x : κ) :
    xs = [] ∨ ∃ y, xs[bisect key xs x xs.length 0 xs.length]? = some y ∧
      OverFrom key xs x (bisect key xs x xs.length 0 xs.length + 1) ∧
      (bisect key xs x xs.length 0 xs.length = 0 ∨ key y ≤ x) := by
  rcases xs.eq_nil_or_concat with hnil | ⟨front, last, hconcat⟩
  · exact .inl hnil
  · refine .inr ?_
    have hpos : 1 ≤ xs.length := by
      rw [hconcat, concat_eq_append, length_append, length_singleton]
      omega
    have hover : OverFrom key xs x (0 + xs.length) := by
      intro i y hi hy
      obtain ⟨hlt, -⟩ := List.getElem?_eq_some_iff.mp hy
      omega
    obtain ⟨hend, hafter, hfront⟩ := bisect_spec h xs.length 0 xs.length (by omega) hpos
      (by omega) hover (.inl rfl)
    refine ⟨_, getElem?_eq_getElem hend, hafter, hfront.imp_right ?_⟩
    rintro ⟨y, hy, hle⟩
    rw [getElem?_eq_getElem hend, Option.some.injEq] at hy
    rw [hy]
    exact hle

/-- A position found holds the key. -/
lemma binarySearch_ok {pos : Nat} (h : binarySearch key xs x = .ok pos) :
    ∃ y, xs[pos]? = some y ∧ key y = x := by
  rw [binarySearch] at h
  split at h
  · cases h
  · rename_i y hy
    split_ifs at h with hkey
    cases h
    exact ⟨y, hy, hkey⟩

/-- A position not found divides the list. -/
lemma binarySearch_error (h : xs.Pairwise fun a b => key a < key b) {pos : Nat}
    (herror : binarySearch key xs x = .error pos) :
    pos ≤ xs.length ∧ BelowTo key xs x pos ∧ OverFrom key xs x pos := by
  rw [binarySearch] at herror
  rcases bisect_cases h x with rfl | ⟨y, hy, hafter, hfront⟩
  · cases herror
    refine ⟨Nat.le_refl _, ?_, ?_⟩
    · intro i z hi
      omega
    · intro i z _ hz
      cases hz
  · rw [hy] at herror
    dsimp only at herror
    obtain ⟨hlt, -⟩ := List.getElem?_eq_some_iff.mp hy
    split_ifs at herror with hkey hless
    · cases herror
      refine ⟨hlt, ?_, hafter⟩
      intro i z hi hz
      rcases Nat.eq_or_lt_of_le (Nat.lt_succ_iff.mp hi) with rfl | hbefore
      · rw [hy, Option.some.injEq] at hz
        exact hz ▸ hless
      · exact (key_lt_of_lt h hbefore hz hy).trans hless
    · -- the loop has not moved from the front, which is over the key
      have hover : x < key y := lt_of_le_of_ne (not_lt.mp hless) (Ne.symm hkey)
      have hzero : bisect key xs x xs.length 0 xs.length = 0 :=
        hfront.resolve_right (not_le.mpr hover)
      rw [hzero] at herror hafter hy
      cases herror
      refine ⟨Nat.zero_le _, ?_, ?_⟩
      · intro i z hi
        omega
      · intro i z _ hz
        rcases Nat.eq_zero_or_pos i with rfl | hi
        · rw [hy, Option.some.injEq] at hz
          exact hz ▸ hover
        · exact hafter i z hi hz

/-- A key that is not found is the key of no item. -/
lemma key_ne_of_binarySearch_error (h : xs.Pairwise fun a b => key a < key b) {pos : Nat}
    (herror : binarySearch key xs x = .error pos) {y : α} (hy : y ∈ xs) : key y ≠ x := by
  obtain ⟨-, hbelow, hover⟩ := binarySearch_error h herror
  obtain ⟨i, hi⟩ := getElem?_of_mem hy
  rcases Nat.lt_or_ge i pos with hlt | hge
  · exact (hbelow i y hlt hi).ne
  · exact (hover i y hge hi).ne'

lemma insertIdx_eq_append {pos : Nat} (h : pos ≤ xs.length) (a : α) :
    xs.insertIdx pos a = xs.take pos ++ a :: xs.drop pos := by
  induction pos generalizing xs with
  | zero => rfl
  | succ pos ih =>
    cases xs with
    | nil => cases h
    | cons y ys => exact congrArg (y :: ·) (ih (Nat.le_of_succ_le_succ h))

/-- Inserted where the search says, an item keeps the list in order. -/
lemma pairwise_insertIdx (h : xs.Pairwise fun a b => key a < key b) {pos : Nat} {a : α}
    (herror : binarySearch key xs (key a) = .error pos) :
    (xs.insertIdx pos a).Pairwise fun a b => key a < key b := by
  obtain ⟨hle, hbelow, hover⟩ := binarySearch_error h herror
  rw [← take_append_drop pos xs, pairwise_append] at h
  obtain ⟨hfront, hback, hacross⟩ := h
  have hbefore : ∀ y ∈ xs.take pos, key y < key a := by
    intro y hy
    obtain ⟨i, hi⟩ := getElem?_of_mem hy
    rw [getElem?_take] at hi
    split_ifs at hi with hlt
    exact hbelow i y hlt hi
  have hafter : ∀ y ∈ xs.drop pos, key a < key y := by
    intro y hy
    obtain ⟨i, hi⟩ := getElem?_of_mem hy
    rw [getElem?_drop] at hi
    exact hover (pos + i) y (Nat.le_add_right _ _) hi
  rw [insertIdx_eq_append hle, pairwise_append, pairwise_cons]
  refine ⟨hfront, ⟨hafter, hback⟩, ?_⟩
  intro y hy z hz
  rcases mem_cons.mp hz with rfl | hz
  · exact hbefore y hy
  · exact hacross y hy z hz

end search

end Ratatosk.Lib
