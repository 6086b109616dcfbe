import Mathlib.Data.Nat.ModEq

/-!
# Circular buffers and free-running counters

A circular buffer keeps a window of a stream: position `p` of the stream lives in cell
`p % length`.

* `Holds data base xs` — the window starts at position `base` and its bytes are `xs`. It grows at
  the back (`Holds.push`) and shrinks at the front (`Holds.drop`).
* Positions are kept in 64-bit counters that wrap. `toNat_ofNat_sub_ofNat` reads the distance of
  two counters, `toNat_ofNat_and_mask` the cell of one.
-/

namespace Ratatosk.Lib

/-! ## The window -/

section window

variable {α : Type}

/-- The buffer holds `xs` at the positions of the stream from `base` on. -/
def Holds (data : List α) (base : Nat) (xs : List α) : Prop :=
  ∀ j, j < xs.length → data[(base + j) % data.length]? = xs[j]?

lemma holds_nil (data : List α) (base : Nat) : Holds data base [] := by
  intro j hj
  cases hj

/-- Two positions less than the length apart are in different cells. -/
lemma mod_ne_mod {i j m : Nat} (hlt : i < j) (hnear : j < i + m) : i % m ≠ j % m := by
  intro heq
  have hdvd : m ∣ j - i := (Nat.modEq_iff_dvd' hlt.le).mp heq
  have hle := Nat.le_of_dvd (by omega) hdvd
  omega

/-- Storing at the position behind the window, when there is room. -/
lemma Holds.push {data xs : List α} {base : Nat} (h : Holds data base xs)
    (hroom : xs.length < data.length) (b : α) :
    Holds (data.set ((base + xs.length) % data.length) b) base (xs ++ [b]) := by
  intro j hj
  rw [List.length_append, List.length_singleton] at hj
  rw [List.length_set]
  by_cases hlast : j = xs.length
  · subst hlast
    rw [List.getElem?_set_self (Nat.mod_lt _ (by omega)), List.getElem?_append_right le_rfl]
    simp
  · have hne : (base + xs.length) % data.length ≠ (base + j) % data.length :=
      (mod_ne_mod (by omega) (by omega)).symm
    rw [List.getElem?_set_ne hne, List.getElem?_append_left (by omega)]
    exact h j (by omega)

/-- Giving up the front of the window. -/
lemma Holds.drop {data xs : List α} {base : Nat} (h : Holds data base xs) (n : Nat) :
    Holds data (base + n) (xs.drop n) := by
  intro j hj
  rw [List.length_drop] at hj
  rw [List.getElem?_drop, ← h (n + j) (by omega), Nat.add_assoc]

end window

/-! ## Counters that wrap -/

section counters

/-- The distance of two counters is that of the positions they count. -/
lemma toNat_ofNat_sub_ofNat {front back : Nat} (hle : front ≤ back) (hlt : back - front < 2 ^ 64) :
    (UInt64.ofNat back - UInt64.ofNat front).toNat = back - front := by
  rw [UInt64.toNat_sub, UInt64.toNat_ofNat', UInt64.toNat_ofNat']
  omega

/-- Masking a counter gives the cell of the position it counts. -/
lemma toNat_ofNat_and_mask {k : Nat} (hk : k < 64) (n : Nat) :
    (UInt64.ofNat n &&& (UInt64.ofNat (2 ^ k) - 1)).toNat = n % 2 ^ k := by
  have hpos : 0 < 2 ^ k := Nat.two_pow_pos k
  have hlt : 2 ^ k < 2 ^ 64 := Nat.pow_lt_pow_right (by omega) hk
  have hmask : (UInt64.ofNat (2 ^ k) - 1).toNat = 2 ^ k - 1 := by
    have h : (UInt64.ofNat (2 ^ k) - UInt64.ofNat 1).toNat = 2 ^ k - 1 :=
      toNat_ofNat_sub_ofNat hpos (by omega)
    simpa using h
  rw [UInt64.toNat_and, hmask, UInt64.toNat_ofNat', Nat.and_two_pow_sub_one_eq_mod]
  exact Nat.mod_mod_of_dvd n (Nat.pow_dvd_pow 2 hk.le)

end counters

end Ratatosk.Lib
