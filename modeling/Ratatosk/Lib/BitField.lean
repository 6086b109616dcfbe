import Mathlib.Data.Nat.Bitwise

/-!
# Fields of a bit stream

A stream of bits, and the numbers held in its fields with the first bit the most significant.

* `BitField.field` — the number held in a field; `BitField.put` — the stream with a field replaced.
* `field_lt` — a field holds a number below two to its width.
-/

namespace Ratatosk.Lib.BitField

/-! ## Fields -/

/-- The number held in `width` bits from `offset` on. -/
def field (bits : Nat → Bool) (offset : Nat) : Nat → Nat
  | 0 => 0
  | width + 1 => 2 * field bits offset width + (bits (offset + width)).toNat

/-- The stream with the bits of a number in `width` places from `offset` on. -/
def put (bits : Nat → Bool) (offset width value : Nat) : Nat → Bool := fun i =>
  if offset ≤ i ∧ i < offset + width then value.testBit (width - 1 - (i - offset)) else bits i

variable {bits : Nat → Bool} {offset width : Nat}

lemma field_lt (bits : Nat → Bool) (offset width : Nat) : field bits offset width < 2 ^ width := by
  induction width with
  | zero => simp [field]
  | succ width ih =>
    have hbit := (bits (offset + width)).toNat_le
    simp only [field, pow_succ]
    omega

/-- Only the value modulo two to the width matters. -/
lemma put_mod (value : Nat) :
    put bits offset width (value % 2 ^ width) = put bits offset width value := by
  funext i
  unfold put
  split_ifs with h
  · rw [Nat.testBit_mod_two_pow]
    have hlt : width - 1 - (i - offset) < width := by omega
    simp [hlt]
  · rfl

end Ratatosk.Lib.BitField
