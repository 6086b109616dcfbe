import Mathlib.Data.List.Basic
import Mathlib.Tactic

/-!
# Strict prefixes

A string of which the end is missing. The case analysis of every cut of a concatenation is
`strictPrefix_append`: the cut falls inside the first part, or the first part is whole and the
cut falls inside the second.
-/

namespace Ratatosk.Lib

variable {α : Type*} {p s a b : List α}

/-- `p` is a prefix of `s`, and some of `s` is missing from it. -/
def StrictPrefix (p s : List α) : Prop := ∃ t, t ≠ [] ∧ s = p ++ t

/-- Nothing is a strict prefix of the empty string. -/
lemma not_strictPrefix_nil : ¬ StrictPrefix p [] := by
  rintro ⟨t, ht, hs⟩
  exact ht (List.append_eq_nil_iff.mp hs.symm).2

/-- Where a cut of a concatenation can fall. -/
lemma strictPrefix_append (h : StrictPrefix p (a ++ b)) :
    StrictPrefix p a ∨ ∃ q, p = a ++ q ∧ StrictPrefix q b := by
  obtain ⟨t, ht, hs⟩ := h
  rcases List.append_eq_append_iff.mp hs with ⟨q, hp, hb⟩ | ⟨c, ha, htc⟩
  · exact Or.inr ⟨q, hp, t, ht, hb⟩
  · by_cases hc : c = []
    · subst hc
      refine Or.inr ⟨[], by simpa using ha.symm, b, ?_, rfl⟩
      rintro rfl
      exact ht htc
    · exact Or.inl ⟨c, hc, ha⟩

/-- A cut of a string with a head keeps the head or keeps nothing. -/
lemma strictPrefix_cons {x : α} (h : StrictPrefix p (x :: s)) :
    p = [] ∨ ∃ q, p = x :: q ∧ StrictPrefix q s := by
  obtain ⟨t, ht, hs⟩ := h
  cases p with
  | nil => exact Or.inl rfl
  | cons y q =>
    rw [List.cons_append, List.cons.injEq] at hs
    obtain ⟨rfl, hq⟩ := hs
    exact Or.inr ⟨q, rfl, t, ht, hq⟩

/-- A cut of a string is shorter than the string. -/
lemma StrictPrefix.length_lt (h : StrictPrefix p s) : p.length < s.length := by
  obtain ⟨t, ht, rfl⟩ := h
  have hpos : 0 < t.length := List.length_pos_iff.mpr ht
  rw [List.length_append]
  omega

/-- Taking fewer elements than there are is a cut. -/
lemma strictPrefix_take {k : Nat} (h : k < s.length) : StrictPrefix (s.take k) s := by
  refine ⟨s.drop k, ?_, (List.take_append_drop k s).symm⟩
  intro hnil
  have := List.drop_eq_nil_iff.mp hnil
  omega

/-- An element that occurs only at the end of a string is in no cut of it. -/
lemma StrictPrefix.not_mem_of_append_singleton {x : α} (h : StrictPrefix p (s ++ [x]))
    (hx : x ∉ s) : x ∉ p := by
  rcases strictPrefix_append h with ⟨t, -, rfl⟩ | ⟨q, hp, hq⟩
  · intro hmem
    exact hx (List.mem_append_left _ hmem)
  · rcases strictPrefix_cons hq with rfl | ⟨r, -, hr⟩
    · rwa [hp, List.append_nil]
    · exact absurd hr not_strictPrefix_nil

end Ratatosk.Lib
