import Ratatosk.Lib.Numeral

/-!
# Lossy conversion to UTF-8

`String::from_utf8_lossy`: what is not UTF-8 is replaced, each longest piece that could have begun a
character by one replacement character.

* `validUtf8_fromUtf8Lossy`, `fromUtf8Lossy_eq_iff` — **the result is UTF-8, and it is the text
  itself exactly if that is UTF-8.**
-/

namespace Ratatosk.Lib

/-! ## Characters -/

/-- The bytes that a first byte announces; none if it is no first byte. -/
def utf8Width (b : UInt8) : Nat :=
  if b < 0x80 then 1
  else if 0xC2 ≤ b && b ≤ 0xDF then 2
  else if 0xE0 ≤ b && b ≤ 0xEF then 3
  else if 0xF0 ≤ b && b ≤ 0xF4 then 4
  else 0

/-- A second byte that can follow the first one of a character of two or more. -/
def utf8Second (b c : UInt8) : Bool :=
  if b == 0xE0 then 0xA0 ≤ c && c ≤ 0xBF
  else if b == 0xED then 0x80 ≤ c && c ≤ 0x9F
  else if b == 0xF0 then 0x90 ≤ c && c ≤ 0xBF
  else if b == 0xF4 then 0x80 ≤ c && c ≤ 0x8F
  else isUtf8Continuation c

/-- The number of bytes at the head that are a character, or that are replaced together, and which
of the two it is. -/
def utf8Head : Bytes → Nat × Bool
  | [] => (0, false)
  | b :: rest =>
    if utf8Width b = 1 then (1, true)
    else match rest with
      | [] => (1, false)
      | c :: rest =>
        if utf8Width b = 0 || !utf8Second b c then (1, false)
        else if utf8Width b = 2 then (2, true)
        else match rest with
          | [] => (2, false)
          | d :: rest =>
            if !isUtf8Continuation d then (2, false)
            else if utf8Width b = 3 then (3, true)
            else match rest with
              | [] => (3, false)
              | e :: _ => if isUtf8Continuation e then (4, true) else (3, false)

/-- The encoding of the replacement character. -/
def replacementCharacter : Bytes := [0xEF, 0xBF, 0xBD]

/-- The conversion, of at most so many pieces. -/
def lossyPieces : Nat → Bytes → Bytes
  | 0, _ => []
  | fuel + 1, s =>
    if s = [] then []
    else
      let (n, valid) := utf8Head s
      (if valid then s.take n else replacementCharacter) ++ lossyPieces fuel (s.drop n)

/-- `String::from_utf8_lossy`. -/
def fromUtf8Lossy (s : Bytes) : Bytes := lossyPieces s.length s

/-! ### What a first byte says -/

section widths

variable {b : UInt8}

/-- The tests of ranges, in numbers. -/
lemma within_iff {low high b : UInt8} :
    (low ≤ b && b ≤ high) = true ↔ low.toNat ≤ b.toNat ∧ b.toNat ≤ high.toNat := by
  rw [Bool.and_eq_true, decide_eq_true_iff, decide_eq_true_iff, UInt8.le_iff_toNat_le,
    UInt8.le_iff_toNat_le]

/-- The widths, as ranges of numbers. -/
lemma utf8Width_eq (b : UInt8) :
    utf8Width b =
      if b.toNat < 128 then 1
      else if 194 ≤ b.toNat ∧ b.toNat ≤ 223 then 2
      else if 224 ≤ b.toNat ∧ b.toNat ≤ 239 then 3
      else if 240 ≤ b.toNat ∧ b.toNat ≤ 244 then 4
      else 0 := by
  simp only [utf8Width, UInt8.lt_iff_toNat_lt, within_iff]
  rfl

lemma validUtf8_of_width_one (h : utf8Width b = 1) (rest : Bytes) :
    validUtf8 (b :: rest) = validUtf8 rest := by
  have hb : b.toNat < 128 := by
    rw [utf8Width_eq] at h
    split_ifs at h <;> omega
  rw [validUtf8.eq_def]
  exact if_pos (UInt8.lt_iff_toNat_lt.mpr hb)

lemma validUtf8_singleton (h : utf8Width b ≠ 1) : validUtf8 [b] = false := by
  have hb : ¬ b.toNat < 128 := by
    rw [utf8Width_eq] at h
    split_ifs at h <;> omega
  rw [validUtf8.eq_def]
  exact if_neg fun hlt => hb (UInt8.lt_iff_toNat_lt.mp hlt)

/-- The tests that follow a first byte past ASCII. -/
lemma validUtf8_cons_cons (h : utf8Width b ≠ 1) (c : UInt8) (rest : Bytes) :
    validUtf8 (b :: c :: rest) =
      if utf8Width b = 2 then utf8Second b c && validUtf8 rest
      else match rest with
        | [] => false
        | d :: rest₂ =>
          if utf8Width b = 3 then utf8Second b c && isUtf8Continuation d && validUtf8 rest₂
          else match rest₂ with
            | [] => false
            | e :: rest₃ =>
              utf8Width b = 4 && utf8Second b c && isUtf8Continuation d &&
                isUtf8Continuation e && validUtf8 rest₃ := by
  have hwidth := utf8Width_eq b
  have hpast : ¬ b.toNat < 128 := fun hb => h (by rw [hwidth, if_pos hb])
  have hb : ¬ b < 0x80 := fun hlt => hpast (UInt8.lt_iff_toNat_lt.mp hlt)
  have hbool : ∀ {p q : Bool}, (p = true ↔ q = true) → p = q := Bool.eq_iff_iff.mpr
  rw [if_neg hpast] at hwidth
  rw [validUtf8.eq_def]
  dsimp only
  rw [if_neg hb]
  -- the first bytes that restrict the second one are taken one by one
  by_cases he0 : b = 0xE0
  · subst he0
    rcases rest with _ | ⟨d, rest⟩ <;> rfl
  by_cases hed : b = 0xED
  · subst hed
    rcases rest with _ | ⟨d, rest⟩ <;> rfl
  by_cases hf0 : b = 0xF0
  · subst hf0
    rcases rest with _ | ⟨d, _ | ⟨e, rest⟩⟩
    · rfl
    · rfl
    · refine hbool ?_
      simp [utf8Second, utf8Width]
      tauto
  by_cases hf4 : b = 0xF4
  · subst hf4
    rcases rest with _ | ⟨d, _ | ⟨e, rest⟩⟩
    · rfl
    · rfl
    · refine hbool ?_
      simp [utf8Second, utf8Width]
      tauto
  have hne : ∀ {k : UInt8}, b ≠ k → b.toNat ≠ k.toNat := fun hk heq => hk (UInt8.toNat_inj.mp heq)
  have hne0 : b.toNat ≠ 224 := hne he0
  have hne4 : b.toNat ≠ 240 ∧ b.toNat ≠ 244 := ⟨hne hf0, hne hf4⟩
  have htwo : (0xC2 ≤ b && b ≤ 0xDF) = true ↔ 194 ≤ b.toNat ∧ b.toNat ≤ 223 := within_iff
  have hthree : (0xE1 ≤ b && b ≤ 0xEF) = true ↔ 225 ≤ b.toNat ∧ b.toNat ≤ 239 := within_iff
  have hfour : (0xF1 ≤ b && b ≤ 0xF3) = true ↔ 241 ≤ b.toNat ∧ b.toNat ≤ 243 := within_iff
  simp only [utf8Second, htwo, hthree, beq_iff_eq, he0, hed, hf0, hf4, if_false]
  by_cases h2 : 194 ≤ b.toNat ∧ b.toNat ≤ 223
  · simp only [hwidth, if_pos h2, if_true]
  by_cases h3 : 224 ≤ b.toNat ∧ b.toNat ≤ 239
  · have h3' : 225 ≤ b.toNat ∧ b.toNat ≤ 239 := by omega
    simp only [hwidth, if_neg h2, if_pos h3, if_pos h3']
    rfl
  have h3' : ¬ (225 ≤ b.toNat ∧ b.toNat ≤ 239) := by omega
  rw [if_neg h2, if_neg h3] at hwidth
  have hw2 : utf8Width b ≠ 2 := by
    rw [hwidth]
    split_ifs <;> decide
  have hw3 : utf8Width b ≠ 3 := by
    rw [hwidth]
    split_ifs <;> decide
  have hw4 : utf8Width b = 4 ↔ 241 ≤ b.toNat ∧ b.toNat ≤ 243 := by
    rw [hwidth]
    split_ifs with h4
    · exact ⟨fun _ => by omega, fun _ => rfl⟩
    · exact ⟨fun h => absurd h (by decide), fun h => by omega⟩
  simp only [h2, h3', hw2, hw3, if_false]
  rcases rest with _ | ⟨d, _ | ⟨e, rest⟩⟩
  · rfl
  · rfl
  · refine hbool ?_
    rw [Bool.and_eq_true, decide_eq_true_iff, decide_eq_true_iff] at hfour
    simp only [Bool.and_eq_true, Bool.or_eq_true, beq_iff_eq, hf0, hf4, false_and, false_or,
      or_false, decide_eq_true_eq, hw4, hfour]
    constructor
    · rintro ⟨⟨⟨hd, he⟩, hrange, hc⟩, hrest⟩
      exact ⟨⟨⟨⟨hrange, hc⟩, hd⟩, he⟩, hrest⟩
    · rintro ⟨⟨⟨⟨hrange, hc⟩, hd⟩, he⟩, hrest⟩
      exact ⟨⟨⟨hd, he⟩, hrange, hc⟩, hrest⟩

end widths

/-! ## The conversion -/

/-- The first piece of a text that has one is not empty. -/
lemma utf8Head_pos {s : Bytes} (hs : s ≠ []) : 0 < (utf8Head s).1 := by
  obtain ⟨b, rest, rfl⟩ := List.exists_cons_of_ne_nil hs
  rw [utf8Head.eq_def]
  dsimp only
  rcases rest with _ | ⟨c, _ | ⟨d, _ | ⟨e, rest⟩⟩⟩ <;> dsimp only <;> split_ifs <;> decide

/-- A text is UTF-8 if its first character is one and the rest is. -/
lemma validUtf8_eq_head {s : Bytes} (hs : s ≠ []) :
    validUtf8 s = ((utf8Head s).2 && validUtf8 (s.drop (utf8Head s).1)) := by
  obtain ⟨b, rest, rfl⟩ := List.exists_cons_of_ne_nil hs
  rw [utf8Head.eq_def]
  dsimp only
  by_cases h1 : utf8Width b = 1
  · rw [if_pos h1, validUtf8_of_width_one h1]
    rfl
  rw [if_neg h1]
  rcases rest with _ | ⟨c, rest⟩
  · exact validUtf8_singleton h1
  rw [validUtf8_cons_cons h1]
  have hw : utf8Width b = 0 ∨ utf8Width b = 2 ∨ utf8Width b = 3 ∨ utf8Width b = 4 := by
    rw [utf8Width_eq] at h1 ⊢
    split_ifs at h1 ⊢ <;> simp_all
  rcases hw with hw | hw | hw | hw <;> rcases rest with _ | ⟨d, _ | ⟨e, rest⟩⟩ <;> simp [hw] <;>
    split_ifs <;> simp_all

/-- Whether the head is a character depends on its bytes only. -/
lemma utf8Head_take_append {s : Bytes} {n : Nat} (h : utf8Head s = (n, true)) (t : Bytes) :
    utf8Head (s.take n ++ t) = (n, true) := by
  rcases s with _ | ⟨b, rest⟩
  · cases h
  rw [utf8Head.eq_def] at h
  dsimp only at h
  rcases rest with _ | ⟨c, _ | ⟨d, _ | ⟨e, rest⟩⟩⟩ <;> dsimp only at h <;> split_ifs at h <;>
    cases h <;> simp_all [utf8Head]

lemma validUtf8_take_append {s : Bytes} {n : Nat} (h : utf8Head s = (n, true)) (t : Bytes) :
    validUtf8 (s.take n ++ t) = validUtf8 t := by
  have hs : s ≠ [] := by
    rintro rfl
    cases h
  have hlen : (s.take n).length = n := by
    rcases s with _ | ⟨b, rest⟩
    · cases h
    rw [utf8Head.eq_def] at h
    dsimp only at h
    rcases rest with _ | ⟨c, _ | ⟨d, _ | ⟨e, rest⟩⟩⟩ <;> dsimp only at h <;> split_ifs at h <;>
      cases h <;> rfl
  have hpos := utf8Head_pos hs
  have hne : s.take n ++ t ≠ [] := by
    intro hnil
    rw [h] at hpos
    rw [(List.append_eq_nil_iff.mp hnil).1] at hlen
    exact absurd hlen hpos.ne
  rw [validUtf8_eq_head hne, utf8Head_take_append h, List.drop_left' hlen, Bool.true_and]

/-- The result of the conversion is UTF-8. -/
theorem validUtf8_lossyPieces (fuel : Nat) (s : Bytes) : validUtf8 (lossyPieces fuel s) = true := by
  induction fuel generalizing s with
  | zero => rw [lossyPieces, validUtf8.eq_def]
  | succ fuel ih =>
    rw [lossyPieces]
    split_ifs with hs
    · rw [validUtf8.eq_def]
    cases hhead : utf8Head s with
    | mk n valid =>
      cases valid with
      | true =>
        exact (validUtf8_take_append hhead _).trans (ih _)
      | false =>
        exact (validUtf8_take_append (s := replacementCharacter) (n := 3) rfl _).trans (ih _)

lemma lossyPieces_of_valid {fuel : Nat} {s : Bytes} (hfuel : s.length ≤ fuel)
    (h : validUtf8 s = true) : lossyPieces fuel s = s := by
  induction fuel generalizing s with
  | zero =>
    obtain rfl := List.length_eq_zero_iff.mp (Nat.le_zero.mp hfuel)
    rfl
  | succ fuel ih =>
    rw [lossyPieces]
    split_ifs with hs
    · exact hs.symm
    have hpos := utf8Head_pos hs
    rw [validUtf8_eq_head hs, Bool.and_eq_true] at h
    cases hhead : utf8Head s with
    | mk n valid =>
      rw [hhead] at h hpos
      obtain ⟨rfl, hrest⟩ := h
      have hlength : (s.drop n).length ≤ fuel := by
        rw [List.length_drop]
        omega
      exact (congrArg (s.take n ++ ·) (ih hlength hrest)).trans (List.take_append_drop n s)

theorem validUtf8_fromUtf8Lossy (s : Bytes) : validUtf8 (fromUtf8Lossy s) = true :=
  validUtf8_lossyPieces s.length s

/-- **The conversion keeps a text exactly if it is UTF-8.** -/
theorem fromUtf8Lossy_eq_iff {s : Bytes} : fromUtf8Lossy s = s ↔ validUtf8 s = true := by
  constructor
  · intro h
    rw [← h]
    exact validUtf8_fromUtf8Lossy s
  · exact lossyPieces_of_valid le_rfl

end Ratatosk.Lib
