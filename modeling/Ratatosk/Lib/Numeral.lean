import Mathlib.Data.Nat.Digits.Lemmas
import Mathlib.Tactic

/-!
# Byte strings and the numerals written in them

General facts about numbers as bytes, with nothing of a particular format in them:

* `Bytes`, `ascii` — byte strings and the bytes of an ASCII text;
* `decimal`, `decimalInt` — the shortest decimal text of a number;
* `parseUnsigned`, `parseNat`, `parseInt` — reading a decimal text with an optional sign, every
  character checked; `parseNat_decimal` and `parseInt_decimalInt` are the round trips;
* `leBytes`, `ofLeBytes` — fixed-width little-endian digits, and `beBytes`, `ofBeBytes` the
  big-endian ones, with `ofLeBytes_leBytes` and `ofBeBytes_beBytes`.

The bounds of a machine integer are not part of reading a numeral: `parseI64` reads the integer
first and checks the range after.
-/

namespace Ratatosk.Lib

open List Option

/-- A byte string. -/
abbrev Bytes := List UInt8

/-- The bytes of a text; every text here is ASCII. -/
def ascii (text : String) : Bytes := text.toByteArray.data.toList

@[simp] lemma ascii_inj {a b : String} : ascii a = ascii b ↔ a = b := by
  refine ⟨fun h => ?_, congrArg ascii⟩
  unfold ascii at h
  exact String.toByteArray_inj.mp (ByteArray.ext (Array.toList_inj.mp h))

instance lawfulBEq_bytes : LawfulBEq Bytes := inferInstance

instance isTrans_bytes : IsTrans Bytes (· ≤ ·) := inferInstance

instance antisymm_bytes : @Std.Antisymm Bytes (· ≤ ·) := inferInstance

instance total_bytes : @Std.Total Bytes (· ≤ ·) := inferInstance

/-! ## Decimal text -/

section decimal

variable {d n : Nat} {b : UInt8}

/-- The character of a decimal digit. -/
def digitByte (d : Nat) : UInt8 := UInt8.ofNat (48 + d)

/-- The value of a decimal digit character. -/
def digitValue (b : UInt8) : Option Nat :=
  if 48 ≤ b.toNat ∧ b.toNat ≤ 57 then some (b.toNat - 48) else none

/-- The shortest decimal text of a natural number. -/
def decimal (n : Nat) : Bytes :=
  if n = 0 then [48] else ((Nat.digits 10 n).reverse.map digitByte)

/-- The shortest decimal text of an integer, with a minus sign in front of a negative one. -/
def decimalInt (v : Int) : Bytes :=
  if v < 0 then 45 :: decimal v.natAbs else decimal v.natAbs

/-- Reads digits into an accumulator; any other character fails. -/
def parseDigits : Nat → Bytes → Option Nat
  | acc, [] => some acc
  | acc, b :: bs => (digitValue b).bind fun d => parseDigits (acc * 10 + d) bs

/-- Reads a number without a sign: at least one digit. -/
def parseUnsigned (ds : Bytes) : Option Nat :=
  if ds = [] then none else parseDigits 0 ds

/-- Reads a natural number: an optional plus sign and at least one digit. -/
def parseNat : Bytes → Option Nat
  | 43 :: ds => parseUnsigned ds
  | ds => parseUnsigned ds

/-- Reads an integer: an optional sign and at least one digit. -/
def parseInt : Bytes → Option Int
  | 45 :: ds => (parseUnsigned ds).map fun n : Nat => -(n : Int)
  | ds => (parseNat ds).map fun n : Nat => (n : Int)

lemma toNat_digitByte (h : d < 10) : (digitByte d).toNat = 48 + d := by
  simp only [digitByte, UInt8.toNat_ofNat']
  omega

lemma digitValue_digitByte (h : d < 10) : digitValue (digitByte d) = some d := by
  unfold digitValue
  rw [toNat_digitByte h, if_pos (by omega)]
  congr 1
  omega

lemma parseDigits_map_digitByte (ds : List Nat) (h : ∀ d ∈ ds, d < 10) (acc : Nat) :
    parseDigits acc (ds.map digitByte) = some (ds.foldl (fun a d => a * 10 + d) acc) := by
  induction ds generalizing acc with
  | nil => rfl
  | cons d ds ih =>
    have hd : d < 10 := h d mem_cons_self
    have hds : ∀ e ∈ ds, e < 10 := fun e he => h e (mem_cons_of_mem _ he)
    simp only [map_cons, parseDigits, digitValue_digitByte hd, bind_some,
      foldl_cons]
    exact ih hds _

lemma toNat_of_mem_decimal (h : b ∈ decimal n) : 48 ≤ b.toNat ∧ b.toNat ≤ 57 := by
  unfold decimal at h
  split at h
  · rw [mem_singleton] at h
    subst h
    decide
  · obtain ⟨d, hd, rfl⟩ := List.mem_map.mp h
    have hlt : d < 10 := Nat.digits_lt_base (by omega) (mem_reverse.mp hd)
    rw [toNat_digitByte hlt]
    omega

lemma decimal_ne_nil (n : Nat) : decimal n ≠ [] := by
  unfold decimal
  split
  · simp
  · simpa [Nat.digits_eq_nil_iff_eq_zero]

/-- The text of a number other than zero has no leading zero. -/
lemma head?_decimal_ne (hn : n ≠ 0) : (decimal n).head? ≠ some 48 := by
  intro hhead
  rw [decimal, if_neg hn, head?_map, head?_reverse] at hhead
  obtain ⟨d, hd, hzero⟩ := map_eq_some_iff.mp hhead
  have hne : Nat.digits 10 n ≠ [] := Nat.digits_ne_nil_iff_ne_zero.mpr hn
  have hlast : (Nat.digits 10 n).getLast hne = d :=
    Option.some.inj ((getLast?_eq_getLast_of_ne_nil hne).symm.trans hd)
  have hlt : d < 10 := Nat.digits_lt_base (by omega) (hlast ▸ getLast_mem hne)
  have hval := toNat_digitByte hlt
  rw [hzero] at hval
  have hd0 : d = 0 := by
    change 48 = 48 + d at hval
    omega
  exact Nat.getLast_digit_ne_zero 10 hn (hlast.trans hd0)

lemma parseDigits_decimal (n : Nat) : parseDigits 0 (decimal n) = some n := by
  unfold decimal
  split
  · next h => subst h; rfl
  · rw [parseDigits_map_digitByte]
    · rw [foldl_reverse]
      have hfold := Nat.ofDigits_eq_foldr 10 (Nat.digits 10 n)
      rw [Nat.ofDigits_digits] at hfold
      simp only [Nat.cast_id] at hfold
      rw [Option.some.injEq]
      conv_rhs => rw [hfold]
      congr 1
      funext d acc
      omega
    · intro d hd
      exact Nat.digits_lt_base (by omega) (mem_reverse.mp hd)

lemma parseUnsigned_decimal (n : Nat) : parseUnsigned (decimal n) = some n := by
  rw [parseUnsigned, if_neg (decimal_ne_nil n), parseDigits_decimal]

/-- A decimal text starts with a digit, so neither sign is taken off it. -/
lemma decimal_eq_cons (n : Nat) :
    ∃ b bs, decimal n = b :: bs ∧ b ≠ 43 ∧ b ≠ 45 := by
  obtain ⟨b, bs, hcons⟩ := exists_cons_of_ne_nil (decimal_ne_nil n)
  have hb : 48 ≤ b.toNat ∧ b.toNat ≤ 57 :=
    toNat_of_mem_decimal (n := n) (by rw [hcons]; exact mem_cons_self)
  refine ⟨b, bs, hcons, ?_, ?_⟩
  · rintro rfl
    simp at hb
  · rintro rfl
    simp at hb

/-- Reading the decimal text of a natural number gives the number back. -/
theorem parseNat_decimal (n : Nat) : parseNat (decimal n) = some n := by
  obtain ⟨b, bs, hcons, hplus, -⟩ := decimal_eq_cons n
  have hdigits := parseUnsigned_decimal n
  rw [hcons] at hdigits ⊢
  simpa [parseNat, hplus] using hdigits

@[simp] lemma parseInt_minus (ds : Bytes) :
    parseInt (45 :: ds) = (parseUnsigned ds).map fun n : Nat => -(n : Int) := rfl

lemma parseInt_of_ne_minus (h : b ≠ 45) (bs : Bytes) :
    parseInt (b :: bs) = (parseNat (b :: bs)).map fun n : Nat => (n : Int) := by
  simp [parseInt, h]

/-- Reading the decimal text of an integer gives the integer back. -/
theorem parseInt_decimalInt (v : Int) : parseInt (decimalInt v) = some v := by
  unfold decimalInt
  split
  · next hneg =>
      rw [parseInt_minus, parseUnsigned_decimal, map_some, Option.some.injEq]
      omega
  · next hneg =>
      obtain ⟨b, bs, hcons, -, hminus⟩ := decimal_eq_cons v.natAbs
      rw [hcons, parseInt_of_ne_minus hminus, ← hcons, parseNat_decimal, map_some,
        Option.some.injEq]
      omega

/-- Every character of the decimal text of an integer is a digit or a minus sign. -/
lemma toNat_of_mem_decimalInt {v : Int} (h : b ∈ decimalInt v) : 45 ≤ b.toNat ∧ b.toNat ≤ 57 := by
  unfold decimalInt at h
  split at h
  · rcases mem_cons.mp h with rfl | h
    · decide
    · have := toNat_of_mem_decimal h
      omega
  · have := toNat_of_mem_decimal h
    omega

/-! ### Canonical decimal text -/

lemma digitByte_of_digitValue (h : digitValue b = some d) : digitByte d = b ∧ d < 10 := by
  unfold digitValue at h
  split_ifs at h with hb
  obtain rfl := Option.some.inj h
  refine ⟨?_, by omega⟩
  rw [← UInt8.toNat_inj, toNat_digitByte (by omega)]
  omega

/-- A text that reads as digits is the characters of those digits. -/
lemma parseDigits_eq_some {acc : Nat} {ds : Bytes} (h : parseDigits acc ds = some n) :
    ∃ vs : List Nat, ds = vs.map digitByte ∧ (∀ v ∈ vs, v < 10) ∧
      n = vs.foldl (fun a d => a * 10 + d) acc := by
  induction ds generalizing acc with
  | nil => exact ⟨[], rfl, by simp, (Option.some.inj h).symm⟩
  | cons b ds ih =>
    obtain ⟨d, hd, hrest⟩ := bind_eq_some_iff.mp h
    obtain ⟨hbyte, hlt⟩ := digitByte_of_digitValue hd
    obtain ⟨vs, rfl, hvs, hn⟩ := ih hrest
    refine ⟨d :: vs, by rw [map_cons, hbyte], ?_, hn⟩
    intro v hv
    rcases mem_cons.mp hv with rfl | hv
    · exact hlt
    · exact hvs v hv

/-- A numeral without a superfluous leading zero is the decimal text of the number it names. -/
theorem decimal_of_parseUnsigned {ds : Bytes} (h : parseUnsigned ds = some n)
    (hzero : ds = [48] ∨ ds.head? ≠ some 48) : decimal n = ds := by
  unfold parseUnsigned at h
  split_ifs at h with hnil
  obtain ⟨vs, rfl, hvs, hn⟩ := parseDigits_eq_some h
  rw [← reverse_reverse vs, foldl_reverse] at hn
  have hfold : n = Nat.ofDigits 10 vs.reverse := by
    rw [hn, Nat.ofDigits_eq_foldr]
    congr 1
    funext d acc
    simp only [Nat.cast_id]
    omega
  rcases hzero with hzero | hzero
  · obtain ⟨v, rfl, hv⟩ := map_eq_singleton_iff.mp hzero
    have hlt := hvs v mem_cons_self
    have hval : v = 0 := by
      have := toNat_digitByte hlt
      rw [hv] at this
      simp at this
      omega
    subst hval
    simp [hfold, decimal, hv]
  · have hlast : ∀ hne : vs.reverse ≠ [], vs.reverse.getLast hne ≠ 0 := by
      intro hne hlast
      rw [getLast_reverse] at hlast
      obtain ⟨v, us, rfl⟩ := exists_cons_of_ne_nil (reverse_ne_nil_iff.mp hne)
      simp only [head_cons] at hlast
      subst hlast
      exact hzero rfl
    have hdigits : Nat.digits 10 n = vs.reverse := by
      rw [hfold]
      exact Nat.digits_ofDigits 10 (by omega) _ (by simpa using hvs) hlast
    have hn0 : n ≠ 0 := by
      intro hn0
      rw [hn0, Nat.digits_zero] at hdigits
      have hvs_nil : vs = [] := reverse_eq_nil_iff.mp hdigits.symm
      subst hvs_nil
      exact hnil rfl
    rw [decimal, if_neg hn0, hdigits, reverse_reverse]

end decimal

/-! ## Text and machine integers -/

section text

/-- A continuation byte of UTF-8. -/
def isUtf8Continuation (b : UInt8) : Bool := 0x80 ≤ b && b ≤ 0xBF

/-- Well-formed UTF-8, as `std::str::from_utf8` accepts it. -/
def validUtf8 : Bytes → Bool
  | [] => true
  | b :: rest =>
    if b < 0x80 then validUtf8 rest
    else match rest with
      | [] => false
      | c :: rest₁ =>
        if 0xC2 ≤ b && b ≤ 0xDF then isUtf8Continuation c && validUtf8 rest₁
        else match rest₁ with
          | [] => false
          | d :: rest₂ =>
            if b == 0xE0 then
              0xA0 ≤ c && c ≤ 0xBF && isUtf8Continuation d && validUtf8 rest₂
            else if b == 0xED then
              0x80 ≤ c && c ≤ 0x9F && isUtf8Continuation d && validUtf8 rest₂
            else if 0xE1 ≤ b && b ≤ 0xEF then
              isUtf8Continuation c && isUtf8Continuation d && validUtf8 rest₂
            else match rest₂ with
              | [] => false
              | e :: rest₃ =>
                isUtf8Continuation d && isUtf8Continuation e &&
                  ((b == 0xF0 && 0x90 ≤ c && c ≤ 0xBF) ||
                    (0xF1 ≤ b && b ≤ 0xF3 && isUtf8Continuation c) ||
                    (b == 0xF4 && 0x80 ≤ c && c ≤ 0x8F)) &&
                  validUtf8 rest₃

/-- `str::parse::<i64>`: the numeral and the range of the type. -/
def parseI64 (text : Bytes) : Option Int64 :=
  (parseInt text).bind fun v =>
    if -2 ^ 63 ≤ v ∧ v < 2 ^ 63 then some (Int64.ofInt v) else none

/-- A text of characters below `0x80` is UTF-8. -/
lemma validUtf8_of_ascii {text : Bytes} (h : ∀ b ∈ text, b < 0x80) : validUtf8 text = true := by
  induction text with
  | nil => rfl
  | cons b text ih =>
    rw [validUtf8.eq_def]
    simp only [if_pos (h b mem_cons_self)]
    exact ih fun c hc => h c (mem_cons_of_mem _ hc)

lemma validUtf8_decimalInt (v : Int) : validUtf8 (decimalInt v) = true := by
  apply validUtf8_of_ascii
  intro b hb
  have := toNat_of_mem_decimalInt hb
  rw [UInt8.lt_iff_toNat_lt]
  change b.toNat < 128
  omega

/-- The text of an `i64` is read back as that `i64`. -/
lemma parseI64_decimalInt (v : Int64) : parseI64 (decimalInt v.toInt) = some v := by
  rw [parseI64, parseInt_decimalInt, bind_some, if_pos ⟨v.le_toInt, v.toInt_lt⟩,
    Int64.ofInt_toInt]

lemma length_decimal_le {n k : Nat} (hk : 0 < k) (h : n < 10 ^ k) : (decimal n).length ≤ k := by
  unfold decimal
  split_ifs
  · exact hk
  · rw [length_map, length_reverse]
    exact (Nat.digits_length_le_iff (by decide) n).mpr h

/-- The text of an `i64` has at most twenty characters. -/
lemma length_decimalInt_le (v : Int64) : (decimalInt v.toInt).length ≤ 20 := by
  have hlow := v.le_toInt
  have hhigh := v.toInt_lt
  have habs : (decimal v.toInt.natAbs).length ≤ 19 := length_decimal_le (by decide) (by omega)
  unfold decimalInt
  split_ifs
  · rw [length_cons]
    exact Nat.succ_le_succ habs
  · exact habs.trans (by decide)

end text

/-! ## Fixed-width digits -/

section fixedWidth

/-- The `k` low base-256 digits of `n`, least significant first. -/
def leBytes : (k : Nat) → (n : Nat) → Bytes
  | 0, _ => []
  | k + 1, n => UInt8.ofNat (n % 256) :: leBytes k (n / 256)

/-- The number whose base-256 digits, least significant first, are given. -/
def ofLeBytes : Bytes → Nat
  | [] => 0
  | b :: bs => b.toNat + 256 * ofLeBytes bs

/-- The `k` low base-256 digits of `n`, most significant first. -/
def beBytes (k n : Nat) : Bytes := (leBytes k n).reverse

/-- The number whose base-256 digits, most significant first, are given. -/
def ofBeBytes (bs : Bytes) : Nat := ofLeBytes bs.reverse

@[simp] lemma length_leBytes (k n : Nat) : (leBytes k n).length = k := by
  induction k generalizing n with
  | zero => rfl
  | succ k ih => simp [leBytes, ih]

@[simp] lemma length_beBytes (k n : Nat) : (beBytes k n).length = k := by
  simp [beBytes]

/-- Fixed-width little-endian digits name the number again when it fits the width. -/
theorem ofLeBytes_leBytes {k n : Nat} (h : n < 256 ^ k) : ofLeBytes (leBytes k n) = n := by
  induction k generalizing n with
  | zero => simp only [pow_zero, Nat.lt_one_iff] at h; subst h; rfl
  | succ k ih =>
    have hdiv : n / 256 < 256 ^ k := by
      rw [Nat.div_lt_iff_lt_mul (by omega)]
      rwa [pow_succ] at h
    have hmod : (UInt8.ofNat (n % 256)).toNat = n % 256 := by
      simp [UInt8.toNat_ofNat']
    simp only [leBytes, ofLeBytes, ih hdiv, hmod]
    omega

/-- Fixed-width big-endian digits name the number again when it fits the width. -/
theorem ofBeBytes_beBytes {k n : Nat} (h : n < 256 ^ k) : ofBeBytes (beBytes k n) = n := by
  simp [ofBeBytes, beBytes, ofLeBytes_leBytes h]

end fixedWidth

end Ratatosk.Lib
