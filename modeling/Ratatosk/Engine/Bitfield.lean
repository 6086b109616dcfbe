import Ratatosk.Lib.BitField
import Ratatosk.Engine.LiveView
import Ratatosk.Engine.ReadCommands

/-!
# `BITFIELD`

`cmd_bitfield` of `ratatosk-engine/src/command/cmd_bitmap_bitfield.rs`, with `set_bit` of
`cmd_bitmap.rs`: integers of 1 to 64 bits at any bit offset of a string.

* `BitfieldEncoding.held`, `BitfieldEncoding.resolve`, `BitfieldOp.exact`, `exactRun`,
  `BitfieldExact` — what the operations should do, in integers: the number held in a field, and the
  result that an overflow mode stands for.
* `cmdBitfield_exact_iff` — **the command is exact, unless an `INCRBY` that saturates or fails goes
  past 64 bits**: `INCRBY` adds in 64 bits, which wrap, before the mode is asked (`LosesCarry`).
-/

namespace Ratatosk.Engine

open Lib Keyspace Resp Lib.BitField

/-! ## Bits of a string -/

/-- The string, with zero bytes behind it, long enough for a byte at an index. -/
def padTo (data : Bytes) (length : Nat) : Bytes :=
  data ++ List.replicate (length - data.length) 0

/-- Source: `cmd_bitmap.rs` `set_bit` -/
def setBit (data : Bytes) (offset : Nat) (value : UInt8) : Bytes :=
  let mask : UInt8 := 1 <<< UInt8.ofNat (7 - offset % 8)
  (padTo data (offset / 8 + 1)).modify (offset / 8) fun byte =>
    if value ≠ 0 then byte ||| mask else byte &&& ~~~mask

/-- The string as a stream of bits. -/
def bitsOf (data : Bytes) (i : Nat) : Bool := getBit data i != 0

/-! ## Encodings -/

/-- Source: `cmd_bitmap_bitfield.rs` `BitfieldOverflow` -/
inductive BitfieldOverflow where
  | wrap | sat | fail
  deriving Repr, DecidableEq

/-- An encoding that is accepted: `i1` to `i64`, `u1` to `u63`.
Source: `cmd_bitmap_bitfield.rs` `BitfieldEncoding` -/
structure BitfieldEncoding where
  bits : Nat
  signed : Bool
  valid : 1 ≤ bits ∧ bits ≤ if signed then 64 else 63

/-- Source: `cmd_bitmap_bitfield.rs` `BitfieldOp` -/
inductive BitfieldOp where
  | get (encoding : BitfieldEncoding) (offset : Nat)
  | set (encoding : BitfieldEncoding) (offset : Nat) (value : Int64)
  | incrBy (encoding : BitfieldEncoding) (offset : Nat) (increment : Int64)

/-- Source: `cmd_bitmap_bitfield.rs` `parse_bitfield_encoding` -/
def parseBitfieldEncoding (raw : Bytes) : Option BitfieldEncoding :=
  if !validUtf8 raw then none
  else match raw with
    | [] => none
    | kind :: rest =>
      if kind ≠ 105 ∧ kind ≠ 117 then none
      else
        let signed := kind == 105
        match (parseNat rest).filter (· < 256) with
        | none => none
        | some bits =>
          if h : 1 ≤ bits ∧ bits ≤ if signed then 64 else 63 then some ⟨bits, signed, h⟩
          else none

/-- Source: `cmd_bitmap_bitfield.rs` `MAX_BITFIELD_BITS` -/
def maxBitfieldBits : Nat := 512 * 1024 * 1024 * 8

/-- Source: `cmd_bitmap_bitfield.rs` `parse_bitfield_offset` -/
def parseBitfieldOffset (raw : Bytes) (encoding : BitfieldEncoding) : Option Nat :=
  if !validUtf8 raw then none
  else
    let offset := match raw with
      | 35 :: rest => ((parseNat rest).filter (· < 2 ^ 64)).bind fun multiplier =>
        if multiplier * encoding.bits < 2 ^ 64 then some (multiplier * encoding.bits) else none
      | _ => (parseNat raw).filter (· < 2 ^ 64)
    offset.filter fun offset =>
      offset + encoding.bits < 2 ^ 64 && offset + encoding.bits ≤ maxBitfieldBits

/-! ## Machine arithmetic -/

/-- The extension of the sign of a field to 64 bits.
Source: `cmd_bitmap_bitfield.rs` `read_bits`, and again `apply_overflow` -/
def signExtend (value : UInt64) (bits : Nat) : UInt64 :=
  let signBit : UInt64 := 1 <<< UInt64.ofNat (bits - 1)
  if value &&& signBit ≠ 0 then value ||| ~~~((1 <<< UInt64.ofNat bits) - 1) else value

/-- Source: `cmd_bitmap_bitfield.rs` `read_bits` -/
def readBits (data : Bytes) (bitOffset bits : Nat) (signed : Bool) : Int64 :=
  let value : UInt64 := (List.range bits).foldl
    (fun value i => (value <<< 1) ||| UInt64.ofNat (getBit data (bitOffset + i))) 0
  (if signed && bits < 64 then signExtend value bits else value).toInt64

/-- Source: `cmd_bitmap_bitfield.rs` `write_bits` -/
def writeBits (data : Bytes) (bitOffset bits : Nat) (value : Int64) : Bytes :=
  let raw := value.toUInt64
  (List.range bits).foldl (fun data i =>
    setBit data (bitOffset + i) ((raw >>> UInt64.ofNat (bits - 1 - i)) &&& 1).toUInt8) data

/-- Source: `cmd_bitmap_bitfield.rs` `apply_overflow` -/
def applyOverflow (value : Int64) (encoding : BitfieldEncoding) (overflow : BitfieldOverflow) :
    Option Int64 :=
  let bits := encoding.bits
  if encoding.signed then
    let min : Int64 := if bits = 64 then Int64.minValue else -(1 <<< Int64.ofNat (bits - 1))
    let max : Int64 := if bits = 64 then Int64.maxValue else (1 <<< Int64.ofNat (bits - 1)) - 1
    if min ≤ value ∧ value ≤ max then some value
    else match overflow with
      | .fail => none
      | .sat => if value < min then some min else some max
      | .wrap =>
        if bits = 64 then some value
        else
          let v : UInt64 := value.toUInt64 &&& ((1 <<< UInt64.ofNat bits) - 1)
          some (signExtend v bits).toInt64
  else
    -- an unsigned encoding has fewer than 64 bits
    let max : UInt64 := (1 <<< UInt64.ofNat bits) - 1
    let unsignedVal := value.toUInt64
    if unsignedVal &&& max = unsignedVal ∧ 0 ≤ value then some value
    else if 0 ≤ value ∧ unsignedVal ≤ max then some value
    else match overflow with
      | .fail => none
      | .sat => if value < 0 then some 0 else some max.toInt64
      | .wrap => some (unsignedVal &&& max).toInt64

/-! ## The command -/

/-- One operation: the string, the reply, and whether the string was written.
Source: `cmd_bitmap_bitfield.rs` `cmd_bitfield` -/
def BitfieldOp.run (overflow : BitfieldOverflow) : BitfieldOp → Bytes → Bytes × Option Int64 × Bool
  | .get e offset, data => (data, some (readBits data offset e.bits e.signed), false)
  | .set e offset value, data =>
    let oldVal := readBits data offset e.bits e.signed
    match applyOverflow value e overflow with
    | some newVal => (writeBits data offset e.bits newVal, some oldVal, true)
    | none => (data, none, false)
  | .incrBy e offset increment, data =>
    let current := readBits data offset e.bits e.signed
    match applyOverflow (current + increment) e overflow with
    | some newVal => (writeBits data offset e.bits newVal, some newVal, true)
    | none => (data, none, false)

/-- The operations in order.
Source: `cmd_bitmap_bitfield.rs` `cmd_bitfield` -/
def runBitfield : List (BitfieldOp × BitfieldOverflow) → Bytes → Bytes × List (Option Int64) × Bool
  | [], data => (data, [], false)
  | (op, overflow) :: ops, data =>
    let (data, reply, modified) := op.run overflow data
    let (data, replies, modifiedLater) := runBitfield ops data
    (data, reply :: replies, modified || modifiedLater)

/-- The text of an encoding that does not parse. -/
def bitfieldTypeText : Bytes :=
  ascii "ERR Invalid bitfield type. Use something like i8 u8 i16 u16 i32 u32 i64 etc."

/-- Source: `cmd_bitmap_bitfield.rs` `cmd_bitfield`, the overflow modes -/
def parseBitfieldOverflow (raw : Bytes) : Except Bytes BitfieldOverflow :=
  if eqIgnoreCase raw "WRAP" then .ok .wrap
  else if eqIgnoreCase raw "SAT" then .ok .sat
  else if eqIgnoreCase raw "FAIL" then .ok .fail
  else .error (ascii "ERR Invalid OVERFLOW type (should be one of WRAP, SAT, FAIL)")

/-- An encoding and an offset in it. -/
def parseBitfieldPlace (encodingRaw offsetRaw : Bytes) : Except Bytes (BitfieldEncoding × Nat) :=
  match parseBitfieldEncoding encodingRaw with
  | none => .error bitfieldTypeText
  | some encoding =>
    match parseBitfieldOffset offsetRaw encoding with
    | none => .error bitOffsetText
    | some offset => .ok (encoding, offset)

/-- An encoding, an offset in it and an operand. -/
def parseBitfieldOperand (encodingRaw offsetRaw valueRaw : Bytes) :
    Except Bytes (BitfieldEncoding × Nat × Int64) :=
  match parseBitfieldPlace encodingRaw offsetRaw with
  | .error text => .error text
  | .ok (encoding, offset) =>
    match parseI64 valueRaw with
    | none => .error notIntegerText
    | some value => .ok (encoding, offset, value)

/-- The loop over the arguments.
Source: `cmd_bitmap_bitfield.rs` `cmd_bitfield` -/
def parseBitfieldOps :
    List Bytes → BitfieldOverflow → Except Bytes (List (BitfieldOp × BitfieldOverflow))
  | [], _ => .ok []
  | word :: rest, overflow =>
    if eqIgnoreCase word "GET" then
      match rest with
      | encodingRaw :: offsetRaw :: rest => do
        let (encoding, offset) ← parseBitfieldPlace encodingRaw offsetRaw
        let ops ← parseBitfieldOps rest overflow
        return (.get encoding offset, overflow) :: ops
      | _ => .error syntaxErrorText
    else if eqIgnoreCase word "SET" then
      match rest with
      | encodingRaw :: offsetRaw :: valueRaw :: rest => do
        let (encoding, offset, value) ← parseBitfieldOperand encodingRaw offsetRaw valueRaw
        let ops ← parseBitfieldOps rest overflow
        return (.set encoding offset value, overflow) :: ops
      | _ => .error syntaxErrorText
    else if eqIgnoreCase word "INCRBY" then
      match rest with
      | encodingRaw :: offsetRaw :: valueRaw :: rest => do
        let (encoding, offset, value) ← parseBitfieldOperand encodingRaw offsetRaw valueRaw
        let ops ← parseBitfieldOps rest overflow
        return (.incrBy encoding offset value, overflow) :: ops
      | _ => .error syntaxErrorText
    else if eqIgnoreCase word "OVERFLOW" then
      match rest with
      | raw :: rest => do
        let overflow ← parseBitfieldOverflow raw
        parseBitfieldOps rest overflow
      | [] => .error syntaxErrorText
    else .error syntaxErrorText

/-- The reply to one operation. -/
def bitfieldFrame : Option Int64 → RespFrame
  | some value => .integer value
  | none => .bulkString none

/-- A string edited in place, with its expiry; a missing key is the empty string, and stored if it
was modified. None if the value is of another type.
Source: `keyspace.rs` `DbWriteGuard::mutate_string` -/
def mutateString {ρ : Type} (db : Db) (key : Bytes) (f : Bytes → Bytes × ρ × Bool) :
    Option (Db × ρ) :=
  match db.lookup key with
  | none =>
    let (data, result, modified) := f []
    some (if modified then db.insert key (newEntry (.string data) none) else db, result)
  | some entry =>
    (asStringBytes entry).map fun data =>
      let (data, result, modified) := f data
      (if modified then db.insert key { entry with value := .string data } else db, result)

/-- Source: `cmd_bitmap_bitfield.rs` `cmd_bitfield` -/
def cmdBitfield (err : Bytes → RespFrame) (args : List Bytes) (now : Int64) (db : Db) :
    Db × RespFrame :=
  match args with
  | [] => (db, err (wrongArityText (ascii "bitfield")))
  | key :: rest =>
    match parseBitfieldOps rest .wrap with
    | .error text => (db, err text)
    | .ok ops =>
      let db := purgeExpiredKey db key now
      match mutateString db key (runBitfield ops) with
      | none => (db, wrongtype)
      | some (db, replies) => (db, .array (replies.map bitfieldFrame))

/-! ## What the operations should do -/

namespace BitfieldEncoding

variable (e : BitfieldEncoding)

/-- The least integer of the type. -/
def least : Int := if e.signed then -2 ^ (e.bits - 1) else 0

/-- The greatest integer of the type. -/
def greatest : Int := if e.signed then 2 ^ (e.bits - 1) - 1 else 2 ^ e.bits - 1

/-- The integer of the type that is the same modulo two to the width. -/
def reduce (r : Int) : Int := if e.signed then r.bmod (2 ^ e.bits) else r % (2 ^ e.bits : Nat)

/-- The integer held in a field. -/
def held (bits : Nat → Bool) (offset : Nat) : Int := e.reduce (field bits offset e.bits)

/-- What is stored for a result: itself if the type has it, and otherwise what the mode says. -/
def resolve (overflow : BitfieldOverflow) (r : Int) : Option Int :=
  if e.least ≤ r ∧ r ≤ e.greatest then some r
  else match overflow with
    | .wrap => some (e.reduce r)
    | .sat => some (max e.least (min r e.greatest))
    | .fail => none

/-- The stream with an integer in a field. -/
def store (bits : Nat → Bool) (offset : Nat) (r : Int) : Nat → Bool :=
  put bits offset e.bits (r % (2 ^ e.bits : Nat)).toNat

end BitfieldEncoding

/-- One operation in integers: the stream, and the reply. -/
def BitfieldOp.exact (overflow : BitfieldOverflow) :
    BitfieldOp → (Nat → Bool) → (Nat → Bool) × Option Int
  | .get e offset, bits => (bits, some (e.held bits offset))
  | .set e offset value, bits =>
    match e.resolve overflow value.toInt with
    | some r => (e.store bits offset r, some (e.held bits offset))
    | none => (bits, none)
  | .incrBy e offset increment, bits =>
    match e.resolve overflow (e.held bits offset + increment.toInt) with
    | some r => (e.store bits offset r, some r)
    | none => (bits, none)

/-- The operations in order, in integers. -/
def exactRun :
    List (BitfieldOp × BitfieldOverflow) → (Nat → Bool) → (Nat → Bool) × List (Option Int)
  | [], bits => (bits, [])
  | (op, overflow) :: ops, bits =>
    let (bits, reply) := op.exact overflow bits
    let (bits, replies) := exactRun ops bits
    (bits, reply :: replies)

/-- The operation adds past 64 bits where the sum decides: it saturates, or fails in a field of 64
bits. -/
def BitfieldOp.LosesCarry (overflow : BitfieldOverflow) : BitfieldOp → (Nat → Bool) → Prop
  | .incrBy e offset increment, bits =>
    ¬ (-2 ^ 63 ≤ e.held bits offset + increment.toInt ∧
        e.held bits offset + increment.toInt < 2 ^ 63) ∧
      (overflow = .sat ∨ overflow = .fail ∧ e.bits = 64)
  | _, _ => False

/-- Some operation of the run does. -/
def LosesCarry : List (BitfieldOp × BitfieldOverflow) → (Nat → Bool) → Prop
  | [], _ => False
  | (op, overflow) :: ops, bits =>
    op.LosesCarry overflow bits ∨ LosesCarry ops (op.exact overflow bits).1

/-- The string that a command finds at a key, empty if the key is missing. None if the value is of
another type. -/
def storedString (now : Int64) (db : Db) (key : Bytes) : Option Bytes :=
  match liveLookup now db key with
  | none => some []
  | some entry => asStringBytes entry

/-- The command does what its operations should do to the string it finds: the string it leaves,
and the replies. -/
def BitfieldExact (err : Bytes → RespFrame) (key : Bytes) (rest : List Bytes) (now : Int64)
    (db : Db) (ops : List (BitfieldOp × BitfieldOverflow)) (data : Bytes) : Prop :=
  (storedString now (cmdBitfield err (key :: rest) now db).1 key).map bitsOf =
      some (exactRun ops (bitsOf data)).1 ∧
    ∃ replies : List (Option Int64),
      (cmdBitfield err (key :: rest) now db).2 = .array (replies.map bitfieldFrame) ∧
        replies.map (Option.map Int64.toInt) = (exactRun ops (bitsOf data)).2

/-! ## The bits -/

section stream
variable (data : Bytes)

lemma bitsOf_eq (i : Nat) :
    bitsOf data i = (data[i / 8]?).any fun byte => byte.toNat.testBit (7 - i % 8) := by
  rw [bitsOf, getBit]
  cases data[i / 8]? with
  | none => rfl
  | some byte => simp [Nat.testBit_eq_decide_div_mod_eq, beq_eq_decide]

lemma getBit_eq (i : Nat) : getBit data i = (bitsOf data i).toNat := by
  have hle : getBit data i < 2 := by
    rw [getBit]
    cases data[i / 8]? with
    | none => exact Nat.zero_lt_two
    | some byte => exact Nat.mod_lt _ Nat.zero_lt_two
  rw [bitsOf]
  generalize getBit data i = bit at hle
  obtain rfl | rfl : bit = 0 ∨ bit = 1 := by omega
  all_goals rfl

/-- Zero bytes behind a string do not show. -/
lemma bitsOf_padTo (length : Nat) : bitsOf (padTo data length) = bitsOf data := by
  funext i
  rw [bitsOf_eq, bitsOf_eq, padTo, List.getElem?_append, List.getElem?_replicate]
  split_ifs with hin hpad
  · rfl
  · rw [List.getElem?_eq_none (by omega)]
    simp
  · rw [List.getElem?_eq_none (by omega)]

lemma length_padTo (length : Nat) : length ≤ (padTo data length).length := by
  rw [padTo, List.length_append, List.length_replicate]
  omega

lemma testBit_mask {k : Nat} (hk : k < 8) (j : Nat) :
    ((1 : UInt8) <<< UInt8.ofNat k).toNat.testBit j = decide (k = j) := by
  have hmask : ((1 : UInt8) <<< UInt8.ofNat k).toNat = 2 ^ k := by
    revert k
    decide
  rw [hmask, Nat.testBit_two_pow]

/-- The byte that `set_bit` writes. -/
lemma testBit_setBit {k : Nat} (hk : k < 8) (byte value : UInt8) {j : Nat} (hj : j < 8) :
    (if value ≠ 0 then byte ||| (1 <<< UInt8.ofNat k)
      else byte &&& ~~~(1 <<< UInt8.ofNat k)).toNat.testBit j =
      if k = j then value != 0 else byte.toNat.testBit j := by
  by_cases hvalue : value = 0
  · rw [if_neg (not_not.mpr hvalue), UInt8.toNat_and, Nat.testBit_and, UInt8.toNat_not]
    have hnot : (UInt8.size - 1 - ((1 : UInt8) <<< UInt8.ofNat k).toNat).testBit j =
        !decide (k = j) := by
      revert k j
      decide
    rw [hnot, hvalue]
    by_cases hkj : k = j <;> simp [hkj]
  · rw [if_pos hvalue, UInt8.toNat_or, Nat.testBit_or, testBit_mask hk]
    by_cases hkj : k = j <;> simp [hkj, hvalue]

/-- Setting a bit changes that bit only. -/
lemma bitsOf_setBit (offset : Nat) (value : UInt8) (i : Nat) :
    bitsOf (setBit data offset value) i = if i = offset then value != 0 else bitsOf data i := by
  rw [bitsOf_eq, setBit, List.getElem?_modify, ← bitsOf_padTo data (offset / 8 + 1), bitsOf_eq]
  have hlen := length_padTo data (offset / 8 + 1)
  by_cases hbyte : offset / 8 = i / 8
  · obtain ⟨byte, hget⟩ : ∃ byte, (padTo data (offset / 8 + 1))[i / 8]? = some byte :=
      ⟨_, List.getElem?_eq_getElem (by omega)⟩
    have hplace : (7 - offset % 8 = 7 - i % 8) ↔ i = offset := by omega
    rw [hget, Option.map_eq_map, Option.map_some, Option.any_some, Option.any_some, if_pos hbyte,
      testBit_setBit (by omega) byte value (by omega)]
    simp only [hplace]
  · have hne : i ≠ offset := by
      rintro rfl
      exact hbyte rfl
    simp [hbyte, hne]

end stream

/-! ## Reading -/

section reading

/-- The loop of the read builds the field. -/
lemma toNat_readLoop (data : Bytes) (offset : Nat) {n : Nat} (hn : n ≤ 64) :
    ((List.range n).foldl (fun (value : UInt64) i =>
      (value <<< 1) ||| UInt64.ofNat (getBit data (offset + i))) 0).toNat =
      field (bitsOf data) offset n := by
  induction n with
  | zero => rfl
  | succ n ih =>
    have hlt : field (bitsOf data) offset n < 2 ^ 63 :=
      (field_lt (bitsOf data) offset n).trans_le (Nat.pow_le_pow_right (by decide) (by omega))
    have hbit := (bitsOf data (offset + n)).toNat_le
    rw [List.range_succ, List.foldl_append, List.foldl_cons, List.foldl_nil, UInt64.toNat_or,
      UInt64.toNat_shiftLeft, ih (by omega), getBit_eq, field]
    have hone : (1 : UInt64).toNat % 64 = 1 := rfl
    rw [hone, UInt64.toNat_ofNat', Nat.mod_eq_of_lt (by omega : (bitsOf data _).toNat < 2 ^ 64),
      Nat.shiftLeft_eq, Nat.mod_eq_of_lt (by omega), Nat.mul_comm]
    exact (Nat.two_pow_add_eq_or_of_lt (i := 1) (by omega) _).symm

lemma toNat_one_shiftLeft {k : Nat} (hk : k < 64) :
    ((1 : UInt64) <<< UInt64.ofNat k).toNat = 2 ^ k := by
  revert k
  decide

lemma toNat_mask {k : Nat} (hk : k < 64) :
    (((1 : UInt64) <<< UInt64.ofNat k) - 1).toNat = 2 ^ k - 1 := by
  revert k
  decide

lemma toInt_toInt64 (v : UInt64) : v.toInt64.toInt = Int.bmod v.toNat (2 ^ 64) := by
  rw [← Int64.toInt_toBitVec, UInt64.toBitVec_toInt64, BitVec.toInt_eq_toNat_bmod]
  rfl

lemma toNat_toUInt64 (v : Int64) : (v.toUInt64.toNat : Int) = v.toInt % (2 ^ 64 : Nat) := by
  have h := BitVec.toInt_eq_toNat_bmod v.toBitVec
  rw [← Int64.toInt_toBitVec, h, Int.bmod_emod]
  symm
  exact Int.emod_eq_of_lt (by omega) (by exact_mod_cast v.toBitVec.isLt)

/-- The signed representative of a number below the modulus. -/
lemma bmod_double {p v : Nat} (hv : v < 2 * p) :
    Int.bmod v (2 * p) = if p ≤ v then (v : Int) - (2 * p : Nat) else v := by
  rw [Int.bmod_def, Int.emod_eq_of_lt (by omega) (by exact_mod_cast hv)]
  push_cast
  split_ifs <;> omega

lemma toInt_toInt64_of_lt {v : UInt64} (hv : v.toNat < 2 ^ 63) : v.toInt64.toInt = v.toNat := by
  rw [toInt_toInt64]
  exact Int.bmod_eq_of_le (by omega) (by omega)

/-- The upper bits, and below them the field. -/
lemma toNat_or_not_mask {v : UInt64} {bits : Nat} (hbits : bits < 64) (hv : v.toNat < 2 ^ bits) :
    (v ||| ~~~((1 <<< UInt64.ofNat bits) - 1)).toNat = 2 ^ 64 - 2 ^ bits + v.toNat := by
  have hpos : 0 < 2 ^ bits := Nat.two_pow_pos bits
  have hsize : UInt64.size = 2 ^ 64 := rfl
  have hsplit : 2 ^ 64 - 2 ^ bits = 2 ^ bits * (2 ^ (64 - bits) - 1) := by
    rw [Nat.mul_sub, ← pow_add, Nat.add_sub_cancel' hbits.le, mul_one]
  have hnot : (~~~(((1 : UInt64) <<< UInt64.ofNat bits) - 1)).toNat =
      2 ^ bits * (2 ^ (64 - bits) - 1) := by
    rw [UInt64.toNat_not, toNat_mask hbits, ← hsplit, hsize]
    omega
  rw [UInt64.toNat_or, hnot, Nat.or_comm, ← Nat.two_pow_add_eq_or_of_lt hv, hsplit]

/-- Extending the sign is reducing to the signed representative. -/
lemma toInt_signExtend {v : UInt64} {bits : Nat} (hpos : 1 ≤ bits) (hbits : bits < 64)
    (hv : v.toNat < 2 ^ bits) :
    (signExtend v bits).toInt64.toInt = Int.bmod v.toNat (2 ^ bits) := by
  obtain ⟨k, rfl⟩ : ∃ k, bits = k + 1 := ⟨bits - 1, by omega⟩
  have hpow : 2 ^ (k + 1) = 2 * 2 ^ k := by ring
  have hle : 2 * 2 ^ k ≤ 2 ^ 63 := by
    rw [← hpow]
    exact Nat.pow_le_pow_right (by decide) (by omega)
  have hsign : (v &&& (1 <<< UInt64.ofNat k) ≠ 0) ↔ 2 ^ k ≤ v.toNat := by
    rw [ne_eq, ← UInt64.toNat_inj, UInt64.toNat_and, toNat_one_shiftLeft (by omega),
      Nat.and_two_pow]
    by_cases hlow : v.toNat < 2 ^ k
    · simp [Nat.testBit_lt_two_pow hlow, hlow]
    · have hbit : v.toNat.testBit k = true :=
        Nat.testBit_of_two_pow_le_and_two_pow_add_one_gt (by omega) hv
      simp [hbit, not_lt.mp hlow]
  rw [signExtend, Nat.add_sub_cancel, hpow, bmod_double (hpow ▸ hv)]
  by_cases hhigh : 2 ^ k ≤ v.toNat
  · have hmodulus : (2 : Nat) ^ 64 = 2 * 2 ^ 63 := rfl
    rw [if_pos (hsign.mpr hhigh), if_pos hhigh, toInt_toInt64, toNat_or_not_mask hbits hv,
      hmodulus, bmod_double (by omega), if_pos (by omega)]
    omega
  · rw [if_neg (mt hsign.mp hhigh), if_neg hhigh, toInt_toInt64_of_lt (by omega)]

end reading

section encodings
variable (e : BitfieldEncoding)

namespace BitfieldEncoding

lemma bits_le : e.bits ≤ 64 := by
  have h := e.valid.2
  split at h <;> omega

lemma bits_lt (h : e.signed = false) : e.bits < 64 := by
  have hle := e.valid.2
  rw [if_neg (by simp [h])] at hle
  omega

lemma reduce_signed (h : e.signed = true) (r : Int) : e.reduce r = r.bmod (2 ^ e.bits) :=
  if_pos h

lemma reduce_unsigned (h : e.signed = false) (r : Int) : e.reduce r = r % (2 ^ e.bits : Nat) :=
  if_neg (by simp [h])

/-- Only the number modulo two to the width matters. -/
lemma reduce_congr {r r' : Int} (h : r % (2 ^ e.bits : Nat) = r' % (2 ^ e.bits : Nat)) :
    e.reduce r = e.reduce r' := by
  rw [reduce, reduce]
  split
  · rw [← Int.emod_bmod, h, Int.emod_bmod]
  · exact h

end BitfieldEncoding

lemma two_pow_bits (e : BitfieldEncoding) : 2 ^ e.bits = 2 * 2 ^ (e.bits - 1) := by
  rw [← pow_succ', Nat.sub_add_cancel e.valid.1]

/-- **A field is read as the integer it holds.** -/
theorem toInt_readBits (data : Bytes) (offset : Nat) :
    (readBits data offset e.bits e.signed).toInt = e.held (bitsOf data) offset := by
  have hlt := field_lt (bitsOf data) offset e.bits
  have hloop := toNat_readLoop data offset e.bits_le
  rw [readBits, BitfieldEncoding.held]
  cases hs : e.signed with
  | true =>
    rw [e.reduce_signed hs]
    by_cases hfull : e.bits = 64
    · rw [if_neg (by simp [hfull]), toInt_toInt64, hloop, hfull]
    · have hnarrow : e.bits < 64 := lt_of_le_of_ne e.bits_le hfull
      rw [if_pos (by simp [hnarrow]), toInt_signExtend e.valid.1 hnarrow (hloop ▸ hlt), hloop]
  | false =>
    have hle : 2 ^ e.bits ≤ 2 ^ 63 :=
      Nat.pow_le_pow_right (by decide) (Nat.le_of_lt_succ (e.bits_lt hs))
    rw [e.reduce_unsigned hs, if_neg (by simp), toInt_toInt64_of_lt (by omega), hloop]
    exact (Int.emod_eq_of_lt (by omega) (by exact_mod_cast hlt)).symm

/-! ## Writing -/

lemma bit_of_raw (raw : UInt64) {k : Nat} (hk : k < 64) :
    (((raw >>> UInt64.ofNat k) &&& 1).toUInt8 != 0) = raw.toNat.testBit k := by
  have hk' : (UInt64.ofNat k).toNat = k := Nat.mod_eq_of_lt (by omega)
  have hbit : ((raw >>> UInt64.ofNat k) &&& 1).toUInt8.toNat = raw.toNat / 2 ^ k % 2 := by
    rw [UInt64.toNat_toUInt8, UInt64.toNat_and, UInt64.toNat_shiftRight, hk', Nat.mod_eq_of_lt hk,
      UInt64.toNat_one, Nat.and_one_is_mod, Nat.shiftRight_eq_div_pow]
    omega
  rw [Bool.eq_iff_iff, bne_iff_ne, ne_eq, ← UInt8.toNat_inj, hbit,
    Nat.testBit_eq_decide_div_mod_eq, decide_eq_true_iff, UInt8.toNat_zero]
  omega

/-- The loop of the write sets the bits of the field. -/
lemma bitsOf_writeLoop (data : Bytes) (offset bits : Nat) (raw : UInt64) (hbits : bits ≤ 64)
    {n : Nat} (hn : n ≤ bits) (i : Nat) :
    bitsOf ((List.range n).foldl (fun data i =>
      setBit data (offset + i) ((raw >>> UInt64.ofNat (bits - 1 - i)) &&& 1).toUInt8) data) i =
      if offset ≤ i ∧ i < offset + n then raw.toNat.testBit (bits - 1 - (i - offset))
      else bitsOf data i := by
  induction n with
  | zero => simp
  | succ n ih =>
    rw [List.range_succ, List.foldl_append, List.foldl_cons, List.foldl_nil, bitsOf_setBit,
      ih (by omega), bit_of_raw raw (by omega)]
    by_cases hi : i = offset + n
    · rw [if_pos hi, if_pos (by omega), hi, Nat.add_sub_cancel_left]
    · have hiff : (offset ≤ i ∧ i < offset + n) ↔ (offset ≤ i ∧ i < offset + (n + 1)) := by
        omega
      simp only [hi, if_false, hiff]

/-- **A number is written into its field, and nowhere else.** -/
theorem bitsOf_writeBits (data : Bytes) (offset : Nat) (value : Int64) :
    bitsOf (writeBits data offset e.bits value) = e.store (bitsOf data) offset value.toInt := by
  have hput : bitsOf (writeBits data offset e.bits value) =
      put (bitsOf data) offset e.bits value.toUInt64.toNat := by
    funext i
    exact bitsOf_writeLoop data offset e.bits value.toUInt64 e.bits_le le_rfl i
  have hdvd : ((2 ^ e.bits : Nat) : Int) ∣ (2 ^ 64 : Nat) :=
    Int.natCast_dvd_natCast.mpr (Nat.pow_dvd_pow 2 e.bits_le)
  have hmod : (value.toInt % (2 ^ e.bits : Nat)).toNat = value.toUInt64.toNat % 2 ^ e.bits := by
    rw [← Int.emod_emod_of_dvd value.toInt hdvd, ← toNat_toUInt64, ← Int.natCast_mod,
      Int.toNat_natCast]
  rw [hput, BitfieldEncoding.store, hmod, put_mod]

/-! ## Overflow -/

lemma toInt_one_shiftLeft {k : Nat} (hk : k < 63) :
    ((1 : Int64) <<< Int64.ofNat k).toInt = 2 ^ k ∧
      (-((1 : Int64) <<< Int64.ofNat k)).toInt = -2 ^ k ∧
      (((1 : Int64) <<< Int64.ofNat k) - 1).toInt = 2 ^ k - 1 := by
  revert k
  decide

/-- The bounds that `apply_overflow` computes for a signed field. -/
lemma toInt_bounds (hs : e.signed = true) :
    (if e.bits = 64 then Int64.minValue else -(1 <<< Int64.ofNat (e.bits - 1))).toInt = e.least ∧
      (if e.bits = 64 then Int64.maxValue else (1 <<< Int64.ofNat (e.bits - 1)) - 1).toInt =
        e.greatest := by
  rw [BitfieldEncoding.least, BitfieldEncoding.greatest, if_pos hs, if_pos hs]
  by_cases hfull : e.bits = 64
  · rw [if_pos hfull, if_pos hfull, hfull]
    exact ⟨rfl, rfl⟩
  · have hpos := e.valid.1
    have hle := e.bits_le
    rw [if_neg hfull, if_neg hfull]
    exact (toInt_one_shiftLeft (by omega)).2

lemma least_lt_greatest : e.least < e.greatest := by
  have hhalf : (1 : Int) ≤ 2 ^ (e.bits - 1) := one_le_pow₀ (by decide)
  have hpow : (2 : Int) ^ e.bits = 2 * 2 ^ (e.bits - 1) := by exact_mod_cast two_pow_bits e
  rw [BitfieldEncoding.least, BitfieldEncoding.greatest]
  split <;> omega

lemma toNat_and_mask (value : Int64) {bits : Nat} (hbits : bits < 64) :
    (value.toUInt64 &&& ((1 <<< UInt64.ofNat bits) - 1)).toNat =
      value.toInt % (2 ^ bits : Nat) := by
  have hdvd : ((2 ^ bits : Nat) : Int) ∣ (2 ^ 64 : Nat) :=
    Int.natCast_dvd_natCast.mpr (Nat.pow_dvd_pow 2 hbits.le)
  rw [UInt64.toNat_and, toNat_mask hbits, Nat.and_two_pow_sub_one_eq_mod, Int.natCast_mod,
    toNat_toUInt64, Int.emod_emod_of_dvd _ hdvd]

variable {e} in
lemma resolve_inside {r : Int} (h : e.least ≤ r ∧ r ≤ e.greatest) (overflow : BitfieldOverflow) :
    e.resolve overflow r = some r := if_pos h

variable {e} in
lemma resolve_outside {r : Int} (h : ¬ (e.least ≤ r ∧ r ≤ e.greatest))
    (overflow : BitfieldOverflow) :
    e.resolve overflow r = match overflow with
      | .wrap => some (e.reduce r)
      | .sat => some (max e.least (min r e.greatest))
      | .fail => none := if_neg h

/-- Overflow of a signed field. -/
lemma applyOverflow_signed (hs : e.signed = true) (overflow : BitfieldOverflow) (value : Int64) :
    (applyOverflow value e overflow).map Int64.toInt = e.resolve overflow value.toInt := by
  obtain ⟨hmin, hmax⟩ := toInt_bounds e hs
  have hlt := least_lt_greatest e
  rw [applyOverflow, if_pos hs]
  simp only [Int64.le_iff_toInt_le, Int64.lt_iff_toInt_lt, hmin, hmax]
  by_cases hin : e.least ≤ value.toInt ∧ value.toInt ≤ e.greatest
  · rw [if_pos hin, resolve_inside hin]
    rfl
  rw [if_neg hin, resolve_outside hin]
  cases overflow with
  | fail => rfl
  | sat =>
    dsimp only
    by_cases hlow : value.toInt < e.least
    · rw [if_pos hlow, Option.map_some, hmin, min_eq_left (by omega), max_eq_left hlow.le]
    · rw [if_neg hlow, Option.map_some, hmax, min_eq_right (by omega), max_eq_right hlt.le]
  | wrap =>
    dsimp only
    by_cases hfull : e.bits = 64
    · -- every number is in the range of 64 bits
      refine absurd ?_ hin
      rw [← hmin, ← hmax, if_pos hfull, if_pos hfull]
      exact ⟨value.minValue_le_toInt, value.toInt_le⟩
    · have hnarrow : e.bits < 64 := lt_of_le_of_ne e.bits_le hfull
      have hmask := toNat_and_mask value hnarrow
      have hfield :
          (value.toUInt64 &&& ((1 <<< UInt64.ofNat e.bits) - 1)).toNat < 2 ^ e.bits := by
        have hmod := Int.emod_lt_of_pos value.toInt (b := (2 ^ e.bits : Nat)) (by positivity)
        omega
      rw [if_neg hfull, Option.map_some, toInt_signExtend e.valid.1 hnarrow hfield, hmask,
        Int.emod_bmod, e.reduce_signed hs]

/-- Overflow of an unsigned field. -/
lemma applyOverflow_unsigned (hs : e.signed = false) (overflow : BitfieldOverflow)
    (value : Int64) :
    (applyOverflow value e overflow).map Int64.toInt = e.resolve overflow value.toInt := by
  have hbits := e.bits_lt hs
  have hmask := toNat_and_mask value hbits
  have hle : 2 ^ e.bits ≤ 2 ^ 63 :=
    Nat.pow_le_pow_right (by decide) (Nat.le_of_lt_succ hbits)
  have hbounds : e.least = 0 ∧ e.greatest = (2 ^ e.bits : Nat) - 1 := by
    rw [BitfieldEncoding.least, BitfieldEncoding.greatest, hs]
    exact ⟨rfl, by push_cast; rfl⟩
  have hunsigned : 0 ≤ value.toInt → (value.toUInt64.toNat : Int) = value.toInt := by
    intro hpos
    have hlt := value.toInt_lt
    rw [toNat_toUInt64, Int.emod_eq_of_lt hpos (by omega)]
  have hpow : 0 < 2 ^ e.bits := Nat.two_pow_pos e.bits
  rw [applyOverflow, if_neg (by simp [hs])]
  simp only [Int64.le_iff_toInt_le, Int64.lt_iff_toInt_lt, UInt64.le_iff_toNat_le,
    ← UInt64.toNat_inj, toNat_mask hbits, Int64.toInt_zero]
  by_cases hin : e.least ≤ value.toInt ∧ value.toInt ≤ e.greatest
  · rw [resolve_inside hin]
    rw [hbounds.1, hbounds.2] at hin
    have hmasked : value.toInt % (2 ^ e.bits : Nat) = value.toInt :=
      Int.emod_eq_of_lt hin.1 (by omega)
    rw [if_pos ⟨by have := hunsigned hin.1; omega, hin.1⟩]
    rfl
  rw [resolve_outside hin]
  rw [hbounds.1, hbounds.2] at hin
  have hmod := Int.emod_lt_of_pos value.toInt (b := (2 ^ e.bits : Nat)) (by positivity)
  rw [if_neg, if_neg]
  · cases overflow with
    | fail => rfl
    | sat =>
      dsimp only
      rw [hbounds.1, hbounds.2]
      by_cases hneg : value.toInt < 0
      · rw [if_pos hneg, min_eq_left (by omega), max_eq_left hneg.le]
        rfl
      · rw [if_neg hneg, Option.map_some, toInt_toInt64_of_lt (by rw [toNat_mask hbits]; omega),
          toNat_mask hbits, min_eq_right (by omega), max_eq_right (by omega)]
        congr 1
        omega
    | wrap =>
      rw [Option.map_some, toInt_toInt64_of_lt (by omega), hmask, e.reduce_unsigned hs]
  · rintro ⟨hpos, hfits⟩
    have := hunsigned hpos
    omega
  · rintro ⟨hmasked, hpos⟩
    have := hunsigned hpos
    omega

/-- **Each mode stores what it stands for.** -/
theorem resolve_applyOverflow (overflow : BitfieldOverflow) (value : Int64) :
    (applyOverflow value e overflow).map Int64.toInt = e.resolve overflow value.toInt := by
  cases hs : e.signed with
  | true => exact applyOverflow_signed e hs overflow value
  | false => exact applyOverflow_unsigned e hs overflow value

/-! ## One operation -/

/-- A reduced number is in the range. -/
lemma reduce_mem (r : Int) : e.least ≤ e.reduce r ∧ e.reduce r ≤ e.greatest := by
  have hpow := two_pow_bits e
  have hpos : 0 < 2 ^ (e.bits - 1) := Nat.two_pow_pos _
  rw [BitfieldEncoding.least, BitfieldEncoding.greatest]
  cases hs : e.signed with
  | true =>
    rw [e.reduce_signed hs, hpow]
    have hlow := Int.le_bmod (x := r) (m := 2 * 2 ^ (e.bits - 1)) (by omega)
    have hhigh := Int.bmod_lt (x := r) (m := 2 * 2 ^ (e.bits - 1)) (by omega)
    push_cast at hlow hhigh ⊢
    simp only [if_true]
    omega
  | false =>
    rw [e.reduce_unsigned hs]
    have hlow := Int.emod_nonneg r (b := (2 ^ e.bits : Nat)) (by positivity)
    have hhigh := Int.emod_lt_of_pos r (b := (2 ^ e.bits : Nat)) (by positivity)
    push_cast at hlow hhigh ⊢
    constructor
    · exact hlow
    · exact Int.le_sub_one_of_lt hhigh

lemma reduce_of_mem {r : Int} (h : e.least ≤ r ∧ r ≤ e.greatest) : e.reduce r = r := by
  have hpow := two_pow_bits e
  rw [BitfieldEncoding.least, BitfieldEncoding.greatest] at h
  cases hs : e.signed with
  | true =>
    rw [hs] at h
    rw [e.reduce_signed hs, hpow]
    refine Int.bmod_eq_of_le ?_ ?_
    all_goals
      push_cast
      simp only [if_true] at h
      omega
  | false =>
    rw [hs] at h
    rw [e.reduce_unsigned hs]
    refine Int.emod_eq_of_lt h.1 ?_
    push_cast
    exact Int.lt_of_le_sub_one h.2

lemma resolve_wrap (r : Int) : e.resolve .wrap r = some (e.reduce r) := by
  by_cases h : e.least ≤ r ∧ r ≤ e.greatest
  · rw [resolve_inside h, reduce_of_mem e h]
  · rw [resolve_outside h]

lemma resolve_sat (r : Int) : e.resolve .sat r = some (max e.least (min r e.greatest)) := by
  by_cases h : e.least ≤ r ∧ r ≤ e.greatest
  · rw [resolve_inside h, min_eq_left h.2, max_eq_right h.1]
  · rw [resolve_outside h]

/-- The types hold no more than 64 bits do; a type of fewer bits, less than half of it on each
side of zero if it is signed. -/
lemma bounds_within :
    (-2 ^ 63 ≤ e.least ∧ e.greatest < 2 ^ 63) ∧
      (e.bits ≠ 64 → (-2 ^ 62 ≤ e.least ∧ e.greatest < 2 ^ 62) ∨ e.least = 0) ∧
      (e.bits = 64 → e.least = -2 ^ 63 ∧ e.greatest = 2 ^ 63 - 1) := by
  have hpos := e.valid.1
  have hbits := e.bits_le
  rw [BitfieldEncoding.least, BitfieldEncoding.greatest]
  cases hs : e.signed with
  | true =>
    have hle : (2 : Int) ^ (e.bits - 1) ≤ 2 ^ 63 := pow_le_pow_right₀ (by decide) (by omega)
    have hnarrow : e.bits ≠ 64 → (2 : Int) ^ (e.bits - 1) ≤ 2 ^ 62 := fun h =>
      pow_le_pow_right₀ (by decide) (by omega)
    have hfull : e.bits = 64 → (2 : Int) ^ (e.bits - 1) = 2 ^ 63 := fun h => by rw [h]
    simp only [if_true]
    omega
  | false =>
    have hlt := e.bits_lt hs
    have hle : (2 : Int) ^ e.bits ≤ 2 ^ 63 := pow_le_pow_right₀ (by decide) (by omega)
    simp only [Bool.false_eq_true, if_false]
    exact ⟨by omega, fun _ => Or.inr trivial, by omega⟩

/-- Adding in 64 bits before the mode is asked is right, unless the sum goes past 64 bits where it
decides. -/
lemma resolve_wrapped_iff (overflow : BitfieldOverflow) (current increment : Int64)
    (hcurrent : e.least ≤ current.toInt ∧ current.toInt ≤ e.greatest) :
    (applyOverflow (current + increment) e overflow).map Int64.toInt =
        e.resolve overflow (current.toInt + increment.toInt) ↔
      ¬ (¬ (-2 ^ 63 ≤ current.toInt + increment.toInt ∧
          current.toInt + increment.toInt < 2 ^ 63) ∧
        (overflow = .sat ∨ overflow = .fail ∧ e.bits = 64)) := by
  obtain ⟨hwithin, hnarrow, hfull⟩ := bounds_within e
  have hbounds := least_lt_greatest e
  have hlow := increment.le_toInt
  have hhigh := increment.toInt_lt
  rw [resolve_applyOverflow, Int64.toInt_add]
  generalize hsum : current.toInt + increment.toInt = sum
  by_cases hfits : -2 ^ 63 ≤ sum ∧ sum < 2 ^ 63
  · rw [Int.bmod_eq_of_le (by omega) (by omega)]
    simp only [hfits, and_self, not_true_eq_false, false_and, not_false_eq_true]
  have hwrapped : sum.bmod (2 ^ 64) = if 0 ≤ sum then sum - 2 ^ 64 else sum + 2 ^ 64 := by
    rw [Int.bmod_def]
    push_cast
    split_ifs <;> omega
  cases overflow with
  | wrap =>
    have hdvd : 2 ^ e.bits ∣ 2 ^ 64 := Nat.pow_dvd_pow 2 e.bits_le
    have hmod : sum.bmod (2 ^ 64) % (2 ^ e.bits : Nat) = sum % (2 ^ e.bits : Nat) := by
      rw [← Int.emod_emod_of_dvd (sum.bmod (2 ^ 64)) (Int.natCast_dvd_natCast.mpr hdvd),
        Int.bmod_emod, Int.emod_emod_of_dvd _ (Int.natCast_dvd_natCast.mpr hdvd)]
    rw [resolve_wrap, resolve_wrap, e.reduce_congr hmod]
    simp
  | sat =>
    simp only [resolve_sat, Option.some.injEq, hfits, not_false_eq_true, true_and, true_or,
      not_true_eq_false, iff_false, hwrapped]
    by_cases hbits : e.bits = 64
    · have hends := hfull hbits
      split_ifs <;> omega
    · have hends := hnarrow hbits
      split_ifs <;> omega
  | fail =>
    have hout : ¬ (e.least ≤ sum ∧ sum ≤ e.greatest) := by omega
    rw [resolve_outside hout, hwrapped]
    by_cases hbits : e.bits = 64
    · have hends := hfull hbits
      rw [resolve_inside (by split_ifs <;> omega)]
      simp only [hfits, hbits, reduceCtorEq, and_self, or_true, not_false_eq_true,
        not_true_eq_false]
    · have hends := hnarrow hbits
      rw [resolve_outside (by split_ifs <;> omega)]
      simp [hbits]

/-- What a field holds is in its range. -/
lemma held_mem (bits : Nat → Bool) (offset : Nat) :
    e.least ≤ e.held bits offset ∧ e.held bits offset ≤ e.greatest := reduce_mem e _

end encodings

section operations
variable (overflow : BitfieldOverflow) (data : Bytes)

/-- The reply to an operation is exact, unless the operation loses a carry. -/
lemma reply_exact_iff (op : BitfieldOp) :
    (op.run overflow data).2.1.map Int64.toInt = (op.exact overflow (bitsOf data)).2 ↔
      ¬ op.LosesCarry overflow (bitsOf data) := by
  cases op with
  | get e offset =>
    simp [BitfieldOp.run, BitfieldOp.exact, BitfieldOp.LosesCarry, toInt_readBits]
  | set e offset value =>
    simp only [BitfieldOp.run, BitfieldOp.exact, BitfieldOp.LosesCarry, not_false_eq_true,
      iff_true, ← resolve_applyOverflow]
    cases applyOverflow value e overflow with
    | none => rfl
    | some newVal => exact congrArg some (toInt_readBits e data offset)
  | incrBy e offset increment =>
    have hheld := toInt_readBits e data offset
    have hiff := resolve_wrapped_iff e overflow (readBits data offset e.bits e.signed) increment
      (hheld ▸ held_mem e (bitsOf data) offset)
    rw [hheld] at hiff
    simp only [BitfieldOp.run, BitfieldOp.exact, BitfieldOp.LosesCarry]
    rw [← hiff]
    generalize e.resolve overflow (e.held (bitsOf data) offset + increment.toInt) = expected
    cases applyOverflow (readBits data offset e.bits e.signed + increment) e overflow <;>
      cases expected <;> simp

/-- An operation with the exact reply leaves the exact string. -/
lemma bitsOf_run {op : BitfieldOp}
    (h : (op.run overflow data).2.1.map Int64.toInt = (op.exact overflow (bitsOf data)).2) :
    bitsOf (op.run overflow data).1 = (op.exact overflow (bitsOf data)).1 := by
  cases op with
  | get e offset => rfl
  | set e offset value =>
    simp only [BitfieldOp.run, BitfieldOp.exact, ← resolve_applyOverflow]
    cases applyOverflow value e overflow with
    | none => rfl
    | some newVal => exact bitsOf_writeBits e data offset newVal
  | incrBy e offset increment =>
    simp only [BitfieldOp.run, BitfieldOp.exact] at h ⊢
    generalize e.resolve overflow (e.held (bitsOf data) offset + increment.toInt) = expected
      at h ⊢
    cases hcode : applyOverflow (readBits data offset e.bits e.signed + increment) e overflow with
    | none =>
      rw [hcode] at h
      cases expected with
      | none => rfl
      | some r => simp at h
    | some newVal =>
      rw [hcode] at h
      cases expected with
      | none => simp at h
      | some r =>
        obtain rfl : newVal.toInt = r := by simpa using h
        exact bitsOf_writeBits e data offset newVal

end operations

/-- A sequence of operations is exact, unless one of them loses a carry. -/
theorem runBitfield_exact_iff (ops : List (BitfieldOp × BitfieldOverflow)) (data : Bytes) :
    (bitsOf (runBitfield ops data).1 = (exactRun ops (bitsOf data)).1 ∧
        (runBitfield ops data).2.1.map (Option.map Int64.toInt) =
          (exactRun ops (bitsOf data)).2) ↔
      ¬ LosesCarry ops (bitsOf data) := by
  induction ops generalizing data with
  | nil => simp [runBitfield, exactRun, LosesCarry]
  | cons head ops ih =>
    obtain ⟨op, overflow⟩ := head
    have hreply := reply_exact_iff overflow data op
    simp only [runBitfield, exactRun, LosesCarry, List.map_cons, List.cons.injEq, not_or,
      ← hreply]
    by_cases hexact : (op.run overflow data).2.1.map Int64.toInt =
        (op.exact overflow (bitsOf data)).2
    · rw [← bitsOf_run overflow data hexact, ← ih]
      simp only [hexact, true_and]
    · simp only [hexact, false_and, and_false]

/-! ## The command is exact -/

section command

variable {ρ : Type} {now : Int64} {db : Db} {key data : Bytes}

lemma bitfieldFrame_injective : Function.Injective bitfieldFrame := by
  intro a b h
  cases a <;> cases b <;> simp_all [bitfieldFrame]

/-- Without a write the bytes stay. -/
lemma runBitfield_unmodified {ops : List (BitfieldOp × BitfieldOverflow)} {data : Bytes}
    (h : (runBitfield ops data).2.2 = false) : (runBitfield ops data).1 = data := by
  induction ops generalizing data with
  | nil => rfl
  | cons head ops ih =>
    obtain ⟨op, overflow⟩ := head
    simp only [runBitfield, Bool.or_eq_false_iff] at h ⊢
    have hop : (op.run overflow data).1 = data := by
      have hkept := h.1
      cases op with
      | get e offset => rfl
      | set e offset value | incrBy e offset increment =>
        simp only [BitfieldOp.run] at hkept ⊢
        split at hkept
        · cases hkept
        · simp only [*]
    rw [ih h.2, hop]

/-- An entry is found with the string it was stored with, if its time has not passed. -/
lemma storedString_insert (entry : Entry) (db : Db) (key data : Bytes)
    (hlive : entry.expireAtMs.any (· ≤ now) = false) :
    storedString now (db.insert key { entry with value := .string data }) key = some data := by
  have hfound : liveLookup now (db.insert key ⟨.string data, entry.expireAtMs⟩) key = _ :=
    liveLookup_insert db key hlive
  rw [storedString, hfound]
  rfl

/-- What editing a string leaves. -/
lemma storedString_mutateString {f : Bytes → Bytes × ρ × Bool}
    (hf : (f data).2.2 = false → (f data).1 = data) (hdata : storedString now db key = some data) :
    ∃ db', mutateString (purgeExpiredKey db key now) key f = some (db', (f data).2.1) ∧
      storedString now db' key = some (f data).1 := by
  have hsame : storedString now (purgeExpiredKey db key now) key = some data := by
    rw [← hdata, storedString, storedString, liveEq_purgeExpiredKey now db key key]
  have hkept : (f data).2.2 = false →
      storedString now (purgeExpiredKey db key now) key = some (f data).1 :=
    fun hmodified => by rw [hsame, hf hmodified]
  have hlookup : (purgeExpiredKey db key now).lookup key = liveLookup now db key :=
    lookup_purgeExpiredKey_self
  rw [storedString] at hdata
  rw [mutateString, hlookup]
  cases hlive : liveLookup now db key with
  | none =>
    rw [hlive] at hdata
    obtain rfl : [] = data := Option.some.inj hdata
    refine ⟨_, rfl, ?_⟩
    cases hmodified : (f []).2.2 with
    | false => exact hkept hmodified
    | true => exact storedString_insert (newEntry (.string []) none) _ key _ rfl
  | some entry =>
    rw [hlive] at hdata
    have hstring : asStringBytes entry = some data := hdata
    dsimp only
    rw [hstring]
    refine ⟨_, rfl, ?_⟩
    cases hmodified : (f data).2.2 with
    | false => exact hkept hmodified
    | true => exact storedString_insert entry _ key _ (any_of_live hlive)

/-- The command is exact when its operations are, on the string it finds. -/
lemma bitfieldExact_iff_run {err : Bytes → RespFrame} {rest : List Bytes}
    {ops : List (BitfieldOp × BitfieldOverflow)} (hops : parseBitfieldOps rest .wrap = .ok ops)
    (hdata : storedString now db key = some data) :
    BitfieldExact err key rest now db ops data ↔
      bitsOf (runBitfield ops data).1 = (exactRun ops (bitsOf data)).1 ∧
        (runBitfield ops data).2.1.map (Option.map Int64.toInt) =
          (exactRun ops (bitsOf data)).2 := by
  obtain ⟨db', hmutate, hstored⟩ :=
    storedString_mutateString (f := runBitfield ops) runBitfield_unmodified hdata
  have hrun : cmdBitfield err (key :: rest) now db =
      (db', .array ((runBitfield ops data).2.1.map bitfieldFrame)) := by
    unfold cmdBitfield
    dsimp only
    rw [hops]
    dsimp only
    rw [hmutate]
  rw [BitfieldExact, hrun, hstored, Option.map_some, Option.some.injEq]
  refine and_congr_right fun _ => ?_
  constructor
  · rintro ⟨replies, hframes, hexact⟩
    have hreplies : (runBitfield ops data).2.1 = replies :=
      List.map_injective_iff.mpr bitfieldFrame_injective (RespFrame.array.inj hframes)
    rwa [hreplies]
  · intro hexact
    exact ⟨_, rfl, hexact⟩

/-- **`BITFIELD` is exact, unless an `INCRBY` that saturates or fails goes past 64 bits.** -/
theorem cmdBitfield_exact_iff {err : Bytes → RespFrame} {rest : List Bytes}
    {ops : List (BitfieldOp × BitfieldOverflow)} (hops : parseBitfieldOps rest .wrap = .ok ops)
    (hdata : storedString now db key = some data) :
    BitfieldExact err key rest now db ops data ↔ ¬ LosesCarry ops (bitsOf data) :=
  (bitfieldExact_iff_run hops hdata).trans (runBitfield_exact_iff ops data)

/-- The key `k` with a string. -/
def stringDb (data : Bytes) : Db :=
  Finmap.singleton (ascii "k") (newEntry (.string data) none)

/-- The arguments `OVERFLOW SAT INCRBY encoding 0 1`. -/
def saturateRequest (encoding : String) : List Bytes :=
  ["OVERFLOW", "SAT", "INCRBY", encoding, "0", "1"].map ascii

/-- The greatest number of 64 bits. -/
def greatestData : Bytes := 127 :: List.replicate 7 255

/-- A field at the greatest number of 64 bits, which should stay there, wraps to the least. -/
theorem saturating_increment_wraps :
    (exactRun [(.incrBy ⟨64, true, by decide⟩ 0 1, .sat)] (bitsOf greatestData)).2 =
        [some (2 ^ 63 - 1)] ∧
      (runBitfield [(.incrBy ⟨64, true, by decide⟩ 0 1, .sat)] greatestData).2.1 =
        [some Int64.minValue] ∧
      ¬ BitfieldExact .error (ascii "k") (saturateRequest "i64") 0 (stringDb greatestData)
        [(.incrBy ⟨64, true, by decide⟩ 0 1, .sat)] greatestData := by
  refine ⟨by decide +kernel, by decide +kernel, ?_⟩
  rw [bitfieldExact_iff_run rfl (by decide +kernel)]
  rintro ⟨-, hreplies⟩
  revert hreplies
  decide +kernel

/-- A field of eight bits saturates as it should. -/
theorem saturating_increment_of_byte :
    BitfieldExact .error (ascii "k") (saturateRequest "u8") 0 (stringDb [255])
      [(.incrBy ⟨8, false, by decide⟩ 0 1, .sat)] [255] := by
  refine (cmdBitfield_exact_iff rfl (by decide +kernel)).mpr ?_
  rintro (⟨hpast, -⟩ | hlater)
  · exact hpast (by decide +kernel)
  · exact hlater

end command
end Ratatosk.Engine
