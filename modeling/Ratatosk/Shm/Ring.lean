import Ratatosk.Lib.Circular
import Ratatosk.Lib.Numeral

/-!
# The shared-memory byte ring

`ratatosk-shm/src/ring.rs`: a ring with one producer and one consumer, each in its own process. A
call is cut into its accesses to shared memory, so a run of the ring is any list of `RingStep`s:
every interleaving of the two sides, atomics being sequentially consistent.

* `Ring` — the shared words and data, the private index of each side with the call it is in, and
  two history variables: the bytes accepted from the producer and returned by the consumer.
* `Ring.Inv` — the indices count the histories from a common start, modulo 2^64; the data area
  holds what was stored and not yet returned.
* `ring_fifo` — **FIFO**: over every run, for every power-of-two capacity and every start of the
  indices, the bytes returned are a prefix of the bytes accepted, and no slot that a pop still has
  to read is one that the producer may write.

The parking flags are set and cleared by steps of their own; who rings when is in `Shm.Stream`.
-/

namespace Ratatosk.Shm

open Lib List Option

/-! ## State -/

/-- The peer wrote an index that cannot be valid.
Source: `Corrupt` -/
inductive Corrupt where
  | corrupt
  deriving Repr, DecidableEq

/-- A push that has chosen its bytes: those stored, and those still to be. -/
structure Push where
  stored : Bytes
  left : Bytes
  deriving Repr, DecidableEq

/-- A pop that has chosen its length: the bytes loaded, and how many are still to be. -/
structure Pop where
  loaded : Bytes
  left : Nat
  deriving Repr, DecidableEq

/-- Source: `Producer` -/
structure Producer where
  tail : UInt64
  push : Option Push
  deriving Repr, DecidableEq

/-- Source: `Consumer` -/
structure Consumer where
  head : UInt64
  pop : Option Pop
  deriving Repr, DecidableEq

/-- One direction of a connection: the shared view and both private halves.
Source: `RingView` -/
structure Ring where
  tail : UInt64
  head : UInt64
  consumerParked : Bool
  producerParked : Bool
  data : Bytes
  producer : Producer
  consumer : Consumer
  /-- The bytes that `push` has reported as written. -/
  accepted : Bytes
  /-- The bytes that `pop` has reported as read. -/
  returned : Bytes
  deriving Repr, DecidableEq

namespace Ring

variable (ring : Ring)

/-- A ring before any data is exchanged; both sides start from the published index.
Source: `Producer::new`, `Consumer::new` -/
def new (data : Bytes) (start : UInt64) : Ring where
  tail := start
  head := start
  consumerParked := false
  producerParked := false
  data := data
  producer := ⟨start, none⟩
  consumer := ⟨start, none⟩
  accepted := []
  returned := []

/-! ## Indices -/

/-- Source: `capacity` -/
def capacity : UInt64 := .ofNat ring.data.length

/-- Source: `mask` -/
def mask : UInt64 := ring.capacity - 1

/-- The slot of a stream index. -/
def slot (index : UInt64) : Nat := (index &&& ring.mask).toNat

/-- Bytes the consumer has not taken yet, from the producer's private tail and the published head.
Source: `Producer::used` -/
def used : Except Corrupt UInt64 :=
  let used := ring.producer.tail - ring.head
  if ring.capacity < used then .error .corrupt else .ok used

/-- Readable bytes, from the published tail and the consumer's private head.
Source: `Consumer::available` -/
def available : Except Corrupt UInt64 :=
  let avail := ring.tail - ring.consumer.head
  if ring.capacity < avail then .error .corrupt else .ok avail

/-- Source: `Producer::has_space` -/
def hasSpace : Except Corrupt Bool := do
  let used ← ring.used
  return used < ring.capacity

/-- Source: `Consumer::has_data` -/
def hasData : Except Corrupt Bool := do
  let avail ← ring.available
  return 0 < avail

/-- The number of bytes a push of `len` bytes writes, as computed from the head it has loaded.
Source: `Producer::push` -/
def pushCount (len : Nat) : Except Corrupt Nat := do
  let used ← ring.used
  return min (ring.capacity - used).toNat len

/-- The number of bytes a pop into `len` bytes reads, as computed from the tail it has loaded.
Source: `Consumer::pop` -/
def popCount (len : Nat) : Except Corrupt Nat := do
  let avail ← ring.available
  return min avail.toNat len

/-! ## Atomic steps -/

/-- A push loads the head and chooses its bytes. With nothing to write it returns. -/
def beginPush (src : Bytes) : Ring :=
  match ring.producer.push, ring.pushCount src.length with
  | none, .ok (n + 1) => { ring with producer.push := some ⟨[], src.take (n + 1)⟩ }
  | _, _ => ring

/-- A push stores its next byte. -/
def storeByte : Ring :=
  match ring.producer.push with
  | some ⟨stored, byte :: left⟩ =>
    { ring with
      data := ring.data.set (ring.slot (ring.producer.tail + .ofNat stored.length)) byte
      producer.push := some ⟨stored ++ [byte], left⟩ }
  | _ => ring

/-- A push that has stored its bytes publishes the tail and returns. -/
def publishTail : Ring :=
  match ring.producer.push with
  | some ⟨stored, []⟩ =>
    let tail := ring.producer.tail + .ofNat stored.length
    { ring with tail := tail, producer := ⟨tail, none⟩, accepted := ring.accepted ++ stored }
  | _ => ring

/-- A pop loads the tail and chooses its length. With nothing to read it returns. -/
def beginPop (len : Nat) : Ring :=
  match ring.consumer.pop, ring.popCount len with
  | none, .ok (n + 1) => { ring with consumer.pop := some ⟨[], n + 1⟩ }
  | _, _ => ring

/-- A pop loads its next byte. The slot is masked, so it lies inside the data. -/
def loadByte : Ring :=
  match ring.consumer.pop with
  | some ⟨loaded, left + 1⟩ =>
    let byte := ring.data.getD (ring.slot (ring.consumer.head + .ofNat loaded.length)) 0
    { ring with consumer.pop := some ⟨loaded ++ [byte], left⟩ }
  | _ => ring

/-- A pop that has loaded its bytes publishes the head and returns. -/
def publishHead : Ring :=
  match ring.consumer.pop with
  | some ⟨loaded, 0⟩ =>
    let head := ring.consumer.head + .ofNat loaded.length
    { ring with head := head, consumer := ⟨head, none⟩, returned := ring.returned ++ loaded }
  | _ => ring

end Ring

/-- An access to shared memory by one of the sides. -/
inductive RingStep where
  | beginPush (src : Bytes)
  | storeByte
  | publishTail
  | parkProducer (parked : Bool)
  | beginPop (len : Nat)
  | loadByte
  | publishHead
  | parkConsumer (parked : Bool)
  deriving Repr, DecidableEq

/-- One access. A step that the side is not at leaves the ring alone. -/
def Ring.step (ring : Ring) : RingStep → Ring
  | .beginPush src => ring.beginPush src
  | .storeByte => ring.storeByte
  | .publishTail => ring.publishTail
  | .parkProducer parked => { ring with producerParked := parked }
  | .beginPop len => ring.beginPop len
  | .loadByte => ring.loadByte
  | .publishHead => ring.publishHead
  | .parkConsumer parked => { ring with consumerParked := parked }

/-! ## The invariant -/

namespace Ring

/-- What a push under way has stored. -/
def written (ring : Ring) : Bytes := (ring.producer.push.map Push.stored).getD []

/-- What a push under way will have stored. -/
def pending (ring : Ring) : Bytes :=
  (ring.producer.push.map fun push => push.stored ++ push.left).getD []

/-- The ring of `2 ^ k` slots whose indices started at `start`. -/
structure Inv (k start : Nat) (ring : Ring) : Prop where
  length : ring.data.length = 2 ^ k
  tail : ring.tail = .ofNat (start + ring.accepted.length)
  producer : ring.producer.tail = ring.tail
  head : ring.head = .ofNat (start + ring.returned.length)
  consumer : ring.consumer.head = ring.head
  fifo : ring.returned <+: ring.accepted
  /-- The producer keeps clear of what was not returned. -/
  room : ring.accepted.length + ring.pending.length ≤ ring.returned.length + 2 ^ k
  /-- The data area holds what was stored and not returned. -/
  holds : Holds ring.data (start + ring.returned.length)
    ((ring.accepted ++ ring.written).drop ring.returned.length)
  /-- A pop under way has loaded the next bytes, and will not run past the published ones. -/
  popping : ∀ pop, ring.consumer.pop = some pop →
    pop.loaded <+: ring.accepted.drop ring.returned.length ∧
      ring.returned.length + pop.loaded.length + pop.left ≤ ring.accepted.length

section counts

variable {k start : Nat} {ring : Ring} (hk : k < 64)

include hk

/-- A power of two is not cut by the cast. -/
lemma toNat_capacity_of_length (hlen : ring.data.length = 2 ^ k) : ring.capacity.toNat = 2 ^ k := by
  have hlt : 2 ^ k < 2 ^ 64 := Nat.pow_lt_pow_right (by omega) hk
  rw [capacity, hlen, UInt64.toNat_ofNat', Nat.mod_eq_of_lt hlt]

lemma toNat_capacity (hinv : ring.Inv k start) : ring.capacity.toNat = 2 ^ k :=
  toNat_capacity_of_length hk hinv.length

/-- The bytes in the ring, from the histories. -/
lemma toNat_tail_sub_head (hinv : ring.Inv k start) :
    (ring.tail - ring.head).toNat = ring.accepted.length - ring.returned.length ∧
      ring.accepted.length - ring.returned.length ≤ 2 ^ k := by
  have hlt : 2 ^ k < 2 ^ 64 := Nat.pow_lt_pow_right (by omega) hk
  have hle := hinv.fifo.length_le
  have hroom := hinv.room
  rw [hinv.tail, hinv.head, toNat_ofNat_sub_ofNat (by omega) (by omega)]
  omega

/-- **Neither side ever takes the other's index for a corrupted one.** -/
lemma used_eq (hinv : ring.Inv k start) : ring.used = .ok (ring.tail - ring.head) := by
  obtain ⟨hsub, hle⟩ := toNat_tail_sub_head hk hinv
  have hcap := toNat_capacity hk hinv
  have hnot : ¬ ring.capacity < ring.tail - ring.head := by
    rw [UInt64.lt_iff_toNat_lt]
    omega
  rw [used, hinv.producer]
  exact if_neg hnot

lemma available_eq (hinv : ring.Inv k start) : ring.available = .ok (ring.tail - ring.head) := by
  obtain ⟨hsub, hle⟩ := toNat_tail_sub_head hk hinv
  have hcap := toNat_capacity hk hinv
  have hnot : ¬ ring.capacity < ring.tail - ring.head := by
    rw [UInt64.lt_iff_toNat_lt]
    omega
  rw [available, hinv.consumer]
  exact if_neg hnot

lemma pushCount_eq (hinv : ring.Inv k start) (len : Nat) :
    ring.pushCount len =
      .ok (min (2 ^ k - (ring.accepted.length - ring.returned.length)) len) := by
  obtain ⟨hsub, hle⟩ := toNat_tail_sub_head hk hinv
  have hcap := toNat_capacity hk hinv
  have hfree : (ring.capacity - (ring.tail - ring.head)).toNat =
      2 ^ k - (ring.accepted.length - ring.returned.length) := by
    rw [UInt64.toNat_sub_of_le _ _ (by rw [UInt64.le_iff_toNat_le]; omega), hcap, hsub]
  rw [pushCount, used_eq hk hinv, ← hfree]
  rfl

lemma popCount_eq (hinv : ring.Inv k start) (len : Nat) :
    ring.popCount len = .ok (min (ring.accepted.length - ring.returned.length) len) := by
  rw [popCount, available_eq hk hinv, ← (toNat_tail_sub_head hk hinv).1]
  rfl

lemma slot_ofNat (hinv : ring.Inv k start) (position : Nat) :
    ring.slot (.ofNat position) = position % 2 ^ k := by
  rw [slot, mask, capacity, hinv.length]
  exact toNat_ofNat_and_mask hk position

lemma slot_tail (hinv : ring.Inv k start) (i : Nat) :
    ring.slot (ring.producer.tail + .ofNat i) = (start + ring.accepted.length + i) % 2 ^ k := by
  rw [hinv.producer, hinv.tail, ← UInt64.ofNat_add]
  exact slot_ofNat hk hinv _

lemma slot_head (hinv : ring.Inv k start) (i : Nat) :
    ring.slot (ring.consumer.head + .ofNat i) = (start + ring.returned.length + i) % 2 ^ k := by
  rw [hinv.consumer, hinv.head, ← UInt64.ofNat_add]
  exact slot_ofNat hk hinv _

end counts

/-! ## The steps keep the invariant -/

lemma inv_new {k : Nat} {data : Bytes} (hlen : data.length = 2 ^ k) (start : UInt64) :
    (new data start).Inv k start.toNat where
  length := hlen
  tail := by simp [new]
  producer := rfl
  head := by simp [new]
  consumer := rfl
  fifo := prefix_refl _
  room := by simp [new, pending]
  holds := holds_nil _ _
  popping := by
    intro pop hpop
    cases hpop

/-- A prefix that is not all can be extended by the next element. -/
lemma prefix_concat_of_getElem? {l m : Bytes} {b : UInt8} (h : l <+: m)
    (hb : m[l.length]? = some b) : l ++ [b] <+: m := by
  obtain ⟨t, rfl⟩ := h
  rw [getElem?_append_right le_rfl, Nat.sub_self] at hb
  cases t with
  | nil => cases hb
  | cons c t =>
    cases hb
    exact ⟨t, by simp⟩

section steps

variable {k start : Nat} {ring : Ring} (hk : k < 64) (hinv : ring.Inv k start)

include hinv

include hk in
lemma inv_beginPush (src : Bytes) : (ring.beginPush src).Inv k start := by
  unfold beginPush
  rw [pushCount_eq hk hinv]
  split
  · next n hpush hcount =>
      have hn := Except.ok.inj hcount
      have hroom := hinv.room
      have hle := hinv.fifo.length_le
      exact
        { hinv with
          room := by
            simp only [pending, map_some, getD_some, nil_append,
              length_take]
            omega
          holds := by
            have hholds := hinv.holds
            rw [show ring.written = [] by rw [written, hpush]; rfl] at hholds
            exact hholds }
  · exact hinv

include hk in
lemma inv_storeByte : ring.storeByte.Inv k start := by
  unfold storeByte
  split
  · next stored byte left hpush =>
      have hwritten : ring.written = stored := by rw [written, hpush]; rfl
      have hpending : ring.pending = stored ++ byte :: left := by rw [pending, hpush]; rfl
      have hle := hinv.fifo.length_le
      have hroom := hinv.room
      have hholds := hinv.holds
      have hlength := hinv.length
      rw [hpending, length_append, length_cons] at hroom
      rw [hwritten] at hholds
      have hlen : ((ring.accepted ++ stored).drop ring.returned.length).length =
          ring.accepted.length + stored.length - ring.returned.length := by
        rw [length_drop, length_append]
      have hpush := hholds.push (by omega) byte
      rw [hlen, hlength, show start + ring.returned.length +
        (ring.accepted.length + stored.length - ring.returned.length) =
          start + ring.accepted.length + stored.length by omega] at hpush
      exact
        { hinv with
          length := by simpa using hlength
          room := by
            simp only [pending, map_some, getD_some, length_append,
              length_singleton]
            omega
          holds := by
            simp only [written, map_some, getD_some]
            rw [slot_tail hk hinv, ← append_assoc,
              drop_append_of_le_length (by rw [length_append]; omega)]
            exact hpush }
  · exact hinv

lemma inv_publishTail : ring.publishTail.Inv k start := by
  unfold publishTail
  split
  · next stored hpush =>
      have hwritten : ring.written = stored := by rw [written, hpush]; rfl
      have hpending : ring.pending = stored := by rw [pending, hpush]; simp
      have hholds := hinv.holds
      have hroom := hinv.room
      rw [hwritten] at hholds
      rw [hpending] at hroom
      exact
        { hinv with
          tail := by
            simp only
            rw [hinv.producer, hinv.tail, ← UInt64.ofNat_add, length_append, Nat.add_assoc]
          producer := rfl
          fifo := hinv.fifo.trans (prefix_append _ _)
          room := by simpa [pending] using hroom
          holds := by simpa [written] using hholds
          popping := by
            intro pop hpop
            obtain ⟨hloaded, hbound⟩ := hinv.popping pop hpop
            simp only [length_append]
            refine ⟨?_, by omega⟩
            rw [drop_append_of_le_length hinv.fifo.length_le]
            exact hloaded.trans (prefix_append _ _) }
  · exact hinv

include hk in
lemma inv_beginPop (len : Nat) : (ring.beginPop len).Inv k start := by
  unfold beginPop
  rw [popCount_eq hk hinv]
  split
  · next n hpop hcount =>
      have hn := Except.ok.inj hcount
      have hle := hinv.fifo.length_le
      exact
        { hinv with
          popping := by
            intro pop hpop
            cases hpop
            refine ⟨List.nil_prefix, ?_⟩
            simp only [length_nil]
            omega }
  · exact hinv

include hk in
lemma inv_loadByte : ring.loadByte.Inv k start := by
  unfold loadByte
  split
  · next loaded left hpop =>
      obtain ⟨hloaded, hbound⟩ := hinv.popping _ hpop
      simp only at hloaded hbound
      -- the next byte of the stream is in the slot the consumer looks at
      have hcell := hinv.holds loaded.length
        (by rw [length_drop, length_append]; omega)
      rw [drop_append_of_le_length hinv.fifo.length_le,
        getElem?_append_left (by rw [length_drop]; omega), hinv.length] at hcell
      obtain ⟨byte, hbyte⟩ : ∃ byte, (ring.accepted.drop ring.returned.length)[loaded.length]? =
          some byte := by
        rw [getElem?_drop]
        exact ⟨_, getElem?_eq_getElem (by omega)⟩
      have hget : ring.data.getD (ring.slot (ring.consumer.head + .ofNat loaded.length)) 0 =
          byte := by
        rw [slot_head hk hinv, getD_eq_getElem?_getD, hcell, hbyte]
        rfl
      exact
        { hinv with
          popping := by
            intro pop hpop
            cases hpop
            simp only [length_append, length_singleton]
            refine ⟨?_, by omega⟩
            rw [hget]
            exact prefix_concat_of_getElem? hloaded hbyte }
  · exact hinv

lemma inv_publishHead : ring.publishHead.Inv k start := by
  unfold publishHead
  split
  · next loaded hpop =>
      obtain ⟨⟨rest, hrest⟩, hbound⟩ := hinv.popping _ hpop
      simp only at hrest hbound
      have hholds := hinv.holds.drop loaded.length
      have hroom := hinv.room
      exact
        { hinv with
          head := by
            simp only
            rw [hinv.consumer, hinv.head, ← UInt64.ofNat_add, length_append, Nat.add_assoc]
          consumer := rfl
          fifo := by
            refine ⟨rest, ?_⟩
            rw [append_assoc, hrest]
            exact prefix_iff_eq_append.mp hinv.fifo
          room := by
            rw [length_append]
            simp only [pending] at hroom ⊢
            omega
          holds := by
            rw [drop_drop] at hholds
            rw [length_append, ← Nat.add_assoc]
            exact hholds
          popping := by
            intro pop hpop
            cases hpop }
  · exact hinv

include hk in
/-- **Every step keeps the invariant.** -/
theorem inv_step (step : RingStep) : (ring.step step).Inv k start := by
  cases step with
  | beginPush src => exact inv_beginPush hk hinv src
  | storeByte => exact inv_storeByte hk hinv
  | publishTail => exact inv_publishTail hinv
  | parkProducer parked | parkConsumer parked => exact { hinv with }
  | beginPop len => exact inv_beginPop hk hinv len
  | loadByte => exact inv_loadByte hk hinv
  | publishHead => exact inv_publishHead hinv

include hk in
/-- **Every run keeps the invariant.** -/
theorem inv_run (steps : List RingStep) : (steps.foldl step ring).Inv k start := by
  induction steps generalizing ring with
  | nil => exact hinv
  | cons step steps ih => exact ih (inv_step hk hinv step)

end steps

/-! ## Slots -/

section slots

variable (ring : Ring)

/-- The slots that a pop under way has still to read. -/
def readSlots : List Nat :=
  match ring.consumer.pop with
  | none => []
  | some pop =>
    (List.range pop.left).map fun j =>
      ring.slot (ring.consumer.head + .ofNat (pop.loaded.length + j))

/-- The slots that a push under way has still to write. -/
def writeSlots : List Nat :=
  match ring.producer.push with
  | none => []
  | some push =>
    (List.range push.left.length).map fun i =>
      ring.slot (ring.producer.tail + .ofNat (push.stored.length + i))

/-- The slots that the producer may write before the consumer publishes its head again: a push
sees at most this much room. -/
def freeSlots : List Nat :=
  (List.range (ring.capacity.toNat - (ring.tail - ring.head).toNat)).map fun i =>
    ring.slot (ring.producer.tail + .ofNat i)

variable {ring} {k start : Nat} (hk : k < 64) (hinv : ring.Inv k start)

include hk hinv

lemma writeSlots_subset_freeSlots : ring.writeSlots ⊆ ring.freeSlots := by
  intro cell hcell
  unfold writeSlots at hcell
  split at hcell
  · cases hcell
  · next push hpush =>
      obtain ⟨i, hi, rfl⟩ := List.mem_map.mp hcell
      rw [mem_range] at hi
      have hpending : ring.pending = push.stored ++ push.left := by rw [pending, hpush]; rfl
      have hroom := hinv.room
      rw [hpending, length_append] at hroom
      obtain ⟨hsub, -⟩ := toNat_tail_sub_head hk hinv
      have hcap := toNat_capacity hk hinv
      have hle := hinv.fifo.length_le
      refine List.mem_map.mpr ⟨push.stored.length + i, ?_, rfl⟩
      rw [mem_range]
      omega

lemma disjoint_readSlots_freeSlots : List.Disjoint ring.readSlots ring.freeSlots := by
  intro cell hread hfree
  unfold readSlots at hread
  split at hread
  · cases hread
  · next pop hpop =>
      obtain ⟨j, hj, rfl⟩ := List.mem_map.mp hread
      obtain ⟨i, hi, hsame⟩ := List.mem_map.mp hfree
      rw [mem_range] at hi hj
      obtain ⟨-, hbound⟩ := hinv.popping pop hpop
      obtain ⟨hsub, -⟩ := toNat_tail_sub_head hk hinv
      have hcap := toNat_capacity hk hinv
      have hle := hinv.fifo.length_le
      rw [slot_tail hk hinv, slot_head hk hinv] at hsame
      -- the position read lies before the published tail, less than a lap before the one written
      exact mod_ne_mod (by omega) (by omega) hsame.symm

end slots

end Ring

/-- **FIFO.** For every power-of-two capacity, every start of the indices and every interleaving:
the bytes returned are a prefix of the bytes accepted; the slots that a pop still has to read are
disjoint from those the producer may write, which are all it ever writes; and neither side takes
the other's index for a corrupted one. -/
theorem ring_fifo {k : Nat} (hk : k < 64) {data : Bytes} (hlen : data.length = 2 ^ k)
    (start : UInt64) (steps : List RingStep) :
    let ring := steps.foldl Ring.step (Ring.new data start)
    ring.returned <+: ring.accepted ∧
      List.Disjoint ring.readSlots ring.freeSlots ∧ ring.writeSlots ⊆ ring.freeSlots ∧
      ring.used ≠ .error .corrupt ∧ ring.available ≠ .error .corrupt := by
  have hinv := Ring.inv_run hk (Ring.inv_new hlen start) steps
  refine ⟨hinv.fifo, Ring.disjoint_readSlots_freeSlots hk hinv,
    Ring.writeSlots_subset_freeSlots hk hinv, ?_, ?_⟩
  · rw [Ring.used_eq hk hinv]
    intro h
    cases h
  · rw [Ring.available_eq hk hinv]
    intro h
    cases h

/-- A push of five bytes over a ring of four slots whose indices are about to wrap, a pop of two in
between, and a second push into the slots given back. -/
def wrappingRun : List RingStep :=
  [.beginPush (ascii "abcde"), .storeByte, .storeByte, .storeByte, .storeByte, .publishTail,
    .beginPop 2, .loadByte, .beginPush (ascii "fg"), .loadByte, .publishHead,
    .beginPush (ascii "fg"), .storeByte, .beginPop 8, .loadByte, .storeByte, .publishTail,
    .loadByte, .publishHead]

/-- Along that run four bytes come out in order, and two more are in the ring. -/
theorem ring_fifo_wrapping :
    let ring := wrappingRun.foldl Ring.step (Ring.new [0, 0, 0, 0] (.ofNat (2 ^ 64 - 3)))
    ring.returned = ascii "abcd" ∧ ring.accepted = ascii "abcdfg" ∧
      ring.returned <+: ring.accepted := by
  have hk : 2 < 64 := by decide
  have hlen : ([0, 0, 0, 0] : Bytes).length = 2 ^ 2 := rfl
  exact ⟨by decide +kernel, by decide +kernel,
    (ring_fifo hk hlen (.ofNat (2 ^ 64 - 3)) wrappingRun).1⟩

end Ratatosk.Shm
