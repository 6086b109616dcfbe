import Ratatosk.Shm.Ring

/-!
# The ring with a hostile peer

The words and the data of the ring are shared, so a peer that does not keep to the protocol may
store any values there, at any time. A call of `ring.rs` checks the one word that it loads and
works on its private index.

* `PeerWrite` — everything the peer can write; `Ring.attacked` — the accesses of a side, with a
  write of the peer before each of them.
* `Ring.slot_lt` — the mask keeps every access inside the data.
* `hostile_peer` — **whatever the peer writes and whenever, every access is inside the data, and a
  push or pop fails with the corruption error, or moves at most as many bytes as asked for and as
  the ring has, and its private index by exactly that number.**
-/

namespace Ratatosk.Shm

open Lib List

/-- What the peer leaves in the shared memory. Several writes are as good as the last. -/
structure PeerWrite where
  tail : UInt64
  head : UInt64
  consumerParked : Bool
  producerParked : Bool
  data : Bytes
  deriving Repr, DecidableEq

/-- A call that fails with the corruption error, or moves `n` bytes: as many as it was asked for
and as the ring has at most. -/
def Moves (count : Except Corrupt Nat) (len size : Nat) (effect : Nat → Prop) : Prop :=
  count = .error .corrupt ∨ ∃ n, count = .ok n ∧ n ≤ len ∧ n ≤ size ∧ effect n

namespace Ring

/-- The peer cannot change the size of the mapping. -/
def overwrite (ring : Ring) (w : PeerWrite) : Ring :=
  { ring with
    tail := w.tail
    head := w.head
    consumerParked := w.consumerParked
    producerParked := w.producerParked
    data := w.data.takeD ring.data.length 0 }

/-- Accesses to shared memory, each after a write of the peer. -/
def attacked (ring : Ring) (accesses : List (PeerWrite × RingStep)) : Ring :=
  accesses.foldl (fun ring access => (ring.overwrite access.1).step access.2) ring

/-! ## Bounds -/

section bounds

variable {ring : Ring} {k : Nat} (hk : k < 64) (hlen : ring.data.length = 2 ^ k)

include hk hlen

/-- The mask keeps every index inside the data. -/
lemma slot_lt (index : UInt64) : ring.slot index < 2 ^ k := by
  rw [slot, mask, capacity, hlen, ← UInt64.ofNat_toNat (x := index), toNat_ofNat_and_mask hk]
  exact Nat.mod_lt _ (Nat.two_pow_pos k)

lemma slots_lt : ∀ cell ∈ ring.writeSlots ++ ring.readSlots, cell < 2 ^ k := by
  intro cell hcell
  rcases mem_append.mp hcell with h | h
  · unfold writeSlots at h
    split at h
    · cases h
    · obtain ⟨i, -, rfl⟩ := mem_map.mp h
      apply slot_lt hk hlen
  · unfold readSlots at h
    split at h
    · cases h
    · obtain ⟨i, -, rfl⟩ := mem_map.mp h
      apply slot_lt hk hlen

/-- The difference of the indices is checked, so there is room for the bytes that a push chose. -/
lemma pushCount_moves (len : Nat) : Moves (ring.pushCount len) len (2 ^ k) fun _ => True := by
  unfold pushCount used
  dsimp only
  split_ifs with hlarge
  · exact .inl rfl
  · refine .inr ⟨_, rfl, Nat.min_le_right _ _, (Nat.min_le_left _ _).trans ?_, trivial⟩
    rw [UInt64.toNat_sub_of_le _ _ (UInt64.not_lt.mp hlarge), toNat_capacity_of_length hk hlen]
    exact Nat.sub_le _ _

lemma popCount_moves (len : Nat) : Moves (ring.popCount len) len (2 ^ k) fun _ => True := by
  unfold popCount available
  dsimp only
  split_ifs with hlarge
  · exact .inl rfl
  · refine .inr ⟨_, rfl, Nat.min_le_right _ _, (Nat.min_le_left _ _).trans ?_, trivial⟩
    rw [← toNat_capacity_of_length hk hlen]
    exact UInt64.le_iff_toNat_le.mp (UInt64.not_lt.mp hlarge)

end bounds

/-! ## Runs -/

section runs

variable {ring : Ring}

@[simp] lemma overwrite_producer (w : PeerWrite) : (ring.overwrite w).producer = ring.producer := rfl
@[simp] lemma overwrite_consumer (w : PeerWrite) : (ring.overwrite w).consumer = ring.consumer := rfl
@[simp] lemma overwrite_accepted (w : PeerWrite) : (ring.overwrite w).accepted = ring.accepted := rfl
@[simp] lemma overwrite_returned (w : PeerWrite) : (ring.overwrite w).returned = ring.returned := rfl

/-- Neither the peer nor an access resizes the data. -/
lemma length_attacked (accesses : List (PeerWrite × RingStep)) :
    (ring.attacked accesses).data.length = ring.data.length := by
  induction accesses generalizing ring with
  | nil => rfl
  | cons access accesses ih =>
    obtain ⟨w, next⟩ := access
    have hpeer : (ring.overwrite w).data.length = ring.data.length := takeD_length _ _ _
    have hstep : ((ring.overwrite w).step next).data.length = (ring.overwrite w).data.length := by
      cases next with
      | parkProducer parked => rfl
      | parkConsumer parked => rfl
      | _ =>
        simp only [step, beginPush, storeByte, publishTail, beginPop, loadByte, publishHead]
        split <;> simp
    exact (@ih ((ring.overwrite w).step next)).trans (hstep.trans hpeer)

lemma attacked_call (first last : PeerWrite × RingStep) (between : List (PeerWrite × RingStep)) :
    ring.attacked (first :: (between ++ [last])) =
      ((((ring.overwrite first.1).step first.2).attacked between).overwrite last.1).step last.2 := by
  simp [attacked]

/-- A push under way stores its bytes one by one. -/
lemma attacked_stores {tail : UInt64} {stored left : Bytes} {stores : List PeerWrite}
    (hpush : ring.producer = ⟨tail, some ⟨stored, left⟩⟩) (hcount : stores.length = left.length) :
    (ring.attacked (stores.map (·, .storeByte))).producer = ⟨tail, some ⟨stored ++ left, []⟩⟩ ∧
      (ring.attacked (stores.map (·, .storeByte))).accepted = ring.accepted := by
  induction stores generalizing ring stored left with
  | nil =>
    obtain rfl := length_eq_zero_iff.mp hcount.symm
    exact ⟨by rw [append_nil]; exact hpush, rfl⟩
  | cons w stores ih =>
    obtain ⟨byte, left, rfl⟩ := exists_cons_of_length_eq_add_one hcount.symm
    have hstep : ((ring.overwrite w).step .storeByte).producer =
        ⟨tail, some ⟨stored ++ [byte], left⟩⟩ ∧
        ((ring.overwrite w).step .storeByte).accepted = ring.accepted := by
      simp [step, storeByte, hpush]
    obtain ⟨hproducer, haccepted⟩ := ih hstep.1 (Nat.succ.inj hcount)
    rw [append_assoc] at hproducer
    exact ⟨hproducer, haccepted.trans hstep.2⟩

/-- The same for the loads of a pop, which may find anything. -/
lemma attacked_loads {head : UInt64} {loaded : Bytes} {loads : List PeerWrite}
    (hpop : ring.consumer = ⟨head, some ⟨loaded, loads.length⟩⟩) :
    ∃ bytes, bytes.length = loads.length ∧
      (ring.attacked (loads.map (·, .loadByte))).consumer = ⟨head, some ⟨loaded ++ bytes, 0⟩⟩ ∧
      (ring.attacked (loads.map (·, .loadByte))).returned = ring.returned := by
  induction loads generalizing ring loaded with
  | nil => exact ⟨[], rfl, by rw [append_nil]; exact hpop, rfl⟩
  | cons w loads ih =>
    obtain ⟨byte, hstep⟩ : ∃ byte, ((ring.overwrite w).step .loadByte).consumer =
        ⟨head, some ⟨loaded ++ [byte], loads.length⟩⟩ ∧
        ((ring.overwrite w).step .loadByte).returned = ring.returned := by
      simp [step, loadByte, hpop]
    obtain ⟨bytes, hlength, hconsumer, hreturned⟩ := ih hstep.1
    rw [append_assoc] at hconsumer
    exact ⟨byte :: bytes, congrArg (· + 1) hlength, hconsumer, hreturned.trans hstep.2⟩

end runs

end Ring

/-- **Hostile peer.** Whatever the peer stores, before and between the accesses of a side: every
access of a run is inside the data, and a push or pop fails with the corruption error, or moves `n`
bytes, as many as asked for and as the ring has at most, and its private index by `n`. Parking moves
nothing. -/
theorem hostile_peer {k : Nat} (hk : k < 64) {ring : Ring} (hlen : ring.data.length = 2 ^ k)
    {tail head : UInt64} (hproducer : ring.producer = ⟨tail, none⟩)
    (hconsumer : ring.consumer = ⟨head, none⟩) (first last : PeerWrite) :
    (∀ accesses, ∀ cell ∈ (ring.attacked accesses).writeSlots ++ (ring.attacked accesses).readSlots,
      cell < 2 ^ k) ∧
    (∀ src, Moves ((ring.overwrite first).pushCount src.length) src.length (2 ^ k) fun n =>
      ∀ stores : List PeerWrite, stores.length = n →
        let after := ring.attacked
          ((first, .beginPush src) :: (stores.map (·, .storeByte) ++ [(last, .publishTail)]))
        after.producer = ⟨tail + .ofNat n, none⟩ ∧
          after.accepted = ring.accepted ++ src.take n) ∧
    (∀ len, Moves ((ring.overwrite first).popCount len) len (2 ^ k) fun n =>
      ∀ loads : List PeerWrite, loads.length = n →
        let after := ring.attacked
          ((first, .beginPop len) :: (loads.map (·, .loadByte) ++ [(last, .publishHead)]))
        after.consumer = ⟨head + .ofNat n, none⟩ ∧
          ∃ bytes, bytes.length = n ∧ after.returned = ring.returned ++ bytes) ∧
    ∀ parked, (ring.attacked [(first, .parkProducer parked)]).producer = ring.producer ∧
      (ring.attacked [(first, .parkConsumer parked)]).consumer = ring.consumer := by
  have hfirst : (ring.overwrite first).data.length = 2 ^ k := (takeD_length _ _ _).trans hlen
  refine ⟨fun accesses => Ring.slots_lt hk ((Ring.length_attacked accesses).trans hlen), ?_, ?_,
    fun parked => ⟨rfl, rfl⟩⟩
  · intro src
    refine (Ring.pushCount_moves hk hfirst src.length).imp_right ?_
    rintro ⟨n, hcount, hsrc, hsize, -⟩
    refine ⟨n, hcount, hsrc, hsize, fun stores hstores => ?_⟩
    rw [Ring.attacked_call]
    cases n with
    | zero =>
      obtain rfl := length_eq_zero_iff.mp hstores
      simp [Ring.attacked, Ring.step, Ring.beginPush, Ring.publishTail, hcount, hproducer]
    | succ n =>
      have hbegun : ((ring.overwrite first).step (.beginPush src)).producer =
          ⟨tail, some ⟨[], src.take (n + 1)⟩⟩ ∧
          ((ring.overwrite first).step (.beginPush src)).accepted = ring.accepted := by
        simp [Ring.step, Ring.beginPush, hcount, hproducer]
      have hlength : (src.take (n + 1)).length = n + 1 := length_take_of_le hsrc
      have hstored := Ring.attacked_stores hbegun.1 (hstores.trans hlength.symm)
      rw [hbegun.2] at hstored
      generalize ((ring.overwrite first).step (.beginPush src)).attacked _ = mid at hstored
      simp [Ring.step, Ring.publishTail, hstored, hlength]
  · intro len
    refine (Ring.popCount_moves hk hfirst len).imp_right ?_
    rintro ⟨n, hcount, hwanted, hsize, -⟩
    refine ⟨n, hcount, hwanted, hsize, fun loads hloads => ?_⟩
    rw [Ring.attacked_call]
    cases n with
    | zero =>
      obtain rfl := length_eq_zero_iff.mp hloads
      simp [Ring.attacked, Ring.step, Ring.beginPop, Ring.publishHead, hcount, hconsumer]
    | succ n =>
      have hbegun : ((ring.overwrite first).step (.beginPop len)).consumer =
          ⟨head, some ⟨[], loads.length⟩⟩ ∧
          ((ring.overwrite first).step (.beginPop len)).returned = ring.returned := by
        simp [Ring.step, Ring.beginPop, hcount, hconsumer, hloads]
      obtain ⟨bytes, hlength, hloaded⟩ := Ring.attacked_loads hbegun.1
      rw [hloads] at hlength
      rw [hbegun.2] at hloaded
      generalize ((ring.overwrite first).step (.beginPop len)).attacked _ = mid at hloaded
      simp [Ring.step, Ring.publishHead, hloaded, hlength]

/-- A peer that claims to have taken bytes that were never sent is caught. -/
theorem hostile_head_refused :
    ((Ring.new [0, 0, 0, 0] 0).overwrite ⟨0, 7, true, true, []⟩).pushCount 2 = .error .corrupt ∧
      ∀ accesses, ∀ cell ∈ ((Ring.new [0, 0, 0, 0] 0).attacked accesses).writeSlots ++
        ((Ring.new [0, 0, 0, 0] 0).attacked accesses).readSlots, cell < 2 ^ 2 :=
  ⟨by decide +kernel, (hostile_peer (k := 2) (by decide) rfl rfl rfl
    ⟨0, 7, true, true, []⟩ ⟨0, 0, true, true, []⟩).1⟩

end Ratatosk.Shm
