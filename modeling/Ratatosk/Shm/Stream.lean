import Ratatosk.Shm.Ring

/-!
# Shared-memory streams and their doorbells

`ratatosk-shm/src/stream.rs`: an endpoint reads from one ring, writes into the other and sleeps
on a socket over which the peer sends doorbell bytes. `poll_read` and `poll_write` are cut into
their accesses to shared memory and to the socket; a run is any list of `Move`s.

* `Op` — the operation an endpoint awaits. Both go through the same places (`Place`): try, spin,
  arm the parked flag, look once more, sleep. `Op` says which half of which ring they use.
* `Link` — two rings, two endpoints and the doorbell bytes queued for each. Whether the socket
  reports readiness is up to the move: it may lag behind the bytes queued.
* `no_lost_wakeup` — **no lost wake-up**: whenever an operation has returned `Pending` and the
  ring has become ready for it, a doorbell byte is queued or the peer is inside the call that
  will send it.

Between two polls an operation may be dropped and another one started, and it may be polled
without a reason. The peer closing the socket is not modelled.
-/

namespace Ratatosk.Shm

open Lib Function

/-! ## Operations -/

/-- Source: `stream.rs` `Role` -/
inductive Role where
  | server
  | client
  deriving Repr, DecidableEq

/-- The other end of the connection. -/
def Role.peer : Role → Role
  | .server => .client
  | .client => .server

/-- What an endpoint awaits: a read into a buffer, or a write. -/
inductive Op where
  | read (len : Nat)
  | write (src : Bytes)
  deriving Repr, DecidableEq

namespace Op

/-- The ring an operation works on, named by the role that produces into it: the inbound ring for
a read, the outbound ring for a write.
Source: `stream.rs` `inbound_view`, `outbound_view` -/
def ringOf (role : Role) : Op → Role
  | .read _ => role.peer
  | .write _ => role

/-- How many bytes an attempt moves. -/
def count (ring : Ring) : Op → Except Corrupt Nat
  | .read len => ring.popCount len
  | .write src => ring.pushCount src.length

/-- Whether the operation could move a byte. -/
def progress (ring : Ring) : Op → Except Corrupt Bool
  | .read _ => ring.hasData
  | .write _ => ring.hasSpace

/-- The attempt loads the peer's index and chooses its bytes. -/
def begin (ring : Ring) : Op → Ring
  | .read len => ring.step (.beginPop len)
  | .write src => ring.step (.beginPush src)

/-- Whether the attempt has copied its bytes. -/
def copied (ring : Ring) : Op → Bool
  | .read _ => ring.consumer.pop.all fun pop => pop.left = 0
  | .write _ => ring.producer.push.all fun push => push.left = []

/-- The attempt copies its next byte. -/
def copyByte (ring : Ring) : Op → Ring
  | .read _ => ring.step .loadByte
  | .write _ => ring.step .storeByte

/-- The attempt publishes its index. -/
def publish (ring : Ring) : Op → Ring
  | .read _ => ring.step .publishHead
  | .write _ => ring.step .publishTail

/-- The flag of the waiting side. -/
def armed (ring : Ring) : Op → Bool
  | .read _ => ring.consumerParked
  | .write _ => ring.producerParked

/-- Arms or clears it.
Source: `ring.rs` `park_for_data`, `park_for_space`, `unpark` -/
def setArmed (ring : Ring) (parked : Bool) : Op → Ring
  | .read _ => ring.step (.parkConsumer parked)
  | .write _ => ring.step (.parkProducer parked)

/-- Whether the other side of the ring waits.
Source: `ring.rs` `Consumer::should_ring`, `Producer::should_ring` -/
def shouldRing (ring : Ring) : Op → Bool
  | .read _ => ring.producerParked
  | .write _ => ring.consumerParked

end Op

/-! ## Endpoints -/

/-- Where an endpoint is in `poll_read` or `poll_write`, named by the access that comes next. -/
inductive Place where
  /-- No operation is awaited, or the last one is `Ready`. -/
  | idle
  /-- Clear the flag that an earlier poll left armed. -/
  | unpark (op : Op)
  /-- Load the peer's index for a push or pop. -/
  | attempt (op : Op)
  /-- Copy a byte, or publish when all are copied. -/
  | copy (op : Op)
  /-- The index is published; look whether the peer is parked. -/
  | shouldRing (op : Op)
  /-- The peer is parked; send the doorbell byte. -/
  | ring (op : Op)
  | spin (op : Op) (left : Nat)
  /-- Arm the flag. -/
  | arm (op : Op)
  /-- The flag is armed; look once more. -/
  | check (op : Op)
  /-- Progress became possible; clear the flag and try again. -/
  | disarm (op : Op)
  /-- Ask the socket for readiness. -/
  | sleep (op : Op)
  /-- The socket was ready; discard queued doorbell bytes. -/
  | drain (op : Op)
  /-- The socket is drained; clear the flag and try again. -/
  | wake (op : Op)
  /-- `Pending` was returned. -/
  | pending (op : Op)
  deriving Repr, DecidableEq

/-- The places from the last look at the ring on, until the socket says that it is ready. -/
def Place.watching : Place → Bool
  | .check _ | .sleep _ | .pending _ => true
  | _ => false

/-- Source: `stream.rs` `ShmStream` -/
structure Endpoint where
  place : Place
  readParked : Bool
  writeParked : Bool
  deriving Repr, DecidableEq

namespace Endpoint

/-- The flag that remembers a poll that returned `Pending`. -/
def parked (endpoint : Endpoint) : Op → Bool
  | .read _ => endpoint.readParked
  | .write _ => endpoint.writeParked

/-- Sets it and moves on. -/
def park (endpoint : Endpoint) (parked : Bool) (place : Place) : Op → Endpoint
  | .read _ => { endpoint with readParked := parked, place }
  | .write _ => { endpoint with writeParked := parked, place }

/-- The start of a poll. An empty read is ready at once; an empty write only after the flag of an
earlier poll has been cleared. -/
def poll (endpoint : Endpoint) : Op → Endpoint
  | .read len =>
    if len = 0 then { endpoint with place := .idle }
    else if endpoint.readParked then { endpoint with place := .unpark (.read len) }
    else { endpoint with place := .attempt (.read len) }
  | .write src =>
    if endpoint.writeParked then { endpoint with place := .unpark (.write src) }
    else if src = [] then { endpoint with place := .idle }
    else { endpoint with place := .attempt (.write src) }

end Endpoint

/-- Where a poll goes after it has cleared the flag of an earlier one. -/
def Op.afterUnpark : Op → Place
  | .write [] => .idle
  | op => .attempt op

/-! ## The connection -/

/-- The spin count of each endpoint and the number of doorbell bytes the socket buffers. -/
structure Config where
  spinIters : Role → Nat
  bellLimit : Nat
  bellLimit_pos : 0 < bellLimit

/-- Two endpoints, the ring each produces into, and the doorbell bytes queued for each. -/
structure Link where
  ring : Role → Ring
  endpoint : Role → Endpoint
  bells : Role → Nat

/-- A step of one endpoint: the operation to poll if it is between polls, and what the socket says
if it is asked for readiness. -/
structure Move where
  role : Role
  op : Op
  ready : Bool

namespace Link

/-- Two idle endpoints over fresh rings. -/
def new (data : Role → Bytes) (start : Role → UInt64) : Link where
  ring role := .new (data role) (start role)
  endpoint _ := ⟨.idle, false, false⟩
  bells _ := 0

variable (link : Link)

/-- The endpoint moves to a place. -/
def goto (role : Role) (place : Place) : Link :=
  { link with
    endpoint := Function.update link.endpoint role { link.endpoint role with place } }

/-- The endpoint has made an access to the ring of its operation and moves to a place. -/
def access (role : Role) (op : Op) (f : Ring → Ring) (place : Place) : Link :=
  { link with
    ring := Function.update link.ring (op.ringOf role) (f (link.ring (op.ringOf role)))
    endpoint := Function.update link.endpoint role { link.endpoint role with place } }

/-- The endpoint remembers whether it left the flag armed. -/
def park (role : Role) (op : Op) (parked : Bool) (place : Place) : Link :=
  { link with
    endpoint := Function.update link.endpoint role
      ((link.endpoint role).park parked place op) }

/-- Sends one doorbell byte to the peer. With a full socket buffer the byte is dropped.
Source: `stream.rs` `ring_doorbell` -/
def ringDoorbell (config : Config) (role : Role) : Link :=
  { link with
    bells := Function.update link.bells role.peer
      (min config.bellLimit (link.bells role.peer + 1)) }

/-- Discards up to 64 queued bytes.
Source: `stream.rs` `drain_doorbell` -/
def drainDoorbell (role : Role) : Link :=
  { link with bells := Function.update link.bells role (link.bells role - 64) }

/-- One access by one endpoint.
Source: `stream.rs` `poll_read`, `poll_write`, `poll_doorbell` -/
def step (config : Config) (move : Move) : Link :=
  let role := move.role
  match (link.endpoint role).place with
  | .idle | .pending _ =>
    { link with
      endpoint := Function.update link.endpoint role
        ((link.endpoint role).poll move.op) }
  | .unpark op =>
    (link.access role op (fun ring => op.setArmed ring false) .idle).park role op false
      op.afterUnpark
  | .attempt op =>
    match op.count (link.ring (op.ringOf role)) with
    | .error _ => link.goto role .idle
    | .ok 0 => link.goto role (.spin op (config.spinIters role))
    | .ok (_ + 1) => link.access role op (fun ring => op.begin ring) (.copy op)
  | .copy op =>
    if op.copied (link.ring (op.ringOf role)) then
      link.access role op (fun ring => op.publish ring) (.shouldRing op)
    else link.access role op (fun ring => op.copyByte ring) (.copy op)
  | .shouldRing op =>
    if op.shouldRing (link.ring (op.ringOf role)) then link.goto role (.ring op)
    else link.goto role .idle
  | .ring _ => (link.ringDoorbell config role).goto role .idle
  | .spin op 0 => link.goto role (.arm op)
  | .spin op (left + 1) =>
    match op.progress (link.ring (op.ringOf role)) with
    | .error _ => link.goto role .idle
    | .ok true => link.goto role (.attempt op)
    | .ok false => link.goto role (.spin op left)
  | .arm op => link.access role op (fun ring => op.setArmed ring true) (.check op)
  | .check op =>
    match op.progress (link.ring (op.ringOf role)) with
    | .error _ => link.goto role .idle
    | .ok true => link.goto role (.disarm op)
    | .ok false => link.goto role (.sleep op)
  | .disarm op => link.access role op (fun ring => op.setArmed ring false) (.attempt op)
  | .sleep op =>
    if move.ready then link.goto role (.drain op)
    else link.park role op true (.pending op)
  | .drain op =>
    if link.bells role = 0 then link.goto role (.wake op) else link.drainDoorbell role
  | .wake op => link.access role op (fun ring => op.setArmed ring false) (.attempt op)

/-- A run: the moves one after the other. -/
def run (config : Config) (moves : List Move) : Link :=
  moves.foldl (fun link move => link.step config move) link

end Link

/-! ## What an access leaves alone -/

section frames

@[simp] lemma Role.peer_peer (role : Role) : role.peer.peer = role := by
  cases role with
  | server => rfl
  | client => rfl

@[simp] lemma Role.peer_ne (role : Role) : role.peer ≠ role := by
  cases role with
  | server => exact nofun
  | client => exact nofun

@[simp] lemma Role.ne_peer (role : Role) : role ≠ role.peer := role.peer_ne.symm

lemma Role.eq_or_eq_peer (role role' : Role) : role' = role ∨ role' = role.peer := by
  cases role with
  | server => cases role' with
    | server => exact Or.inl rfl
    | client => exact Or.inr rfl
  | client => cases role' with
    | server => exact Or.inr rfl
    | client => exact Or.inl rfl

/-- Operations of the two endpoints on one ring are a read and a write. -/
lemma Op.opposite {role : Role} {op op' : Op} (h : op'.ringOf role.peer = op.ringOf role) :
    (∃ len src, op = .read len ∧ op' = .write src) ∨ ∃ src len, op = .write src ∧ op' = .read len := by
  cases op with
  | read len =>
    cases op' with
    | read len' => exact absurd h (by simp [Op.ringOf])
    | write src => exact Or.inl ⟨len, src, rfl, rfl⟩
  | write src =>
    cases op' with
    | read len => exact Or.inr ⟨src, len, rfl, rfl⟩
    | write src' => exact absurd h (by simp [Op.ringOf])

/-- An access of one operation that the operation of the peer on the same ring cannot tell. -/
def Op.Quiet (op' : Op) (f : Ring → Ring) : Prop :=
  ∀ (role : Role) (op : Op), op'.ringOf role.peer = op.ringOf role → ∀ ring,
    op.armed (f ring) = op.armed ring ∧ op.progress (f ring) = op.progress ring

lemma Op.quiet_id (op : Op) : op.Quiet fun ring => ring := fun _ _ _ _ => ⟨rfl, rfl⟩

/-- Each side has a flag of its own. -/
lemma Op.quiet_setArmed (op' : Op) (parked : Bool) :
    op'.Quiet fun ring => op'.setArmed ring parked := by
  intro role op h ring
  rcases Op.opposite h with ⟨len, src, rfl, rfl⟩ | ⟨src, len, rfl, rfl⟩
  · exact ⟨rfl, rfl⟩
  · exact ⟨rfl, rfl⟩

/-- An attempt that has only chosen its bytes has not moved an index. -/
lemma Op.quiet_begin (op' : Op) : op'.Quiet fun ring => op'.begin ring := by
  intro role op h ring
  rcases Op.opposite h with ⟨len, src, rfl, rfl⟩ | ⟨src, len, rfl, rfl⟩
  · simp only [Op.begin, Ring.step, Ring.beginPush]
    split
    · exact ⟨rfl, rfl⟩
    · exact ⟨rfl, rfl⟩
  · simp only [Op.begin, Ring.step, Ring.beginPop]
    split
    · exact ⟨rfl, rfl⟩
    · exact ⟨rfl, rfl⟩

lemma Op.quiet_copyByte (op' : Op) : op'.Quiet fun ring => op'.copyByte ring := by
  intro role op h ring
  rcases Op.opposite h with ⟨len, src, rfl, rfl⟩ | ⟨src, len, rfl, rfl⟩
  · simp only [Op.copyByte, Ring.step, Ring.storeByte]
    split
    · refine ⟨rfl, ?_⟩
      -- the data area keeps its length, so the capacity is the same
      simp only [Op.progress, Ring.hasData, Ring.available, Ring.capacity, List.length_set]
      rfl
    · exact ⟨rfl, rfl⟩
  · simp only [Op.copyByte, Ring.step, Ring.loadByte]
    split
    · exact ⟨rfl, rfl⟩
    · exact ⟨rfl, rfl⟩

lemma Op.armed_publish (op op' : Op) (ring : Ring) :
    op.armed (op'.publish ring) = op.armed ring := by
  cases op' with
  | read len =>
    simp only [Op.publish, Ring.step, Ring.publishHead]
    split
    · cases op with
      | read len => rfl
      | write src => rfl
    · rfl
  | write src =>
    simp only [Op.publish, Ring.step, Ring.publishTail]
    split
    · cases op with
      | read len => rfl
      | write src => rfl
    · rfl

/-- The flag one operation arms is the one the other looks at. -/
lemma Op.shouldRing_eq_armed {role : Role} {op op' : Op}
    (h : op'.ringOf role.peer = op.ringOf role) (ring : Ring) :
    op'.shouldRing ring = op.armed ring := by
  rcases Op.opposite h with ⟨len, src, rfl, rfl⟩ | ⟨src, len, rfl, rfl⟩
  · rfl
  · rfl

end frames

/-! ## No wake-up is lost -/

namespace Link

variable (link : Link)

/-- The peer is in the call that sends the next doorbell byte to `role`: it is about to send one,
or it has published an index of the ring that `op` waits for and will find the flag armed. -/
def PeerRings (role : Role) (op : Op) : Prop :=
  (∃ op', (link.endpoint role.peer).place = .ring op') ∨
    ∃ op', (link.endpoint role.peer).place = .shouldRing op' ∧
      op'.ringOf role.peer = op.ringOf role ∧
      op'.shouldRing (link.ring (op'.ringOf role.peer)) = true

/-- From the last look at the ring on, the flag is armed and readiness is announced. -/
structure Watched (role : Role) : Prop where
  armed : ∀ op, (link.endpoint role).place = .check op ∨
    (link.endpoint role).place = .sleep op ∨ (link.endpoint role).place = .pending op →
    op.armed (link.ring (op.ringOf role)) = true
  rung : ∀ op, (link.endpoint role).place = .sleep op ∨
    (link.endpoint role).place = .pending op →
    op.progress (link.ring (op.ringOf role)) = .ok true →
    0 < link.bells role ∨ link.PeerRings role op

/-! ### What a step looks like to the peer -/

/-- The effect of a step of `role`, as far as the peer is concerned. -/
inductive Effect (config : Config) (role : Role) : Link → Prop where
  /-- A step the peer cannot tell, outside the calls that ring. -/
  | quiet {op : Op} {f : Ring → Ring} (endpoint : Endpoint) (hquiet : op.Quiet f)
      (hsilent : ∀ op', (link.endpoint role).place ≠ .ring op' ∧
        (link.endpoint role).place ≠ .shouldRing op') :
      Effect config role
        { link with
          ring := Function.update link.ring (op.ringOf role) (f (link.ring (op.ringOf role)))
          endpoint := Function.update link.endpoint role endpoint }
  /-- An index is published, and the flag is looked at next. -/
  | publish {op : Op} (hplace : (link.endpoint role).place = .copy op) :
      Effect config role
        (link.access role op (fun ring => op.publish ring) (.shouldRing op))
  /-- The flag is armed, and the doorbell is rung next. -/
  | rings {op : Op} (hplace : (link.endpoint role).place = .shouldRing op) :
      Effect config role (link.goto role (.ring op))
  /-- The flag is not armed. -/
  | hush {op : Op} (hplace : (link.endpoint role).place = .shouldRing op)
      (hflag : op.shouldRing (link.ring (op.ringOf role)) = false) :
      Effect config role (link.goto role .idle)
  /-- A doorbell byte is sent. -/
  | send : Effect config role ((link.ringDoorbell config role).goto role .idle)
  /-- Doorbell bytes are discarded. -/
  | drain {op : Op} (hplace : (link.endpoint role).place = .drain op) :
      Effect config role (link.drainDoorbell role)

section effects

variable {link} {config : Config} {role : Role}

lemma effect_endpoint (endpoint : Endpoint)
    (hsilent : ∀ op', (link.endpoint role).place ≠ .ring op' ∧
      (link.endpoint role).place ≠ .shouldRing op' := by simp [*]) :
    link.Effect config role
      { link with endpoint := Function.update link.endpoint role endpoint } := by
  have h : link.Effect config role _ := Effect.quiet endpoint (Op.quiet_id (.read 0)) hsilent
  rwa [update_eq_self] at h

lemma effect_goto (place : Place)
    (hsilent : ∀ op', (link.endpoint role).place ≠ .ring op' ∧
      (link.endpoint role).place ≠ .shouldRing op' := by simp [*]) :
    link.Effect config role (link.goto role place) :=
  effect_endpoint _ hsilent

lemma effect_access {op : Op} {f : Ring → Ring} (place : Place) (hquiet : op.Quiet f)
    (hsilent : ∀ op', (link.endpoint role).place ≠ .ring op' ∧
      (link.endpoint role).place ≠ .shouldRing op' := by simp [*]) :
    link.Effect config role (link.access role op f place) :=
  .quiet _ hquiet hsilent

/-- **Every step has one of these effects.** -/
theorem effect_step (config : Config) (move : Move) :
    link.Effect config move.role (link.step config move) := by
  unfold step
  simp only
  split
  case h_1 hplace | h_2 op hplace => exact effect_endpoint _
  case h_3 op hplace =>
      have h : link.Effect config move.role _ :=
        .quiet ((link.endpoint move.role).park false op.afterUnpark op)
          (Op.quiet_setArmed op false) (by simp [hplace])
      cases op with
      | read len | write src => simpa [park, access, Endpoint.park] using h
  case h_4 op hplace =>
      split
      · exact effect_goto _
      · exact effect_goto _
      · exact effect_access _ (Op.quiet_begin op)
  case h_5 op hplace =>
      split_ifs
      · exact .publish hplace
      · exact effect_access _ (Op.quiet_copyByte op)
  case h_6 op hplace =>
      split_ifs with hflag
      · exact .rings hplace
      · exact .hush hplace (by simpa using hflag)
  case h_7 op hplace => exact .send
  case h_8 op hplace => exact effect_goto _
  case h_9 op left hplace | h_11 op hplace =>
      split
      · exact effect_goto _
      · exact effect_goto _
      · exact effect_goto _
  case h_10 op hplace | h_12 op hplace | h_15 op hplace =>
      exact effect_access _ (Op.quiet_setArmed op _)
  case h_13 op hplace =>
      split_ifs
      · exact effect_goto _
      · exact effect_endpoint _
  case h_14 op hplace =>
      split_ifs
      · exact effect_goto _
      · exact .drain hplace

end effects

/-! ### Both endpoints stay watched -/

section watched

variable {link} {config : Config} {role : Role}

@[simp] lemma place_goto (place : Place) :
    ((link.goto role place).endpoint role).place = place := by
  simp [goto]

@[simp] lemma place_access (op : Op) (f : Ring → Ring) (place : Place) :
    ((link.access role op f place).endpoint role).place = place := by
  simp [access]

@[simp] lemma place_park (op : Op) (parked : Bool) (place : Place) :
    ((link.park role op parked place).endpoint role).place = place := by
  cases op with
  | read len | write src => simp [park, Endpoint.park]

lemma watching_poll (endpoint : Endpoint) (op : Op) : (endpoint.poll op).place.watching = false := by
  cases op with
  | read len | write src =>
    simp only [Endpoint.poll]
    split_ifs
    · rfl
    · rfl
    · rfl

lemma watching_afterUnpark (op : Op) : op.afterUnpark.watching = false := by
  unfold Op.afterUnpark
  split
  · rfl
  · rfl

lemma watched_of_place
    (h : (link.endpoint role).place.watching = false := by simp [Place.watching]) :
    link.Watched role where
  armed := by
    rintro op (hop | hop | hop)
    all_goals
      rw [hop] at h
      cases h
  rung := by
    rintro op (hop | hop)
    all_goals
      rw [hop] at h
      cases h

/-- A step of the endpoint itself: the flag is armed before the last look, and the look finds no
progress. -/
lemma watched_step_self (move : Move) (hwatched : link.Watched move.role) :
    (link.step config move).Watched move.role := by
  unfold step
  simp only
  split
  case h_1 hplace | h_2 op hplace => exact watched_of_place (by simpa using watching_poll _ _)
  case h_3 op hplace => exact watched_of_place (by simpa using watching_afterUnpark op)
  case h_4 op hplace | h_9 op left hplace =>
      split
      · exact watched_of_place
      · exact watched_of_place
      · exact watched_of_place
  case h_5 op hplace | h_6 op hplace =>
      split_ifs
      · exact watched_of_place
      · exact watched_of_place
  case h_7 op hplace | h_8 op hplace | h_12 op hplace | h_15 op hplace =>
      exact watched_of_place
  case h_10 op hplace =>
      refine ⟨?_, ?_⟩
      · intro op' hop'
        obtain rfl : op = op' := by simpa using hop'
        cases op with
        | read len | write src => simp [access, Op.armed, Op.setArmed, Ring.step]
      · intro op' hop'
        simp at hop'
  case h_11 op hplace =>
      have harmed := hwatched.armed op (Or.inl hplace)
      split
      · exact watched_of_place
      · exact watched_of_place
      · next hprogress =>
          refine ⟨?_, ?_⟩
          · intro op' hop'
            obtain rfl : op = op' := by simpa using hop'
            exact harmed
          · intro op' hop' hready
            obtain rfl : op = op' := by simpa using hop'
            cases hprogress.symm.trans hready
  case h_13 op hplace =>
      have harmed := hwatched.armed op (Or.inr (Or.inl hplace))
      have hrung := hwatched.rung op (Or.inl hplace)
      split_ifs
      · exact watched_of_place
      · refine ⟨?_, ?_⟩
        · intro op' hop'
          obtain rfl : op = op' := by simpa using hop'
          exact harmed
        · intro op' hop' hready
          obtain rfl : op = op' := by simpa using hop'
          rcases hrung hready with hbells | hpeer
          · exact Or.inl hbells
          · right
            simpa [PeerRings, park] using hpeer
  case h_14 op hplace =>
      split_ifs
      · exact watched_of_place
      · exact watched_of_place (by simp [drainDoorbell, hplace, Place.watching])

lemma armed_and_progress_of_quiet {op : Op} {f : Ring → Ring} (hquiet : op.Quiet f) (op' : Op) :
    op'.armed (Function.update link.ring (op.ringOf role.peer)
        (f (link.ring (op.ringOf role.peer))) (op'.ringOf role)) =
      op'.armed (link.ring (op'.ringOf role)) ∧
    op'.progress (Function.update link.ring (op.ringOf role.peer)
        (f (link.ring (op.ringOf role.peer))) (op'.ringOf role)) =
      op'.progress (link.ring (op'.ringOf role)) := by
  by_cases hring : op.ringOf role.peer = op'.ringOf role
  · rw [hring, update_self]
    exact hquiet role op' hring _
  · rw [update_of_ne (Ne.symm hring)]
    exact ⟨rfl, rfl⟩

/-- A peer at a place outside the calls that ring. -/
lemma not_peerRings {op : Op} (h : ∀ op', (link.endpoint role.peer).place ≠ .ring op' ∧
    (link.endpoint role.peer).place ≠ .shouldRing op') : ¬ link.PeerRings role op := by
  rintro (⟨op', hplace⟩ | ⟨op', hplace, -⟩)
  · exact (h op').1 hplace
  · exact (h op').2 hplace

/-- The endpoint and the flag it arms are as they were. -/
lemma watched_of_endpoint {link' : Link} (hwatched : link.Watched role)
    (hsame : link'.endpoint role = link.endpoint role)
    (harmed : ∀ op : Op, op.armed (link'.ring (op.ringOf role)) =
      op.armed (link.ring (op.ringOf role)))
    (hrung : ∀ op, (link.endpoint role).place = .sleep op ∨
        (link.endpoint role).place = .pending op →
      op.progress (link'.ring (op.ringOf role)) = .ok true →
      0 < link'.bells role ∨ link'.PeerRings role op) : link'.Watched role where
  armed op hop := (harmed op).trans (hwatched.armed op (hsame ▸ hop))
  rung op hop := hrung op (hsame ▸ hop)

/-- A step of the peer: where it makes the ring ready it goes on to look at the flag, which is
armed. -/
lemma watched_of_effect {link' : Link} (heffect : link.Effect config role.peer link')
    (hwatched : link.Watched role) : link'.Watched role := by
  have hne {α : Role → Type} (f : ∀ r, α r) (a : α role.peer) :
      Function.update f role.peer a role = f role := update_of_ne role.ne_peer a f
  cases heffect with
  | quiet endpoint hquiet hsilent =>
    refine watched_of_endpoint hwatched (hne _ _)
      (fun op => (armed_and_progress_of_quiet hquiet op).1) fun op hop hready => ?_
    have hready := (armed_and_progress_of_quiet hquiet op).2.symm.trans hready
    rcases hwatched.rung op hop hready with hbells | hpeer
    · exact Or.inl hbells
    · exact absurd hpeer (not_peerRings hsilent)
  | @publish op hplace =>
    have harmed : ∀ op' : Op, op'.armed ((link.access role.peer op (fun ring => op.publish ring)
        (.shouldRing op)).ring (op'.ringOf role)) =
          op'.armed (link.ring (op'.ringOf role)) := by
      intro op'
      by_cases hring : op.ringOf role.peer = op'.ringOf role
      · simp only [access]
        rw [hring, update_self, Op.armed_publish]
      · simp only [access]
        rw [update_of_ne (Ne.symm hring)]
    refine watched_of_endpoint hwatched (hne _ _) harmed fun op' hop hready => ?_
    by_cases hring : op.ringOf role.peer = op'.ringOf role
    · right
      right
      refine ⟨op, place_access _ _ _, hring, ?_⟩
      rw [Op.shouldRing_eq_armed hring, hring, harmed]
      exact hwatched.armed op' (Or.inr hop)
    · simp only [access] at hready
      rw [update_of_ne (Ne.symm hring)] at hready
      rcases hwatched.rung op' hop hready with hbells | hpeer
      · exact Or.inl hbells
      · exact absurd hpeer (not_peerRings (by simp [hplace]))
  | @rings op hplace =>
    refine watched_of_endpoint hwatched (hne _ _) (fun _ => rfl) fun op' _ _ => ?_
    exact Or.inr (Or.inl ⟨op, place_goto _⟩)
  | @hush op hplace hflag =>
    refine watched_of_endpoint hwatched (hne _ _) (fun _ => rfl) fun op' hop hready => ?_
    rcases hwatched.rung op' hop hready with hbells | ⟨op'', hring⟩ | ⟨op'', hring, -, hflag'⟩
    · exact Or.inl hbells
    · cases hplace.symm.trans hring
    · cases hplace.symm.trans hring
      rw [hflag] at hflag'
      cases hflag'
  | send =>
    refine watched_of_endpoint hwatched (hne _ _) (fun _ => rfl) fun op' _ _ => ?_
    left
    have hpos := config.bellLimit_pos
    simp only [goto, ringDoorbell, Role.peer_peer, update_self]
    omega
  | drain hplace =>
    refine watched_of_endpoint hwatched rfl (fun _ => rfl) fun op' hop hready => ?_
    rcases hwatched.rung op' hop hready with hbells | hpeer
    · left
      simp only [drainDoorbell]
      rwa [hne]
    · exact absurd hpeer (not_peerRings (by simp [hplace]))

/-- **Every step keeps both endpoints watched.** -/
theorem watched_step (move : Move) (hwatched : ∀ role, link.Watched role) (role : Role) :
    (link.step config move).Watched role := by
  rcases role.eq_or_eq_peer move.role with hself | hpeer
  · rw [← hself]
    exact watched_step_self move (hwatched _)
  · have heffect : link.Effect config move.role _ := effect_step config move
    rw [hpeer] at heffect
    exact watched_of_effect heffect (hwatched role)

/-- **Every run keeps both endpoints watched.** -/
theorem watched_run (moves : List Move) (hwatched : ∀ role, link.Watched role) (role : Role) :
    (link.run config moves).Watched role := by
  induction moves generalizing link with
  | nil => exact hwatched role
  | cons move moves ih => exact ih (watched_step move hwatched)

end watched

end Link

/-! ## The rings of a connection -/

namespace Link

section rings

variable {link : Link} {config : Config} {k : Nat} {start : Role → Nat}

/-- An access of an operation to its ring is a step of the ring. -/
lemma inv_access (hk : k < 64) (hinv : ∀ role, (link.ring role).Inv k (start role)) (role : Role)
    (op : Op) {f : Ring → Ring} (hf : ∀ ring : Ring, ∃ step, f ring = ring.step step)
    (place : Place) (r : Role) : ((link.access role op f place).ring r).Inv k (start r) := by
  simp only [access]
  by_cases hr : r = op.ringOf role
  · rw [hr, update_self]
    obtain ⟨step, hstep⟩ := hf (link.ring (op.ringOf role))
    rw [hstep]
    exact Ring.inv_step hk (hinv _) step
  · rw [update_of_ne hr]
    exact hinv r

lemma setArmed_isStep (op : Op) (parked : Bool) (ring : Ring) :
    ∃ step, op.setArmed ring parked = ring.step step := by
  cases op with
  | read len => exact ⟨.parkConsumer parked, rfl⟩
  | write src => exact ⟨.parkProducer parked, rfl⟩

lemma begin_isStep (op : Op) (ring : Ring) : ∃ step, op.begin ring = ring.step step := by
  cases op with
  | read len => exact ⟨.beginPop len, rfl⟩
  | write src => exact ⟨.beginPush src, rfl⟩

lemma copyByte_isStep (op : Op) (ring : Ring) : ∃ step, op.copyByte ring = ring.step step := by
  cases op with
  | read len => exact ⟨.loadByte, rfl⟩
  | write src => exact ⟨.storeByte, rfl⟩

lemma publish_isStep (op : Op) (ring : Ring) : ∃ step, op.publish ring = ring.step step := by
  cases op with
  | read len => exact ⟨.publishHead, rfl⟩
  | write src => exact ⟨.publishTail, rfl⟩

lemma inv_ring_step (hk : k < 64) (hinv : ∀ role, (link.ring role).Inv k (start role))
    (move : Move) (r : Role) : ((link.step config move).ring r).Inv k (start r) := by
  unfold step
  simp only
  split
  case h_3 op hplace => exact inv_access hk hinv _ op (setArmed_isStep op false) .idle r
  case h_4 op hplace =>
      split
      · exact hinv r
      · exact hinv r
      · exact inv_access hk hinv _ op (begin_isStep op) _ r
  case h_5 op hplace =>
      split_ifs
      · exact inv_access hk hinv _ op (publish_isStep op) _ r
      · exact inv_access hk hinv _ op (copyByte_isStep op) _ r
  case h_6 op hplace | h_13 op hplace | h_14 op hplace =>
      split_ifs
      · exact hinv r
      · exact hinv r
  case h_9 op left hplace | h_11 op hplace =>
      split
      · exact hinv r
      · exact hinv r
      · exact hinv r
  case h_10 op hplace | h_12 op hplace | h_15 op hplace =>
      exact inv_access hk hinv _ op (setArmed_isStep op _) _ r
  all_goals exact hinv r

/-- **Both rings of a connection keep their invariant**, so what an endpoint reads is a prefix of
what its peer wrote, and no poll ever fails on a corrupted index. -/
theorem inv_ring_run (hk : k < 64) (hinv : ∀ role, (link.ring role).Inv k (start role))
    (moves : List Move) (r : Role) : ((link.run config moves).ring r).Inv k (start r) := by
  induction moves generalizing link with
  | nil => exact hinv r
  | cons move moves ih => exact ih (inv_ring_step hk hinv move)

end rings

end Link

/-- **Both directions of a connection are FIFO**, whatever the endpoints poll and however their
accesses interleave: what one has read is a prefix of what the other has written, and no poll meets
a corrupted index. -/
theorem link_fifo {k : Nat} (hk : k < 64) (config : Config) {data : Role → Bytes}
    (hlen : ∀ role, (data role).length = 2 ^ k) (start : Role → UInt64) (moves : List Move)
    (role : Role) :
    let ring := ((Link.new data start).run config moves).ring role
    ring.returned <+: ring.accepted ∧ ring.used ≠ .error .corrupt ∧
      ring.available ≠ .error .corrupt := by
  intro ring
  have hnew (r : Role) : ((Link.new data start).ring r).Inv k (start r).toNat :=
    Ring.inv_new (hlen r) (start r)
  have hinv : ring.Inv k (start role).toNat := Link.inv_ring_run hk hnew moves role
  refine ⟨hinv.fifo, ?_, ?_⟩
  · simp [Ring.used_eq hk hinv]
  · simp [Ring.available_eq hk hinv]

/-- **No lost wake-up.** Over every interleaving of the two endpoints' accesses: when the operation
that an endpoint awaits has returned `Pending` and its ring is ready for it, a doorbell byte is
queued for the endpoint, or the peer is inside the call that will send one. -/
theorem no_lost_wakeup (config : Config) (data : Role → Bytes) (start : Role → UInt64)
    (moves : List Move) (role : Role) (op : Op) :
    let link := (Link.new data start).run config moves
    (link.endpoint role).place = .pending op →
      op.progress (link.ring (op.ringOf role)) = .ok true →
      0 < link.bells role ∨ link.PeerRings role op := by
  intro link hpending hready
  have hwatched : ∀ role, (Link.new data start).Watched role :=
    fun _ => Link.watched_of_place rfl
  exact (Link.watched_run moves hwatched role).rung op (Or.inr hpending) hready

/-- A server that waits for input, and a client that has published two bytes. -/
def wakeupRun : List Move :=
  List.replicate 6 ⟨.server, .read 8, false⟩ ++
    List.replicate 5 ⟨.client, .write (ascii "hi"), false⟩

/-- The server reads them, and the client publishes two more. -/
def readRun : List Move :=
  wakeupRun ++ List.replicate 6 ⟨.server, .read 8, false⟩ ++
    List.replicate 6 ⟨.client, .write (ascii "ho"), false⟩

/-- The server has read the first two bytes of four. -/
theorem link_fifo_halfRead :
    let ring := ((Link.new (fun _ => [0, 0, 0, 0]) (fun _ => 0)).run ⟨fun _ => 0, 1, by decide⟩
      readRun).ring .client
    ring.returned = ascii "hi" ∧ ring.accepted = ascii "hiho" ∧ ring.returned <+: ring.accepted :=
  ⟨by decide +kernel, by decide +kernel, (link_fifo (show 2 < 64 by decide) _ (fun _ => rfl) _
    readRun .client).1⟩

/-- There the server sleeps on a ring with data, and the client is about to ring. -/
theorem no_lost_wakeup_read :
    let link := (Link.new (fun _ => [0, 0, 0, 0]) (fun _ => 0)).run ⟨fun _ => 0, 1, by decide⟩
      wakeupRun
    (link.endpoint .server).place = .pending (.read 8) ∧
      (Op.read 8).progress (link.ring .client) = .ok true ∧
      (0 < link.bells .server ∨ link.PeerRings .server (.read 8)) := by
  have hpending : (((Link.new (fun _ => [0, 0, 0, 0]) (fun _ => 0)).run
      ⟨fun _ => 0, 1, by decide⟩ wakeupRun).endpoint .server).place = .pending (.read 8) := by
    decide +kernel
  have hready : (Op.read 8).progress (((Link.new (fun _ => [0, 0, 0, 0]) (fun _ => 0)).run
      ⟨fun _ => 0, 1, by decide⟩ wakeupRun).ring .client) = .ok true := by
    decide +kernel
  exact ⟨hpending, hready, no_lost_wakeup ⟨fun _ => 0, 1, by decide⟩ _ _ wakeupRun .server
    (.read 8) hpending hready⟩

end Ratatosk.Shm
