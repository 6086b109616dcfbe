import Mathlib.Data.List.DropRight
import Ratatosk.Aof.Writer
import Ratatosk.Engine.Multi
import Ratatosk.Resp.Accepted

/-!
# Replay of the append-only file

`AofRecovery` of `ratatosk-persist/src/aof/recovery.rs`.

* `replayFrame`, `replayLoop`, `replayReader` — one frame, the loop over the buffer, and the whole
  file.

A command without a timestamp runs at the time of the replay: `wall` is that time, by the
position of the record. Log messages are left out. The loop is given one round more than there
are bytes, which is enough for every file (`replayReader_ne_outOfFuel`).
-/

namespace Ratatosk.Aof

open Lib Resp Engine

variable {σ κ : Type}

/-! ## Helpers of the loop -/

/-- Why a file is refused. -/
inductive ReplayError where
  /-- `invalid AOF timestamp envelope` -/
  | invalidEnvelope
  /-- `invalid AOF timestamp or command` -/
  | invalidTimedCommand
  /-- `AOF replay command failed at byte {position}: {response}` -/
  | commandFailed (position : Nat) (response : RespFrame)
  /-- `AOF is damaged at byte {position} ({error}) and data follows the damage; refusing to drop
  it. …` -/
  | damaged (position : Nat) (error : RespParseError)
  /-- The loop was given too few rounds. -/
  | outOfFuel

/-- The frame is an array that starts with the marker. -/
def isTimed : RespFrame → Bool
  | .array (.bulkString (some value) :: _) => value == timedCommandMarker
  | _ => false

/-- The timestamp of an envelope and the command in it; any other frame as it is.
Source: `decode_timed_command` -/
def decodeTimedCommand (frame : RespFrame) : Except ReplayError (Option Int64 × RespFrame) :=
  if !isTimed frame then .ok (none, frame)
  else match frame with
    | .array [_, .integer timestamp, .array command] =>
      if 0 ≤ timestamp then .ok (some timestamp, .array command) else .error .invalidTimedCommand
    | .array [_, _, _] => .error .invalidTimedCommand
    | _ => .error .invalidEnvelope

/-- Source: `response_is_error` -/
def responseIsError : RespFrame → Bool
  | .error _ => true
  | .versioned _ frame => responseIsError frame
  | _ => false

/-- The parser asks for more. -/
def isIncomplete : Except RespParseError (Option RespFrame) → Bool
  | .ok none => true
  | _ => false

/-- The rest of a file is one incomplete record with zero bytes behind it, or zero bytes only.
Source: `is_torn_tail` -/
def isTornTail (rest : Bytes) : Bool :=
  let record := rest.rdropWhile (· == 0)
  if record.length = rest.length then false
  else if record = [] then true
  else rest.head? == some 42 && isIncomplete (parse record).1

/-- The next frame. Anything that is not an array is damage, and must not reach the parser of
inline commands.
Source: `AofRecovery::replay_reader` -/
def readFrame (buf : Bytes) : Except RespParseError (Option RespFrame) × Bytes :=
  match buf with
  | [] => parse buf
  | marker :: _ => if marker = 42 then parse buf else (.error (.invalidFrameType marker), buf)

/-! ## The loop -/

/-- The state of the loop; `position` is the number of bytes taken off the buffer. -/
structure Progress (σ κ : Type) where
  conn : Conn σ κ
  position : Nat
  commandsReplayed : Nat
  /-- Where the transaction that the client is in starts, and the commands before it. -/
  transactionStart : Option (Nat × Nat)

/-- Source: `ReplayResult` -/
structure ReplayResult where
  commandsReplayed : Nat
  bytesProcessed : Nat
  corruptionDetected : Bool
  truncatedAt : Option Nat
  versionMismatch : Bool
  legacyFormat : Bool

/-- The end of the loop, with or without unread bytes: where the file is to be cut. A transaction
that was not left belongs wholly to the discarded tail. -/
def Progress.stop (p : Progress σ κ) (unread : Bool) : Progress σ κ × Option Nat :=
  match p.transactionStart with
  | some (start, committedCommands) => ({ p with commandsReplayed := committedCommands }, some start)
  | none => (p, if unread then some p.position else none)

/-- The state after a command that took `consumed` bytes and left the connection `conn`.
Source: `AofRecovery::replay_reader` -/
def Progress.advance (p : Progress σ κ) (conn : Conn σ κ) (consumed : Nat) : Progress σ κ where
  conn := conn
  position := p.position + consumed
  commandsReplayed := p.commandsReplayed + 1
  transactionStart :=
    if !p.conn.inMulti && conn.inMulti then some (p.position, p.commandsReplayed)
    else if p.conn.inMulti && !conn.inMulti then none
    else p.transactionStart

section loop

variable (b : Backend σ κ) (wall : Nat → Int64)

/-- One frame of `consumed` bytes.
Source: `AofRecovery::replay_reader` -/
def replayFrame (p : Progress σ κ) (frame : RespFrame) (consumed : Nat) :
    Except ReplayError (Progress σ κ) :=
  match decodeTimedCommand frame with
  | .error e => .error e
  | .ok (timestamp, command) =>
    let (conn, outcome) := execute b command (timestamp.getD (wall p.position)) p.conn
    if responseIsError outcome.response then
      .error (.commandFailed p.position outcome.response)
    else .ok (p.advance conn consumed)

/-- The loop over the buffer.
Source: `AofRecovery::replay_reader` -/
def replayLoop : (fuel : Nat) → Bytes → Progress σ κ →
    Except ReplayError (Progress σ κ × Option Nat)
  | 0, _, _ => .error .outOfFuel
  | fuel + 1, buf, p =>
    match readFrame buf with
    | (.ok (some frame), rest) =>
      (replayFrame b wall p frame (buf.length - rest.length)).bind (replayLoop fuel rest)
    | (.ok none, _) => .ok (p.stop (!buf.isEmpty))
    | (.error e, _) =>
      if isTornTail buf then .ok (p.stop true) else .error (.damaged p.position e)

/-- The start of a replay: a new client. -/
def Progress.start (server : ServerState σ) (position : Nat) : Progress σ κ where
  conn := ⟨server, .new b.newSession⟩
  position := position
  commandsReplayed := 0
  transactionStart := none

/-- The bytes after the version header, if there is one, and what the first bytes say about the
format: a mismatch of the version, and a file without header.
Source: `AofRecovery::replay_reader` -/
def splitHeader (raw : Bytes) : Bytes × Bool × Bool :=
  if aofVersionHeader.isPrefixOf raw || aofV1Header.isPrefixOf raw then
    (raw.drop aofVersionHeader.length, false, false)
  else if raw = [] then (raw, false, false)
  else if raw.head? = some 42 then (raw, false, true)
  else (raw, true, false)

/-- Source: `AofRecovery::replay_reader` -/
def replayReader (raw : Bytes) (server : ServerState σ) :
    Except ReplayError (ServerState σ × ReplayResult) :=
  let (buf, versionMismatch, legacyFormat) := splitHeader raw
  let result := replayLoop b wall (raw.length + 1) buf
    (.start b server (raw.length - buf.length))
  result.map fun (p, truncatedAt) =>
    (p.conn.server,
      { commandsReplayed := p.commandsReplayed
        bytesProcessed := truncatedAt.getD raw.length
        corruptionDetected := truncatedAt.isSome
        truncatedAt := truncatedAt
        versionMismatch := versionMismatch
        legacyFormat := legacyFormat })

end loop

/-! ## Fuel -/

section fuel

variable (b : Backend σ κ) (wall : Nat → Int64)

/-- A frame fails for a reason of its own. -/
lemma replayFrame_ne_outOfFuel (p : Progress σ κ) (frame : RespFrame) (consumed : Nat) :
    replayFrame b wall p frame consumed ≠ .error .outOfFuel := by
  intro h
  unfold replayFrame at h
  have hdecode : decodeTimedCommand frame ≠ .error .outOfFuel := by
    intro hdecode
    unfold decodeTimedCommand at hdecode
    split at hdecode
    · cases hdecode
    · split at hdecode
      · split at hdecode <;> cases hdecode
      · cases hdecode
      · cases hdecode
  split at h
  · next e hresult =>
      rw [Except.error.inj h] at hresult
      exact hdecode hresult
  · dsimp only at h
    split at h <;> cases h

lemma length_lt_of_readFrame {buf rest : Bytes} {frame : RespFrame}
    (h : readFrame buf = (.ok (some frame), rest)) : rest.length < buf.length := by
  unfold readFrame at h
  split at h
  · have hnil : parse [] = (.ok none, []) := rfl
    rw [hnil] at h
    cases h
  · split_ifs at h with hmarker
    · subst hmarker
      exact length_lt_of_parse h
    · cases h

/-- A buffer shorter than the fuel does not use it up. -/
lemma replayLoop_ne_outOfFuel (fuel : Nat) (buf : Bytes) (p : Progress σ κ)
    (h : buf.length < fuel) : replayLoop b wall fuel buf p ≠ .error .outOfFuel := by
  induction fuel generalizing buf p with
  | zero => omega
  | succ fuel ih =>
    unfold replayLoop
    split
    · next frame rest hread =>
        have hlt := length_lt_of_readFrame hread
        cases hframe : replayFrame b wall p frame (buf.length - rest.length) with
        | error e =>
          intro herror
          rw [Except.error.inj herror] at hframe
          exact replayFrame_ne_outOfFuel b wall p frame _ hframe
        | ok p' => exact ih rest p' (by omega)
    · intro herror
      cases herror
    · split
      · intro herror
        cases herror
      · intro herror
        cases herror

/-- **The rounds suffice for every file.** -/
theorem replayReader_ne_outOfFuel (raw : Bytes) (server : ServerState σ) :
    replayReader b wall raw server ≠ .error .outOfFuel := by
  have hlength : (splitHeader raw).1.length < raw.length + 1 := by
    unfold splitHeader
    split_ifs
    · rw [List.length_drop]
      omega
    all_goals exact Nat.lt_succ_self _
  have hloop := replayLoop_ne_outOfFuel b wall (raw.length + 1) (splitHeader raw).1
    (.start b server (raw.length - (splitHeader raw).1.length)) hlength
  intro herror
  unfold replayReader at herror
  cases hresult : replayLoop b wall (raw.length + 1) (splitHeader raw).1
      (.start b server (raw.length - (splitHeader raw).1.length)) with
  | error e =>
    simp only [hresult, Except.map] at herror
    rw [Except.error.inj herror] at hresult
    exact hloop hresult
  | ok p =>
    simp only [hresult, Except.map] at herror
    cases herror

end fuel

end Ratatosk.Aof
