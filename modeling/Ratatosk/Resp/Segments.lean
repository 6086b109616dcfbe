import Ratatosk.Resp.Frame

/-!
# The segmented writer

`ReplySegments` of `ratatosk-resp/src/encode.rs`: a reply as a sequence of byte pieces.

* `ReplySegments` — the work left, innermost first, and what is written but not handed out.
* `step`, `round` — one frame's own bytes, and one round of the loop of `next`.
* `spends_round` — a round hands out a piece of what is left or goes on with less work.
* `segments_eq` — **the pieces are the encoding, in order, none of them empty**.
-/

namespace Ratatosk.Resp

open Lib List

/-! ## The writer -/

/-- Work left. Source: `Pending` -/
inductive Pending where
  | one (frame : RespFrame) (version : RespVersion)
  | items (items : List RespFrame) (version : RespVersion)
  | entries (entries : List (RespFrame × RespFrame)) (version : RespVersion)

/-- Source: `ReplySegments` -/
structure ReplySegments where
  /-- The stack, its top first. -/
  pending : List Pending
  ready : List Bytes
  buf : Bytes
  chunkBytes : Nat
  zeroCopyMin : Nat
  chunkBytes_pos : 0 < chunkBytes
  zeroCopyMin_pos : 0 < zeroCopyMin
  ready_ne : ∀ piece ∈ ready, piece ≠ []

/-- What a round of `next` comes to. -/
inductive Round where
  | piece (bytes : Bytes) (rest : ReplySegments)
  | more (rest : ReplySegments)
  | done

namespace ReplySegments

/-- Source: `ReplySegments::new` -/
def new (frame : RespFrame) (version : RespVersion) (chunkBytes zeroCopyMin : Nat) :
    ReplySegments where
  pending := [.one frame version]
  ready := []
  buf := []
  chunkBytes := max chunkBytes 1
  zeroCopyMin := max zeroCopyMin 1
  chunkBytes_pos := by omega
  zeroCopyMin_pos := by omega
  ready_ne := forall_mem_nil _

/-- `bytes` written behind the buffer, and `work` put on the stack. -/
def write (s : ReplySegments) (bytes : Bytes) (work : List Pending) : ReplySegments :=
  { s with buf := s.buf ++ bytes, pending := work ++ s.pending }

/-- Writes one frame's own bytes and queues its children in wire order.
Source: `ReplySegments::step` -/
def step (s : ReplySegments) (version : RespVersion) : RespFrame → ReplySegments
  | .versioned v frame => s.write [] [.one frame (.fromProtocolVersion v)]
  | .array items => s.write (aggregateHeader 42 items.length) [.items items version]
  | .push items =>
    s.write (aggregateHeader (match version with | .resp2 => 42 | .resp3 => 62) items.length)
      [.items items version]
  | .map entries =>
    match version with
    | .resp3 => s.write (aggregateHeader 37 entries.length) [.entries entries version]
    | .resp2 => s.write (aggregateHeader 42 (entries.length * 2)) [.entries entries version]
  | .sequence frames => s.write [] [.items frames version]
  | .bulkString (some value) =>
    if h : s.zeroCopyMin ≤ value.length then
      { s with
        ready := s.ready ++ [s.buf ++ aggregateHeader 36 value.length, value]
        buf := crlf
        ready_ne := by
          have hvalue : value ≠ [] := length_pos_iff.mp (s.zeroCopyMin_pos.trans_le h)
          simpa [or_imp, forall_and, aggregateHeader, hvalue] using s.ready_ne }
    else s.write (encodeForVersion version (.bulkString (some value))) []
  | leaf => s.write (encodeForVersion version leaf) []

/-- One round of the loop of `next`.
Source: `ReplySegments::next` -/
def round (s : ReplySegments) : Round :=
  match hready : s.ready with
  | piece :: ready =>
    .piece piece { s with ready, ready_ne := (forall_mem_cons.mp (hready ▸ s.ready_ne)).2 }
  | [] =>
    if s.chunkBytes ≤ s.buf.length then .piece s.buf { s with buf := [] }
    else match s.pending with
      | [] => if s.buf = [] then .done else .piece s.buf { s with buf := [] }
      | .one frame version :: pending => .more ({ s with pending }.step version frame)
      | .items [] _ :: pending => .more { s with pending }
      | .items (item :: items) version :: pending =>
        .more ({ s with pending := .items items version :: pending }.step version item)
      | .entries [] _ :: pending => .more { s with pending }
      | .entries ((key, value) :: entries) version :: pending =>
        .more ({ s with
          pending := .one value version :: .entries entries version :: pending }.step version key)

/-- The pieces that `next` hands out until it has none left; `none` if the rounds do not suffice.
Source: `ReplySegments::next` -/
def collect : (rounds : Nat) → ReplySegments → Option (List Bytes)
  | 0, _ => none
  | rounds + 1, s =>
    match s.round with
    | .piece bytes rest => (collect rounds rest).map (bytes :: ·)
    | .more rest => collect rounds rest
    | .done => some []

end ReplySegments

/-! ## What is left -/

/-- The bytes of the work. -/
def Pending.bytes : Pending → Bytes
  | .one frame version => encodeForVersion version frame
  | .items frames version => encodeItemsForVersion version frames
  | .entries pairs version => encodeEntriesForVersion version pairs

/-- A bound on the rounds that the work takes. -/
noncomputable def Pending.size : Pending → Nat
  | .one frame _ => sizeOf frame
  | .items frames _ => sizeOf frames
  | .entries pairs _ => sizeOf pairs

namespace ReplySegments

variable (s : ReplySegments)

/-- What is still to be handed out. -/
def left : Bytes := s.ready.flatten ++ s.buf ++ s.pending.flatMap Pending.bytes

/-- A bound on the rounds still to come: a frame leaves two pieces and a buffer at most. -/
noncomputable def size : Nat :=
  4 * (s.pending.map Pending.size).sum + s.ready.length + min 1 s.buf.length

/-- The frame is written or queued, and what is queued of it is less work. -/
def Wrote (version : RespVersion) (frame : RespFrame) (after : ReplySegments) : Prop :=
  after.left = s.ready.flatten ++ s.buf ++ encodeForVersion version frame ++
      s.pending.flatMap Pending.bytes ∧
    after.size < 4 * (sizeOf frame + (s.pending.map Pending.size).sum) + s.ready.length

lemma wrote_write {version : RespVersion} {frame : RespFrame} {bytes : Bytes} {work : List Pending}
    (hbytes : encodeForVersion version frame = bytes ++ work.flatMap Pending.bytes)
    (hwork : (work.map Pending.size).sum < sizeOf frame) :
    s.Wrote version frame (s.write bytes work) := by
  constructor
  · simp [left, write, hbytes]
  · simp only [size, write, map_append, sum_append]
    omega

lemma wrote_step (version : RespVersion) (frame : RespFrame) :
    s.Wrote version frame (s.step version frame) := by
  cases frame with
  | versioned v frame | array items | sequence frames =>
    exact s.wrote_write (by simp [encodeForVersion, Pending.bytes]) (by simp [Pending.size])
  | push items | map items =>
    cases version <;>
      exact s.wrote_write (by simp [encodeForVersion, Pending.bytes]) (by simp [Pending.size])
  | bulkString value =>
    cases value with
    | none => exact s.wrote_write (append_nil _).symm (by simp)
    | some value =>
      rw [step]
      split_ifs with h
      · constructor
        · simp [left, encodeForVersion, encodeScalar, sharedEncoding, encodeLeaf, aggregateHeader]
        · simp only [size, length_append, length_cons, length_nil,
            RespFrame.bulkString.sizeOf_spec]
          omega
      · exact s.wrote_write (append_nil _).symm (by simp)
  | simpleString value | error value | integer value | nullArray | null =>
    exact s.wrote_write (append_nil _).symm (by simp)

/-- What a round does: it hands out a piece of what is left, goes on with less work, or has
nothing left. -/
def Spends : Round → Prop
  | .piece bytes rest => bytes ≠ [] ∧ s.left = bytes ++ rest.left ∧ rest.size < s.size
  | .more rest => s.left = rest.left ∧ rest.size < s.size
  | .done => s.left = []

lemma spends_of_wrote {version : RespVersion} {frame : RespFrame} {work : List Pending}
    (hleft : s.pending.flatMap Pending.bytes =
      encodeForVersion version frame ++ work.flatMap Pending.bytes)
    (hsize : sizeOf frame + (work.map Pending.size).sum ≤ (s.pending.map Pending.size).sum) :
    s.Spends (.more ({ s with pending := work }.step version frame)) := by
  obtain ⟨hafter, hless⟩ := wrote_step { s with pending := work } version frame
  refine ⟨?_, hless.trans_le ?_⟩
  · rw [hafter, left, hleft, append_assoc, append_assoc, append_assoc]
  · dsimp only [size]
    omega

lemma spends_round : s.Spends s.round := by
  have hbuffer (hbuf : s.buf ≠ []) (hready : s.ready = []) :
      s.Spends (.piece s.buf { s with buf := [] }) := by
    refine ⟨hbuf, by simp [left, hready], ?_⟩
    have := length_pos_iff.mpr hbuf
    simp only [size, length_nil]
    omega
  unfold round
  split
  · next piece ready hready =>
      refine ⟨s.ready_ne piece (hready ▸ mem_cons_self), ?_, ?_⟩
      · simp [left, hready]
      · simp [size, hready]
  · next hready =>
      by_cases hfull : s.chunkBytes ≤ s.buf.length
      · rw [if_pos hfull]
        exact hbuffer (length_pos_iff.mp (s.chunkBytes_pos.trans_le hfull)) hready
      rw [if_neg hfull]
      split
      · next hpending =>
          split_ifs with hbuf
          · simp [Spends, left, hready, hbuf, hpending]
          · exact hbuffer hbuf hready
      · next frame version pending hpending =>
          apply s.spends_of_wrote
          · simp [hpending, Pending.bytes]
          · simp [hpending, Pending.size]
      · next version pending hpending =>
          exact ⟨by simp [left, hpending, Pending.bytes, encodeItemsForVersion],
            by simp [size, hpending, Pending.size]⟩
      · next item items version pending hpending =>
          apply s.spends_of_wrote
          · simp [hpending, Pending.bytes, encodeItemsForVersion]
          · simp [hpending, Pending.size]
            omega
      · next version pending hpending =>
          exact ⟨by simp [left, hpending, Pending.bytes, encodeEntriesForVersion],
            by simp [size, hpending, Pending.size]⟩
      · next key value entries version pending hpending =>
          apply s.spends_of_wrote
          · simp [hpending, Pending.bytes, encodeEntriesForVersion]
          · simp [hpending, Pending.size]
            omega

/-- The pieces are what is left, in order. -/
lemma collect_eq {s : ReplySegments} {rounds : Nat} (h : s.size < rounds) :
    ∃ pieces, s.collect rounds = some pieces ∧ pieces.flatten = s.left ∧
      ∀ piece ∈ pieces, piece ≠ [] := by
  induction rounds generalizing s with
  | zero => omega
  | succ rounds ih =>
    have hround := s.spends_round
    rw [collect]
    cases hresult : s.round with
    | done =>
      rw [hresult] at hround
      exact ⟨[], rfl, hround.symm, forall_mem_nil _⟩
    | more rest =>
      rw [hresult] at hround
      obtain ⟨hleft, hsize⟩ := hround
      rw [hleft]
      exact ih (by omega)
    | piece bytes rest =>
      rw [hresult] at hround
      obtain ⟨hbytes, hleft, hsize⟩ := hround
      obtain ⟨pieces, hcollect, hflatten, hpieces⟩ := ih (by omega : rest.size < rounds)
      refine ⟨bytes :: pieces, ?_, ?_, forall_mem_cons.mpr ⟨hbytes, hpieces⟩⟩
      · simp only [hcollect, Option.map_some]
      · rw [flatten_cons, hflatten, hleft]

end ReplySegments

/-- **Streaming is encoding.** For every frame, version, chunk size and zero-copy threshold the
iteration ends, its pieces are the bytes of the encoder one after the other, and none is empty. -/
theorem segments_eq (frame : RespFrame) (version : RespVersion) (chunkBytes zeroCopyMin : Nat) :
    ∃ rounds pieces,
      (ReplySegments.new frame version chunkBytes zeroCopyMin).collect rounds = some pieces ∧
      pieces.flatten = encodeForVersion version frame ∧ ∀ piece ∈ pieces, piece ≠ [] := by
  obtain ⟨pieces, hcollect, hflatten, hpieces⟩ := ReplySegments.collect_eq (Nat.lt_succ_self
    (ReplySegments.new frame version chunkBytes zeroCopyMin).size)
  refine ⟨_, pieces, hcollect, hflatten.trans ?_, hpieces⟩
  simp [ReplySegments.left, ReplySegments.new, Pending.bytes]

end Ratatosk.Resp
