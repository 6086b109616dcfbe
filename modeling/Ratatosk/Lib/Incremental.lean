import Mathlib.Data.List.Basic

/-!
# Incremental readers

A reader is tried on the front of a buffer and answers with an item and the buffer left, with an
error, or with a request for more input. A connection feeds it a stream in chunks and drains the
buffer after each.

* `Later` — an answer on a buffer against the answer on an extension of it: only a request for
  more input may change. `Later.bind` composes it through the steps of a reader.
* `drain` and `feed` — all items at the front of a buffer, and the same for a stream that comes
  in chunks. An error ends the connection, so chunks after it are not looked at.
* `Incremental` — the laws of a reader: it leaves the buffer alone while it waits, an item uses
  up input, and an item stays when more input arrives.
-/

namespace Ratatosk.Lib

variable {α β γ ε : Type}

/-! ## Answers on an extension of the buffer -/

/-- `r'` is an answer given with more input than `r`: the same, unless `r` asks for more. -/
def Later (r r' : Except ε (Option α)) : Prop := r = .ok none ∨ r' = r

lemma Later.refl (r : Except ε (Option α)) : Later r r := Or.inr rfl

lemma later_none (r : Except ε (Option α)) : Later (.ok none) r := Or.inl rfl

/-- A step that passes a request for more input on, after one that is only refined. -/
lemma Later.bind {r r' : Except ε (Option α)} {f f' : Option α → Except ε (Option γ)}
    (h : Later r r') (hnone : f none = .ok none)
    (hsome : ∀ a, r = .ok (some a) → Later (f (some a)) (f' (some a))) :
    Later (r.bind f) (r'.bind f') := by
  rcases h with rfl | rfl
  · exact Or.inl hnone
  · rcases r' with e | _ | a
    · exact Later.refl _
    · exact Or.inl hnone
    · exact hsome a rfl

/-! ## Draining a buffer and feeding a stream -/

section drain

variable (read : List β → Except ε (Option α) × List β)

/-- Reads items off the buffer until the reader fails or waits: the items, and the error or the
buffer left. -/
def drainLoop : (fuel : Nat) → List β → List α × Except ε (List β)
  | 0, buf => ([], .ok buf)
  | fuel + 1, buf =>
    match read buf with
    | (.error e, _) => ([], .error e)
    | (.ok none, rest) => ([], .ok rest)
    | (.ok (some a), rest) => ((a :: (drainLoop fuel rest).1), (drainLoop fuel rest).2)

/-- Drains a buffer. An item uses up input, so the fuel is enough. -/
def drain (buf : List β) : List α × Except ε (List β) := drainLoop read (buf.length + 1) buf

/-- The next chunk of a stream arrives. -/
def feed (state : List α × Except ε (List β)) (chunk : List β) : List α × Except ε (List β) :=
  match state with
  | (_, .error _) => state
  | (items, .ok buf) => (items ++ (drain read (buf ++ chunk)).1, (drain read (buf ++ chunk)).2)

/-- The places of a stream where an item starts. -/
inductive Start : List β → List β → Prop where
  | here (stream : List β) : Start stream stream
  | next {stream stream' rest : List β} {a : α} (hread : read stream = (.ok (some a), stream'))
      (hstart : Start stream' rest) : Start stream rest

/-- Where an item starts, an error on the input so far stays the answer while input arrives. -/
def ErrorsStick (stream : List β) : Prop :=
  ∀ rest, Start read stream rest → ∀ p q e, p ++ q <+: rest → (read p).1 = .error e →
    (read (p ++ q)).1 = .error e

/-- The laws of an incremental reader. -/
structure Incremental : Prop where
  /-- While it waits the buffer stays. -/
  waits : ∀ {buf rest}, read buf = (.ok none, rest) → rest = buf
  /-- An item uses up input. -/
  consumes : ∀ {buf rest a}, read buf = (.ok (some a), rest) → rest.length < buf.length
  /-- An item does not depend on the input behind it. -/
  settled : ∀ {buf rest a} (ext), read buf = (.ok (some a), rest) →
    read (buf ++ ext) = (.ok (some a), rest ++ ext)

end drain

section laws

variable {read : List β → Except ε (Option α) × List β} (hread : Incremental read)
variable {rest buf stream : List β}

include hread

/-- More fuel than input is enough. -/
lemma drainLoop_congr {fuel fuel' : Nat} (h : buf.length < fuel) (h' : buf.length < fuel') :
    drainLoop read fuel buf = drainLoop read fuel' buf := by
  induction fuel generalizing buf fuel' with
  | zero => omega
  | succ fuel ih =>
    obtain ⟨fuel', rfl⟩ := Nat.exists_eq_succ_of_ne_zero (by omega : fuel' ≠ 0)
    unfold drainLoop
    rcases hbuf : read buf with ⟨e | _ | a, rest⟩
    · rfl
    · rfl
    · have hlt := hread.consumes hbuf
      simp only [ih (by omega : rest.length < fuel) (by omega : rest.length < fuel')]

lemma drain_of_item {a : α} (h : read buf = (.ok (some a), rest)) :
    drain read buf = (a :: (drain read rest).1, (drain read rest).2) := by
  have hlt := hread.consumes h
  have htail : drainLoop read buf.length rest = drain read rest :=
    drainLoop_congr hread hlt (Nat.lt_succ_self _)
  rw [← htail]
  simp only [drain, drainLoop, h]

omit hread in
lemma drain_of_error {e : ε} (h : (read buf).1 = .error e) : drain read buf = ([], .error e) := by
  simp only [drain, drainLoop]
  rcases hbuf : read buf with ⟨answer, rest⟩
  rw [hbuf] at h
  simp only at h
  rw [h]

lemma drain_of_wait (h : read buf = (.ok none, rest)) : drain read buf = ([], .ok buf) := by
  simp only [drain, drainLoop, h]
  rw [hread.waits h]

omit hread in
lemma feed_cons (a : α) (state : List α × Except ε (List β)) (chunk : List β) :
    feed read (a :: state.1, state.2) chunk =
      (a :: (feed read state chunk).1, (feed read state chunk).2) := by
  rcases state with ⟨items, e | buf⟩
  · rfl
  · rfl

/-- One more chunk, after the stream so far has been drained. -/
lemma feed_drain {sofar chunk : List β} (hstick : ErrorsStick read (sofar ++ chunk)) :
    feed read (drain read sofar) chunk = drain read (sofar ++ chunk) := by
  -- by induction on what has arrived: an item makes it shorter
  induction hlen : sofar.length using Nat.strongRecOn generalizing sofar with
  | _ n ih =>
    rcases hbuf : read sofar with ⟨e | _ | a, rest⟩
    · have herror := hstick _ (.here _) sofar chunk e (List.prefix_refl _) (by rw [hbuf])
      rw [drain_of_error (by rw [hbuf]), drain_of_error herror]
      rfl
    · rw [drain_of_wait hread hbuf]
      rfl
    · have hlt := hread.consumes hbuf
      have hnext := hread.settled chunk hbuf
      have hstick' : ErrorsStick read (rest ++ chunk) :=
        fun r hstart => hstick r (.next hnext hstart)
      rw [drain_of_item hread hbuf, drain_of_item hread hnext, feed_cons,
        ih rest.length (hlen ▸ hlt) hstick' rfl]

lemma Start.append (h : Start read stream rest) (ext : List β) :
    Start read (stream ++ ext) (rest ++ ext) := by
  induction h with
  | here stream => exact .here _
  | next hitem _ ih => exact .next (hread.settled ext hitem) ih

lemma Start.length_le (h : Start read stream rest) : rest.length ≤ stream.length := by
  induction h with
  | here stream => exact Nat.le_refl _
  | next hitem _ ih => exact Nat.le_trans ih (Nat.le_of_lt (hread.consumes hitem))

/-- What holds along a stream holds along what has arrived of it. -/
lemma ErrorsStick.of_append {ext : List β} (h : ErrorsStick read (stream ++ ext)) :
    ErrorsStick read stream := by
  intro rest hstart p q e hpre
  exact h _ (hstart.append hread ext) p q e (hpre.trans (List.prefix_append _ _))

/-- **Chunking**: feeding a stream in chunks gives what draining it at once gives. -/
theorem foldl_feed_eq_drain (sofar : List β) (chunks : List (List β))
    (hstick : ErrorsStick read (sofar ++ chunks.flatten)) :
    chunks.foldl (feed read) (drain read sofar) = drain read (sofar ++ chunks.flatten) := by
  induction chunks generalizing sofar with
  | nil => simp
  | cons chunk chunks ih =>
    rw [List.flatten_cons, ← List.append_assoc] at hstick ⊢
    rw [List.foldl_cons, feed_drain hread (hstick.of_append hread)]
    exact ih _ hstick

end laws

end Ratatosk.Lib
