import Ratatosk.Lib.Numeral
import Ratatosk.Lib.Prefix

/-!
# Sequential decoders

Readers of a byte stream whose only way to look at the stream is to take the next `n` bytes, and
which fail with one fixed error when there are fewer. A running digest is carried along.

* `Decoder` — a reader together with its law: a successful run used up a definite piece of the
  stream, would have given the same result whatever came after that piece, and fails with `eof`
  on every strict prefix of it. The law is a field, so any program written with `pure`, `bind`,
  `read`, `readRaw`, `digest` and `fail` satisfies it.
* `Decodes` — `bytes` is an encoding of `a` for a decoder, with the composition rules
  `decodes_pure`, `Decodes.bind`, `decodes_read`, `decodes_replicate`.
-/

namespace Ratatosk.Lib

open List

/-- A position in a byte stream: the digest of what was read and what is left. -/
@[ext] structure Cursor (δ : Type) where
  /-- Digest of the bytes read so far. -/
  digest : δ
  /-- Bytes not read yet. -/
  rest : Bytes

/-- A reader that uses the stream sequentially and fails with `eof` where it ends too early. -/
structure Decoder {ε : Type} (eof : ε) (δ α : Type) where
  /-- Reads a value off the stream. -/
  run : Cursor δ → Except ε (α × Cursor δ)
  /-- A success depends on the bytes it used only, and needs all of them. -/
  sequential : ∀ c a c', run c = .ok (a, c') → ∃ used, c.rest = used ++ c'.rest ∧
    (∀ rest, run ⟨c.digest, used ++ rest⟩ = .ok (a, ⟨c'.digest, rest⟩)) ∧
    ∀ p, StrictPrefix p used → run ⟨c.digest, p⟩ = .error eof

namespace Decoder

variable {ε : Type} {eof : ε} {δ α β : Type}

/-- Reads nothing. -/
def pure (a : α) : Decoder eof δ α where
  run c := .ok (a, c)
  sequential := by
    rintro c a c' h
    cases h
    exact ⟨[], rfl, fun _ => rfl, fun p hp => absurd hp not_strictPrefix_nil⟩

/-- Fails without looking at the stream. -/
def fail (e : ε) : Decoder eof δ α where
  run _ := .error e
  sequential := by
    intro c a c' h
    cases h

/-- One reader after the other. -/
def bind (d : Decoder eof δ α) (f : α → Decoder eof δ β) : Decoder eof δ β where
  run c := match d.run c with
    | .error e => .error e
    | .ok (a, c) => (f a).run c
  sequential := by
    intro c b c' h
    cases hd : d.run c with
    | error e => simp [hd] at h
    | ok r =>
      obtain ⟨a, mid⟩ := r
      simp only [hd] at h
      obtain ⟨u, hu, hrun, hcut⟩ := d.sequential c a mid hd
      obtain ⟨v, hv, hrun', hcut'⟩ := (f a).sequential mid b c' h
      refine ⟨u ++ v, by rw [hu, hv, append_assoc], ?_, ?_⟩
      · intro rest
        simp only [append_assoc, hrun, hrun']
      · intro p hp
        rcases strictPrefix_append hp with hp | ⟨q, rfl, hq⟩
        · simp only [hcut p hp]
        · simp only [hrun, hcut' q hq]

instance : Monad (Decoder eof δ) where
  pure := pure
  bind := bind

/-- The next `n` bytes, not digested. -/
def readRaw (n : Nat) : Decoder eof δ Bytes where
  run c := if c.rest.length < n then .error eof else .ok (c.rest.take n, ⟨c.digest, c.rest.drop n⟩)
  sequential := by
    intro c a c' h
    by_cases hlen : c.rest.length < n
    · rw [if_pos hlen] at h
      cases h
    · rw [if_neg hlen] at h
      cases h
      have htake : (c.rest.take n).length = n := by rw [length_take]; omega
      refine ⟨c.rest.take n, (take_append_drop n c.rest).symm, ?_, ?_⟩
      · intro rest
        have hnot : ¬ (c.rest.take n ++ rest).length < n := by
          rw [length_append]
          omega
        rw [if_neg hnot, take_left' htake, drop_left' htake]
      · intro p hp
        have := hp.length_lt
        rw [if_pos (by simp only; omega)]

/-- The digest of what was read so far. -/
def digest : Decoder eof δ δ where
  run c := .ok (c.digest, c)
  sequential := by
    intro c a c' h
    cases h
    exact ⟨[], rfl, fun _ => rfl, fun p hp => absurd hp not_strictPrefix_nil⟩

/-- Digests bytes that were read. -/
def absorb (step : δ → UInt8 → δ) (bytes : Bytes) : Decoder eof δ Unit where
  run c := .ok ((), ⟨bytes.foldl step c.digest, c.rest⟩)
  sequential := by
    intro c a c' h
    cases h
    exact ⟨[], rfl, fun _ => rfl, fun p hp => absurd hp not_strictPrefix_nil⟩

/-- The next `n` bytes, each one digested. -/
def read (step : δ → UInt8 → δ) (n : Nat) : Decoder eof δ Bytes := do
  let bytes ← readRaw n
  absorb step bytes
  return bytes

/-- The same reader `n` times. -/
def replicate (d : Decoder eof δ α) : (n : Nat) → Decoder eof δ (List α)
  | 0 => return []
  | n + 1 => do
    let a ← d
    let as ← replicate d n
    return a :: as

lemma run_bind_of_ok {d : Decoder eof δ α} {f : α → Decoder eof δ β} {c c' : Cursor δ} {a : α}
    (h : d.run c = .ok (a, c')) : (d >>= f).run c = (f a).run c' := by
  change (match d.run c with | .error e => Except.error e | .ok (a, c) => (f a).run c) = _
  rw [h]

lemma run_bind_of_error {d : Decoder eof δ α} {f : α → Decoder eof δ β} {c : Cursor δ} {e : ε}
    (h : d.run c = .error e) : (d >>= f).run c = .error e := by
  change (match d.run c with | .error e => Except.error e | .ok (a, c) => (f a).run c) = _
  rw [h]

/-- A successful composition succeeded in both parts. -/
lemma run_bind_eq_ok {d : Decoder eof δ α} {f : α → Decoder eof δ β} {c c' : Cursor δ} {b : β}
    (h : (d >>= f).run c = .ok (b, c')) :
    ∃ a mid, d.run c = .ok (a, mid) ∧ (f a).run mid = .ok (b, c') := by
  cases hd : d.run c with
  | error e =>
    rw [run_bind_of_error hd] at h
    cases h
  | ok r =>
    obtain ⟨a, mid⟩ := r
    rw [run_bind_of_ok hd] at h
    exact ⟨a, mid, rfl, h⟩

end Decoder

/-! ## Encodings -/

section decodes

variable {ε : Type} {eof : ε} {δ α β γ : Type} {step : δ → UInt8 → δ}
variable {d : Decoder eof δ α} {bytes : Bytes} {a : α}

/-- `bytes` is an encoding of `a`: wherever it stands, `d` reads exactly it and yields `a`. -/
def Decodes (step : δ → UInt8 → δ) (d : Decoder eof δ α) (bytes : Bytes) (a : α) : Prop :=
  ∀ g rest, d.run ⟨g, bytes ++ rest⟩ = .ok (a, ⟨bytes.foldl step g, rest⟩)

lemma decodes_pure (a : α) : Decodes step (pure a : Decoder eof δ α) [] a :=
  fun _ _ => rfl

/-- Encodings read one after the other are concatenated. -/
lemma Decodes.bind {f : α → Decoder eof δ β} {bytes' : Bytes} {b : β} (hd : Decodes step d bytes a)
    (hf : Decodes step (f a) bytes' b) : Decodes step (d >>= f) (bytes ++ bytes') b := by
  intro g rest
  rw [append_assoc, Decoder.run_bind_of_ok (hd g _), hf, List.foldl_append]

lemma Decodes.bind_nil {f : α → Decoder eof δ β} {b : β} (hd : Decodes step d bytes a)
    (hf : Decodes step (f a) [] b) : Decodes step (d >>= f) bytes b := by
  have h := hd.bind hf
  rw [append_nil] at h
  exact h

lemma Decodes.bind_pure (hd : Decodes step d bytes a) (f : α → β) :
    Decodes step (d >>= fun a => pure (f a)) bytes (f a) :=
  hd.bind_nil (decodes_pure (f a))

lemma run_readRaw {n : Nat} (h : bytes.length = n) (g : δ) (rest : Bytes) :
    (Decoder.readRaw n : Decoder eof δ Bytes).run ⟨g, bytes ++ rest⟩ = .ok (bytes, ⟨g, rest⟩) := by
  subst h
  have hlen : ¬ (bytes ++ rest).length < bytes.length := by
    rw [length_append]
    omega
  simp only [Decoder.readRaw, if_neg hlen, take_left, drop_left]

lemma decodes_read (bytes : Bytes) :
    Decodes step (Decoder.read step bytes.length : Decoder eof δ Bytes) bytes bytes := by
  intro g rest
  rw [Decoder.read, Decoder.run_bind_of_ok (run_readRaw rfl g rest)]
  rfl

/-- A counted list: each item's encoding in turn. -/
lemma decodes_replicate {encode : γ → Bytes} {value : γ → α} {items : List γ}
    (h : ∀ x ∈ items, Decodes step d (encode x) (value x)) :
    Decodes step (d.replicate items.length) (items.flatMap encode) (items.map value) := by
  induction items with
  | nil => exact decodes_pure []
  | cons x items ih =>
    have hx := h x mem_cons_self
    have htail := ih fun y hy => h y (mem_cons_of_mem _ hy)
    exact hx.bind (htail.bind_pure fun as => value x :: as)

end decodes

end Ratatosk.Lib
