import Ratatosk.Lib.Decoder

/-!
# Loops and results of decoders

A decoder run a number of times, each time from the state the last one left, and what can be said of
a result whatever the bytes were.

* `decodes_iterate` — the encodings of items one after the other are read by a loop whose body reads
  each of them; an invariant relates the state to the items that are still to come.
* `Decoder.Yields` — a postcondition: every result has a property; `Yields.bind`, `yields_iterate`
  follow the program.
-/

namespace Ratatosk.Lib

variable {ε : Type} {eof : ε} {δ σ γ α β : Type} {step : δ → UInt8 → δ}

/-- A reader `n` times, each time from the state that the last one left. -/
def Decoder.iterate (body : σ → Decoder eof δ σ) : Nat → σ → Decoder eof δ σ
  | 0, s => return s
  | n + 1, s => do
    let s ← body s
    iterate body n s

/-- The rule for loops: an invariant of the state and of the items to come. -/
lemma decodes_iterate {body : σ → Decoder eof δ σ} {encode : γ → Bytes} {next : σ → γ → σ}
    (inv : σ → List γ → Prop)
    (hstep : ∀ s x items, inv s (x :: items) →
      Decodes step (body s) (encode x) (next s x) ∧ inv (next s x) items)
    {items : List γ} {s : σ} (h : inv s items) :
    Decodes step (Decoder.iterate body items.length s) (items.flatMap encode)
      (items.foldl next s) := by
  induction items generalizing s with
  | nil => exact decodes_pure s
  | cons x items ih =>
    obtain ⟨hx, hrest⟩ := hstep s x items h
    exact hx.bind (ih hrest)

/-! ## Results -/

/-- Whatever the bytes are, a result satisfies `P`. -/
def Decoder.Yields (d : Decoder eof δ α) (P : α → Prop) : Prop :=
  ∀ c a c', d.run c = .ok (a, c') → P a

lemma yields_pure {P : α → Prop} {a : α} (h : P a) : (pure a : Decoder eof δ α).Yields P := by
  intro c b c' hrun
  cases hrun
  exact h

lemma yields_fail {P : α → Prop} (e : ε) : (Decoder.fail e : Decoder eof δ α).Yields P := by
  intro c b c' hrun
  cases hrun

/-- The rule for sequences. -/
lemma Decoder.Yields.bind {d : Decoder eof δ α} {f : α → Decoder eof δ β} {P : α → Prop}
    {Q : β → Prop} (hd : d.Yields P) (hf : ∀ a, P a → (f a).Yields Q) : (d >>= f).Yields Q := by
  intro c b c' hrun
  obtain ⟨a, mid, ha, hb⟩ := Decoder.run_bind_eq_ok hrun
  exact hf a (hd c a mid ha) mid b c' hb

/-- A first part whose result does not matter. -/
lemma yields_bind_of_forall {d : Decoder eof δ α} {f : α → Decoder eof δ β} {Q : β → Prop}
    (hf : ∀ a, (f a).Yields Q) : (d >>= f).Yields Q :=
  Decoder.Yields.bind (P := fun _ => True) (fun _ _ _ _ => trivial) fun a _ => hf a

/-- The rule for loops: what the body preserves. -/
lemma yields_iterate {body : σ → Decoder eof δ σ} {inv : σ → Prop}
    (hbody : ∀ s, inv s → (body s).Yields inv) (n : Nat) {s : σ} (h : inv s) :
    (Decoder.iterate body n s).Yields inv := by
  induction n generalizing s with
  | zero => exact yields_pure h
  | succ n ih => exact (hbody s h).bind fun s hs => ih hs

end Ratatosk.Lib
