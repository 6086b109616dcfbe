import Ratatosk.Aof.Recovery

/-!
# Replay, record by record

The loop of `Recovery` works on bytes. On a file of records it is a fold over the records, up to
the first one that is not whole.

* `replayRecords` — the fold; `replayLoop_records` — the loop runs through whole records as the
  fold does.
-/

namespace Ratatosk.Aof

open Lib Resp Engine List

variable {σ κ : Type}

/-! ## Records on the wire -/

section wire

variable (r : Record) (rest : Bytes)

lemma levels_frame : levels r.frame ≤ maxNestingDepth := by
  have hlimit : 2 ≤ maxNestingDepth := by decide
  unfold Record.frame
  split
  · rw [levels_bulkArray]
    omega
  · simp only [levels, levelsItems, levels_bulkArray]
    omega

/-- The parser reads a record back exactly if it reads its command back. -/
lemma wire_frame_iff : Wire r.frame ↔ Wire (bulkArray r.argv) := by
  have hmarker : timedCommandMarker.length ≤ maxBulkLength := by decide
  unfold Record.frame
  split
  · rfl
  · simp [Wire, WireItems, hmarker, maxArrayElements]

lemma exists_bytes_eq_cons : ∃ tail, r.bytes = 42 :: tail := by
  unfold Record.bytes Record.frame
  split
  · exact ⟨_, rfl⟩
  · exact ⟨_, rfl⟩

lemma one_le_length_bytes : 1 ≤ r.bytes.length := by
  obtain ⟨tail, htail⟩ := exists_bytes_eq_cons r
  rw [htail]
  simp

lemma length_le_length_recordsBytes (records : List Record) :
    records.length ≤ (recordsBytes records).length := by
  induction records with
  | nil => simp
  | cons r records ih =>
    have hone := one_le_length_bytes r
    simp only [recordsBytes_cons, length_cons, length_append]
    omega

/-- A record is read back. -/
lemma parse_record (hwire : Wire r.frame) :
    parse (r.bytes ++ rest) = (.ok (some r.frame), rest) :=
  parse_encode_append hwire (levels_frame r) rest

/-- A record over the limits is refused, whatever follows it. -/
lemma parse_record_over (hover : ¬ Wire r.frame) :
    ∃ e, parse (r.bytes ++ rest) = (.error e, r.bytes ++ rest) := by
  have hargv : ¬ Wire (bulkArray r.argv) := fun h => hover ((wire_frame_iff r).mpr h)
  have hzero : 0 < maxNestingDepth := by decide
  have hone : 1 < maxNestingDepth := by decide
  have hrefused : Refused r.frame 0 := by
    unfold Record.frame
    split
    · exact refused_bulkArray hargv hzero
    · -- the marker and the timestamp are read, the command is refused
      have hmarker : timedCommandMarker.length ≤ maxBulkLength := by decide
      have hcommand : Refused (bulkArray r.argv) 1 := refused_bulkArray hargv hone
      refine refused_array hzero (by simp [maxArrayElements]) ?_ ⟨_, by simp, hcommand⟩
      simp only [forall_mem_cons, not_mem_nil, false_imp_iff, implies_true, and_true]
      exact ⟨Or.inl ⟨hmarker, hone.le⟩, Or.inl ⟨trivial, hone.le⟩, Or.inr hcommand⟩
  obtain ⟨e, hdescribe⟩ := hrefused (r.bytes ++ rest) 0 rest rfl
  exact ⟨e, by simp only [parse, hdescribe]⟩

lemma readFrame_record : readFrame (r.bytes ++ rest) = parse (r.bytes ++ rest) := by
  obtain ⟨tail, htail⟩ := exists_bytes_eq_cons r
  rw [htail]
  rfl

lemma exists_encode_bulkArray_eq_concat (argv : List Bytes) :
    ∃ text, encode (bulkArray argv) = text ++ [10] := by
  have hcrlf : ascii "\r\n" = [13] ++ [10] := rfl
  rw [← respArrayBytes_eq, respArrayBytes, hcrlf]
  rcases eq_nil_or_concat' argv with rfl | ⟨init, last, rfl⟩
  · exact ⟨ascii "*" ++ decimal 0 ++ [13], by simp⟩
  · simp only [flatMap_append, flatMap_cons, flatMap_nil, append_nil,
      ← append_assoc]
    exact ⟨_, rfl⟩

lemma exists_bytes_eq_concat : ∃ text, r.bytes = text ++ [10] := by
  obtain ⟨text, htext⟩ := exists_encode_bulkArray_eq_concat r.argv
  unfold Record.bytes Record.frame
  split
  · exact ⟨text, htext⟩
  · simp only [encode_array, encodeItems_cons, encodeItems_nil, append_nil, htext,
      ← append_assoc]
    exact ⟨_, rfl⟩

lemma exists_recordsBytes_eq_concat {records : List Record} (h : records ≠ []) :
    ∃ text, recordsBytes records = text ++ [10] := by
  obtain ⟨init, last, rfl⟩ := (eq_nil_or_concat' records).resolve_left h
  obtain ⟨text, htext⟩ := exists_bytes_eq_concat last
  refine ⟨recordsBytes init ++ text, ?_⟩
  rw [recordsBytes_append, recordsBytes_cons, recordsBytes_nil, append_nil, htext,
    append_assoc]

end wire

/-! ## Torn tails -/

section torn

variable {p zeros : Bytes}

lemma rdropWhile_append_zeros (hzeros : ∀ z ∈ zeros, z = 0) :
    (p ++ zeros).rdropWhile (· == 0) = p.rdropWhile (· == 0) := by
  unfold List.rdropWhile
  rw [reverse_append, dropWhile_append_of_pos]
  intro z hz
  simp [hzeros z (mem_reverse.mp hz)]

/-- Zeros alone are a torn tail. -/
lemma isTornTail_zeros (hne : zeros ≠ []) (hzeros : ∀ z ∈ zeros, z = 0) :
    isTornTail zeros = true := by
  have hnil : zeros.rdropWhile (· == 0) = [] := by
    rw [rdropWhile_eq_nil_iff]
    intro z hz
    simp [hzeros z hz]
  have hlength : ¬ ([] : Bytes).length = zeros.length := by
    intro h
    exact hne (length_eq_zero_iff.mp h.symm)
  simp only [isTornTail, hnil, if_neg hlength, if_true]

/-- A record that is cut off, with zero bytes behind it, is a torn tail. The payload may end in
zero bytes of its own: what is left without them is still a cut of the record. -/
lemma isTornTail_cut {r : Record} (hwire : Wire r.frame) (hcut : StrictPrefix p r.bytes)
    (hp : p ≠ []) (hne : zeros ≠ []) (hzeros : ∀ z ∈ zeros, z = 0) :
    isTornTail (p ++ zeros) = true := by
  obtain ⟨t, ht, hbytes⟩ := hcut
  obtain ⟨tail, htail⟩ := exists_bytes_eq_cons r
  obtain ⟨q, rfl⟩ : ∃ q, p = 42 :: q := by
    cases p with
    | nil => exact absurd rfl hp
    | cons c q =>
      rw [hbytes, cons_append, List.cons.injEq] at htail
      exact ⟨q, by rw [htail.1]⟩
  obtain ⟨dropped, hdropped⟩ : (42 :: q).rdropWhile (· == 0) <+: 42 :: q :=
    rdropWhile_prefix _ _
  have hrecord : (42 :: q).rdropWhile (· == 0) ≠ [] := by
    rw [Ne, rdropWhile_eq_nil_iff]
    intro hall
    exact absurd (hall 42 mem_cons_self) (by decide)
  have hshort : ¬ ((42 :: q).rdropWhile (· == 0)).length = (42 :: q ++ zeros).length := by
    have hle := congrArg List.length hdropped
    have hpos := length_pos_iff.mpr hne
    rw [length_append] at hle ⊢
    omega
  have hparse : parse ((42 :: q).rdropWhile (· == 0)) =
      (.ok none, (42 :: q).rdropWhile (· == 0)) := by
    refine parse_cut_nil hwire (levels_frame r) ⟨dropped ++ t, ?_, ?_⟩
    · intro hnil
      exact ht (append_eq_nil_iff.mp hnil).2
    · rw [← append_assoc, hdropped]
      exact hbytes
  simp only [isTornTail, rdropWhile_append_zeros hzeros, if_neg hshort, if_neg hrecord, hparse]
  rfl

lemma isTornTail_concat {text : Bytes} {c : UInt8} (hc : c ≠ 0) :
    isTornTail (text ++ [c]) = false := by
  have hkeep : (text ++ [c]).rdropWhile (· == 0) = text ++ [c] := by
    apply rdropWhile_concat_neg
    simpa using hc
  simp only [isTornTail, hkeep, if_true]

end torn

/-! ## The fold over the records -/

lemma bind_eq_ok_iff {ε α β : Type} {x : Except ε α} {f : α → Except ε β} {y : β} :
    x.bind f = .ok y ↔ ∃ a, x = .ok a ∧ f a = .ok y := by
  cases x <;> simp [Except.bind]

lemma bind_congr_ok {ε α β : Type} {x : Except ε α} {f g : α → Except ε β}
    (h : ∀ a, x = .ok a → f a = g a) : x.bind f = x.bind g := by
  cases x with
  | error e => simp only [Except.bind]
  | ok a => exact h a rfl

section fold

variable (b : Backend σ κ) (wall : Nat → Int64)

/-- One record. -/
def replayRecord (p : Progress σ κ) (r : Record) : Except ReplayError (Progress σ κ) :=
  replayFrame b wall p r.frame r.bytes.length

/-- The records in order. -/
def replayRecords : List Record → Progress σ κ → Except ReplayError (Progress σ κ)
  | [], p => .ok p
  | r :: records, p => (replayRecord b wall p r).bind (replayRecords records)

/-- Records are replayed one after the other. -/
lemma replayRecords_append (records records' : List Record) (p : Progress σ κ) :
    replayRecords b wall (records ++ records') p =
      (replayRecords b wall records p).bind (replayRecords b wall records') := by
  induction records generalizing p with
  | nil => rfl
  | cons r records ih =>
    simp only [cons_append, replayRecords]
    cases replayRecord b wall p r with
    | error e => rfl
    | ok p' => exact ih p'

/-- The loop runs through whole records as the fold does. -/
theorem replayLoop_records (records : List Record) (hwire : ∀ r ∈ records, Wire r.frame)
    (fuel : Nat) (rest : Bytes) (p : Progress σ κ) :
    replayLoop b wall (records.length + fuel) (recordsBytes records ++ rest) p =
      (replayRecords b wall records p).bind (replayLoop b wall fuel rest) := by
  induction records generalizing p with
  | nil => simp [replayRecords, Except.bind]
  | cons r records ih =>
    have hread : readFrame (r.bytes ++ (recordsBytes records ++ rest)) =
        (.ok (some r.frame), recordsBytes records ++ rest) := by
      rw [readFrame_record]
      exact parse_record r _ (hwire r mem_cons_self)
    have hconsumed : (r.bytes ++ (recordsBytes records ++ rest)).length -
        (recordsBytes records ++ rest).length = r.bytes.length := by
      rw [length_append]
      omega
    rw [length_cons, show records.length + 1 + fuel = records.length + fuel + 1 by omega,
      recordsBytes_cons, append_assoc]
    simp only [replayLoop, hread, hconsumed, replayRecords]
    rw [show replayFrame b wall p r.frame r.bytes.length = replayRecord b wall p r from rfl]
    cases replayRecord b wall p r with
    | error e => rfl
    | ok p' => exact ih (fun r' hr' => hwire r' (mem_cons_of_mem _ hr')) p'

/-- What can stand at the end of a file that was cut: nothing, or a record that is cut off. -/
def CutRecord (t : Bytes) : Prop := t = [] ∨ ∃ r : Record, Wire r.frame ∧ StrictPrefix t r.bytes

/-- **The end of a cut file.** On a record that is cut off, with any number of zero bytes behind
it, the loop ends without an error. -/
theorem replayLoop_tail {t zeros : Bytes} (hcut : CutRecord t) (hzeros : ∀ z ∈ zeros, z = 0)
    (fuel : Nat) (p : Progress σ κ) :
    replayLoop b wall (fuel + 1) (t ++ zeros) p = .ok (p.stop (!(t ++ zeros).isEmpty)) := by
  rcases t with _ | ⟨c, q⟩
  · cases zeros with
    | nil => rfl
    | cons z zeros =>
      have hz : z = 0 := hzeros z mem_cons_self
      have htorn := isTornTail_zeros (cons_ne_nil z zeros) hzeros
      have hread : readFrame ([] ++ z :: zeros) =
          (.error (.invalidFrameType z), [] ++ z :: zeros) := by
        rw [hz]
        rfl
      simp only [replayLoop, hread]
      rw [nil_append, htorn]
      rfl
  · obtain ⟨r, hwire, hstrict⟩ := hcut.resolve_left (cons_ne_nil c q)
    obtain ⟨tail, htail⟩ := exists_bytes_eq_cons r
    have hc : c = 42 := by
      obtain ⟨t, -, hbytes⟩ := hstrict
      rw [hbytes, cons_append, List.cons.injEq] at htail
      exact htail.1
    have hread : readFrame (c :: q ++ zeros) = parse (c :: q ++ zeros) := by
      rw [hc]
      rfl
    obtain ⟨⟨hsome, hnone⟩, hbuf⟩ := parse_cut hwire (levels_frame r) hstrict hzeros
    rcases hparse : parse (c :: q ++ zeros) with ⟨result, buf⟩
    rw [hparse] at hsome hnone
    simp only [replayLoop, hread, hparse]
    rcases result with e | _ | frame
    · have hne : zeros ≠ [] := by
        intro hnil
        cases hnone hnil
      simp only [isTornTail_cut hwire hstrict (cons_ne_nil c q) hne hzeros, if_true]
      rfl
    · rfl
    · exact absurd rfl (hsome frame)

/-- A file of whole records that replays has no record over the limits of the parser, and its
fold succeeds. -/
theorem exists_replayRecords_of_replayLoop {records : List Record} {fuel : Nat}
    {p : Progress σ κ} {result : Progress σ κ × Option Nat}
    (h : replayLoop b wall fuel (recordsBytes records) p = .ok result) :
    (∀ r ∈ records, Wire r.frame) ∧ ∃ q, replayRecords b wall records p = .ok q := by
  induction records generalizing fuel p with
  | nil => exact ⟨by simp, p, rfl⟩
  | cons r records ih =>
    cases fuel with
    | zero => cases h
    | succ fuel =>
      by_cases hwire : Wire r.frame
      · have hread : readFrame (recordsBytes (r :: records)) =
            (.ok (some r.frame), recordsBytes records) := by
          rw [recordsBytes_cons, readFrame_record]
          exact parse_record r _ hwire
        have hconsumed : (recordsBytes (r :: records)).length - (recordsBytes records).length =
            r.bytes.length := by
          rw [recordsBytes_cons, length_append]
          omega
        simp only [replayLoop, hread, hconsumed] at h
        obtain ⟨p', hstep, hrest⟩ := bind_eq_ok_iff.mp h
        obtain ⟨hwires, q, hq⟩ := ih hrest
        refine ⟨forall_mem_cons.mpr ⟨hwire, hwires⟩, q, ?_⟩
        exact bind_eq_ok_iff.mpr ⟨p', hstep, hq⟩
      · -- over the limits: refused, and no torn tail
        obtain ⟨e, hparse⟩ := parse_record_over r (recordsBytes records) hwire
        have hread : readFrame (recordsBytes (r :: records)) =
            (.error e, recordsBytes (r :: records)) := by
          rw [recordsBytes_cons, readFrame_record, hparse]
        obtain ⟨text, htext⟩ := exists_recordsBytes_eq_concat (cons_ne_nil r records)
        have hwhole : isTornTail (recordsBytes (r :: records)) = false := by
          rw [htext]
          exact isTornTail_concat (by decide)
        simp only [replayLoop, hread, hwhole] at h
        cases h

end fold

end Ratatosk.Aof
