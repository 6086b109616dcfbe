import Ratatosk.Resp.RoundTrip

/-!
# Requests: arrays of bulk strings

The frames that commands travel in, on a connection and in the append-only file.

* `refused_bulkArray` — the others are refused as soon as the length over the limit has been
  read: the parser never asks for more.
-/

namespace Ratatosk.Resp

open Lib List

/-- A RESP array of bulk strings. -/
def bulkArray (argv : List Bytes) : RespFrame := .array (argv.map fun arg => .bulkString (some arg))

/-! ## Within the limits -/

lemma wireItems_bulks_iff (argv : List Bytes) :
    WireItems (argv.map fun arg => .bulkString (some arg)) ↔
      ∀ arg ∈ argv, arg.length ≤ maxBulkLength := by
  induction argv with
  | nil => simp [WireItems]
  | cons arg argv ih => simp [WireItems, Wire, ih]

lemma wire_bulkArray_iff (argv : List Bytes) :
    Wire (bulkArray argv) ↔
      argv.length ≤ maxArrayElements ∧ ∀ arg ∈ argv, arg.length ≤ maxBulkLength := by
  rw [bulkArray, Wire, length_map, wireItems_bulks_iff]

lemma levelsItems_bulks (argv : List Bytes) :
    levelsItems (argv.map fun arg => .bulkString (some arg)) = 0 := by
  induction argv with
  | nil => rfl
  | cons arg argv ih => simp [levelsItems, levels, ih]

lemma levels_bulkArray (argv : List Bytes) : levels (bulkArray argv) = 1 := by
  rw [bulkArray, levels, levelsItems_bulks]

/-! ## Over the limits -/

section limits

variable {data rest : Bytes} {idx depth : Nat}

/-- The parser refuses the encoding of `f` at `depth`, wherever it stands and whatever follows. -/
def Refused (f : RespFrame) (depth : Nat) : Prop :=
  ∀ data idx suffix, data.drop idx = encode f ++ suffix →
    ∃ e, describeFrameAt data idx depth = .error e

lemma refused_bulkString {value : Bytes} (h : maxBulkLength < value.length) (depth : Nat) :
    Refused (.bulkString (some value)) depth := by
  intro data idx suffix hdata
  have hmarker : data.drop idx =
      36 :: (decimalInt value.length ++ crlf ++ (value ++ crlf ++ suffix)) := by
    rw [hdata, encode_bulkString, decimal_eq_decimalInt]
    simp
  rw [describeFrameAt_eq, describeStep, getElem?_of_drop_eq_cons hmarker]
  simp only [describeBulkString_eq, onLine_of_some (firstLine_decimalInt hmarker)]
  obtain ⟨e, herror⟩ := lengthOn_over (by decide) h
  rw [herror]
  exact ⟨e, rfl⟩

/-- The item loop reaches the first item that is refused. -/
lemma describeItems_refused (items : List RespFrame) (idx : Nat)
    (hitems : ∀ f ∈ items, (Wire f ∧ levels f + depth ≤ maxNestingDepth) ∨ Refused f depth)
    (hsome : ∃ f ∈ items, Refused f depth) (h : data.drop idx = encodeItems items ++ rest) :
    ∃ e, describeItems (fun cur => describeFrameAt data cur depth) items.length idx =
      .error e := by
  induction items generalizing idx with
  | nil => simp at hsome
  | cons item items ih =>
    rw [encodeItems_cons, append_assoc] at h
    by_cases hitem : Refused item depth
    · obtain ⟨e, hhead⟩ := hitem data idx _ h
      refine ⟨e, ?_⟩
      simp only [length_cons, describeItems, hhead, bind, Except.bind]
    · have hlater : ∃ f ∈ items, Refused f depth := by
        obtain ⟨f, hf, hrefused⟩ := hsome
        rcases mem_cons.mp hf with rfl | hf
        · exact absurd hrefused hitem
        · exact ⟨f, hf, hrefused⟩
      obtain ⟨hwire, hlevels⟩ := (hitems item mem_cons_self).resolve_right hitem
      obtain ⟨desc, hdesc⟩ := describeFrameAt_encode item depth idx hwire hlevels
      obtain ⟨e, htail⟩ := ih _ (fun f hf => hitems f (mem_cons_of_mem _ hf)) hlater
        (drop_of_drop_eq_append h)
      refine ⟨e, ?_⟩
      simp only [length_cons, describeItems, (hdesc data _ h).1, htail, bind, Except.bind]

lemma refused_array {items : List RespFrame} (hdepth : depth < maxNestingDepth)
    (hlen : items.length ≤ maxArrayElements)
    (hitems : ∀ f ∈ items,
      (Wire f ∧ levels f + (depth + 1) ≤ maxNestingDepth) ∨ Refused f (depth + 1))
    (hsome : ∃ f ∈ items, Refused f (depth + 1)) : Refused (.array items) depth := by
  intro data idx suffix h
  rw [encode_array, append_assoc] at h
  obtain ⟨e, hdescribe⟩ := describeItems_refused items _ hitems hsome (drop_of_drop_eq_append h)
  rw [describeFrameAt_header .array hlen h hdepth, Aggregate.width, Nat.one_mul, Aggregate.marker,
    hdescribe]
  exact ⟨e, rfl⟩

/-- **A request over the limits is refused**, whatever follows it. -/
theorem refused_bulkArray {argv : List Bytes} (hover : ¬ Wire (bulkArray argv))
    (hdepth : depth < maxNestingDepth) : Refused (bulkArray argv) depth := by
  by_cases hlen : argv.length ≤ maxArrayElements
  · rw [wire_bulkArray_iff, not_and] at hover
    obtain ⟨long, hlong, hbound⟩ : ∃ arg ∈ argv, maxBulkLength < arg.length := by
      simpa using hover hlen
    refine refused_array hdepth (by rwa [length_map]) ?_ ?_
    · intro f hf
      obtain ⟨arg, -, rfl⟩ := mem_map.mp hf
      by_cases harg : arg.length ≤ maxBulkLength
      · refine Or.inl ⟨harg, ?_⟩
        simp only [levels]
        omega
      · exact Or.inr (refused_bulkString (Nat.not_le.mp harg) _)
    · exact ⟨_, mem_map.mpr ⟨long, hlong, rfl⟩, refused_bulkString hbound _⟩
  · intro data idx suffix h
    rw [bulkArray, encode_array, append_assoc, length_map] at h
    have hmarker := h.trans (aggregateHeader_append 42 argv.length _)
    rw [describeFrameAt_aggregate .array _ (getElem?_of_drop_eq_cons hmarker),
      Aggregate.describe, if_neg (Nat.not_le.mpr hdepth),
      onLine_of_some (firstLine_decimalInt hmarker), Aggregate.lengthOn]
    obtain ⟨e, herror⟩ := lengthOn_over (by decide) (Nat.not_le.mp hlen)
    rw [herror]
    exact ⟨e, rfl⟩

end limits

end Ratatosk.Resp
