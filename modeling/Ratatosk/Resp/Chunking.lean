import Ratatosk.Lib.Incremental
import Ratatosk.Resp.Accepted

/-!
# The parser on a buffer and on its extensions

* `later_describeFrameAt` — what describing a frame says on a buffer it says on every extension,
  unless it asked for more input. The one exception is the length limit of inline commands,
  which is only applied while the end of the line is missing.
* `incremental_parse` — `parse` is an incremental reader: a frame uses up input and does not
  depend on what follows it.
* `parse_chunking` — **chunking independence**: frames and all other errors are stable, and a
  stream whose inline lines keep to the limit drains to the same frames and the same outcome
  however it is cut into chunks.

`Lib.drain parse` is the parse loop of a connection (`session_loop.rs` `collect_parsed_frames`,
`fuzz_support.rs` `drain_and_roundtrip`): it stops at the first error, which closes the
connection, or when the buffer holds no whole frame.
-/

namespace Ratatosk.Resp

open Lib List Option

/-! ## Lines -/

section lines

variable {data ext s t : Bytes} {idx i : Nat}

lemma memchr_append {b : UInt8} (h : memchr b s = some i) (t : Bytes) :
    memchr b (s ++ t) = some i := by
  simp only [memchr] at h ⊢
  rw [findIdx?_append, h]
  rfl

lemma getElem?_append_of_some {b : UInt8} (h : data[idx]? = some b) :
    (data ++ ext)[idx]? = some b := by
  obtain ⟨hlt, -⟩ := List.getElem?_eq_some_iff.mp h
  rw [getElem?_append_left hlt, h]

lemma slice_append {offset len : Nat} (h : offset + len ≤ data.length) (ext : Bytes) :
    slice (data ++ ext) offset len = slice data offset len := by
  unfold slice
  rw [drop_append_of_le_length (by omega), take_append_of_le_length]
  rw [length_drop]
  omega

/-- A carriage return found stays found, and so does the byte behind it. -/
lemma findCrlfLoop_append {fuel fuel' pos : Nat} (h : findCrlfLoop data fuel idx = some pos)
    (hfuel : fuel ≤ fuel') (ext : Bytes) :
    findCrlfLoop (data ++ ext) fuel' idx = some pos := by
  induction fuel generalizing fuel' idx with
  | zero => cases h
  | succ fuel ih =>
    obtain ⟨fuel', rfl⟩ := Nat.exists_eq_succ_of_ne_zero (by omega : fuel' ≠ 0)
    unfold findCrlfLoop at h ⊢
    cases hcr : memchr 13 (data.drop idx) with
    | none => simp [hcr] at h
    | some rel =>
      have hlt := lt_length_of_memchr hcr
      rw [length_drop] at hlt
      rw [drop_append_of_le_length (by omega), memchr_append hcr]
      simp only [hcr] at h ⊢
      by_cases hend : data.length ≤ idx + rel + 1
      · rw [if_pos hend] at h
        cases h
      · rw [if_neg hend] at h
        rw [length_append, if_neg (by omega), getElem?_append_left (by omega)]
        by_cases hlf : data[idx + rel + 1]? = some 10
        · rw [if_pos hlf] at h ⊢
          exact h
        · rw [if_neg hlf] at h ⊢
          exact ih h (by omega)

lemma findCrlf_append {pos : Nat} (h : findCrlf data idx = some pos) (ext : Bytes) :
    findCrlf (data ++ ext) idx = some pos := by
  unfold findCrlf at h ⊢
  by_cases hidx : data.length ≤ idx
  · rw [if_pos hidx] at h
    cases h
  · rw [if_neg hidx] at h
    rw [length_append, if_neg (by omega)]
    exact findCrlfLoop_append h (by omega) ext

lemma parseLineOffsets_append {v : Nat × Nat × Nat} (h : parseLineOffsets data idx = some v)
    (ext : Bytes) : parseLineOffsets (data ++ ext) idx = some v := by
  unfold parseLineOffsets at h ⊢
  obtain ⟨pos, hpos, rfl⟩ := map_eq_some_iff.mp h
  rw [findCrlf_append hpos]
  rfl

end lines

/-! ## Frames without frames inside -/

section leaves

variable (data ext : Bytes) (idx : Nat)

/-- The first line, once found, stays. -/
lemma firstLine_append {text : Bytes} (h : firstLine data idx = some text) :
    firstLine (data ++ ext) idx = some text := by
  obtain ⟨hline, hslice, hend⟩ := firstLine_eq_some h
  have hslice' := slice_append (by omega : idx + 1 + text.length ≤ data.length) ext
  rw [firstLine, parseLineOffsets_append hline, map_some, hslice', hslice]

/-- Asking for the first line: what goes on with it decides. -/
lemma later_onLine {next next' : Bytes → Described} (h : ∀ text, Later (next text) (next' text)) :
    Later (onLine data idx next) (onLine (data ++ ext) idx next') := by
  cases hfirst : firstLine data idx with
  | none =>
    rw [onLine_of_none hfirst]
    exact later_none _
  | some text =>
    rw [onLine_of_some hfirst, onLine_of_some (firstLine_append data ext idx hfirst)]
    exact h text

lemma later_describeLine (desc : Nat → Nat → FrameDesc) :
    Later (describeLine desc data idx) (describeLine desc (data ++ ext) idx) := by
  rw [describeLine_eq, describeLine_eq]
  exact later_onLine data ext idx fun _ => Later.refl _

/-- The payload and its terminator: missing, or read from the buffer itself. -/
lemma later_terminated (len : Nat) (result : FrameDesc × Nat) :
    Later (terminated (data.drop idx) len result) (terminated ((data ++ ext).drop idx) len result) := by
  by_cases hshort : (data.drop idx).length < len + 2
  · rw [terminated, if_pos hshort]
    exact later_none _
  · right
    rw [length_drop] at hshort
    rw [drop_append_of_le_length (by omega), terminated, terminated, length_append,
      length_drop, if_neg hshort, if_neg (by omega),
      getElem?_append_left (by rw [length_drop]; omega),
      getElem?_append_left (by rw [length_drop]; omega)]

lemma later_describeBulkString :
    Later (describeBulkString data idx) (describeBulkString (data ++ ext) idx) := by
  rw [describeBulkString_eq, describeBulkString_eq]
  refine later_onLine data ext idx fun text => ?_
  rcases lengthOn .invalidBulkLength "bulk" maxBulkLength true text with e | _ | len
  · exact Later.refl _
  · exact Later.refl _
  · exact later_terminated data ext _ _ _

end leaves

/-! ## Aggregates -/

section aggregates

variable {data ext : Bytes} {inner inner' : Nat → Described}

lemma later_describeItems (hinner : ∀ cur, Later (inner cur) (inner' cur)) (len cur : Nat) :
    Later (describeItems inner len cur) (describeItems inner' len cur) := by
  induction len generalizing cur with
  | zero => exact Later.refl _
  | succ len ih =>
    simp only [describeItems]
    refine (hinner cur).bind rfl ?_
    rintro ⟨desc, consumed⟩ -
    exact (ih (cur + consumed)).bind rfl fun _ _ => Later.refl _

lemma later_describeAggregate (kind : Aggregate) (hinner : ∀ cur, Later (inner cur) (inner' cur))
    (idx depth : Nat) :
    Later (kind.describe inner data idx depth) (kind.describe inner' (data ++ ext) idx depth) := by
  unfold Aggregate.describe
  split_ifs
  · exact Later.refl _
  refine later_onLine data ext idx fun text => ?_
  rcases kind.lengthOn text with e | _ | n
  · exact Later.refl _
  · exact Later.refl _
  · rcases later_describeItems hinner (kind.width * n) (idx + (text.length + 3)) with h | h
    · dsimp only
      rw [h]
      exact later_none _
    · dsimp only
      rw [h]
      exact Later.refl _

end aggregates

/-! ## Inline commands -/

/-- An inline command whose line has not ended and is over the limit already. -/
def InlineOverrun (data : Bytes) (idx : Nat) : Prop :=
  startsInline (data.drop idx) ∧ memchr 10 (data.drop idx) = none ∧
    maxInlineLength < data.length - idx

/-- On an overrun the parser gives up. -/
lemma describeFrameAt_of_inlineOverrun {data : Bytes} {idx : Nat} (h : InlineOverrun data idx) :
    describeFrameAt data idx 0 = .error .inlineTooLong := by
  obtain ⟨hinline, hnewline, hlong⟩ := h
  cases hmarker : data[idx]? with
  | none =>
    have hnil : data.drop idx = [] := by
      rw [drop_eq_nil_iff]
      exact List.getElem?_eq_none_iff.mp hmarker
    rw [hnil] at hinline
    cases hinline
  | some marker =>
    have hmem : marker ∉ typeMarkers := (startsInline_drop_iff hmarker).mp hinline
    have hinlined : describeFrameAt data idx 0 = describeInlineCommand data idx := by
      rw [describeFrameAt_eq]
      simp only [describeStep, hmarker]
      -- the typed markers are excluded one by one
      split
      all_goals first | rfl | exact absurd hmem (by decide)
    rw [hinlined, describeInlineCommand, hnewline]
    simp only [if_pos hlong]
    rfl

/-- An inline command is stable once its line is there. While the line is not there, the parser
waits up to the limit, and the limit is not looked at again when the line has ended. -/
lemma later_describeInlineCommand (data ext : Bytes) (idx : Nat)
    (h : ¬ (memchr 10 (data.drop idx) = none ∧ maxInlineLength < data.length - idx)) :
    Later (describeInlineCommand data idx) (describeInlineCommand (data ++ ext) idx) := by
  cases hnewline : memchr 10 (data.drop idx) with
  | none =>
    have hshort : ¬ maxInlineLength < data.length - idx := fun hlong => h ⟨hnewline, hlong⟩
    left
    simp only [describeInlineCommand, hnewline, if_neg hshort]
    rfl
  | some newline =>
    have hlt := lt_length_of_memchr hnewline
    rw [length_drop] at hlt
    have hnewline' : memchr 10 ((data ++ ext).drop idx) = some newline := by
      rw [drop_append_of_le_length (by omega)]
      exact memchr_append hnewline ext
    have hend : inlineEnd data idx newline ≤ idx + newline := by
      unfold inlineEnd
      split_ifs
      · omega
      · omega
    have hend' : inlineEnd (data ++ ext) idx newline = inlineEnd data idx newline := by
      unfold inlineEnd
      rw [getElem?_append_left (by omega)]
    have hslice := slice_append (by omega : idx + (inlineEnd data idx newline - idx) ≤ data.length)
      ext
    right
    simp only [describeInlineCommand, hnewline, hnewline']
    rw [← inlineEnd, ← inlineEnd, hend', hslice]

/-! ## Frames -/

section frames

variable (data ext : Bytes)

lemma later_describeStep {inner inner' : Nat → Described}
    (hinner : ∀ cur, Later (inner cur) (inner' cur)) {idx depth : Nat}
    (h : depth = 0 → ¬ InlineOverrun data idx) :
    Later (describeStep inner data idx depth) (describeStep inner' (data ++ ext) idx depth) := by
  cases hmarker : data[idx]? with
  | none =>
    left
    simp only [describeStep, hmarker]
  | some marker =>
    have hinline := startsInline_drop_iff hmarker
    simp only [describeStep, hmarker, getElem?_append_of_some hmarker]
    split
    · exact later_describeLine data ext idx _
    · exact later_describeLine data ext idx _
    · rw [describeInteger_eq, describeInteger_eq]
      exact later_onLine data ext idx fun _ => Later.refl _
    · exact later_describeBulkString data ext idx
    · rw [describeArray_eq, describeArray_eq]
      exact later_describeAggregate .array hinner idx depth
    · rw [describeMap_eq, describeMap_eq]
      exact later_describeAggregate .map hinner idx depth
    · rw [describeNull_eq, describeNull_eq]
      exact later_terminated data ext (idx + 1) _ _
    · by_cases hdepth : depth = 0
      · rw [if_pos hdepth, if_pos hdepth]
        refine later_describeInlineCommand data ext idx fun hoverrun => ?_
        have hmem : marker ∉ typeMarkers := by
          rw [not_mem_typeMarkers_iff]
          refine ⟨?_, ?_, ?_, ?_, ?_, ?_, ?_⟩ <;> assumption
        exact h hdepth ⟨hinline.mpr hmem, hoverrun⟩
      · rw [if_neg hdepth, if_neg hdepth]
        exact Later.refl _

/-- Inside an aggregate there are no inline commands. -/
lemma later_describeLevel (levels idx : Nat) {depth : Nat} (hdepth : depth ≠ 0) :
    Later (describeLevel data levels idx depth) (describeLevel (data ++ ext) levels idx depth) := by
  induction levels generalizing idx depth with
  | zero => exact later_describeStep data ext (fun _ => Later.refl _) fun h => absurd h hdepth
  | succ levels ih =>
    exact later_describeStep data ext (fun cur => ih cur (Nat.succ_ne_zero _))
      fun h => absurd h hdepth

/-- **A frame or an error at an offset is the answer on every extension of the buffer**, an
inline command over the limit apart. -/
theorem later_describeFrameAt {idx depth : Nat} (h : ¬ InlineOverrun data idx) :
    Later (describeFrameAt data idx depth) (describeFrameAt (data ++ ext) idx depth) := by
  rw [describeFrameAt_eq, describeFrameAt_eq (data ++ ext)]
  exact later_describeStep data ext
    (fun cur => later_describeLevel data ext _ cur (Nat.succ_ne_zero _)) fun _ => h

end frames

/-! ## Streams -/

section streams

variable {buf rest : Bytes} {frame : RespFrame} {e : RespParseError}

lemma parse_fst_error_iff : (parse buf).1 = .error e ↔ describeFrameAt buf 0 0 = .error e := by
  unfold parse
  rcases describeFrameAt buf 0 0 with e' | _ | ⟨desc, consumed⟩
  · simp
  · simp
  · simp

/-- A parsed frame stays when more input arrives, and takes the same bytes. -/
lemma parse_append_of_frame (ext : Bytes) (h : parse buf = (.ok (some frame), rest)) :
    parse (buf ++ ext) = (.ok (some frame), rest ++ ext) := by
  obtain ⟨desc, consumed, hdescribe, -, hle, rfl, rfl⟩ := parse_eq_some h
  have hoverrun : ¬ InlineOverrun buf 0 := by
    intro hoverrun
    rw [describeFrameAt_of_inlineOverrun hoverrun] at hdescribe
    cases hdescribe
  rcases later_describeFrameAt buf ext hoverrun with hnone | hsame
  · rw [hnone] at hdescribe
    cases hdescribe
  · unfold parse
    rw [hsame, hdescribe]
    simp only
    rw [take_append_of_le_length hle, drop_append_of_le_length hle]

/-- An error stays when more input arrives, unless it is for an inline line over the limit. -/
lemma parse_append_of_error (ext : Bytes) (h : (parse buf).1 = .error e)
    (hoverrun : ¬ InlineOverrun buf 0) : (parse (buf ++ ext)).1 = .error e := by
  rw [parse_fst_error_iff] at h ⊢
  rcases later_describeFrameAt buf ext hoverrun with hnone | hsame
  · rw [hnone] at h
    cases h
  · rw [hsame, h]

theorem incremental_parse : Incremental parse where
  waits := by
    intro buf rest h
    unfold parse at h
    split at h
    · cases h
    · cases h
      rfl
    · cases h
  consumes := length_lt_of_parse
  settled := parse_append_of_frame

/-- No inline command line of the stream is over the limit, the line break not counted. A line
that the stream does not end counts as far as it goes. -/
def InlineLinesFit (stream : Bytes) : Prop :=
  ∀ rest, Start parse stream rest → startsInline rest →
    (rest.takeWhile (· ≠ 10)).length ≤ maxInlineLength

/-- Along such a stream no error goes away. -/
lemma InlineLinesFit.errorsStick {stream : Bytes} (h : InlineLinesFit stream) :
    ErrorsStick parse stream := by
  intro rest hstart p q e hpre herror
  refine parse_append_of_error q herror ?_
  rintro ⟨hinline, hnewline, hlong⟩
  rw [drop_zero] at hinline hnewline
  obtain ⟨t, rfl⟩ := (prefix_append p q).trans hpre
  -- the line is at least as long as the part without a line break
  have hp : ∀ b ∈ p, b ≠ 10 := by
    intro b hb heq
    have hnone := findIdx?_eq_none_iff.mp hnewline b hb
    simp [heq] at hnone
  have hstarts : startsInline (p ++ t) := by
    cases p with
    | nil => cases hinline
    | cons marker p => exact hinline
  have hfit := h _ hstart hstarts
  rw [takeWhile_append_of_pos (by simpa using hp), length_append] at hfit
  omega

lemma inlineLinesFit_of_length_le {stream : Bytes} (h : stream.length ≤ maxInlineLength) :
    InlineLinesFit stream := by
  intro rest hstart _
  have hle : rest.length ≤ stream.length := hstart.length_le incremental_parse
  have htake : (rest.takeWhile (· ≠ 10)).length ≤ rest.length :=
    (List.takeWhile_prefix _).length_le
  omega

end streams

/-- **Chunking independence.** A parsed frame and the bytes it takes are the same on every
extension of the buffer. So is every error but the inline length error. A stream whose inline
lines keep to the limit drains to the same frames and the same outcome whichever chunks it
arrives in. -/
theorem parse_chunking :
    (∀ buf ext frame rest, parse buf = (.ok (some frame), rest) →
      parse (buf ++ ext) = (.ok (some frame), rest ++ ext)) ∧
    (∀ buf ext e, (parse buf).1 = .error e → e ≠ .inlineTooLong →
      (parse (buf ++ ext)).1 = .error e) ∧
    ∀ chunks : List Bytes, InlineLinesFit chunks.flatten →
      chunks.foldl (feed parse) ([], .ok []) = drain parse chunks.flatten := by
  refine ⟨?_, ?_, ?_⟩
  · intro buf ext frame rest h
    exact parse_append_of_frame ext h
  · intro buf ext e h hne
    refine parse_append_of_error ext h fun hoverrun => hne ?_
    rw [parse_fst_error_iff, describeFrameAt_of_inlineOverrun hoverrun] at h
    exact (Except.error.inj h).symm
  · intro chunks hfit
    have hstart : drain parse [] = ([], .ok []) := rfl
    rw [← hstart]
    exact foldl_feed_eq_drain incremental_parse [] chunks hfit.errorsStick

/-- Two requests, one of them inline, and the start of a third, cut inside the line breaks. -/
theorem parse_chunking_requests :
    [ascii "*1\r", ascii "\n$4\r\nPING\r", ascii "\nECHO \"h", ascii "i\"\n*1"].foldl (feed parse)
      ([], .ok []) =
      ([.array [.bulkStr "PING"], .array [.bulkStr "ECHO", .bulkStr "hi"]], .ok (ascii "*1")) := by
  have hlen : [ascii "*1\r", ascii "\n$4\r\nPING\r", ascii "\nECHO \"h",
      ascii "i\"\n*1"].flatten.length ≤ maxInlineLength := by decide
  rw [parse_chunking.2.2 _ (inlineLinesFit_of_length_le hlen)]
  rfl

end Ratatosk.Resp
