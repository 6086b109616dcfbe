import Ratatosk.Resp.Parse

/-!
# What the parser does with the first line of a frame

Every typed frame but the null starts with a line behind its marker. The functions of `parse.rs`
look for the line, ask for more when it is not there, and go on with its text: `onLine`.

* `describeLine_eq`, `describeInteger_eq`, `describeBulkString_eq` — the frames without frames
  inside.
* `Aggregate` — where `describe_array` and `describe_map` differ; `describeArray_eq` and
  `describeMap_eq` say that they are one function, with the keys and values of a map as items.

Positions are handled by `data.drop idx`: a lemma says what happens at `idx` in terms of the
bytes from there on.
-/

namespace Ratatosk.Resp

open Lib List Option

/-! ## Lines -/

section lines

variable {data line rest : Bytes} {idx : Nat}
variable {b : UInt8}

lemma length_eq_of_drop_eq_cons (h : data.drop idx = b :: rest) :
    data.length = idx + rest.length + 1 := by
  have hlen := congrArg List.length h
  rw [length_drop, length_cons] at hlen
  omega

lemma drop_succ_of_drop_eq_cons (h : data.drop idx = b :: rest) : data.drop (idx + 1) = rest := by
  rw [← drop_drop, h]
  rfl

lemma getElem?_of_drop_eq_cons (h : data.drop idx = b :: rest) : data[idx]? = some b := by
  have hget : (data.drop idx)[0]? = some b := by rw [h]; rfl
  rwa [getElem?_drop, Nat.add_zero] at hget

lemma drop_of_drop_eq_append (h : data.drop idx = line ++ rest) :
    data.drop (idx + line.length) = rest := by
  rw [← drop_drop, h, drop_left]

lemma slice_of_drop_eq_append (h : data.drop idx = line ++ rest) :
    slice data idx line.length = line := by
  rw [slice, h, take_left]

lemma memchr_append_cons (h : b ∉ line) : memchr b (line ++ b :: rest) = some line.length := by
  induction line with
  | nil => simp [memchr, findIdx?_cons]
  | cons c line ih =>
    have hc : c ≠ b := fun heq => h (heq ▸ mem_cons_self)
    have hline : b ∉ line := fun hb => h (mem_cons_of_mem _ hb)
    have ih := ih hline
    simp only [memchr] at ih
    simp [memchr, findIdx?_cons, ih, hc]

/-- What `find_crlf` finds is followed by a line feed. -/
lemma findCrlfLoop_some {fuel searchIdx pos : Nat}
    (h : findCrlfLoop data fuel searchIdx = some pos) :
    searchIdx ≤ pos ∧ data[pos + 1]? = some 10 := by
  induction fuel generalizing searchIdx with
  | zero => simp [findCrlfLoop] at h
  | succ fuel ih =>
    unfold findCrlfLoop at h
    split at h
    · cases h
    · next rel hrel =>
        simp only at h
        split_ifs at h with hend hlf
        · cases h
          exact ⟨by omega, hlf⟩
        · obtain ⟨hle, hget⟩ := ih h
          exact ⟨by omega, hget⟩

lemma findCrlf_eq_none (h : 10 ∉ data.drop idx) : findCrlf data idx = none := by
  unfold findCrlf
  split_ifs with hidx
  · rfl
  · cases hloop : findCrlfLoop data data.length idx with
    | none => rfl
    | some pos =>
      exfalso
      obtain ⟨hle, hget⟩ := findCrlfLoop_some hloop
      apply h
      apply mem_of_getElem? (i := pos + 1 - idx)
      rw [getElem?_drop]
      rwa [show idx + (pos + 1 - idx) = pos + 1 by omega]

lemma findCrlf_line (h : data.drop idx = line ++ crlf ++ rest) (hline : 13 ∉ line) :
    findCrlf data idx = some (idx + line.length) := by
  have hdrop : data.drop idx = line ++ 13 :: 10 :: rest := by simpa [crlf] using h
  have hcr : data.drop (idx + line.length) = 13 :: 10 :: rest := drop_of_drop_eq_append hdrop
  have hlen := length_eq_of_drop_eq_cons hcr
  rw [length_cons] at hlen
  have hlf : data[idx + line.length + 1]? = some 10 :=
    getElem?_of_drop_eq_cons (drop_succ_of_drop_eq_cons hcr)
  obtain ⟨fuel, hfuel⟩ : ∃ fuel, data.length = fuel + 1 := ⟨data.length - 1, by omega⟩
  unfold findCrlf
  rw [if_neg (by omega), hfuel]
  unfold findCrlfLoop
  rw [hdrop, memchr_append_cons hline]
  simp only
  rw [if_neg (by omega), if_pos hlf]

lemma parseLineOffsets_eq_some {lineStart lineLen lineConsumed : Nat}
    (h : parseLineOffsets data idx = some (lineStart, lineLen, lineConsumed)) :
    lineStart = idx ∧ lineConsumed = lineLen + 2 ∧ idx + lineLen + 2 ≤ data.length := by
  unfold parseLineOffsets findCrlf at h
  obtain ⟨pos, hpos, hv⟩ := map_eq_some_iff.mp h
  cases hv
  split_ifs at hpos
  obtain ⟨hle, hlf⟩ := findCrlfLoop_some hpos
  obtain ⟨hlt, -⟩ := List.getElem?_eq_some_iff.mp hlf
  exact ⟨rfl, rfl, by omega⟩

end lines

/-! ## Numbers on a line -/

section numbers

/-- The text of an integer in range is read back as that integer. -/
lemma lineNumber_decimalInt (invalid : Bytes → RespParseError) (v : Int)
    (hlo : -2 ^ 63 ≤ v) (hhi : v < 2 ^ 63) :
    lineNumber invalid (decimalInt v) = .ok (Int64.ofInt v) := by
  have hparse : parseI64 (decimalInt v) = some (Int64.ofInt v) := by
    rw [parseI64, parseInt_decimalInt, bind_some, if_pos ⟨hlo, hhi⟩]
  rw [lineNumber, if_pos (validUtf8_decimalInt v), hparse]

/-- A count or length is written as the integer it is. -/
lemma decimal_eq_decimalInt (n : Nat) : decimal n = decimalInt n := by
  have hneg : ¬ ((n : Int) < 0) := by omega
  rw [decimalInt, if_neg hneg, Int.natAbs_natCast]

/-- Neither line-break byte occurs in a number. -/
lemma not_mem_decimalInt_of_lt {v : Int} {b : UInt8} (h : b.toNat < 45) : b ∉ decimalInt v := by
  intro hb
  have := toNat_of_mem_decimalInt hb
  omega

end numbers

/-! ## The first line -/

/-- The text of the first line of the frame at `idx`, if the line is there. -/
def firstLine (data : Bytes) (idx : Nat) : Option Bytes :=
  (parseLineOffsets data (idx + 1)).map fun line => slice data line.1 line.2.1

/-- Asks for more until the first line is there, then goes on with its text. -/
def onLine (data : Bytes) (idx : Nat) (next : Bytes → Described) : Described :=
  match firstLine data idx with
  | none => .ok none
  | some text => next text

section firstLine

variable {data rest text : Bytes} {idx : Nat} {next : Bytes → Described}

lemma onLine_of_some (h : firstLine data idx = some text) : onLine data idx next = next text := by
  rw [onLine, h]

lemma onLine_of_none (h : firstLine data idx = none) : onLine data idx next = .ok none := by
  rw [onLine, h]

/-- The line found is in the buffer, its terminator behind it. -/
lemma firstLine_eq_some (h : firstLine data idx = some text) :
    parseLineOffsets data (idx + 1) = some (idx + 1, text.length, text.length + 2) ∧
      slice data (idx + 1) text.length = text ∧ idx + text.length + 3 ≤ data.length := by
  obtain ⟨⟨lineStart, lineLen, lineConsumed⟩, hline, rfl⟩ := map_eq_some_iff.mp h
  obtain ⟨rfl, rfl, hend⟩ := parseLineOffsets_eq_some hline
  have hlen : (slice data (idx + 1) lineLen).length = lineLen := by
    rw [slice, length_take, length_drop]
    omega
  simp only [hlen]
  exact ⟨hline, trivial, by omega⟩

lemma firstLine_line {line : Bytes} {marker : UInt8}
    (h : data.drop idx = marker :: (line ++ crlf ++ rest)) (hline : 13 ∉ line) :
    firstLine data idx = some line := by
  have hdrop := drop_succ_of_drop_eq_cons h
  rw [firstLine, parseLineOffsets, findCrlf_line hdrop hline, map_some, map_some]
  dsimp only
  rw [Nat.add_sub_cancel_left]
  rw [append_assoc] at hdrop
  rw [slice_of_drop_eq_append hdrop]

lemma firstLine_decimalInt {v : Int} {marker : UInt8}
    (h : data.drop idx = marker :: (decimalInt v ++ crlf ++ rest)) :
    firstLine data idx = some (decimalInt v) :=
  firstLine_line h (not_mem_decimalInt_of_lt (by decide))

/-- What is left behind the first line. -/
lemma drop_firstLine {line : Bytes} {marker : UInt8}
    (h : data.drop idx = marker :: (line ++ crlf ++ rest)) :
    data.drop (idx + (line.length + 3)) = rest := by
  have hdrop := drop_of_drop_eq_append (drop_succ_of_drop_eq_cons h)
  rwa [length_append, show crlf.length = 2 from rfl, Nat.add_right_comm,
    Nat.add_assoc idx] at hdrop

/-- A function of the parser that goes on with the text of the first line is `onLine`. -/
lemma eq_onLine {described : Described}
    (hnone : parseLineOffsets data (idx + 1) = none → described = .ok none)
    (hsome : ∀ text, parseLineOffsets data (idx + 1) =
        some (idx + 1, text.length, text.length + 2) → slice data (idx + 1) text.length = text →
      described = next text) : described = onLine data idx next := by
  cases hfirst : firstLine data idx with
  | none =>
    rw [onLine_of_none hfirst]
    exact hnone (map_eq_none_iff.mp hfirst)
  | some text =>
    obtain ⟨hline, hslice, -⟩ := firstLine_eq_some hfirst
    rw [onLine_of_some hfirst]
    exact hsome text hline hslice

lemma describeLine_eq (desc : Nat → Nat → FrameDesc) (data : Bytes) (idx : Nat) :
    describeLine desc data idx = onLine data idx fun text =>
      if text.any isLineBreak then .error .invalidLine
      else .ok (some (desc (idx + 1) text.length, text.length + 3)) := by
  refine eq_onLine (fun hline => ?_) fun text hline hslice => ?_
  · rw [describeLine, hline]
    rfl
  · simp only [describeLine, hline, hslice, Nat.add_comm 1]
    rfl

lemma describeInteger_eq (data : Bytes) (idx : Nat) :
    describeInteger data idx = onLine data idx fun text =>
      (lineNumber .invalidInteger text).map fun value =>
        some (.integer value, text.length + 3) := by
  refine eq_onLine (fun hline => ?_) fun text hline hslice => ?_
  · rw [describeInteger, hline]
    rfl
  · simp only [describeInteger, hline, hslice, Nat.add_comm 1]
    rfl

end firstLine

/-! ## Lengths -/

/-- The length on the first line of a frame; none where the line stands for a null. -/
def lengthOn (invalid : Bytes → RespParseError) (what : String) (limit : Nat) (nullable : Bool)
    (text : Bytes) : Except RespParseError (Option Nat) :=
  match lineNumber invalid text with
  | .error e => .error e
  | .ok len =>
    if nullable ∧ len = -1 then .ok none
    else if len < 0 then .error (invalid text)
    else if limit < len.toInt.toNat then
      .error (invalid (lengthExceeds what len.toInt.toNat limit))
    else .ok (some len.toInt.toNat)

section lengthOn

variable {data rest : Bytes} {idx limit n : Nat} {invalid : Bytes → RespParseError}
  {what : String} {nullable : Bool}

lemma lengthOn_le {text : Bytes} (h : lengthOn invalid what limit nullable text = .ok (some n)) :
    n ≤ limit := by
  rcases hnumber : lineNumber invalid text with e | len
  · rw [lengthOn, hnumber] at h
    cases h
  · simp only [lengthOn, hnumber] at h
    split_ifs at h with hnull hneg hover
    · cases h
    · cases h
      exact Nat.not_lt.mp hover

/-- A length on its line: read as itself, or refused. -/
lemma lengthOn_decimalInt (hlimit : limit < 2 ^ 63) :
    lengthOn invalid what limit nullable (decimalInt n) = .ok (some n) ∨
      limit < n ∧ ∃ e, lengthOn invalid what limit nullable (decimalInt n) = .error e := by
  by_cases hlt : n < 2 ^ 63
  · have htoInt : (Int64.ofInt n).toInt = n := Int64.toInt_ofInt_of_le (by omega) (by omega)
    have hneg : ¬ Int64.ofInt n < 0 := by
      rw [Int64.lt_iff_toInt_lt, htoInt, show (0 : Int64).toInt = 0 by decide]
      omega
    have hnull : ¬ (nullable ∧ Int64.ofInt n = -1) := by
      rintro ⟨-, heq⟩
      rw [heq] at hneg
      exact hneg (by decide)
    simp only [lengthOn, lineNumber_decimalInt invalid n (by omega) (by omega),
      if_neg hnull, if_neg hneg, htoInt, Int.toNat_natCast]
    split_ifs with hover
    · exact Or.inr ⟨hover, _, rfl⟩
    · exact Or.inl rfl
  · have hparse : parseI64 (decimalInt n) = none := by
      rw [parseI64, parseInt_decimalInt, bind_some, if_neg (by omega)]
    refine Or.inr ⟨by omega, invalid (decimalInt n), ?_⟩
    rw [lengthOn, lineNumber, if_pos (validUtf8_decimalInt n), hparse]

lemma lengthOn_of_le (hlimit : limit < 2 ^ 63) (hn : n ≤ limit) :
    lengthOn invalid what limit nullable (decimalInt n) = .ok (some n) :=
  (lengthOn_decimalInt hlimit).resolve_right fun h => Nat.not_lt.mpr hn h.1

lemma lengthOn_over (hlimit : limit < 2 ^ 63) (hn : limit < n) :
    ∃ e, lengthOn invalid what limit nullable (decimalInt n) = .error e := by
  refine ((lengthOn_decimalInt hlimit).resolve_left fun h => ?_).2
  exact Nat.not_le.mpr hn (lengthOn_le h)

lemma lengthOn_null : lengthOn invalid what limit true (decimalInt (-1)) = .ok none := by
  rw [lengthOn, lineNumber_decimalInt invalid (-1) (by norm_num) (by norm_num)]
  rfl

end lengthOn

/-- What is left to decide behind a header: whether `len` bytes of payload and their terminator
are there. -/
def terminated (rest : Bytes) (len : Nat) (result : FrameDesc × Nat) : Described :=
  if rest.length < len + 2 then .ok none
  else if rest[len]? ≠ some 13 ∨ rest[len + 1]? ≠ some 10 then .error .missingCrlf
  else .ok (some result)

lemma terminated_append (value suffix : Bytes) (result : FrameDesc × Nat) :
    terminated (value ++ (crlf ++ suffix)) value.length result = .ok (some result) := by
  simp [terminated, crlf]

lemma lt_negOne_iff {len : Int64} (h : len ≠ -1) : len < -1 ↔ len < 0 := by
  have hne : len.toInt ≠ (-1 : Int64).toInt := fun heq => h (Int64.toInt_inj.mp heq)
  rw [Int64.lt_iff_toInt_lt, Int64.lt_iff_toInt_lt]
  rw [show (-1 : Int64).toInt = -1 by decide] at hne ⊢
  rw [show (0 : Int64).toInt = 0 by decide]
  omega

lemma describeBulkString_eq (data : Bytes) (idx : Nat) :
    describeBulkString data idx = onLine data idx fun text =>
      match lengthOn .invalidBulkLength "bulk" maxBulkLength true text with
      | .error e => .error e
      | .ok none => .ok (some (.nullBulk, text.length + 3))
      | .ok (some len) => terminated (data.drop (idx + (text.length + 3))) len
          (.bulkString (idx + (text.length + 3)) len, text.length + 3 + len + 2) := by
  refine eq_onLine (fun hline => ?_) fun text hline hslice => ?_
  · rw [describeBulkString, hline]
    rfl
  · simp only [describeBulkString, hline, hslice, Nat.add_comm 1, lengthOn]
    rcases lineNumber .invalidBulkLength text with e | len
    · rfl
    · by_cases hnull : len = -1
      · subst hnull
        rfl
      have hend : data.length < idx + (text.length + 3) + len.toInt.toNat + 2 ↔
          (data.drop (idx + (text.length + 3))).length < len.toInt.toNat + 2 := by
        rw [length_drop]
        omega
      simp only [bind, Except.bind, hnull, and_false, if_false, lt_negOne_iff hnull, hend]
      by_cases hneg : len < 0
      · simp only [if_pos hneg]
        rfl
      by_cases hover : maxBulkLength < len.toInt.toNat
      · simp only [if_neg hneg, if_pos hover]
        rfl
      simp only [if_neg hneg, if_neg hover, terminated, getElem?_drop]
      rfl

lemma describeNull_eq (data : Bytes) (idx : Nat) :
    describeNull data idx = terminated (data.drop (idx + 1)) 0 (.null, 3) := by
  have hend : data.length < idx + 3 ↔ (data.drop (idx + 1)).length < 0 + 2 := by
    rw [length_drop]
    omega
  simp only [describeNull, terminated, hend, getElem?_drop, bind, Except.bind]
  rfl

/-! ## Aggregates -/

section paired

variable {α : Type}

/-- The entries of a map, from its keys and values in the order in which they are sent. -/
def paired : List α → List (α × α)
  | key :: value :: rest => (key, value) :: paired rest
  | _ => []

lemma paired_unpaired (entries : List (α × α)) : paired (unpaired entries) = entries := by
  induction entries with
  | nil => rfl
  | cons entry entries ih => rw [unpaired, paired, ih]

/-- The entry loop of a map is the item loop over its keys and values. -/
lemma describeItems_unpaired (inner : Nat → Described) (n cur : Nat) :
    describeItems inner (2 * n) cur =
      (describeEntries inner n cur).map (Option.map fun r => (unpaired r.1, r.2)) := by
  induction n generalizing cur with
  | zero => rfl
  | succ n ih =>
    simp only [Nat.mul_succ, describeItems, describeEntries, ih]
    rcases inner cur with e | _ | ⟨key, keyConsumed⟩
    · rfl
    · rfl
    · simp only [bind, Except.bind]
      rcases inner (cur + keyConsumed) with e | _ | ⟨value, valConsumed⟩
      · rfl
      · rfl
      · dsimp only
        rcases describeEntries inner n (cur + keyConsumed + valConsumed) with e | _ | r
        · rfl
        · rfl
        · rfl

lemma describeItems_of_entries {inner : Nat → Described} {n cur cur' : Nat}
    {entries : List (FrameDesc × FrameDesc)}
    (h : describeEntries inner n cur = .ok (some (entries, cur'))) :
    describeItems inner (2 * n) cur = .ok (some (unpaired entries, cur')) := by
  rw [describeItems_unpaired, h]
  rfl

lemma describeEntries_of_items {inner : Nat → Described} {n cur cur' : Nat}
    {descs : List FrameDesc} (h : describeItems inner (2 * n) cur = .ok (some (descs, cur'))) :
    describeEntries inner n cur = .ok (some (paired descs, cur')) := by
  rw [describeItems_unpaired] at h
  rcases hentries : describeEntries inner n cur with e | _ | ⟨entries, cur''⟩
  · rw [hentries] at h
    cases h
  · rw [hentries] at h
    cases h
  · rw [hentries] at h
    cases h
    rw [paired_unpaired]

end paired

/-- The frames with frames inside. -/
inductive Aggregate where
  | array
  | map

namespace Aggregate

/-- The byte that announces it. -/
def marker : Aggregate → UInt8
  | array => 42
  | map => 37

/-- The number of elements it may have. -/
def limit : Aggregate → Nat
  | array => maxArrayElements
  | map => maxMapEntries

/-- The number of frames in an element. -/
def width : Aggregate → Nat
  | array => 1
  | map => 2

/-- The descriptor, from those of the frames inside. -/
def desc : Aggregate → List FrameDesc → FrameDesc
  | array, descs => .array descs
  | map, descs => .map (paired descs)

/-- The length on the header. Only an array has a null. -/
def lengthOn : Aggregate → Bytes → Except RespParseError (Option Nat)
  | array => Resp.lengthOn .invalidArrayLength "array" maxArrayElements true
  | map => Resp.lengthOn .invalidMapLength "map" maxMapEntries false

lemma lengthOn_of_le (kind : Aggregate) {n : Nat} (hn : n ≤ kind.limit) :
    kind.lengthOn (decimalInt n) = .ok (some n) := by
  cases kind with
  | array | map => exact Resp.lengthOn_of_le (by decide) hn

/-- `describe_array` and `describe_map` in one. -/
def describe (kind : Aggregate) (inner : Nat → Described) (data : Bytes) (idx depth : Nat) :
    Described :=
  if maxNestingDepth ≤ depth then .error .nestingTooDeep
  else onLine data idx fun text =>
    match kind.lengthOn text with
    | .error e => .error e
    | .ok none => .ok (some (.nullArray, text.length + 3))
    | .ok (some n) => (describeItems inner (kind.width * n) (idx + (text.length + 3))).map
        (Option.map fun r => (kind.desc r.1, r.2 - idx))

end Aggregate

section aggregates

variable (inner : Nat → Described) (data : Bytes) (idx depth : Nat)

lemma describeArray_eq :
    describeArray inner data idx depth = Aggregate.array.describe inner data idx depth := by
  unfold Aggregate.describe
  split_ifs with hdepth
  · simp only [describeArray, if_pos hdepth]
    rfl
  refine eq_onLine (fun hline => ?_) fun text hline hslice => ?_
  · simp only [describeArray, if_neg hdepth, hline]
    rfl
  · have hcur : idx + 1 + (text.length + 2) = idx + (text.length + 3) := by omega
    simp only [describeArray, if_neg hdepth, hline, hslice, hcur, Aggregate.lengthOn, lengthOn,
      Aggregate.width, Nat.one_mul]
    rcases lineNumber .invalidArrayLength text with e | len
    · rfl
    · by_cases hnull : len = -1
      · subst hnull
        simp only [Nat.add_sub_cancel_left]
        rfl
      simp only [bind, Except.bind, hnull, and_false, if_false, lt_negOne_iff hnull]
      by_cases hneg : len < 0
      · simp only [if_pos hneg]
        rfl
      by_cases hover : maxArrayElements < len.toInt.toNat
      · simp only [if_neg hneg, if_pos hover]
        rfl
      simp only [if_neg hneg, if_neg hover]
      rcases describeItems inner len.toInt.toNat (idx + (text.length + 3)) with e | _ | r
      · rfl
      · rfl
      · rfl

lemma describeMap_eq :
    describeMap inner data idx depth = Aggregate.map.describe inner data idx depth := by
  unfold Aggregate.describe
  split_ifs with hdepth
  · simp only [describeMap, if_pos hdepth]
    rfl
  refine eq_onLine (fun hline => ?_) fun text hline hslice => ?_
  · simp only [describeMap, if_neg hdepth, hline]
    rfl
  · have hcur : idx + 1 + (text.length + 2) = idx + (text.length + 3) := by omega
    simp only [describeMap, if_neg hdepth, hline, hslice, hcur, Aggregate.lengthOn, lengthOn,
      Aggregate.width, describeItems_unpaired]
    rcases lineNumber .invalidMapLength text with e | len
    · rfl
    · simp only [bind, Except.bind, Bool.false_eq_true, false_and, if_false]
      by_cases hneg : len < 0
      · simp only [if_pos hneg]
        rfl
      by_cases hover : maxMapEntries < len.toInt.toNat
      · simp only [if_neg hneg, if_pos hover]
        rfl
      simp only [if_neg hneg, if_neg hover]
      rcases describeEntries inner len.toInt.toNat (idx + (text.length + 3)) with e | _ | r
      · rfl
      · rfl
      · simp only [Except.map, map_some, Aggregate.desc, paired_unpaired]
        rfl

end aggregates

/-- The marker of an aggregate leads to its function. -/
lemma describeFrameAt_aggregate (kind : Aggregate) {data : Bytes} {idx : Nat} (depth : Nat)
    (h : data[idx]? = some kind.marker) :
    describeFrameAt data idx depth =
      kind.describe (fun cur => describeFrameAt data cur (depth + 1)) data idx depth := by
  rw [describeFrameAt_eq, describeStep, h]
  cases kind with
  | array => exact describeArray_eq _ data idx depth
  | map => exact describeMap_eq _ data idx depth

end Ratatosk.Resp
