import Ratatosk.Lib.Prefix
import Ratatosk.Resp.Header

/-!
# What the parser does on an encoded frame, whole or cut

* `Wire` — the frames with a parseable encoding: line payloads without CR or LF, bulk strings,
  arrays and maps within the limits, no outbound-only container.
* `depth` and `levels` — the nesting of a frame. `depth` counts the arrays and maps on a path;
  `levels` counts a null array too, which is how the parser counts: it refuses a `*` marker
  below the last level before it has read the length.
* `describeFrameAt_encode` — **round trip**: on the encoding of a frame followed by anything,
  the first phase consumes exactly the encoding, and the descriptor materializes to the frame.
* `describeFrameAt_cut` — **cut encodings**: on an encoding cut anywhere and followed by any
  number of zero bytes no frame is described; without zero bytes the parser asks for more.

Both are inductions over the frame, with arrays and maps as one case: `Shapes` says what the
frames inside have to do with the frame.
-/

namespace Ratatosk.Resp

open Lib List

/-! ## The frames with a parseable encoding -/

mutual

/-- The frames whose encoding the parser reads back, nesting apart. -/
def Wire : RespFrame → Prop
  | .simpleString value => value.any isLineBreak = false
  | .error value => value.any isLineBreak = false
  | .integer _ => True
  | .bulkString none => True
  | .bulkString (some value) => value.length ≤ maxBulkLength
  | .array items => items.length ≤ maxArrayElements ∧ WireItems items
  | .map entries => entries.length ≤ maxMapEntries ∧ WireEntries entries
  | .nullArray => True
  | .null => True
  | .push _ => False
  | .sequence _ => False
  | .versioned _ _ => False

/-- Every frame of a list is parseable. -/
def WireItems : List RespFrame → Prop
  | [] => True
  | item :: items => Wire item ∧ WireItems items

/-- Every key and value of a list of entries is parseable. -/
def WireEntries : List (RespFrame × RespFrame) → Prop
  | [] => True
  | (key, value) :: entries => Wire key ∧ Wire value ∧ WireEntries entries

end

mutual

/-- The number of arrays and maps nested in each other. -/
def depth : RespFrame → Nat
  | .array items => depthItems items + 1
  | .map entries => depthEntries entries + 1
  | _ => 0

/-- The deepest nesting among the items. -/
def depthItems : List RespFrame → Nat
  | [] => 0
  | item :: items => max (depth item) (depthItems items)

/-- The deepest nesting among the entries. -/
def depthEntries : List (RespFrame × RespFrame) → Nat
  | [] => 0
  | (key, value) :: entries => max (max (depth key) (depth value)) (depthEntries entries)

end

mutual

/-- The number of levels the parser counts: arrays, maps and null arrays nested in each other. -/
def levels : RespFrame → Nat
  | .array items => levelsItems items + 1
  | .map entries => levelsEntries entries + 1
  | .nullArray => 1
  | _ => 0

/-- The most levels among the items. -/
def levelsItems : List RespFrame → Nat
  | [] => 0
  | item :: items => max (levels item) (levelsItems items)

/-- The most levels among the entries. -/
def levelsEntries : List (RespFrame × RespFrame) → Nat
  | [] => 0
  | (key, value) :: entries => max (max (levels key) (levels value)) (levelsEntries entries)

end

/-! ## The frames inside an aggregate -/

lemma encodeEntries_eq (entries : List (RespFrame × RespFrame)) :
    encodeEntries entries = encodeItems (unpaired entries) := by
  induction entries with
  | nil => rfl
  | cons entry entries ih =>
    rw [unpaired, encodeItems_cons, encodeItems_cons, ← ih, ← append_assoc]
    rfl

lemma wireItems_iff (items : List RespFrame) : WireItems items ↔ ∀ f ∈ items, Wire f := by
  induction items with
  | nil => exact ⟨fun _ => forall_mem_nil _, fun _ => trivial⟩
  | cons item items ih => exact (and_congr_right' ih).trans forall_mem_cons.symm

lemma wireEntries_iff (entries : List (RespFrame × RespFrame)) :
    WireEntries entries ↔ WireItems (unpaired entries) := by
  induction entries with
  | nil => rfl
  | cons entry entries ih => exact and_congr_right' (and_congr_right' ih)

lemma levelsEntries_eq (entries : List (RespFrame × RespFrame)) :
    levelsEntries entries = levelsItems (unpaired entries) := by
  induction entries with
  | nil => rfl
  | cons entry entries ih =>
    rw [unpaired, levelsItems, levelsItems, ← ih, ← max_assoc]
    rfl

lemma materializeItems_unpaired (data : Bytes) (descs : List (FrameDesc × FrameDesc)) :
    materializeItems data (unpaired descs) = unpaired (materializeEntries data descs) := by
  induction descs with
  | nil => rfl
  | cons desc descs ih =>
    rw [unpaired, materializeItems, materializeItems, ih]
    rfl

lemma materializeEntries_paired (data : Bytes) (descs : List FrameDesc) :
    materializeEntries data (paired descs) = paired (materializeItems data descs) := by
  fun_induction paired descs with
  | case1 key value rest ih =>
    rw [materializeEntries, ih, materializeItems, materializeItems, paired]
  | case2 descs h =>
    rcases descs with _ | ⟨key, _ | ⟨value, rest⟩⟩
    · rfl
    · rfl
    · exact (h key value rest rfl).elim

lemma levels_le_levelsItems {f : RespFrame} {items : List RespFrame} (h : f ∈ items) :
    levels f ≤ levelsItems items := by
  induction items with
  | nil => cases h
  | cons item items ih =>
    rw [levelsItems]
    rcases mem_cons.mp h with rfl | h
    · exact le_max_left _ _
    · exact (ih h).trans (le_max_right _ _)

/-- An array or a map `f`, with `n` in its header and `items` the frames inside. -/
structure Shapes (kind : Aggregate) (f : RespFrame) (n : Nat) (items : List RespFrame) : Prop where
  le_limit : n ≤ kind.limit
  length_items : items.length = kind.width * n
  encode_eq : encode f = aggregateHeader kind.marker n ++ encodeItems items
  levels_eq : levels f = levelsItems items + 1
  materialize_desc : ∀ data descs, materializeItems data descs = items →
    materialize data (kind.desc descs) = f

section induction

variable {motive : ∀ f, Wire f → Prop}
  (simpleString : ∀ value h, motive (.simpleString value) h)
  (error : ∀ value h, motive (.error value) h)
  (integer : ∀ value, motive (.integer value) trivial)
  (nullBulk : motive (.bulkString none) trivial)
  (bulkString : ∀ value h, motive (.bulkString (some value)) h)
  (nullArray : motive .nullArray trivial) (null : motive .null trivial)
  (aggregate : ∀ kind f n items h, Shapes kind f n items →
    (∀ f ∈ items, ∃ hf, motive f hf) → motive f h)
include simpleString error integer nullBulk bulkString nullArray null aggregate

/-- **Induction over a parseable frame**, one level at a time. -/
theorem Wire.induction (f : RespFrame) : ∀ h, motive f h := by
  induction f using RespFrame.induction with
  | simpleString value => exact simpleString value
  | error value => exact error value
  | integer value => exact fun _ => integer value
  | bulkString value =>
    cases value with
    | none => exact fun _ => nullBulk
    | some value => exact bulkString value
  | nullArray => exact fun _ => nullArray
  | null => exact fun _ => null
  | array items ih =>
    intro h
    have hitems := (wireItems_iff items).mp h.2
    have hshape : Shapes .array (.array items) items.length items :=
      ⟨h.1, (Nat.one_mul _).symm, encode_array items, by rw [levels],
        fun data descs hdescs => by rw [Aggregate.desc, materialize, hdescs]⟩
    exact aggregate _ _ _ _ h hshape fun f hf => ⟨hitems f hf, ih f hf (hitems f hf)⟩
  | map entries ih =>
    intro h
    have hitems := (wireItems_iff _).mp ((wireEntries_iff entries).mp h.2)
    have hshape : Shapes .map (.map entries) entries.length (unpaired entries) :=
      ⟨h.1, length_unpaired entries, by rw [encode_map, encodeEntries_eq]; rfl,
        by rw [levels, levelsEntries_eq], fun data descs hdescs => by
          rw [Aggregate.desc, materialize, materializeEntries_paired, hdescs, paired_unpaired]⟩
    exact aggregate _ _ _ _ h hshape fun f hf => ⟨hitems f hf, ih f hf (hitems f hf)⟩
  | push _ _ | sequence _ _ | versioned _ _ _ => exact fun h => h.elim

end induction

/-! ## One frame at an offset -/

section steps

variable {data rest : Bytes} {idx depth : Nat}

/-- The bytes of an aggregate header, as the parser meets them. -/
lemma aggregateHeader_append (marker : UInt8) (n : Nat) (rest : Bytes) :
    aggregateHeader marker n ++ rest = marker :: (decimalInt n ++ crlf ++ rest) := by
  simp [aggregateHeader, decimal_eq_decimalInt]

lemma length_aggregateHeader (marker : UInt8) (n : Nat) :
    (aggregateHeader marker n).length = (decimalInt n).length + 3 := by
  simp [aggregateHeader, crlf, decimal_eq_decimalInt]

/-- The header of an array or a map of `n` elements: what is left to describe are the frames
inside. -/
lemma describeFrameAt_header (kind : Aggregate) {n : Nat} (hn : n ≤ kind.limit)
    (h : data.drop idx = aggregateHeader kind.marker n ++ rest) (hdepth : depth < maxNestingDepth) :
    describeFrameAt data idx depth =
      (describeItems (fun cur => describeFrameAt data cur (depth + 1)) (kind.width * n)
        (idx + (aggregateHeader kind.marker n).length)).map
        (Option.map fun r => (kind.desc r.1, r.2 - idx)) := by
  rw [aggregateHeader_append] at h
  rw [describeFrameAt_aggregate kind _ (getElem?_of_drop_eq_cons h), Aggregate.describe,
    if_neg (Nat.not_le.mpr hdepth), onLine_of_some (firstLine_decimalInt h),
    kind.lengthOn_of_le hn, length_aggregateHeader]

/-- Below the last level an aggregate is refused on its marker. -/
lemma describeFrameAt_deep (kind : Aggregate) (h : data.drop idx = kind.marker :: rest)
    (hdepth : maxNestingDepth ≤ depth) :
    describeFrameAt data idx depth = .error .nestingTooDeep := by
  rw [describeFrameAt_aggregate kind _ (getElem?_of_drop_eq_cons h), Aggregate.describe, if_pos hdepth]

lemma describeFrameAt_nullArray (h : data.drop idx = 42 :: (decimalInt (-1) ++ crlf ++ rest))
    (hdepth : depth < maxNestingDepth) :
    describeFrameAt data idx depth = .ok (some (.nullArray, 5)) := by
  rw [describeFrameAt_aggregate .array _ (getElem?_of_drop_eq_cons h),
    Aggregate.describe, if_neg (Nat.not_le.mpr hdepth), onLine_of_some (firstLine_decimalInt h),
    Aggregate.lengthOn, lengthOn_null]
  rfl

end steps

/-! ## Whole encodings -/

/-- `desc` describes `f` at `idx`: wherever the encoding of `f` stands at `idx`, the first phase
yields `desc` and consumes the encoding, and the second phase gives `f` back. -/
def Describes (f : RespFrame) (depth idx : Nat) (desc : FrameDesc) : Prop :=
  ∀ data suffix, data.drop idx = encode f ++ suffix →
    describeFrameAt data idx depth = .ok (some (desc, (encode f).length)) ∧
    materialize data desc = f

/-- `descs` describe the items of an aggregate from `idx` on. -/
def DescribesItems (items : List RespFrame) (depth idx : Nat) (descs : List FrameDesc) : Prop :=
  ∀ data suffix, data.drop idx = encodeItems items ++ suffix →
    describeItems (fun cur => describeFrameAt data cur depth) items.length idx =
      .ok (some (descs, idx + (encodeItems items).length)) ∧
    materializeItems data descs = items

section wholeLeaves

variable {data rest : Bytes} {depth idx : Nat}
variable {value : Bytes} {items : List RespFrame}

/-- A line-framed payload without CR or LF is described in place. -/
lemma describeLine_encode (desc : Nat → Nat → FrameDesc) {marker : UInt8}
    (h : data.drop idx = marker :: (value ++ crlf) ++ rest)
    (hplain : value.any isLineBreak = false) :
    describeLine desc data idx =
        .ok (some (desc (idx + 1) value.length, (marker :: (value ++ crlf)).length)) ∧
      slice data (idx + 1) value.length = value := by
  have hcr : 13 ∉ value := by
    intro hmem
    rw [any_eq_false] at hplain
    exact hplain 13 hmem (by decide)
  have hfirst := firstLine_line h hcr
  refine ⟨?_, (firstLine_eq_some hfirst).2.1⟩
  rw [describeLine_eq, onLine_of_some hfirst, if_neg (by simp [hplain])]
  simp [crlf]

lemma describes_simpleString (h : value.any isLineBreak = false) :
    Describes (.simpleString value) depth idx (.simpleString (idx + 1) value.length) := by
  intro data suffix hdata
  rw [encode_simpleString, extendLine_of_plain h] at hdata ⊢
  obtain ⟨hline, hslice⟩ := describeLine_encode .simpleString hdata h
  rw [describeFrameAt_eq, describeStep, getElem?_of_drop_eq_cons hdata, materialize, hslice]
  exact ⟨hline, rfl⟩

lemma describes_error (h : value.any isLineBreak = false) :
    Describes (.error value) depth idx (.error (idx + 1) value.length) := by
  intro data suffix hdata
  rw [encode_error, extendLine_of_plain h] at hdata ⊢
  obtain ⟨hline, hslice⟩ := describeLine_encode .error hdata h
  rw [describeFrameAt_eq, describeStep, getElem?_of_drop_eq_cons hdata, materialize, hslice]
  exact ⟨hline, rfl⟩

lemma describes_integer (v : Int64) : Describes (.integer v) depth idx (.integer v) := by
  intro data suffix hdata
  rw [encode_integer] at hdata ⊢
  have hnumber := lineNumber_decimalInt .invalidInteger v.toInt v.le_toInt v.toInt_lt
  refine ⟨?_, rfl⟩
  rw [describeFrameAt_eq, describeStep, getElem?_of_drop_eq_cons hdata]
  simp only [describeInteger_eq, onLine_of_some (firstLine_decimalInt hdata), hnumber, Except.map,
    Int64.ofInt_toInt]
  simp [crlf]

lemma describes_nullBulk : Describes (.bulkString none) depth idx .nullBulk := by
  intro data suffix hdata
  have hmarker : data.drop idx = 36 :: (decimalInt (-1) ++ crlf ++ suffix) := hdata
  refine ⟨?_, rfl⟩
  rw [describeFrameAt_eq, describeStep, getElem?_of_drop_eq_cons hmarker]
  simp only [describeBulkString_eq, onLine_of_some (firstLine_decimalInt hmarker), lengthOn_null]
  rfl

/-- The header of a bulk string: what is left to decide is whether the payload is there. -/
lemma describeFrameAt_bulkString {n : Nat} (hn : n ≤ maxBulkLength)
    (h : data.drop idx = 36 :: (decimalInt n ++ crlf ++ rest)) :
    describeFrameAt data idx depth = terminated rest n
      (.bulkString (idx + ((decimalInt n).length + 3)) n, (decimalInt n).length + 3 + n + 2) := by
  rw [describeFrameAt_eq, describeStep, getElem?_of_drop_eq_cons h]
  simp only [describeBulkString_eq, onLine_of_some (firstLine_decimalInt h),
    lengthOn_of_le (by decide) hn, drop_firstLine h]

lemma describes_bulkString (h : value.length ≤ maxBulkLength) :
    Describes (.bulkString (some value)) depth idx
      (.bulkString (idx + ((decimalInt value.length).length + 3)) value.length) := by
  intro data suffix hdata
  rw [encode_bulkString, decimal_eq_decimalInt] at hdata ⊢
  have hmarker : data.drop idx =
      36 :: (decimalInt value.length ++ crlf ++ (value ++ (crlf ++ suffix))) := by
    simpa using hdata
  constructor
  · rw [describeFrameAt_bulkString h hmarker, terminated_append]
    simp only [length_append, length_cons, show crlf.length = 2 from rfl]
  · rw [materialize, slice_of_drop_eq_append (drop_firstLine hmarker)]

lemma describes_null : Describes .null depth idx .null := by
  intro data suffix hdata
  have hmarker : data.drop idx = 95 :: ([] ++ (crlf ++ suffix)) := hdata
  refine ⟨?_, rfl⟩
  rw [describeFrameAt_eq, describeStep, getElem?_of_drop_eq_cons hmarker]
  simp only [describeNull_eq, drop_succ_of_drop_eq_cons hmarker]
  exact terminated_append [] suffix _

/-- An array or a map is described when the frames inside are. -/
lemma Shapes.describes {kind : Aggregate} {f : RespFrame} {n : Nat} {descs : List FrameDesc}
    (hshape : Shapes kind f n items) (hdepth : depth < maxNestingDepth)
    (hitems : DescribesItems items (depth + 1) (idx + (aggregateHeader kind.marker n).length) descs) :
    Describes f depth idx (kind.desc descs) := by
  intro data suffix hdata
  rw [hshape.encode_eq, append_assoc] at hdata
  obtain ⟨hdescribe, hmat⟩ := hitems data suffix (drop_of_drop_eq_append hdata)
  refine ⟨?_, hshape.materialize_desc data descs hmat⟩
  rw [describeFrameAt_header kind hshape.le_limit hdata hdepth, ← hshape.length_items, hdescribe,
    hshape.encode_eq]
  simp only [Except.map, Option.map_some, length_append]
  congr 3
  omega

lemma describesItems_cons {item : RespFrame} {desc : FrameDesc} {descs : List FrameDesc}
    (hitem : Describes item depth idx desc)
    (hitems : DescribesItems items depth (idx + (encode item).length) descs) :
    DescribesItems (item :: items) depth idx (desc :: descs) := by
  intro data suffix hdata
  rw [encodeItems_cons, append_assoc] at hdata
  obtain ⟨hhead, hmat⟩ := hitem data _ hdata
  obtain ⟨htail, hmats⟩ := hitems data suffix (drop_of_drop_eq_append hdata)
  constructor
  · simp only [length_cons, describeItems, hhead, htail, bind, Except.bind,
      encodeItems_cons, length_append, Nat.add_assoc]
    rfl
  · rw [materializeItems, hmat, hmats]

/-- The items of an aggregate are described one after the other. -/
lemma describesItems_of_forall (depth : Nat)
    (h : ∀ f ∈ items, ∀ idx, ∃ desc, Describes f depth idx desc) (idx : Nat) :
    ∃ descs, DescribesItems items depth idx descs := by
  induction items generalizing idx with
  | nil => exact ⟨[], fun _ _ _ => ⟨rfl, rfl⟩⟩
  | cons item items ih =>
    obtain ⟨hitem, hitems⟩ := forall_mem_cons.mp h
    obtain ⟨desc, hdesc⟩ := hitem idx
    obtain ⟨descs, hdescs⟩ := ih hitems (idx + (encode item).length)
    exact ⟨_, describesItems_cons hdesc hdescs⟩

end wholeLeaves

/-- **Round trip of the two phases.** A parseable frame within the levels left is described at
every offset, by one descriptor for every buffer its encoding stands in. -/
theorem describeFrameAt_encode (f : RespFrame) (depth idx : Nat) (hwire : Wire f)
    (hlevels : levels f + depth ≤ maxNestingDepth) : ∃ desc, Describes f depth idx desc := by
  induction f, hwire using Wire.induction generalizing depth idx with
  | simpleString value h => exact ⟨_, describes_simpleString h⟩
  | error value h => exact ⟨_, describes_error h⟩
  | integer value => exact ⟨_, describes_integer value⟩
  | nullBulk => exact ⟨_, describes_nullBulk⟩
  | bulkString value h => exact ⟨_, describes_bulkString h⟩
  | nullArray =>
    rw [levels] at hlevels
    exact ⟨_, fun _ _ hdata => ⟨describeFrameAt_nullArray hdata (by omega), rfl⟩⟩
  | null => exact ⟨_, describes_null⟩
  | aggregate kind f n items h hshape ih =>
    rw [hshape.levels_eq] at hlevels
    obtain ⟨descs, hdescs⟩ := describesItems_of_forall (depth + 1) (fun f hf idx => by
      have hle := levels_le_levelsItems hf
      exact (ih f hf).2 (depth + 1) idx (by omega)) (idx + (aggregateHeader kind.marker n).length)
    exact ⟨_, hshape.describes (by omega) hdescs⟩

/-! ## Cut encodings -/

/-- What describing a frame must yield when its bytes end early and `zeros` follow: never a
frame, and a request for more when nothing follows. -/
def Torn {α : Type} (zeros : Bytes) (r : Except RespParseError (Option α)) : Prop :=
  (∀ x, r ≠ .ok (some x)) ∧ (zeros = [] → r = .ok none)

section torn

variable {α β : Type} {data zeros p : Bytes} {idx depth : Nat} {marker : UInt8}

lemma torn_none : Torn (α := α) zeros (.ok none) := by
  refine ⟨?_, fun _ => rfl⟩
  intro x h
  cases h

lemma torn_error {e : RespParseError} (h : zeros ≠ []) : Torn (α := α) zeros (.error e) := by
  refine ⟨?_, fun hnil => absurd hnil h⟩
  intro x h
  cases h

/-- A torn inner result stays torn through the code that would have used it. -/
lemma Torn.map {r : Except RespParseError (Option α)} (h : Torn zeros r) (g : α → β) :
    Torn zeros (r.map (Option.map g)) := by
  rcases r with e | _ | x
  · exact torn_error fun hnil => by cases h.2 hnil
  · exact torn_none
  · exact absurd rfl (h.1 x)

lemma not_mem_zeros {b : UInt8} (hzeros : ∀ b ∈ zeros, b = 0) (hb : b ≠ 0) : b ∉ zeros :=
  fun hmem => hb (hzeros b hmem)

lemma memchr_eq_none {b : UInt8} (h : b ∉ data) : memchr b data = none := by
  rw [memchr, findIdx?_eq_none_iff]
  intro c hc
  simp only [beq_eq_false_iff_ne, ne_eq]
  rintro rfl
  exact h hc

/-- Nothing but zero bytes is no frame. -/
lemma torn_zeros (hzeros : ∀ b ∈ zeros, b = 0) (hdata : data.drop idx = zeros) :
    Torn zeros (describeFrameAt data idx depth) := by
  rw [describeFrameAt_eq]
  cases zeros with
  | nil =>
    have hidx : data[idx]? = none := by
      rw [List.getElem?_eq_none_iff]
      exact drop_eq_nil_iff.mp hdata
    simp only [describeStep, hidx]
    exact torn_none
  | cons b zeros =>
    have hb : b = 0 := hzeros b mem_cons_self
    subst hb
    simp only [describeStep, getElem?_of_drop_eq_cons hdata]
    split_ifs with hdepth
    · have hnewline : memchr 10 (data.drop idx) = none := by
        rw [hdata]
        exact memchr_eq_none (not_mem_zeros hzeros (by decide))
      simp only [describeInlineCommand, hnewline]
      split_ifs
      · exact torn_error (by simp)
      · exact torn_none
    · exact torn_error (by simp)

/-- The marker of a frame that starts with a line: without the line, more is asked for. -/
def StartsLine (marker : UInt8) (depth : Nat) : Prop :=
  ∀ data idx, data[idx]? = some marker → firstLine data idx = none →
    describeFrameAt data idx depth = .ok none

lemma startsLine (h : marker = 43 ∨ marker = 45 ∨ marker = 58 ∨ marker = 36) :
    StartsLine marker depth := by
  intro data idx hget hline
  rw [describeFrameAt_eq, describeStep, hget]
  rcases h with rfl | rfl | rfl | rfl
  · exact (describeLine_eq _ _ _).trans (onLine_of_none hline)
  · exact (describeLine_eq _ _ _).trans (onLine_of_none hline)
  · exact (describeInteger_eq _ _).trans (onLine_of_none hline)
  · exact (describeBulkString_eq _ _).trans (onLine_of_none hline)

lemma Aggregate.startsLine (kind : Aggregate) (hdepth : depth < maxNestingDepth) :
    StartsLine kind.marker depth := by
  intro data idx hget hline
  rw [describeFrameAt_aggregate kind _ hget, Aggregate.describe, if_neg (Nat.not_le.mpr hdepth),
    onLine_of_none hline]

/-- A frame whose first line is cut: either nothing of it is there, or its marker is and its
line is not found. -/
lemma torn_firstLine {line : Bytes} (hmarker : StartsLine marker depth)
    (hcut : StrictPrefix p (marker :: (line ++ crlf))) (hline : 10 ∉ line)
    (hzeros : ∀ b ∈ zeros, b = 0) (hdata : data.drop idx = p ++ zeros) :
    Torn zeros (describeFrameAt data idx depth) := by
  rcases strictPrefix_cons hcut with rfl | ⟨q, rfl, hq⟩
  · exact torn_zeros hzeros hdata
  · rw [cons_append] at hdata
    have hcut : StrictPrefix q ((line ++ [13]) ++ [10]) := by simpa [crlf] using hq
    have hnone : 10 ∉ data.drop (idx + 1) := by
      rw [drop_succ_of_drop_eq_cons hdata, mem_append, not_or]
      exact ⟨hcut.not_mem_of_append_singleton (by simp [hline]),
        not_mem_zeros hzeros (by decide)⟩
    rw [hmarker data idx (getElem?_of_drop_eq_cons hdata)
      (by rw [firstLine, parseLineOffsets, findCrlf_eq_none hnone]; rfl)]
    exact torn_none

lemma not_mem_of_plain {value : Bytes} (h : value.any isLineBreak = false) : 10 ∉ value := by
  intro hmem
  rw [any_eq_false] at h
  exact h 10 hmem (by decide)

/-- A payload or a terminator that is cut: the line feed is missing, so the byte in its place is a
zero byte. -/
lemma torn_terminated {len : Nat} {result : FrameDesc × Nat} (hp : p.length < len + 2)
    (hzeros : ∀ b ∈ zeros, b = 0) : Torn zeros (terminated (p ++ zeros) len result) := by
  unfold terminated
  split_ifs with hshort hbad
  · exact torn_none
  · apply torn_error
    rintro rfl
    rw [append_nil] at hshort
    exact hshort hp
  · exfalso
    push Not at hbad
    have hlf := hbad.2
    rw [getElem?_append_right (by omega)] at hlf
    exact not_mem_zeros hzeros (by decide) (mem_of_getElem? hlf)

lemma torn_bulkString {value : Bytes} (hlen : value.length ≤ maxBulkLength)
    (hcut : StrictPrefix p (encode (.bulkString (some value))))
    (hzeros : ∀ b ∈ zeros, b = 0) (hdata : data.drop idx = p ++ zeros) :
    Torn zeros (describeFrameAt data idx depth) := by
  have hcut : StrictPrefix p
      (36 :: (decimalInt value.length ++ crlf) ++ (value ++ crlf)) := by
    simpa [decimal_eq_decimalInt] using hcut
  rcases strictPrefix_append hcut with hhead | ⟨q, rfl, hq⟩
  · exact torn_firstLine (startsLine (by simp)) hhead (not_mem_decimalInt_of_lt (by decide)) hzeros
      hdata
  · have hmarker : data.drop idx =
        36 :: (decimalInt value.length ++ crlf ++ (q ++ zeros)) := by simpa using hdata
    rw [describeFrameAt_bulkString hlen hmarker]
    exact torn_terminated (by simpa [crlf] using hq.length_lt) hzeros

lemma torn_null (hcut : StrictPrefix p (encode .null)) (hzeros : ∀ b ∈ zeros, b = 0)
    (hdata : data.drop idx = p ++ zeros) : Torn zeros (describeFrameAt data idx depth) := by
  rw [encode_null] at hcut
  rcases strictPrefix_cons hcut with rfl | ⟨q, rfl, hq⟩
  · exact torn_zeros hzeros hdata
  · rw [cons_append] at hdata
    rw [describeFrameAt_eq, describeStep, getElem?_of_drop_eq_cons hdata]
    simp only [describeNull_eq, drop_succ_of_drop_eq_cons hdata]
    exact torn_terminated hq.length_lt hzeros

lemma torn_describeItems_head {inner : Nat → Described} {n : Nat} (h : Torn zeros (inner idx)) :
    Torn zeros (describeItems inner (n + 1) idx) := by
  simp only [describeItems]
  rcases hinner : inner idx with e | _ | x
  · exact torn_error fun hnil => by cases (h.2 hnil).symm.trans hinner
  · exact torn_none
  · exact absurd hinner (h.1 x)

lemma torn_describeItems_tail {inner : Nat → Described} {n consumed : Nat} {desc : FrameDesc}
    (hhead : inner idx = .ok (some (desc, consumed)))
    (htail : Torn zeros (describeItems inner n (idx + consumed))) :
    Torn zeros (describeItems inner (n + 1) idx) := by
  simp only [describeItems, hhead, bind, Except.bind]
  generalize describeItems inner n (idx + consumed) = tail at htail ⊢
  have hmap := htail.map fun r => (desc :: r.1, r.2)
  rcases tail with e | _ | ⟨descs, cur⟩
  · exact hmap
  · exact hmap
  · exact hmap

/-- Among the items of an aggregate, the loop passes the whole ones and stops at the cut one. -/
lemma torn_describeItems {items : List RespFrame}
    (hwhole : ∀ f ∈ items, ∀ idx, ∃ desc, Describes f depth idx desc)
    (htorn : ∀ f ∈ items, ∀ idx p, StrictPrefix p (encode f) → data.drop idx = p ++ zeros →
      Torn zeros (describeFrameAt data idx depth))
    (hcut : StrictPrefix p (encodeItems items)) (hdata : data.drop idx = p ++ zeros) :
    Torn zeros (describeItems (fun cur => describeFrameAt data cur depth) items.length idx) := by
  induction items generalizing idx p with
  | nil => exact absurd hcut not_strictPrefix_nil
  | cons item items ih =>
    obtain ⟨hitem, hitems⟩ := forall_mem_cons.mp hwhole
    obtain ⟨htornItem, htornItems⟩ := forall_mem_cons.mp htorn
    rcases strictPrefix_append hcut with hhead | ⟨q, rfl, hq⟩
    · exact torn_describeItems_head (htornItem idx p hhead hdata)
    · obtain ⟨desc, hdesc⟩ := hitem idx
      rw [append_assoc] at hdata
      exact torn_describeItems_tail (hdesc data _ hdata).1
        (ih hitems htornItems hq (drop_of_drop_eq_append hdata))

end torn

/-- **Cut encodings.** Where the encoding of a parseable frame ends early and only zero bytes
follow, no frame is described; where nothing follows, the parser asks for more. -/
theorem describeFrameAt_cut (f : RespFrame) (depth idx : Nat) (data p zeros : Bytes)
    (hwire : Wire f) (hlevels : levels f + depth ≤ maxNestingDepth)
    (hcut : StrictPrefix p (encode f)) (hzeros : ∀ b ∈ zeros, b = 0)
    (hdata : data.drop idx = p ++ zeros) : Torn zeros (describeFrameAt data idx depth) := by
  induction f, hwire using Wire.induction generalizing depth idx p with
  | simpleString value h =>
    rw [encode_simpleString, extendLine_of_plain h] at hcut
    exact torn_firstLine (startsLine (by simp)) hcut (not_mem_of_plain h) hzeros hdata
  | error value h =>
    rw [encode_error, extendLine_of_plain h] at hcut
    exact torn_firstLine (startsLine (by simp)) hcut (not_mem_of_plain h) hzeros hdata
  | integer value =>
    rw [encode_integer] at hcut
    exact torn_firstLine (startsLine (by simp)) hcut (not_mem_decimalInt_of_lt (by decide)) hzeros
      hdata
  | nullBulk =>
    have hcut : StrictPrefix p (36 :: (decimalInt (-1) ++ crlf)) := hcut
    exact torn_firstLine (startsLine (by simp)) hcut (not_mem_decimalInt_of_lt (by decide)) hzeros
      hdata
  | bulkString value h => exact torn_bulkString h hcut hzeros hdata
  | nullArray =>
    rw [levels] at hlevels
    have hcut : StrictPrefix p (42 :: (decimalInt (-1) ++ crlf)) := hcut
    exact torn_firstLine (Aggregate.array.startsLine (by omega)) hcut
      (not_mem_decimalInt_of_lt (by decide)) hzeros hdata
  | null => exact torn_null hcut hzeros hdata
  | aggregate kind f n items h hshape ih =>
    rw [hshape.levels_eq] at hlevels
    rw [hshape.encode_eq] at hcut
    have hdepth : depth < maxNestingDepth := by omega
    -- the cut is in the header or among the frames inside
    rcases strictPrefix_append hcut with hhead | ⟨q, rfl, hq⟩
    · rw [← append_nil (aggregateHeader _ _), aggregateHeader_append, append_nil] at hhead
      exact torn_firstLine (kind.startsLine hdepth) hhead (not_mem_decimalInt_of_lt (by decide))
        hzeros hdata
    · rw [append_assoc] at hdata
      rw [describeFrameAt_header kind hshape.le_limit hdata hdepth, ← hshape.length_items]
      refine (torn_describeItems (fun f hf idx => ?_) (fun f hf idx p hp hidx => ?_) hq
        (drop_of_drop_eq_append hdata)).map _
      · have hle := levels_le_levelsItems hf
        exact describeFrameAt_encode f (depth + 1) idx (ih f hf).1 (by omega)
      · have hle := levels_le_levelsItems hf
        exact (ih f hf).2 (depth + 1) idx p (by omega) hp hidx

/-! ## Encodings nested too deep -/

/-- The item loop reaches the item that is nested too deep. -/
lemma describeItems_tooDeep {items : List RespFrame} {depth idx : Nat} {data suffix : Bytes}
    (h : ∀ f ∈ items, Wire f ∧ ∀ idx suffix, maxNestingDepth < levels f + depth →
      data.drop idx = encode f ++ suffix →
      describeFrameAt data idx depth = .error .nestingTooDeep)
    (hdepth : depth ≤ maxNestingDepth) (hlevels : maxNestingDepth < levelsItems items + depth)
    (hdata : data.drop idx = encodeItems items ++ suffix) :
    describeItems (fun cur => describeFrameAt data cur depth) items.length idx =
      .error .nestingTooDeep := by
  induction items generalizing idx with
  | nil =>
    rw [levelsItems] at hlevels
    omega
  | cons item items ih =>
    obtain ⟨⟨hwire, hitem⟩, hitems⟩ := forall_mem_cons.mp h
    rw [levelsItems] at hlevels
    rw [encodeItems_cons, append_assoc] at hdata
    by_cases hfits : levels item + depth ≤ maxNestingDepth
    · obtain ⟨desc, hdesc⟩ := describeFrameAt_encode item depth idx hwire hfits
      have htail := ih hitems (by omega) (drop_of_drop_eq_append hdata)
      simp only [length_cons, describeItems, (hdesc data _ hdata).1, htail, bind, Except.bind]
    · have hhead := hitem idx _ (by omega) hdata
      simp only [length_cons, describeItems, hhead, bind, Except.bind]

/-- A parseable frame with more levels than are left is refused. -/
theorem describeFrameAt_tooDeep (f : RespFrame) (depth idx : Nat) (data suffix : Bytes)
    (hwire : Wire f) (hdepth : depth ≤ maxNestingDepth)
    (hlevels : maxNestingDepth < levels f + depth) (hdata : data.drop idx = encode f ++ suffix) :
    describeFrameAt data idx depth = .error .nestingTooDeep := by
  induction f, hwire using Wire.induction generalizing depth idx suffix with
  | nullArray =>
    rw [levels] at hlevels
    have hmarker : data.drop idx = 42 :: (decimalInt (-1) ++ crlf ++ suffix) := hdata
    exact describeFrameAt_deep .array hmarker (by omega)
  | aggregate kind f n items h hshape ih =>
    rw [hshape.levels_eq] at hlevels
    rw [hshape.encode_eq, append_assoc] at hdata
    by_cases hlast : depth < maxNestingDepth
    · rw [describeFrameAt_header kind hshape.le_limit hdata hlast, ← hshape.length_items,
        describeItems_tooDeep
          (fun f hf => ⟨(ih f hf).1, fun idx suffix => (ih f hf).2 _ idx suffix hlast⟩) hlast
          (by omega) (drop_of_drop_eq_append hdata)]
      rfl
    · rw [aggregateHeader_append] at hdata
      exact describeFrameAt_deep kind hdata (by omega)
  | _ =>
    simp only [levels] at hlevels
    omega

/-! ## The public entry point -/

/-- Parsing an encoding followed by anything takes the frame off the buffer and leaves the
rest. -/
theorem parse_encode_append {f : RespFrame} (hwire : Wire f)
    (hlevels : levels f ≤ maxNestingDepth) (suffix : Bytes) :
    parse (encode f ++ suffix) = (.ok (some f), suffix) := by
  obtain ⟨desc, hdesc⟩ := describeFrameAt_encode f 0 0 hwire (by omega)
  have hdescribe := (hdesc (encode f ++ suffix) suffix rfl).1
  have hmat := (hdesc (encode f) [] (by simp)).2
  simp only [parse, hdescribe, take_left, drop_left, hmat]

/-- Parsing a cut encoding followed by zero bytes takes no frame off the buffer. -/
theorem parse_cut {f : RespFrame} (hwire : Wire f) (hlevels : levels f ≤ maxNestingDepth)
    {p zeros : Bytes} (hcut : StrictPrefix p (encode f)) (hzeros : ∀ b ∈ zeros, b = 0) :
    Torn zeros (parse (p ++ zeros)).1 ∧ (parse (p ++ zeros)).2 = p ++ zeros := by
  have htorn := describeFrameAt_cut f 0 0 (p ++ zeros) p zeros hwire (by omega) hcut hzeros rfl
  unfold parse
  rcases hdescribe : describeFrameAt (p ++ zeros) 0 0 with e | _ | x
  · rw [hdescribe] at htorn
    refine ⟨torn_error ?_, rfl⟩
    intro hnil
    cases htorn.2 hnil
  · exact ⟨torn_none, rfl⟩
  · exact absurd hdescribe (htorn.1 x)

/-- A cut encoding with nothing behind it makes the parser ask for more. -/
theorem parse_cut_nil {f : RespFrame} (hwire : Wire f) (hlevels : levels f ≤ maxNestingDepth)
    {p : Bytes} (hcut : StrictPrefix p (encode f)) : parse p = (.ok none, p) := by
  have hzeros : ∀ b ∈ ([] : Bytes), b = 0 := by simp
  obtain ⟨htorn, hbuf⟩ := parse_cut hwire hlevels hcut hzeros
  rw [append_nil] at htorn hbuf
  exact Prod.ext (htorn.2 rfl) hbuf

/-- **The parser inverts the encoder on exactly the frames within its levels.** Of the parseable
frames, those of at most `maxNestingDepth` levels, null arrays counted, are read back from their
encoding with the suffix left in the buffer; every other one is refused. -/
theorem parse_encode_iff (f : RespFrame) (hwire : Wire f) (suffix : Bytes) :
    parse (encode f ++ suffix) = (.ok (some f), suffix) ↔ levels f ≤ maxNestingDepth := by
  constructor
  · intro hparse
    by_contra hlevels
    have hdeep := describeFrameAt_tooDeep f 0 0 (encode f ++ suffix) suffix hwire
      (Nat.zero_le _) (by omega) rfl
    simp only [parse, hdeep, Prod.mk.injEq, reduceCtorEq, false_and] at hparse
  · intro hlevels
    exact parse_encode_append hwire hlevels suffix

/-- **A pipeline can be split in one way only**: frames that the parser reads, written one after
another, are determined by the bytes. -/
theorem encode_pipeline_injective {fs gs : List RespFrame}
    (hfs : ∀ f ∈ fs, Wire f ∧ levels f ≤ maxNestingDepth)
    (hgs : ∀ g ∈ gs, Wire g ∧ levels g ≤ maxNestingDepth)
    (h : fs.flatMap encode = gs.flatMap encode) : fs = gs := by
  have hparse {f : RespFrame} {rest : List RespFrame}
      (hall : ∀ g ∈ f :: rest, Wire g ∧ levels g ≤ maxNestingDepth) :
      parse ((f :: rest).flatMap encode) = (.ok (some f), rest.flatMap encode) :=
    parse_encode_append (hall f mem_cons_self).1 (hall f mem_cons_self).2 _
  have hempty : parse ([].flatMap encode) = (.ok none, []) := rfl
  -- both streams are parsed: the first frames agree, and so does what is left
  induction fs generalizing gs with
  | nil =>
    cases gs with
    | nil => rfl
    | cons g gs =>
      rw [h, hparse hgs] at hempty
      cases hempty
  | cons f fs ih =>
    have hf := hparse hfs
    cases gs with
    | nil =>
      rw [h, hempty] at hf
      cases hf
    | cons g gs =>
      rw [h, hparse hgs] at hf
      obtain ⟨hframe, hrest⟩ := Prod.mk.inj hf
      obtain rfl := Option.some.inj (Except.ok.inj hframe)
      rw [ih (fun f hf => hfs f (mem_cons_of_mem _ hf)) (fun g hg => hgs g (mem_cons_of_mem _ hg))
        hrest.symm]

/-- Two replies, cut out of the bytes of a pipeline, are those that were written. -/
theorem encode_pipeline_injective_read :
    ([.integer 7, .bulkStr "OK"] : List RespFrame).flatMap encode =
        ascii ":7\r\n" ++ ascii "$2\r\nOK\r\n" ∧
      [materialize (ascii ":7\r\n") (.integer 7),
          materialize (ascii "$2\r\nOK\r\n") (.bulkString 4 2)] = [.integer 7, .bulkStr "OK"] := by
  refine ⟨rfl, encode_pipeline_injective ?_ ?_ rfl⟩
  · simp [materialize, Wire, levels, slice, ascii, maxBulkLength, maxNestingDepth]
  · simp only [List.mem_cons, List.not_mem_nil, or_false, forall_eq_or_imp, forall_eq]
    exact ⟨by simp [Wire, levels], show 2 ≤ maxBulkLength by decide, by decide⟩

/-- A pipelined request: the suffix is the start of the next one. -/
theorem parse_encode_iff_ping :
    parse (encode (.array [.bulkStr "PING", .map [(.integer 7, .null)]]) ++ ascii "*1\r") =
      (.ok (some (.array [.bulkStr "PING", .map [(.integer 7, .null)]])), ascii "*1\r") :=
  (parse_encode_iff (.array [.bulkStr "PING", .map [(.integer 7, .null)]])
    ⟨by decide, show 4 ≤ maxBulkLength by decide, ⟨by decide, trivial, trivial, trivial⟩, trivial⟩
    (ascii "*1\r")).mpr (by decide)

/-- `n` arrays of one item each around a frame. -/
def nestedIn : Nat → RespFrame → RespFrame
  | 0, f => f
  | n + 1, f => .array [nestedIn n f]

lemma wire_nestedIn (n : Nat) (f : RespFrame) (hwire : Wire f) : Wire (nestedIn n f) := by
  induction n with
  | zero => exact hwire
  | succ n ih => exact ⟨by simp [maxArrayElements], ih, trivial⟩

lemma depth_nestedIn (n : Nat) (f : RespFrame) : depth (nestedIn n f) = n + depth f := by
  induction n with
  | zero => simp [nestedIn]
  | succ n ih =>
    simp only [nestedIn, depth, depthItems, ih]
    omega

lemma levels_nestedIn (n : Nat) (f : RespFrame) : levels (nestedIn n f) = n + levels f := by
  induction n with
  | zero => simp [nestedIn]
  | succ n ih =>
    simp only [nestedIn, levels, levelsItems, ih]
    omega

/-- A null array inside as many arrays as the parser has levels is refused. -/
lemma parse_nestedIn_nullArray {n : Nat} (hn : n = maxNestingDepth) :
    parse (encode (nestedIn n .nullArray)) =
      (.error .nestingTooDeep, encode (nestedIn n .nullArray)) := by
  have hlevels : maxNestingDepth < levels (nestedIn n .nullArray) + 0 := by
    rw [levels_nestedIn, hn]
    decide
  have hdeep := describeFrameAt_tooDeep (nestedIn n .nullArray) 0 0
    (encode (nestedIn n .nullArray)) [] (wire_nestedIn n .nullArray trivial) (Nat.zero_le _)
    hlevels (by simp)
  simp only [parse, hdeep]

/-- A null array inside 128 arrays: every array lies within the nesting limit, yet the parser
refuses the frame, because it counts the null array as one more level. -/
theorem parse_nullArray_in_128_arrays :
    Wire (nestedIn 128 .nullArray) ∧ depth (nestedIn 128 .nullArray) = maxNestingDepth ∧
    parse (encode (nestedIn 128 .nullArray)) =
      (.error .nestingTooDeep, encode (nestedIn 128 .nullArray)) :=
  ⟨wire_nestedIn 128 .nullArray trivial, depth_nestedIn 128 .nullArray, parse_nestedIn_nullArray rfl⟩

end Ratatosk.Resp
