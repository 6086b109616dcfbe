import Ratatosk.Resp.RoundTrip

/-!
# What the parser accepts

`Accepts` lists the ways `describe_frame_at` describes a frame: one constructor for each kind of
frame, with the limits the parser has checked on that path. Everything about accepted input is
derived from it.

* `advances_describeLevel` — an accepted frame takes at least one byte and none beyond the
  buffer, so `length_lt_of_parse`: a parsed frame uses up input.
-/

namespace Ratatosk.Resp

open Lib

/-! ## The ways to accept a frame -/

lemma lt_length_of_memchr {b : UInt8} {s : Bytes} {i : Nat} (h : memchr b s = some i) :
    i < s.length := by
  obtain ⟨hlt, -⟩ := List.findIdx?_eq_some_iff_getElem.mp h
  exact hlt

/-- The bytes that announce a typed frame. -/
def typeMarkers : List UInt8 := [43, 45, 58, 36, 42, 37, 95]

lemma not_mem_typeMarkers_iff {marker : UInt8} :
    marker ∉ typeMarkers ↔ marker ≠ 43 ∧ marker ≠ 45 ∧ marker ≠ 58 ∧ marker ≠ 36 ∧ marker ≠ 42 ∧
      marker ≠ 37 ∧ marker ≠ 95 := by
  simp [typeMarkers]

/-- Whether the bytes at the front are taken for an inline command. -/
def startsInline : Bytes → Bool
  | [] => false
  | marker :: _ => marker ∉ typeMarkers

lemma startsInline_drop_iff {data : Bytes} {idx : Nat} {marker : UInt8}
    (h : data[idx]? = some marker) : startsInline (data.drop idx) ↔ marker ∉ typeMarkers := by
  obtain ⟨hlt, rfl⟩ := List.getElem?_eq_some_iff.mp h
  rw [List.drop_eq_getElem_cons hlt, startsInline, decide_eq_true_iff]

/-- The end of the inline command line at `idx`, the line break left out. -/
def inlineEnd (data : Bytes) (idx newline : Nat) : Nat :=
  if idx < idx + newline ∧ data[idx + newline - 1]? = some 13 then idx + newline - 1
  else idx + newline

/-- How a frame at `idx` is accepted; `inner` describes the frames inside it. In each case `len`
or `lineLen` is the length of the first line. -/
inductive Accepts (inner : Nat → Described) (data : Bytes) (idx depth : Nat) :
    FrameDesc → Nat → Prop where
  | simpleString {len : Nat} (hend : idx + len + 3 ≤ data.length)
      (hplain : (slice data (idx + 1) len).any isLineBreak = false) :
      Accepts inner data idx depth (.simpleString (idx + 1) len) (len + 3)
  | error {len : Nat} (hend : idx + len + 3 ≤ data.length)
      (hplain : (slice data (idx + 1) len).any isLineBreak = false) :
      Accepts inner data idx depth (.error (idx + 1) len) (len + 3)
  | integer {len : Nat} (v : Int64) (hend : idx + len + 3 ≤ data.length) :
      Accepts inner data idx depth (.integer v) (len + 3)
  | nullBulk {len : Nat} (hend : idx + len + 3 ≤ data.length) :
      Accepts inner data idx depth .nullBulk (len + 3)
  | bulkString {lineLen len : Nat} (hlen : len ≤ maxBulkLength)
      (hend : idx + (lineLen + 3) + len + 2 ≤ data.length) :
      Accepts inner data idx depth (.bulkString (idx + (lineLen + 3)) len) (lineLen + 3 + len + 2)
  | nullArray {len : Nat} (hdepth : depth < maxNestingDepth) (hend : idx + len + 3 ≤ data.length) :
      Accepts inner data idx depth .nullArray (len + 3)
  | array {lineLen len cur : Nat} {descs : List FrameDesc} (hdepth : depth < maxNestingDepth)
      (hend : idx + lineLen + 3 ≤ data.length) (hlen : len ≤ maxArrayElements)
      (hitems : describeItems inner len (idx + lineLen + 3) = .ok (some (descs, cur))) :
      Accepts inner data idx depth (.array descs) (cur - idx)
  | map {lineLen len cur : Nat} {entries : List (FrameDesc × FrameDesc)}
      (hdepth : depth < maxNestingDepth) (hend : idx + lineLen + 3 ≤ data.length)
      (hlen : len ≤ maxMapEntries)
      (hentries : describeEntries inner len (idx + lineLen + 3) = .ok (some (entries, cur))) :
      Accepts inner data idx depth (.map entries) (cur - idx)
  | null (hend : idx + 3 ≤ data.length) : Accepts inner data idx depth .null 3
  | inlineCommand {newline : Nat} {tokens : List InlineToken} (hdepth : depth = 0)
      (hinline : startsInline (data.drop idx))
      (hnewline : memchr 10 (data.drop idx) = some newline)
      (htokens : splitInlineArgs (inlineEnd data idx newline)
        (inlineEnd data idx newline - idx + 1)
        (slice data idx (inlineEnd data idx newline - idx)) = .ok tokens) :
      Accepts inner data idx depth (.inlineCommand tokens) (newline + 1)

section inversion

variable {inner : Nat → Described} {data : Bytes} {idx depth consumed : Nat} {desc : FrameDesc}

/-- What is accepted on a first line that is there. -/
lemma onLine_eq_some {next : Bytes → Described}
    (h : onLine data idx next = .ok (some (desc, consumed))) :
    ∃ text, slice data (idx + 1) text.length = text ∧ idx + text.length + 3 ≤ data.length ∧
      next text = .ok (some (desc, consumed)) := by
  cases hfirst : firstLine data idx with
  | none =>
    rw [onLine_of_none hfirst] at h
    cases h
  | some text =>
    obtain ⟨-, hslice, hend⟩ := firstLine_eq_some hfirst
    rw [onLine_of_some hfirst] at h
    exact ⟨text, hslice, hend, h⟩

/-- An accepted line: its length, and that it holds no line break. -/
lemma describeLine_eq_some {mk : Nat → Nat → FrameDesc}
    (h : describeLine mk data idx = .ok (some (desc, consumed))) :
    ∃ len, idx + len + 3 ≤ data.length ∧ (slice data (idx + 1) len).any isLineBreak = false ∧
      desc = mk (idx + 1) len ∧ consumed = len + 3 := by
  rw [describeLine_eq] at h
  obtain ⟨text, hslice, hend, h⟩ := onLine_eq_some h
  split_ifs at h with hbreak
  cases h
  exact ⟨text.length, hend, by simpa [hslice] using hbreak, rfl, rfl⟩

lemma accepts_of_describeInteger (h : describeInteger data idx = .ok (some (desc, consumed))) :
    Accepts inner data idx depth desc consumed := by
  rw [describeInteger_eq] at h
  obtain ⟨text, -, hend, h⟩ := onLine_eq_some h
  rcases hnumber : lineNumber .invalidInteger text with e | value
  · rw [hnumber] at h
    cases h
  · rw [hnumber] at h
    cases h
    exact .integer value hend

lemma terminated_eq_some {rest : Bytes} {len : Nat} {result result' : FrameDesc × Nat}
    (h : terminated rest len result = .ok (some result')) :
    len + 2 ≤ rest.length ∧ result' = result := by
  unfold terminated at h
  split_ifs at h with hshort hcrlf
  · cases h
  · cases h
    exact ⟨Nat.not_lt.mp hshort, rfl⟩

lemma accepts_of_describeBulkString
    (h : describeBulkString data idx = .ok (some (desc, consumed))) :
    Accepts inner data idx depth desc consumed := by
  rw [describeBulkString_eq] at h
  obtain ⟨text, -, hend, h⟩ := onLine_eq_some h
  rcases hlength : lengthOn .invalidBulkLength "bulk" maxBulkLength true text with e | _ | len
  · rw [hlength] at h
    cases h
  · rw [hlength] at h
    cases h
    exact .nullBulk hend
  · simp only [hlength] at h
    obtain ⟨hpayload, heq⟩ := terminated_eq_some h
    cases heq
    rw [List.length_drop] at hpayload
    exact .bulkString (lengthOn_le hlength) (by omega)

lemma accepts_of_describeNull (h : describeNull data idx = .ok (some (desc, consumed))) :
    Accepts inner data idx depth desc consumed := by
  rw [describeNull_eq] at h
  obtain ⟨hend, heq⟩ := terminated_eq_some h
  cases heq
  rw [List.length_drop] at hend
  exact .null (by omega)

lemma accepts_of_describeAggregate {kind : Aggregate}
    (h : kind.describe inner data idx depth = .ok (some (desc, consumed))) :
    Accepts inner data idx depth desc consumed := by
  unfold Aggregate.describe at h
  split_ifs at h with hdepth
  obtain ⟨text, -, hend, h⟩ := onLine_eq_some h
  rcases hlength : kind.lengthOn text with e | _ | n
  · rw [hlength] at h
    cases h
  · rw [hlength] at h
    cases h
    exact .nullArray (by omega) hend
  · rcases hitems : describeItems inner (kind.width * n) (idx + (text.length + 3)) with
      e | _ | ⟨descs, cur⟩
    · simp only [hlength, hitems] at h
      cases h
    · simp only [hlength, hitems] at h
      cases h
    · simp only [hlength, hitems] at h
      cases h
      cases kind with
      | array =>
        rw [Aggregate.width, Nat.one_mul] at hitems
        exact .array (by omega) hend (lengthOn_le hlength) hitems
      | map =>
        exact .map (by omega) hend (lengthOn_le hlength) (describeEntries_of_items hitems)

lemma accepts_of_describeInlineCommand (hdepth : depth = 0)
    (hinline : startsInline (data.drop idx))
    (h : describeInlineCommand data idx = .ok (some (desc, consumed))) :
    Accepts inner data idx depth desc consumed := by
  cases hnewline : memchr 10 (data.drop idx) with
  | none =>
    simp only [describeInlineCommand, hnewline] at h
    split_ifs at h
    cases h
  | some newline =>
    simp only [describeInlineCommand, hnewline] at h
    rcases htokens : splitInlineArgs (inlineEnd data idx newline)
        (inlineEnd data idx newline - idx + 1)
        (slice data idx (inlineEnd data idx newline - idx)) with e | tokens
    · unfold inlineEnd at htokens
      rw [htokens] at h
      cases h
    · have htokens' := htokens
      unfold inlineEnd at htokens'
      rw [htokens'] at h
      cases h
      exact .inlineCommand hdepth hinline hnewline htokens

/-- **A described frame was accepted in one of the listed ways.** -/
theorem accepts_of_describeStep
    (h : describeStep inner data idx depth = .ok (some (desc, consumed))) :
    Accepts inner data idx depth desc consumed := by
  unfold describeStep at h
  split at h
  · cases h
  · next marker hmarker =>
    split at h
    · obtain ⟨len, hend, hplain, rfl, rfl⟩ := describeLine_eq_some h
      exact .simpleString hend hplain
    · obtain ⟨len, hend, hplain, rfl, rfl⟩ := describeLine_eq_some h
      exact .error hend hplain
    · exact accepts_of_describeInteger h
    · exact accepts_of_describeBulkString h
    · exact accepts_of_describeAggregate ((describeArray_eq _ _ _ _).symm.trans h)
    · exact accepts_of_describeAggregate ((describeMap_eq _ _ _ _).symm.trans h)
    · exact accepts_of_describeNull h
    · split_ifs at h with hdepth
      have hmem : marker ∉ typeMarkers := by
        rw [not_mem_typeMarkers_iff]
        refine ⟨?_, ?_, ?_, ?_, ?_, ?_, ?_⟩ <;> assumption
      exact accepts_of_describeInlineCommand hdepth ((startsInline_drop_iff hmarker).mpr hmem) h

end inversion

/-! ## Progress -/

section progress

variable {inner : Nat → Described} {data : Bytes}
variable {cur cur' len : Nat} {descs : List FrameDesc}

/-- Each frame inside takes bytes, none of them beyond the buffer. -/
def Advances (inner : Nat → Described) (data : Bytes) : Prop :=
  ∀ cur desc consumed, inner cur = .ok (some (desc, consumed)) →
    0 < consumed ∧ cur + consumed ≤ data.length

/-- The first of some items, and the others behind it. -/
lemma describeItems_succ (h : describeItems inner (len + 1) cur = .ok (some (descs, cur'))) :
    ∃ desc consumed rest, inner cur = .ok (some (desc, consumed)) ∧
      describeItems inner len (cur + consumed) = .ok (some (rest, cur')) ∧ descs = desc :: rest := by
  simp only [describeItems] at h
  rcases hhead : inner cur with e | _ | ⟨desc, consumed⟩
  · rw [hhead] at h
    cases h
  · rw [hhead] at h
    cases h
  · rw [hhead] at h
    rcases htail : describeItems inner len (cur + consumed) with e | _ | ⟨rest, cur''⟩
    · simp only [bind, Except.bind, htail] at h
      cases h
    · simp only [bind, Except.bind, htail] at h
      cases h
    · simp only [bind, Except.bind, htail] at h
      cases h
      exact ⟨desc, consumed, rest, rfl, htail, rfl⟩

lemma describeItems_advances (hinner : Advances inner data) (hcur : cur ≤ data.length)
    (h : describeItems inner len cur = .ok (some (descs, cur'))) :
    cur ≤ cur' ∧ cur' ≤ data.length := by
  induction len generalizing cur descs with
  | zero =>
    cases h
    exact ⟨le_rfl, hcur⟩
  | succ len ih =>
    obtain ⟨desc, consumed, rest, hhead, htail, -⟩ := describeItems_succ h
    obtain ⟨-, hend⟩ := hinner cur desc consumed hhead
    have := ih hend htail
    omega

/-- What holds of the frames that `inner` describes in the first `n` bytes holds of the items. -/
lemma forall_mem_of_describeItems {P : FrameDesc → Prop} {n : Nat} (hadvances : Advances inner data)
    (hinner : ∀ cur desc consumed, inner cur = .ok (some (desc, consumed)) →
      cur + consumed ≤ n → P desc)
    (hcur : cur ≤ data.length) (hn : cur' ≤ n)
    (h : describeItems inner len cur = .ok (some (descs, cur'))) :
    descs.length = len ∧ ∀ desc ∈ descs, P desc := by
  induction len generalizing cur descs with
  | zero =>
    cases h
    exact ⟨rfl, List.forall_mem_nil _⟩
  | succ len ih =>
    obtain ⟨desc, consumed, rest, hhead, htail, rfl⟩ := describeItems_succ h
    obtain ⟨-, hend⟩ := hadvances cur desc consumed hhead
    obtain ⟨hle, -⟩ := describeItems_advances hadvances hend htail
    obtain ⟨hlength, hrest⟩ := ih hend htail
    refine ⟨congrArg Nat.succ hlength, List.forall_mem_cons.mpr ⟨?_, hrest⟩⟩
    exact hinner cur desc consumed hhead (hle.trans hn)

lemma describeEntries_advances (hinner : Advances inner data)
    {entries : List (FrameDesc × FrameDesc)} (hcur : cur ≤ data.length)
    (h : describeEntries inner len cur = .ok (some (entries, cur'))) :
    cur ≤ cur' ∧ cur' ≤ data.length :=
  describeItems_advances hinner hcur (describeItems_of_entries h)

lemma Accepts.advances {idx depth consumed : Nat} {desc : FrameDesc}
    (hinner : Advances inner data) (h : Accepts inner data idx depth desc consumed) :
    0 < consumed ∧ idx + consumed ≤ data.length := by
  cases h with
  | array hdepth hend hlen hitems =>
    have := describeItems_advances hinner hend hitems
    omega
  | map hdepth hend hlen hentries =>
    have := describeEntries_advances hinner hend hentries
    omega
  | inlineCommand hdepth hinline hnewline htokens =>
    have hlt := lt_length_of_memchr hnewline
    rw [List.length_drop] at hlt
    omega
  | _ => omega

/-- **An accepted frame takes at least one byte and none beyond the buffer.** -/
theorem advances_describeLevel (data : Bytes) (levels depth : Nat) :
    Advances (fun cur => describeLevel data levels cur depth) data := by
  induction levels generalizing depth with
  | zero =>
    intro idx desc consumed h
    have hinner : Advances (fun _ => .ok none) data := by
      intro cur desc consumed h
      cases h
    exact (accepts_of_describeStep h).advances hinner
  | succ levels ih =>
    intro idx desc consumed h
    exact (accepts_of_describeStep h).advances (ih (depth + 1))

lemma advances_describeFrameAt (data : Bytes) (depth : Nat) :
    Advances (fun cur => describeFrameAt data cur depth) data :=
  advances_describeLevel data _ depth

lemma parse_eq_some {buf rest : Bytes} {frame : RespFrame}
    (h : parse buf = (.ok (some frame), rest)) :
    ∃ desc consumed, describeFrameAt buf 0 0 = .ok (some (desc, consumed)) ∧ 0 < consumed ∧
      consumed ≤ buf.length ∧ frame = materialize (buf.take consumed) desc ∧
      rest = buf.drop consumed := by
  unfold parse at h
  split at h
  · cases h
  · cases h
  · next desc consumed hdescribe =>
      cases h
      obtain ⟨hpos, hle⟩ := advances_describeFrameAt buf 0 0 desc consumed hdescribe
      exact ⟨desc, consumed, hdescribe, hpos, by omega, rfl, rfl⟩

theorem length_lt_of_parse {buf rest : Bytes} {frame : RespFrame}
    (h : parse buf = (.ok (some frame), rest)) : rest.length < buf.length := by
  obtain ⟨desc, consumed, -, hpos, hle, -, rfl⟩ := parse_eq_some h
  rw [List.length_drop]
  omega

end progress

end Ratatosk.Resp
