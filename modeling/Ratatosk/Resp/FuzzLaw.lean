import Ratatosk.Resp.Inline

/-!
# Encoding what was parsed

The law that `fuzz_support.rs` `drain_and_roundtrip` asserts of every frame the parser yields:
its encoding parses to the same frame and is used up.

* `sound_describeLevel` — a typed frame was checked against every limit while it was read, so it
  has a parseable encoding (`Wire`) within the levels left.
* `parse_encode_parse_iff` — **the law holds of every typed request. For an inline request it
  holds if and only if the arguments keep to the limits of an array and of a bulk string**, which
  the inline path never looks at.
-/

namespace Ratatosk.Resp

open Lib

/-! ## Typed frames are within the limits -/

section sound

variable {inner : Nat → Described} {data : Bytes} {n depth : Nat}

/-- The frames that `inner` describes in the first `n` bytes have a parseable encoding, within
the levels below `depth`. -/
def Sound (inner : Nat → Described) (data : Bytes) (n depth : Nat) : Prop :=
  ∀ cur desc consumed, inner cur = .ok (some (desc, consumed)) → cur + consumed ≤ n →
    Wire (materialize (data.take n) desc) ∧
      levels (materialize (data.take n) desc) + depth ≤ maxNestingDepth

lemma slice_take {offset len : Nat} (h : offset + len ≤ n) :
    slice (data.take n) offset len = slice data offset len := by
  unfold slice
  rw [List.drop_take, List.take_take, Nat.min_eq_left (by omega)]

lemma length_slice_le (data : Bytes) (offset len : Nat) : (slice data offset len).length ≤ len := by
  unfold slice
  rw [List.length_take]
  omega

lemma describeItems_sound (hadvances : Advances inner data) (hinner : Sound inner data n depth)
    (hdepth : depth ≤ maxNestingDepth) {len cur cur' : Nat} {descs : List FrameDesc}
    (hcur : cur ≤ data.length) (hn : cur' ≤ n)
    (h : describeItems inner len cur = .ok (some (descs, cur'))) :
    (materializeItems (data.take n) descs).length = len ∧
      WireItems (materializeItems (data.take n) descs) ∧
      levelsItems (materializeItems (data.take n) descs) + depth ≤ maxNestingDepth := by
  obtain ⟨rfl, hall⟩ := forall_mem_of_describeItems hadvances hinner hcur hn h
  clear h
  induction descs with
  | nil => exact ⟨rfl, trivial, by simpa [materializeItems, levelsItems] using hdepth⟩
  | cons desc descs ih =>
    obtain ⟨⟨hwire, hlevels⟩, hrest⟩ := List.forall_mem_cons.mp hall
    obtain ⟨hlength, hwires, hlevels'⟩ := ih hrest
    refine ⟨congrArg Nat.succ hlength, ⟨hwire, hwires⟩, ?_⟩
    simp only [materializeItems, levelsItems]
    omega

lemma describeEntries_sound (hadvances : Advances inner data) (hinner : Sound inner data n depth)
    (hdepth : depth ≤ maxNestingDepth) {len cur cur' : Nat}
    {entries : List (FrameDesc × FrameDesc)} (hcur : cur ≤ data.length) (hn : cur' ≤ n)
    (h : describeEntries inner len cur = .ok (some (entries, cur'))) :
    (materializeEntries (data.take n) entries).length = len ∧
      WireEntries (materializeEntries (data.take n) entries) ∧
      levelsEntries (materializeEntries (data.take n) entries) + depth ≤ maxNestingDepth := by
  obtain ⟨hlength, hwire, hlevels⟩ :=
    describeItems_sound hadvances hinner hdepth hcur hn (describeItems_of_entries h)
  rw [materializeItems_unpaired] at hlength hwire hlevels
  rw [length_unpaired] at hlength
  refine ⟨by omega, (wireEntries_iff _).mpr hwire, ?_⟩
  rw [levelsEntries_eq]
  exact hlevels

/-- An accepted frame is an inline command at the top level, or has a parseable encoding. -/
lemma Accepts.sound {idx consumed : Nat} {desc : FrameDesc}
    (hadvances : Advances inner data) (hinner : Sound inner data n (depth + 1))
    (hdepth : depth ≤ maxNestingDepth) (h : Accepts inner data idx depth desc consumed)
    (hn : idx + consumed ≤ n) :
    (∃ tokens, depth = 0 ∧ startsInline (data.drop idx) ∧ desc = .inlineCommand tokens) ∨
      (Wire (materialize (data.take n) desc) ∧
        levels (materialize (data.take n) desc) + depth ≤ maxNestingDepth) := by
  cases h with
  | simpleString hend hplain | error hend hplain =>
    right
    rw [materialize, slice_take (by omega)]
    exact ⟨hplain, by simpa [levels] using hdepth⟩
  | integer v hend | nullBulk hend | null hend =>
    exact Or.inr ⟨trivial, by simpa [materialize, levels] using hdepth⟩
  | bulkString hlen hend =>
    right
    rw [materialize]
    exact ⟨(length_slice_le _ _ _).trans hlen, by simpa [levels] using hdepth⟩
  | nullArray hdepth' hend =>
    right
    refine ⟨trivial, ?_⟩
    simp only [materialize, levels]
    omega
  | array hdepth' hend hlen hitems =>
    right
    have hle := describeItems_advances hadvances hend hitems
    obtain ⟨hlength, hwires, hlevels⟩ :=
      describeItems_sound hadvances hinner hdepth' hend (by omega) hitems
    rw [materialize]
    refine ⟨⟨by omega, hwires⟩, ?_⟩
    rw [levels]
    omega
  | map hdepth' hend hlen hentries =>
    right
    have hle := describeEntries_advances hadvances hend hentries
    obtain ⟨hlength, hwires, hlevels⟩ :=
      describeEntries_sound hadvances hinner hdepth' hend (by omega) hentries
    rw [materialize]
    refine ⟨⟨by omega, hwires⟩, ?_⟩
    rw [levels]
    omega
  | inlineCommand hdepth' hinline hnewline htokens => exact Or.inl ⟨_, hdepth', hinline, rfl⟩

/-- **A frame inside an aggregate has a parseable encoding.** -/
theorem sound_describeLevel (data : Bytes) (n : Nat) {left depth : Nat}
    (hleft : left + depth = maxNestingDepth) (hdepth : depth ≠ 0) :
    Sound (fun cur => describeLevel data left cur depth) data n depth := by
  induction left generalizing depth with
  | zero =>
    intro cur desc consumed h hn
    have hadvances : Advances (fun _ => .ok none) data := by
      intro cur desc consumed h
      cases h
    have hinner : Sound (fun _ => .ok none) data n (depth + 1) := by
      intro cur desc consumed h
      cases h
    rcases (accepts_of_describeStep h).sound hadvances hinner (by omega) hn with
      ⟨tokens, hzero, -, -⟩ | hsound
    · exact absurd hzero hdepth
    · exact hsound
  | succ left ih =>
    intro cur desc consumed h hn
    rcases (accepts_of_describeStep h).sound (advances_describeLevel data left (depth + 1))
      (ih (by omega) (Nat.succ_ne_zero _)) (by omega) hn with ⟨tokens, hzero, -, -⟩ | hsound
    · exact absurd hzero hdepth
    · exact hsound

end sound

/-! ## Inline requests -/

section requests

variable {buf rest : Bytes} {frame : RespFrame}

lemma materialize_inlineCommand (frozen : Bytes) (tokens : List InlineToken) :
    ∃ argv : List Bytes, argv.length = tokens.length ∧
      materialize frozen (.inlineCommand tokens) = bulkArray argv := by
  simp only [materialize, bulkArray]
  induction tokens with
  | nil => exact ⟨[], rfl, rfl⟩
  | cons token tokens ih =>
    obtain ⟨argv, hlength, hargv⟩ := ih
    have hargv := RespFrame.array.inj hargv
    cases token with
    | slice offset len =>
      refine ⟨slice frozen offset len :: argv, by simp [hlength], ?_⟩
      rw [List.map_cons, List.map_cons, hargv]
      rfl
    | owned bytes =>
      refine ⟨bytes :: argv, by simp [hlength], ?_⟩
      rw [List.map_cons, List.map_cons, hargv]
      rfl

/-- A parsed request: inline, and then an array of bulk strings, or within the limits. -/
lemma parse_cases (h : parse buf = (.ok (some frame), rest)) :
    (startsInline buf ∧ ∃ argv, frame = bulkArray argv) ∨
      (Wire frame ∧ levels frame ≤ maxNestingDepth) := by
  obtain ⟨desc, consumed, hdescribe, -, hle, rfl, rfl⟩ := parse_eq_some h
  rw [describeFrameAt_eq] at hdescribe
  have hinner : Sound (fun cur => describeFrameAt buf cur (0 + 1)) buf consumed (0 + 1) :=
    sound_describeLevel buf consumed (by decide) (by decide)
  rcases (accepts_of_describeStep hdescribe).sound (advances_describeFrameAt buf (0 + 1)) hinner
    (Nat.zero_le _) (by omega) with ⟨tokens, -, hinline, rfl⟩ | hsound
  · left
    obtain ⟨argv, -, hargv⟩ := materialize_inlineCommand (buf.take consumed) tokens
    exact ⟨hinline, argv, hargv⟩
  · exact Or.inr hsound

/-- The encoding of a request over the limits is refused. -/
lemma parse_encode_bulkArray_ne {argv : List Bytes} (hover : ¬ Wire (bulkArray argv)) :
    ∃ e, parse (encode (bulkArray argv)) = (.error e, encode (bulkArray argv)) := by
  obtain ⟨e, hdescribe⟩ := refused_bulkArray hover (by decide : 0 < maxNestingDepth)
    (encode (bulkArray argv)) 0 [] (by simp)
  refine ⟨e, ?_⟩
  rw [parse, hdescribe]

/-- **Encoding a parsed frame and parsing it again gives the frame back**, if and only if an
inline request, where it was one, has as many arguments as an array may have and none longer
than a bulk string may be. -/
theorem parse_encode_parse_iff (h : parse buf = (.ok (some frame), rest)) :
    parse (encode frame) = (.ok (some frame), []) ↔
      (startsInline buf → ∀ argv, frame = bulkArray argv →
        argv.length ≤ maxArrayElements ∧ ∀ arg ∈ argv, arg.length ≤ maxBulkLength) := by
  have hroundtrip : ∀ f, Wire f → levels f ≤ maxNestingDepth →
      parse (encode f) = (.ok (some f), []) := by
    intro f hwire hlevels
    simpa using parse_encode_append hwire hlevels []
  constructor
  · rintro hparse - argv rfl
    rw [← wire_bulkArray_iff]
    by_contra hover
    obtain ⟨e, herror⟩ := parse_encode_bulkArray_ne hover
    rw [herror] at hparse
    cases hparse
  · intro hlimits
    rcases parse_cases h with ⟨hinline, argv, rfl⟩ | ⟨hwire, hlevels⟩
    · have hwire := (wire_bulkArray_iff argv).mpr (hlimits hinline argv rfl)
      refine hroundtrip _ hwire ?_
      rw [levels_bulkArray]
      decide
    · exact hroundtrip _ hwire hlevels

end requests

lemma bulkArray_injective : Function.Injective bulkArray := by
  intro argv argv' h
  refine List.map_injective_iff.mpr ?_ (RespFrame.array.inj h)
  intro arg arg' harg
  exact Option.some.inj (RespFrame.bulkString.inj harg)

/-- A quoted inline request is encoded as an array, which parses to the same request. -/
theorem parse_encode_parse_echo :
    parse (ascii "ECHO \"h i\"\r\n") = (.ok (some (bulkArray [ascii "ECHO", ascii "h i"])), []) ∧
      parse (encode (bulkArray [ascii "ECHO", ascii "h i"])) =
        (.ok (some (bulkArray [ascii "ECHO", ascii "h i"])), []) := by
  have hparse : parse (ascii "ECHO \"h i\"\r\n") =
      (.ok (some (bulkArray [ascii "ECHO", ascii "h i"])), []) := rfl
  refine ⟨hparse, (parse_encode_parse_iff hparse).mpr ?_⟩
  intro _ argv hargv
  rw [← bulkArray_injective hargv]
  decide

/-! ## An inline request with too many arguments -/

section spaced

/-- The text of `n` one-letter arguments, a space before each. -/
def spacedArgs (n : Nat) : Bytes := (List.replicate n [32, 97]).flatten

lemma writesLine_spacedArgs (n : Nat) : WritesLine (List.replicate n [97]) (spacedArgs n) := by
  induction n with
  | zero => exact .nil 0
  | succ n ih =>
    refine .cons 1 (.bare (by decide) (by simp)) ih ?_
    cases n with
    | zero => rfl
    | succ n => rfl

/-- The inline path has no limit on the number of arguments. -/
lemma parse_spacedArgs (n : Nat) :
    parse (spacedArgs n ++ [10]) = (.ok (some (bulkArray (List.replicate n [97]))), []) := by
  obtain ⟨tokens, hinline, hframe⟩ := describeInlineCommand_written (writesLine_spacedArgs n) []
  have hdescribe : describeFrameAt (spacedArgs n ++ [10]) 0 0 =
      .ok (some (.inlineCommand tokens, (spacedArgs n).length + 1)) := by
    rw [describeFrameAt_eq, ← hinline]
    cases n with
    | zero => rfl
    | succ n => rfl
  rw [parse, hdescribe]
  simp only [hframe]
  rw [List.drop_eq_nil_of_le (by simp)]

/-- One argument more than an array may have, on one line: the parser accepts the line and refuses
its encoding. -/
theorem inline_request_not_reparsed :
    ∃ argv, parse (spacedArgs (maxArrayElements + 1) ++ [10]) =
        (.ok (some (bulkArray argv)), []) ∧
      ∃ e, parse (encode (bulkArray argv)) = (.error e, encode (bulkArray argv)) := by
  refine ⟨_, parse_spacedArgs (maxArrayElements + 1), parse_encode_bulkArray_ne fun hwire => ?_⟩
  have hle := ((wire_bulkArray_iff _).mp hwire).1
  rw [List.length_replicate] at hle
  omega

end spaced

end Ratatosk.Resp
