import Ratatosk.Keyspace.Shard
import Ratatosk.Resp.RoundTrip

/-!
# Replies on the wire

What a client reads of a reply, and how long the encoder said it would be: the projection to
RESP2 of `encode_for_version_into` and `extend_line`, and the length precomputation
`encoded_len`, `encoded_len_for_version` of `ratatosk-resp/src/encode.rs`.

* `Reply` — the reply frames without outbound-only wrappers and within the parser's sizes. Line
  payloads are arbitrary bytes.
* `resp2` — the RESP2 projection as a frame: maps flattened and pushes turned into arrays, nulls
  into null bulk strings, line breaks in line payloads into spaces.
* `parse_encodeForVersion_resp2` — **no reply smuggling**: the RESP2 encoding of a reply parses to
  its projection and nothing is left over, whatever bytes its lines hold.
* `encodedLen_eq` — **length prediction**: the predicted length is the length of what the encoder
  writes, as far as a `usize` can count it.
-/

namespace Ratatosk.Resp

open Lib List
open Keyspace (satAdd usizeLimit)

lemma encodeItems_eq_flatMap (items : List RespFrame) :
    encodeItems items = items.flatMap encode := by
  induction items with
  | nil => rfl
  | cons item items ih => rw [encodeItems_cons, ih, flatMap_cons]

lemma encodeItemsForVersion_eq_flatMap (version : RespVersion) (items : List RespFrame) :
    encodeItemsForVersion version items = items.flatMap (encodeForVersion version) := by
  induction items with
  | nil => rfl
  | cons item items ih => rw [encodeItemsForVersion, ih, flatMap_cons]

lemma encodeEntriesForVersion_eq_flatMap (version : RespVersion)
    (entries : List (RespFrame × RespFrame)) :
    encodeEntriesForVersion version entries =
      (unpaired entries).flatMap (encodeForVersion version) := by
  induction entries with
  | nil => rfl
  | cons entry entries ih =>
    rw [encodeEntriesForVersion, ih, unpaired, flatMap_cons, flatMap_cons,
      append_assoc]

/-! ## The projection to RESP2 -/

/-- A reply within the parser's sizes, its outbound-only containers already written out. A map
of a RESP2 reply is an array of its keys and values, and counts as one. -/
inductive Reply : RespFrame → Prop
  | simpleString (value : Bytes) : Reply (.simpleString value)
  | error (value : Bytes) : Reply (.error value)
  | integer (value : Int64) : Reply (.integer value)
  | nullBulk : Reply (.bulkString none)
  | bulkString (value : Bytes) (h : value.length ≤ maxBulkLength) :
      Reply (.bulkString (some value))
  | nullArray : Reply .nullArray
  | null : Reply .null
  | array (items : List RespFrame) (h : items.length ≤ maxArrayElements)
      (inside : ∀ f ∈ items, Reply f) : Reply (.array items)
  | push (items : List RespFrame) (h : items.length ≤ maxArrayElements)
      (inside : ∀ f ∈ items, Reply f) : Reply (.push items)
  | map (entries : List (RespFrame × RespFrame)) (h : entries.length * 2 ≤ maxArrayElements)
      (inside : ∀ f ∈ unpaired entries, Reply f) : Reply (.map entries)

mutual

/-- The frame a RESP2 client sees in place of a reply. -/
def resp2 : RespFrame → RespFrame
  | .simpleString value => .simpleString (extendLine value)
  | .error value => .error (extendLine value)
  | .null => .bulkString none
  | .array items => .array (resp2Items items)
  | .push items => .array (resp2Items items)
  | .map entries => .array (resp2Entries entries)
  | frame => frame

/-- The items of an aggregate, projected. -/
def resp2Items : List RespFrame → List RespFrame
  | [] => []
  | item :: items => resp2 item :: resp2Items items

/-- The keys and values of a map, projected and flattened. -/
def resp2Entries : List (RespFrame × RespFrame) → List RespFrame
  | [] => []
  | (key, value) :: entries => resp2 key :: resp2 value :: resp2Entries entries

end

section projection

lemma resp2Items_eq (items : List RespFrame) : resp2Items items = items.map resp2 := by
  induction items with
  | nil => rfl
  | cons item items ih => rw [resp2Items, ih, map_cons]

lemma resp2Entries_eq (entries : List (RespFrame × RespFrame)) :
    resp2Entries entries = (unpaired entries).map resp2 := by
  induction entries with
  | nil => rfl
  | cons entry entries ih => rw [resp2Entries, ih, unpaired, map_cons, map_cons]

/-- No line break survives in a line payload. -/
lemma any_isLineBreak_extendLine (value : Bytes) :
    (extendLine value).any isLineBreak = false := by
  unfold extendLine
  split_ifs with h
  · rw [any_map, any_eq_false]
    intro b _
    dsimp only [Function.comp_apply]
    split_ifs with hb
    · decide
    · exact hb
  · exact Bool.eq_false_iff.mpr h

lemma extendLine_extendLine (value : Bytes) : extendLine (extendLine value) = extendLine value :=
  extendLine_of_plain (any_isLineBreak_extendLine value)

/-- An array of projected frames is parseable, and its encoding is that of the frames written
for RESP2 behind one header. -/
lemma wire_array_resp2 {items : List RespFrame} (h : items.length ≤ maxArrayElements)
    (inside : ∀ f ∈ items, Wire (resp2 f) ∧ encodeForVersion .resp2 f = encode (resp2 f)) :
    Wire (.array (items.map resp2)) ∧
      aggregateHeader 42 items.length ++ items.flatMap (encodeForVersion .resp2) =
        encode (.array (items.map resp2)) := by
  refine ⟨⟨?_, ?_⟩, ?_⟩
  · rwa [length_map]
  · rw [wireItems_iff, forall_mem_map]
    exact fun f hf => (inside f hf).1
  · rw [encode_array, length_map, encodeItems_eq_flatMap, flatMap_map]
    rw [flatMap_congr fun f hf => (inside f hf).2]

/-- The projection of a reply is parseable, and encoding for RESP2 is encoding the projection. -/
lemma Reply.wire_resp2 {f : RespFrame} (h : Reply f) :
    Wire (resp2 f) ∧ encodeForVersion .resp2 f = encode (resp2 f) := by
  induction h with
  | simpleString value =>
    refine ⟨any_isLineBreak_extendLine value, ?_⟩
    rw [resp2, encode_simpleString, extendLine_extendLine, ← encode_simpleString]
    rfl
  | error value =>
    refine ⟨any_isLineBreak_extendLine value, ?_⟩
    rw [resp2, encode_error, extendLine_extendLine]
    rfl
  | integer value => exact ⟨trivial, rfl⟩
  | nullBulk => exact ⟨trivial, rfl⟩
  | bulkString value h => exact ⟨h, rfl⟩
  | nullArray => exact ⟨trivial, rfl⟩
  | null => exact ⟨trivial, rfl⟩
  | array items h _ ih =>
    rw [resp2, resp2Items_eq, encodeForVersion, encodeItemsForVersion_eq_flatMap]
    exact wire_array_resp2 h ih
  | push items h _ ih =>
    rw [resp2, resp2Items_eq, encodeForVersion, encodeItemsForVersion_eq_flatMap]
    exact wire_array_resp2 h ih
  | map entries h _ ih =>
    have hlen : (unpaired entries).length = entries.length * 2 := by
      rw [length_unpaired, Nat.mul_comm]
    have hmap := wire_array_resp2 (hlen.trans_le h) ih
    rw [hlen] at hmap
    rw [resp2, resp2Entries_eq, encodeForVersion, encodeEntriesForVersion_eq_flatMap]
    exact hmap

/-- **No reply smuggling.** Whatever bytes stand in its simple strings and errors, the RESP2
encoding of a reply parses to one frame, its projection, and leaves nothing over. The levels are
those the parser counts in what it reads. -/
theorem parse_encodeForVersion_resp2 (f : RespFrame) (hreply : Reply f)
    (hlevels : levels (resp2 f) ≤ maxNestingDepth) :
    parse (encodeForVersion .resp2 f) = (.ok (some (resp2 f)), []) := by
  obtain ⟨hwire, hencode⟩ := hreply.wire_resp2
  rw [hencode, ← append_nil (encode (resp2 f))]
  exact parse_encode_append hwire hlevels []

/-- An error that quotes a forged reply, inside a pushed map. -/
theorem parse_forged_error :
    parse (encodeForVersion .resp2
        (.push [.map [(.null, .error (ascii "ERR unknown 'a\r\n+OK\r\n'"))]])) =
      (.ok (some (.array [.array [.bulkString none, .error (ascii "ERR unknown 'a  +OK  '")]])),
        []) := by
  refine parse_encodeForVersion_resp2 _ (.push _ (by decide) ?_) (by decide)
  intro f hf
  rw [mem_singleton.mp hf]
  refine .map _ (by decide) ?_
  intro g hg
  rcases mem_pair.mp hg with rfl | rfl
  · exact .null
  · exact .error _

end projection

/-! ## The predicted length -/

/-- Source: `decimal_len_u64` -/
def decimalLenU64 (value : Nat) : Nat :=
  if 10 ≤ value then satAdd (decimalLenU64 (value / 10)) 1 else 1

/-- Source: `decimal_len_i64` -/
def decimalLenI64 (value : Int64) : Nat :=
  if value < 0 then satAdd 1 (decimalLenU64 value.toInt.natAbs)
  else decimalLenU64 value.toInt.natAbs

/-- What `aggregate_len` and `map_len` start from: the header's length. -/
def headerLen (count : Nat) : Nat := satAdd (satAdd 1 (decimalLenU64 count)) 2

/-- The leaves of `encode.rs` `encoded_len_inner`, shared encodings first. -/
def scalarLen (frame : RespFrame) : Nat :=
  match sharedEncoding frame, frame with
  | some shared, _ => shared.length
  | none, .simpleString value => satAdd (satAdd 1 value.length) 2
  | none, .error value => satAdd (satAdd 1 value.length) 2
  | none, .integer value => satAdd (satAdd 1 (decimalLenI64 value)) 2
  | none, .bulkString (some value) =>
    satAdd (satAdd (headerLen value.length) value.length) 2
  | none, .null => (ascii "_\r\n").length
  | none, .nullArray => (ascii "*-1\r\n").length
  | none, _ => 0

mutual

/-- The predicted length of a frame, as represented or projected to a version.
Source: `encoded_len_inner` (no version), `encoded_len_for_version_inner` -/
def encodedLenInner (version : Option RespVersion) : RespFrame → Nat
  | .versioned v frame => encodedLenInner (some (.fromProtocolVersion v)) frame
  | .simpleString value => scalarLen (.simpleString value)
  | .error value => scalarLen (.error value)
  | .integer value => scalarLen (.integer value)
  | .bulkString (some value) => scalarLen (.bulkString (some value))
  | .bulkString none =>
    match version with
    | some .resp2 | none => (ascii "$-1\r\n").length
    | some .resp3 => (ascii "_\r\n").length
  | .null =>
    match version with
    | some .resp2 => (ascii "$-1\r\n").length
    | some .resp3 | none => (ascii "_\r\n").length
  | .nullArray =>
    match version with
    | some .resp2 | none => (ascii "*-1\r\n").length
    | some .resp3 => (ascii "_\r\n").length
  | .array items => sumLen version (headerLen items.length) items
  | .push items => sumLen version (headerLen items.length) items
  | .map entries =>
    match version with
    | some .resp3 | none => sumEntriesLen version (headerLen entries.length) entries
    | some .resp2 => sumEntriesLen version (headerLen (entries.length * 2)) entries
  | .sequence frames => sumLen version 0 frames

/-- The loop over the items of an aggregate, or the fold over a sequence. -/
def sumLen (version : Option RespVersion) (total : Nat) : List RespFrame → Nat
  | [] => total
  | item :: items => sumLen version (satAdd total (encodedLenInner version item)) items

/-- The loop over the entries of a map. -/
def sumEntriesLen (version : Option RespVersion) (total : Nat) :
    List (RespFrame × RespFrame) → Nat
  | [] => total
  | (key, value) :: entries =>
    sumEntriesLen version (satAdd (satAdd total (encodedLenInner version key))
      (encodedLenInner version value)) entries

end

/-- Source: `encoded_len` -/
def encodedLen (frame : RespFrame) : Nat := encodedLenInner none frame

/-- Source: `encoded_len_for_version` -/
def encodedLenForVersion (frame : RespFrame) (version : RespVersion) : Nat :=
  encodedLenInner (some version) frame

/-- The encoder a predicted length is about. -/
def encodeAt : Option RespVersion → RespFrame → Bytes
  | none => encode
  | some version => encodeForVersion version

section lengths

/-- A length as a `usize` counts it: saturated. -/
def clamp (n : Nat) : Nat := min n (usizeLimit - 1)

lemma satAdd_eq_clamp (a b : Nat) : satAdd a b = clamp (a + b) := rfl

@[simp] lemma clamp_clamp_add (a b : Nat) : clamp (clamp a + b) = clamp (a + b) := by
  simp only [clamp]
  omega

@[simp] lemma clamp_add_clamp (a b : Nat) : clamp (a + clamp b) = clamp (a + b) := by
  simp only [clamp]
  omega

lemma length_extendLine (value : Bytes) : (extendLine value).length = value.length := by
  unfold extendLine
  split_ifs
  · rw [length_map]
  · rfl

lemma length_decimal_of_le {n : Nat} (h : 10 ≤ n) :
    (decimal n).length = (decimal (n / 10)).length + 1 := by
  have hdiv : n / 10 ≠ 0 := by omega
  simp only [decimal, show n ≠ 0 by omega, hdiv, if_false, length_map, length_reverse]
  rw [Nat.digits_def' (by decide) (by omega), length_cons]

lemma decimalLenU64_eq (n : Nat) : decimalLenU64 n = clamp (decimal n).length := by
  induction n using Nat.strongRec with
  | ind n ih =>
    rw [decimalLenU64]
    split_ifs with h
    · rw [ih (n / 10) (by omega), satAdd_eq_clamp, clamp_clamp_add, length_decimal_of_le h]
    · interval_cases n <;> decide +kernel

lemma decimalLenI64_eq (value : Int64) :
    decimalLenI64 value = clamp (decimalInt value.toInt).length := by
  have hneg : value < 0 ↔ value.toInt < 0 := Int64.lt_iff_toInt_lt
  unfold decimalLenI64 decimalInt
  split_ifs with h h' h'
  · rw [decimalLenU64_eq, satAdd_eq_clamp, clamp_add_clamp, length_cons, Nat.add_comm]
  · exact absurd (hneg.mp h) h'
  · exact absurd (hneg.mpr h') h
  · rw [decimalLenU64_eq]

lemma headerLen_eq (marker : UInt8) (count : Nat) :
    headerLen count = clamp (aggregateHeader marker count).length := by
  simp [headerLen, decimalLenU64_eq, satAdd_eq_clamp, aggregateHeader, Nat.add_comm 1, crlf]

lemma clamp_sharedEncoding {f : RespFrame} {shared : Bytes} (h : sharedEncoding f = some shared) :
    clamp shared.length = shared.length := by
  unfold sharedEncoding at h
  split at h
  · split_ifs at h <;> (cases h; rfl)
  · cases h
    rfl
  · split_ifs at h <;> (cases h; rfl)
  · cases h

lemma scalarLen_eq (f : RespFrame) : scalarLen f = clamp (encodeScalar f).length := by
  unfold scalarLen encodeScalar
  cases hshared : sharedEncoding f with
  | some shared => exact (clamp_sharedEncoding hshared).symm
  | none =>
    cases f with
    | simpleString value | error value =>
      simp [encodeLeaf, satAdd_eq_clamp, length_extendLine, crlf, Nat.add_comm 1]
    | integer value =>
      simp [encodeLeaf, satAdd_eq_clamp, decimalLenI64_eq, crlf, Nat.add_comm 1]
    | bulkString value =>
      cases value with
      | none => cases hshared
      | some value =>
        simp [encodeLeaf, satAdd_eq_clamp, headerLen_eq 36, aggregateHeader, crlf, Nat.add_assoc,
          Nat.add_left_comm 3]
    | _ => rfl

lemma sumEntriesLen_eq (version : Option RespVersion) (total : Nat)
    (entries : List (RespFrame × RespFrame)) :
    sumEntriesLen version total entries = sumLen version total (unpaired entries) := by
  induction entries generalizing total with
  | nil => rfl
  | cons entry entries ih => rw [sumEntriesLen, ih, unpaired, sumLen, sumLen]

/-- The loop adds up the lengths of the items, saturating. -/
lemma sumLen_eq {version : Option RespVersion} {items : List RespFrame}
    (h : ∀ f ∈ items, encodedLenInner version f = clamp (encodeAt version f).length)
    (total : Nat) :
    sumLen version (clamp total) items =
      clamp (total + (items.flatMap (encodeAt version)).length) := by
  induction items generalizing total with
  | nil => rfl
  | cons item items ih =>
    obtain ⟨hitem, hitems⟩ := forall_mem_cons.mp h
    rw [sumLen, hitem, satAdd_eq_clamp, clamp_clamp_add, clamp_add_clamp, ih hitems,
      flatMap_cons, length_append, Nat.add_assoc]

lemma sumLen_headerLen {version : Option RespVersion} {items : List RespFrame}
    (h : ∀ f ∈ items, encodedLenInner version f = clamp (encodeAt version f).length)
    (marker : UInt8) (count : Nat) :
    sumLen version (headerLen count) items =
      clamp (aggregateHeader marker count ++ items.flatMap (encodeAt version)).length := by
  rw [headerLen_eq marker, sumLen_eq h, length_append]

lemma encodedLenInner_eq (f : RespFrame) (version : Option RespVersion) :
    encodedLenInner version f = clamp (encodeAt version f).length := by
  induction f using RespFrame.induction generalizing version with
  | simpleString value | error value | integer value =>
    rw [encodedLenInner, scalarLen_eq]
    cases version <;> rfl
  | bulkString value =>
    cases value with
    | none => rcases version with _ | _ | _ <;> rfl
    | some value =>
      rw [encodedLenInner, scalarLen_eq]
      cases version <;> rfl
  | nullArray | null => rcases version with _ | _ | _ <;> rfl
  | array items ih =>
    rw [encodedLenInner, sumLen_headerLen (fun f hf => ih f hf version) 42]
    cases version with
    | none => rw [encodeAt, encode_array, encodeItems_eq_flatMap]
    | some version => rw [encodeAt, encodeForVersion, encodeItemsForVersion_eq_flatMap]
  | push items ih =>
    have hsum := sumLen_headerLen fun f hf => ih f hf version
    rcases version with _ | _ | _
    · rw [encodedLenInner, hsum 62, encodeAt, encode, encodeItems_eq_flatMap]
    · rw [encodedLenInner, hsum 42, encodeAt, encodeForVersion, encodeItemsForVersion_eq_flatMap]
    · rw [encodedLenInner, hsum 62, encodeAt, encodeForVersion, encodeItemsForVersion_eq_flatMap]
  | map entries ih =>
    have hsum := sumLen_headerLen fun f hf => ih f hf version
    rcases version with _ | _ | _
    · rw [encodedLenInner, sumEntriesLen_eq, hsum 37, encodeAt, encode_map, encodeEntries_eq,
        encodeItems_eq_flatMap]
    · rw [encodedLenInner, sumEntriesLen_eq, hsum 42, encodeAt, encodeForVersion,
        encodeEntriesForVersion_eq_flatMap]
    · rw [encodedLenInner, sumEntriesLen_eq, hsum 37, encodeAt, encodeForVersion,
        encodeEntriesForVersion_eq_flatMap]
  | sequence frames ih =>
    have hsum := sumLen_eq (fun f hf => ih f hf version) 0
    rw [Nat.zero_add] at hsum
    cases version with
    | none => rw [encodedLenInner, encodeAt, encode, encodeItems_eq_flatMap]; exact hsum
    | some version =>
      rw [encodedLenInner, encodeAt, encodeForVersion, encodeItemsForVersion_eq_flatMap]; exact hsum
  | versioned v f ih =>
    rw [encodedLenInner, ih]
    cases version <;> rfl

/-- **Length prediction.** What `encoded_len` and `encoded_len_for_version` predict is the number of
bytes the encoder writes, saturated at the largest `usize`. -/
theorem encodedLen_eq (frame : RespFrame) (version : RespVersion) :
    encodedLen frame = min (encode frame).length (usizeLimit - 1) ∧
      encodedLenForVersion frame version =
        min (encodeForVersion version frame).length (usizeLimit - 1) :=
  ⟨encodedLenInner_eq frame none, encodedLenInner_eq frame (some version)⟩

end lengths

end Ratatosk.Resp
