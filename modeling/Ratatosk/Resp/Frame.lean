import Ratatosk.Lib.Numeral

/-!
# RESP frames and their encoding

The frame type of `ratatosk-resp/src/frame.rs` and the encoder of
`ratatosk-resp/src/encode.rs`.

* `RespFrame` — a logical reply or request; `Sequence` and `Versioned` are containers that only
  outbound replies use.
* `encode` — the bytes `encode_into` appends, and `encodeForVersion` the bytes
  `encode_for_version_into` appends after projecting the frame to a RESP version. The eight
  preallocated encodings of `shared_encoding` are kept, in the source's order of tests.
* `encode_simpleString`, `encode_integer`, `encode_bulkString` … — one equation per constructor,
  in which the preallocated encodings have disappeared: a shared encoding is what the general
  arm would have written.

`RespFrame.induction` is the induction over a frame and the frames inside it. The length
precomputation is in `Resp.Replies`, the segmented writer in `Resp.Segments`.
-/

namespace Ratatosk.Resp

open Lib

/-! ## Frames -/

/-- A RESP frame.
Source: `frame.rs` `RespFrame` -/
inductive RespFrame where
  | simpleString (value : Bytes)
  | error (value : Bytes)
  | integer (value : Int64)
  | bulkString (value : Option Bytes)
  | array (items : List RespFrame)
  | push (items : List RespFrame)
  | map (entries : List (RespFrame × RespFrame))
  /-- A RESP2 null array; RESP3 projects it to the untyped null. -/
  | nullArray
  | null
  /-- Reply frames emitted in place without an aggregate header. -/
  | sequence (frames : List RespFrame)
  /-- A reply whose wire version was fixed before a later command changed the protocol. -/
  | versioned (version : Int64) (frame : RespFrame)
  deriving Repr, BEq

section inside

variable {α : Type}

/-- The keys and values of a map, in the order in which they are sent. -/
def unpaired : List (α × α) → List α
  | [] => []
  | entry :: entries => entry.1 :: entry.2 :: unpaired entries

lemma length_unpaired (entries : List (α × α)) :
    (unpaired entries).length = 2 * entries.length := by
  induction entries with
  | nil => rfl
  | cons entry entries ih =>
    rw [unpaired, List.length_cons, List.length_cons, ih, List.length_cons]
    omega

end inside

section induction

variable {motive : RespFrame → Prop}
  (simpleString : ∀ value, motive (.simpleString value))
  (error : ∀ value, motive (.error value))
  (integer : ∀ value, motive (.integer value))
  (bulkString : ∀ value, motive (.bulkString value))
  (array : ∀ items, (∀ f ∈ items, motive f) → motive (.array items))
  (push : ∀ items, (∀ f ∈ items, motive f) → motive (.push items))
  (map : ∀ entries, (∀ f ∈ unpaired entries, motive f) → motive (.map entries))
  (nullArray : motive .nullArray) (null : motive .null)
  (sequence : ∀ frames, (∀ f ∈ frames, motive f) → motive (.sequence frames))
  (versioned : ∀ version f, motive f → motive (.versioned version f))
include simpleString error integer bulkString array push map nullArray null sequence versioned

mutual

/-- **Induction over a frame** and the frames inside it, those of a map in wire order. -/
theorem RespFrame.induction : ∀ f, motive f
  | .simpleString value => simpleString value
  | .error value => error value
  | .integer value => integer value
  | .bulkString value => bulkString value
  | .array items => array items (RespFrame.induction_items items)
  | .push items => push items (RespFrame.induction_items items)
  | .map entries => map entries (RespFrame.induction_entries entries)
  | .nullArray => nullArray
  | .null => null
  | .sequence frames => sequence frames (RespFrame.induction_items frames)
  | .versioned version f => versioned version f (RespFrame.induction f)

theorem RespFrame.induction_items : ∀ (items : List RespFrame), ∀ f ∈ items, motive f
  | [] => List.forall_mem_nil _
  | item :: items => List.forall_mem_cons.mpr
      ⟨RespFrame.induction item, RespFrame.induction_items items⟩

theorem RespFrame.induction_entries : ∀ (entries : List (RespFrame × RespFrame)),
    ∀ f ∈ unpaired entries, motive f
  | [] => List.forall_mem_nil _
  | (key, value) :: entries => List.forall_mem_cons.mpr ⟨RespFrame.induction key,
      List.forall_mem_cons.mpr ⟨RespFrame.induction value, RespFrame.induction_entries entries⟩⟩

end

end induction

namespace RespFrame

/-- Source: `frame.rs` `RespFrame::simple_str` -/
def simpleStr (value : String) : RespFrame := .simpleString (ascii value)

/-- Source: `frame.rs` `RespFrame::error_str` -/
def errorStr (value : String) : RespFrame := .error (ascii value)

/-- Source: `frame.rs` `RespFrame::bulk_str` -/
def bulkStr (value : String) : RespFrame := .bulkString (some (ascii value))

/-- Source: `frame.rs` `RespFrame::ok` -/
def ok : RespFrame := .simpleStr "OK"

/-- Source: `frame.rs` `RespFrame::queued` -/
def queued : RespFrame := .simpleStr "QUEUED"

end RespFrame

/-- The wire version a reply is projected to.
Source: `encode.rs` `RespVersion` -/
inductive RespVersion where
  | resp2
  | resp3
  deriving Repr, DecidableEq

/-- Source: `encode.rs` `RespVersion::from_protocol_version` -/
def RespVersion.fromProtocolVersion (protocolVersion : Int64) : RespVersion :=
  if 3 ≤ protocolVersion then .resp3 else .resp2

/-! ## Encoding -/

/-- The line terminator. -/
def crlf : Bytes := [13, 10]

/-- A byte that would end a line early. -/
def isLineBreak (b : UInt8) : Bool := b == 13 || b == 10

/-- The payload of a line-framed type, with each CR and LF replaced by a space.
Source: `encode.rs` `extend_line`, `extend_line_replacing_breaks` -/
def extendLine (value : Bytes) : Bytes :=
  if value.any isLineBreak then value.map fun b => if isLineBreak b then 32 else b else value

/-- The marker, count and terminator of an aggregate.
Source: `encode.rs` `write_aggregate_header` -/
def aggregateHeader (marker : UInt8) (len : Nat) : Bytes := marker :: decimal len ++ crlf

/-- The preallocated encodings.
Source: `encode.rs` `shared_encoding` -/
def sharedEncoding : RespFrame → Option Bytes
  | .simpleString value =>
    if value = ascii "OK" then some (ascii "+OK\r\n")
    else if value = ascii "PONG" then some (ascii "+PONG\r\n")
    else if value = ascii "QUEUED" then some (ascii "+QUEUED\r\n")
    else none
  | .bulkString none => some (ascii "$-1\r\n")
  | .integer value =>
    if value = 0 then some (ascii ":0\r\n")
    else if value = 1 then some (ascii ":1\r\n")
    else if value = -1 then some (ascii ":-1\r\n")
    else if value = -2 then some (ascii ":-2\r\n")
    else none
  | _ => none

/-- The frames without frames inside, the shared encodings apart.
Source: the arms of `encode.rs` `encode_into` that do not recurse -/
def encodeLeaf : RespFrame → Bytes
  | .simpleString value => 43 :: extendLine value ++ crlf
  | .error value => 45 :: extendLine value ++ crlf
  | .integer value => 58 :: decimalInt value.toInt ++ crlf
  | .bulkString none => ascii "$-1\r\n"
  | .bulkString (some value) => 36 :: decimal value.length ++ crlf ++ value ++ crlf
  | .nullArray => ascii "*-1\r\n"
  | .null => ascii "_\r\n"
  | _ => []

/-- A leaf as `encode_into` writes it: shared encoding first. -/
def encodeScalar (frame : RespFrame) : Bytes :=
  (sharedEncoding frame).getD (encodeLeaf frame)

mutual

/-- The bytes of a frame projected to a RESP version.
Source: `encode.rs` `encode_for_version_into` -/
def encodeForVersion (version : RespVersion) : RespFrame → Bytes
  | .versioned v frame => encodeForVersion (.fromProtocolVersion v) frame
  | .simpleString value => encodeScalar (.simpleString value)
  | .error value => encodeScalar (.error value)
  | .integer value => encodeScalar (.integer value)
  | .bulkString (some value) => encodeScalar (.bulkString (some value))
  | .bulkString none =>
    match version with
    | .resp2 => ascii "$-1\r\n"
    | .resp3 => ascii "_\r\n"
  | .null =>
    match version with
    | .resp2 => ascii "$-1\r\n"
    | .resp3 => ascii "_\r\n"
  | .nullArray =>
    match version with
    | .resp2 => ascii "*-1\r\n"
    | .resp3 => ascii "_\r\n"
  | .array items => aggregateHeader 42 items.length ++ encodeItemsForVersion version items
  | .push items =>
    aggregateHeader (match version with | .resp2 => 42 | .resp3 => 62) items.length ++
      encodeItemsForVersion version items
  | .map entries =>
    match version with
    | .resp3 => aggregateHeader 37 entries.length ++ encodeEntriesForVersion version entries
    | .resp2 =>
      aggregateHeader 42 (entries.length * 2) ++ encodeEntriesForVersion version entries
  | .sequence frames => encodeItemsForVersion version frames

/-- The items of an aggregate, one after the other. -/
def encodeItemsForVersion (version : RespVersion) : List RespFrame → Bytes
  | [] => []
  | item :: items => encodeForVersion version item ++ encodeItemsForVersion version items

/-- The entries of a map, each key before its value. -/
def encodeEntriesForVersion (version : RespVersion) : List (RespFrame × RespFrame) → Bytes
  | [] => []
  | (key, value) :: entries =>
    encodeForVersion version key ++ encodeForVersion version value ++
      encodeEntriesForVersion version entries

end

mutual

/-- The bytes of a frame, exactly as represented.
Source: `encode.rs` `encode_into` -/
def encode : RespFrame → Bytes
  | .versioned version frame => encodeForVersion (.fromProtocolVersion version) frame
  | .array items => aggregateHeader 42 items.length ++ encodeItems items
  | .push items => aggregateHeader 62 items.length ++ encodeItems items
  | .map entries => aggregateHeader 37 entries.length ++ encodeEntries entries
  | .sequence frames => encodeItems frames
  | .simpleString value => encodeScalar (.simpleString value)
  | .error value => encodeScalar (.error value)
  | .integer value => encodeScalar (.integer value)
  | .bulkString value => encodeScalar (.bulkString value)
  | .nullArray => encodeScalar .nullArray
  | .null => encodeScalar .null

/-- The items of an aggregate, one after the other. -/
def encodeItems : List RespFrame → Bytes
  | [] => []
  | item :: items => encode item ++ encodeItems items

/-- The entries of a map, each key before its value. -/
def encodeEntries : List (RespFrame × RespFrame) → Bytes
  | [] => []
  | (key, value) :: entries => encode key ++ encode value ++ encodeEntries entries

end

/-! ## One equation per constructor -/

section equations

lemma extendLine_of_plain {value : Bytes} (h : value.any isLineBreak = false) :
    extendLine value = value := by
  simp [extendLine, h]

lemma encode_simpleString (value : Bytes) :
    encode (.simpleString value) = 43 :: extendLine value ++ crlf := by
  simp only [encode, encodeScalar, sharedEncoding]
  split_ifs with hok hpong hqueued
  · subst hok; rfl
  · subst hpong; rfl
  · subst hqueued; rfl
  · rfl

@[simp] lemma encode_error (value : Bytes) :
    encode (.error value) = 45 :: extendLine value ++ crlf := rfl

lemma encode_integer (value : Int64) :
    encode (.integer value) = 58 :: decimalInt value.toInt ++ crlf := by
  simp only [encode, encodeScalar, sharedEncoding]
  split_ifs with h0 h1 hneg1 hneg2
  · subst h0; rfl
  · subst h1; rfl
  · subst hneg1; rfl
  · subst hneg2; rfl
  · rfl

@[simp] lemma encode_bulkString (value : Bytes) :
    encode (.bulkString (some value)) =
      36 :: decimal value.length ++ crlf ++ value ++ crlf := rfl

@[simp] lemma encode_null : encode .null = 95 :: crlf := rfl

@[simp] lemma encode_array (items : List RespFrame) :
    encode (.array items) = aggregateHeader 42 items.length ++ encodeItems items := rfl

@[simp] lemma encode_map (entries : List (RespFrame × RespFrame)) :
    encode (.map entries) = aggregateHeader 37 entries.length ++ encodeEntries entries := rfl

@[simp] lemma encodeItems_nil : encodeItems [] = [] := rfl

@[simp] lemma encodeItems_cons (item : RespFrame) (items : List RespFrame) :
    encodeItems (item :: items) = encode item ++ encodeItems items := rfl

end equations

end Ratatosk.Resp
