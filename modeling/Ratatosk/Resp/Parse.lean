import Ratatosk.Resp.Frame

/-!
# The two-phase RESP parser

`ratatosk-resp/src/parse.rs`. The first phase (`describeFrameAt`) validates and measures a frame
at an offset of the buffer and yields a descriptor made of offsets; the second (`materialize`)
cuts the payloads out of the consumed bytes. `parse` runs the first, splits the consumed bytes
off the buffer and runs the second on them.

* A result is `Except RespParseError (Option _)`: an error, `none` when the buffer does not yet
  hold a whole frame, or a frame. The buffer is only consumed in the last case.
* Recursion into aggregates is bounded by `maxNestingDepth`. `describeStep` is the body of
  `describe_frame_at` with the recursive call abstracted; `describeLevel` ties the knot on the
  number of levels left, and `describeFrameAt_eq` is the source's recursion equation, at every
  depth.

The text an error carries is a byte string: it is what the source formats into a `String`.
-/

namespace Ratatosk.Resp

open Lib

/-! ## Limits, errors and descriptors -/

/-- Source: `MAX_ARRAY_ELEMENTS` -/
def maxArrayElements : Nat := 1024 * 1024

/-- Source: `MAX_MAP_ENTRIES` -/
def maxMapEntries : Nat := 512 * 1024

/-- Source: `MAX_BULK_LENGTH` -/
def maxBulkLength : Nat := 512 * 1024 * 1024

/-- Source: `MAX_INLINE_LENGTH` -/
def maxInlineLength : Nat := 64 * 1024

/-- Source: `MAX_NESTING_DEPTH` -/
def maxNestingDepth : Nat := 128

/-- Source: `RespParseError` -/
inductive RespParseError where
  | invalidInteger (text : Bytes)
  | invalidBulkLength (text : Bytes)
  | invalidArrayLength (text : Bytes)
  | invalidMapLength (text : Bytes)
  | invalidFrameType (byte : UInt8)
  | nestingTooDeep
  | invalidLine
  | unbalancedQuotes
  | inlineTooLong
  | missingCrlf
  deriving Repr, DecidableEq

/-- An argument of an inline command.
Source: `InlineToken` -/
inductive InlineToken where
  /-- Unquoted argument, referenced in place. -/
  | slice (offset len : Nat)
  /-- Argument rewritten by quoting or escapes. -/
  | owned (bytes : Bytes)
  deriving Repr, DecidableEq

/-- The shape of a parsed frame, payloads by offset.
Source: `FrameDesc` -/
inductive FrameDesc where
  | simpleString (dataOffset dataLen : Nat)
  | error (dataOffset dataLen : Nat)
  | integer (value : Int64)
  | bulkString (dataOffset dataLen : Nat)
  | nullBulk
  | array (descs : List FrameDesc)
  | map (entries : List (FrameDesc × FrameDesc))
  | nullArray
  | null
  | inlineCommand (tokens : List InlineToken)
  deriving Repr

/-- What describing a frame at an offset yields: the descriptor and the bytes consumed. -/
abbrev Described := Except RespParseError (Option (FrameDesc × Nat))

/-! ## Lines and the numbers in them -/

/-- `data[offset .. offset + len]`. -/
def slice (data : Bytes) (offset len : Nat) : Bytes := (data.drop offset).take len

/-- Position of the first occurrence of a byte.
Source: crate `memchr` -/
def memchr (needle : UInt8) (haystack : Bytes) : Option Nat :=
  haystack.findIdx? fun b => b == needle

/-- The search loop of `find_crlf`; `fuel` bounds the number of carriage returns passed. -/
def findCrlfLoop (data : Bytes) : (fuel searchIdx : Nat) → Option Nat
  | 0, _ => none
  | fuel + 1, searchIdx =>
    match memchr 13 (data.drop searchIdx) with
    | none => none
    | some rel =>
      let pos := searchIdx + rel
      if data.length ≤ pos + 1 then none
      else if data[pos + 1]? = some 10 then some pos
      else findCrlfLoop data fuel (pos + 1)

/-- The position of the first CRLF at or after `idx`.
Source: `find_crlf` -/
def findCrlf (data : Bytes) (idx : Nat) : Option Nat :=
  if data.length ≤ idx then none else findCrlfLoop data data.length idx

/-- Start, length and consumed bytes (terminator included) of the line at `idx`.
Source: `parse_line_offsets` -/
def parseLineOffsets (data : Bytes) (idx : Nat) : Option (Nat × Nat × Nat) :=
  (findCrlf data idx).map fun lineEnd => (idx, lineEnd - idx, lineEnd - idx + 2)

/-- The number on a line: UTF-8 first, then `parse::<i64>`; `invalid` is the error of the frame
type whose line it is. -/
def lineNumber (invalid : Bytes → RespParseError) (line : Bytes) :
    Except RespParseError Int64 :=
  if validUtf8 line then
    match parseI64 line with
    | some value => .ok value
    | none => .error (invalid line)
  else .error (invalid (ascii "utf8"))

/-- The error text for a length over its limit. -/
def lengthExceeds (what : String) (len limit : Nat) : Bytes :=
  ascii what ++ ascii " length " ++ decimal len ++ ascii " exceeds limit " ++ decimal limit

/-! ## Frames without frames inside -/

/-- A simple string or an error: a line without CR or LF inside; `desc` is the descriptor of
the type.
Source: `describe_simple_string`, `describe_error`, `ensure_plain_line` -/
def describeLine (desc : Nat → Nat → FrameDesc) (data : Bytes) (idx : Nat) : Described := do
  let some (lineStart, lineLen, lineConsumed) := parseLineOffsets data (idx + 1)
    | return none
  if (slice data lineStart lineLen).any isLineBreak then throw .invalidLine
  return some (desc lineStart lineLen, 1 + lineConsumed)

/-- Source: `describe_simple_string` -/
def describeSimpleString : Bytes → Nat → Described := describeLine .simpleString

/-- Source: `describe_error` -/
def describeError : Bytes → Nat → Described := describeLine .error

/-- Source: `describe_integer` -/
def describeInteger (data : Bytes) (idx : Nat) : Described := do
  let some (lineStart, lineLen, lineConsumed) := parseLineOffsets data (idx + 1)
    | return none
  let value ← lineNumber .invalidInteger (slice data lineStart lineLen)
  return some (.integer value, 1 + lineConsumed)

/-- Source: `describe_bulk_string` -/
def describeBulkString (data : Bytes) (idx : Nat) : Described := do
  let some (lineStart, lineLen, lineConsumed) := parseLineOffsets data (idx + 1)
    | return none
  let text := slice data lineStart lineLen
  let len ← lineNumber .invalidBulkLength text
  let headerConsumed := 1 + lineConsumed
  if len = -1 then return some (.nullBulk, headerConsumed)
  if len < -1 then throw (.invalidBulkLength text)
  let len := len.toInt.toNat
  if maxBulkLength < len then
    throw (.invalidBulkLength (lengthExceeds "bulk" len maxBulkLength))
  let bodyStart := idx + headerConsumed
  let bodyEnd := bodyStart + len
  if data.length < bodyEnd + 2 then return none
  if data[bodyEnd]? ≠ some 13 ∨ data[bodyEnd + 1]? ≠ some 10 then throw .missingCrlf
  return some (.bulkString bodyStart len, headerConsumed + len + 2)

/-- Source: `describe_null` -/
def describeNull (data : Bytes) (idx : Nat) : Described := do
  if data.length < idx + 3 then return none
  if data[idx + 1]? ≠ some 13 ∨ data[idx + 2]? ≠ some 10 then throw .missingCrlf
  return some (.null, 3)

/-! ## Inline commands -/

/-- C `isspace`.
Source: `is_c_space` -/
def isCSpace (b : UInt8) : Bool :=
  b == 32 || b == 9 || b == 10 || b == 12 || b == 13 || b == 11

/-- Source: `u8::is_ascii_hexdigit` -/
def isHexDigit (b : UInt8) : Bool :=
  (48 ≤ b && b ≤ 57) || (97 ≤ b && b ≤ 102) || (65 ≤ b && b ≤ 70)

/-- Source: `hex_value` -/
def hexValue (digit : UInt8) : UInt8 :=
  if 48 ≤ digit && digit ≤ 57 then digit - 48
  else if 97 ≤ digit && digit ≤ 102 then digit - 97 + 10
  else digit - 65 + 10

/-- The byte an escape inside double quotes stands for. -/
def unescape (escaped : UInt8) : UInt8 :=
  if escaped = 110 then 10
  else if escaped = 114 then 13
  else if escaped = 116 then 9
  else if escaped = 98 then 8
  else if escaped = 97 then 7
  else escaped

/-- Whether the argument scanner is inside quotes (`in_double`, `in_single`). -/
inductive Quote where
  | plain
  | double
  | single
  deriving Repr, DecidableEq

/-- A closing quote must end the argument. -/
def closesArgument : Bytes → Bool
  | [] => true
  | next :: _ => isCSpace next

/-- The inner loop of `split_inline_args` on `data[pos .. end]`. `seen` is
`data[token_start .. pos]`, needed when a quote forces the argument to be rewritten. Returns the
rewritten argument, if any, and the bytes left.
Source: `split_inline_args` -/
def scanArgument : Quote → (seen : Bytes) → (owned : Option Bytes) → Bytes →
    Except RespParseError (Option Bytes × Bytes)
  | .double, _, _, [] => .error .unbalancedQuotes
  | .double, seen, owned, 92 :: 120 :: high :: low :: rest =>
    if isHexDigit high && isHexDigit low then
      scanArgument .double seen
        (some (owned.getD [] ++ [hexValue high <<< 4 ||| hexValue low])) rest
    else scanArgument .double seen (some (owned.getD [] ++ [unescape 120])) (high :: low :: rest)
  | .double, seen, owned, 92 :: escaped :: rest =>
    scanArgument .double seen (some (owned.getD [] ++ [unescape escaped])) rest
  | .double, seen, owned, byte :: rest =>
    if byte = 34 then
      if closesArgument rest then .ok (some (owned.getD []), rest)
      else .error .unbalancedQuotes
    else scanArgument .double seen (some (owned.getD [] ++ [byte])) rest
  | .single, _, _, [] => .error .unbalancedQuotes
  | .single, seen, owned, 92 :: 39 :: rest =>
    scanArgument .single seen (some (owned.getD [] ++ [39])) rest
  | .single, seen, owned, byte :: rest =>
    if byte = 39 then
      if closesArgument rest then .ok (some (owned.getD []), rest)
      else .error .unbalancedQuotes
    else scanArgument .single seen (some (owned.getD [] ++ [byte])) rest
  | .plain, _, owned, [] => .ok (owned, [])
  | .plain, seen, owned, byte :: rest =>
    if byte = 32 ∨ byte = 10 ∨ byte = 13 ∨ byte = 9 then .ok (owned, byte :: rest)
    else if byte = 34 then scanArgument .double (seen ++ [byte]) (some (owned.getD seen)) rest
    else if byte = 39 then scanArgument .single (seen ++ [byte]) (some (owned.getD seen)) rest
    else scanArgument .plain (seen ++ [byte]) (owned.map (· ++ [byte])) rest

/-- The outer loop of `split_inline_args` on `data[pos .. endIdx]`; every argument takes at least
one byte, so a fuel of one more than the bytes left is enough. -/
def splitInlineArgs (endIdx : Nat) : (fuel : Nat) → Bytes →
    Except RespParseError (List InlineToken)
  | 0, _ => .ok []
  | fuel + 1, rest =>
    let rest := rest.dropWhile isCSpace
    if rest = [] then .ok []
    else do
      let (owned, after) ← scanArgument .plain [] none rest
      let token := match owned with
        | some bytes => InlineToken.owned bytes
        | none => .slice (endIdx - rest.length) (rest.length - after.length)
      let tokens ← splitInlineArgs endIdx fuel after
      return token :: tokens

/-- Source: `describe_inline_command` -/
def describeInlineCommand (data : Bytes) (idx : Nat) : Described := do
  let some newline := memchr 10 (data.drop idx)
    | if maxInlineLength < data.length - idx then throw .inlineTooLong else return none
  let lineEnd := idx + newline
  let lineEnd := if idx < lineEnd ∧ data[lineEnd - 1]? = some 13 then lineEnd - 1 else lineEnd
  let tokens ← splitInlineArgs lineEnd (lineEnd - idx + 1) (slice data idx (lineEnd - idx))
  return some (.inlineCommand tokens, newline + 1)

/-! ## Aggregates -/

/-- The item loop of an array: `len` frames from offset `cur` on, each described by `inner`. -/
def describeItems (inner : Nat → Described) :
    (len cur : Nat) → Except RespParseError (Option (List FrameDesc × Nat))
  | 0, cur => .ok (some ([], cur))
  | len + 1, cur => do
    let some (desc, consumed) ← inner cur | return none
    let some (descs, cur) ← describeItems inner len (cur + consumed) | return none
    return some (desc :: descs, cur)

/-- The entry loop of a map: `len` pairs of frames from offset `cur` on. -/
def describeEntries (inner : Nat → Described) :
    (len cur : Nat) → Except RespParseError (Option (List (FrameDesc × FrameDesc) × Nat))
  | 0, cur => .ok (some ([], cur))
  | len + 1, cur => do
    let some (keyDesc, keyConsumed) ← inner cur | return none
    let some (valDesc, valConsumed) ← inner (cur + keyConsumed) | return none
    let some (entries, cur) ← describeEntries inner len (cur + keyConsumed + valConsumed)
      | return none
    return some ((keyDesc, valDesc) :: entries, cur)

/-- Source: `describe_array` -/
def describeArray (inner : Nat → Described) (data : Bytes) (idx depth : Nat) : Described := do
  if maxNestingDepth ≤ depth then throw .nestingTooDeep
  let some (_, lineLen, lineConsumed) := parseLineOffsets data (idx + 1) | return none
  let text := slice data (idx + 1) lineLen
  let len ← lineNumber .invalidArrayLength text
  let cur := idx + 1 + lineConsumed
  if len = -1 then return some (.nullArray, cur - idx)
  if len < -1 then throw (.invalidArrayLength text)
  let len := len.toInt.toNat
  if maxArrayElements < len then
    throw (.invalidArrayLength (lengthExceeds "array" len maxArrayElements))
  let some (descs, cur) ← describeItems inner len cur | return none
  return some (.array descs, cur - idx)

/-- Source: `describe_map` -/
def describeMap (inner : Nat → Described) (data : Bytes) (idx depth : Nat) : Described := do
  if maxNestingDepth ≤ depth then throw .nestingTooDeep
  let some (_, lineLen, lineConsumed) := parseLineOffsets data (idx + 1) | return none
  let text := slice data (idx + 1) lineLen
  let len ← lineNumber .invalidMapLength text
  if len < 0 then throw (.invalidMapLength text)
  let len := len.toInt.toNat
  if maxMapEntries < len then
    throw (.invalidMapLength (lengthExceeds "map" len maxMapEntries))
  let some (entries, cur) ← describeEntries inner len (idx + 1 + lineConsumed) | return none
  return some (.map entries, cur - idx)

/-- The body of `describe_frame_at`; `inner` describes a frame one level further in.
Source: `describe_frame_at` -/
def describeStep (inner : Nat → Described) (data : Bytes) (idx depth : Nat) : Described :=
  match data[idx]? with
  | none => .ok none
  | some marker =>
    match marker with
    | 43 => describeSimpleString data idx
    | 45 => describeError data idx
    | 58 => describeInteger data idx
    | 36 => describeBulkString data idx
    | 42 => describeArray inner data idx depth
    | 37 => describeMap inner data idx depth
    | 95 => describeNull data idx
    | other =>
      if depth = 0 then describeInlineCommand data idx
      else .error (.invalidFrameType other)

/-- `describe_frame_at` with the number of levels left as the measure. -/
def describeLevel (data : Bytes) : (levels idx depth : Nat) → Described
  | 0, idx, depth => describeStep (fun _ => .ok none) data idx depth
  | levels + 1, idx, depth =>
    describeStep (fun cur => describeLevel data levels cur (depth + 1)) data idx depth

/-- Source: `describe_frame_at` -/
def describeFrameAt (data : Bytes) (idx depth : Nat) : Described :=
  describeLevel data (maxNestingDepth - depth) idx depth

/-- Beyond the last level no frame is described inside another. -/
lemma describeStep_of_maxNestingDepth_le (inner inner' : Nat → Described) (data : Bytes)
    (idx : Nat) {depth : Nat} (h : maxNestingDepth ≤ depth) :
    describeStep inner data idx depth = describeStep inner' data idx depth := by
  have harray : describeArray inner data idx depth = describeArray inner' data idx depth := by
    simp only [describeArray, if_pos h]
    rfl
  have hmap : describeMap inner data idx depth = describeMap inner' data idx depth := by
    simp only [describeMap, if_pos h]
    rfl
  unfold describeStep
  rw [harray, hmap]

/-- **The recursion of `describe_frame_at`**, at every depth. -/
theorem describeFrameAt_eq (data : Bytes) (idx depth : Nat) :
    describeFrameAt data idx depth =
      describeStep (fun cur => describeFrameAt data cur (depth + 1)) data idx depth := by
  by_cases h : depth < maxNestingDepth
  · have hlevels : maxNestingDepth - depth = (maxNestingDepth - (depth + 1)) + 1 := by omega
    unfold describeFrameAt
    rw [hlevels]
    rfl
  · have hlevels : maxNestingDepth - depth = 0 := by omega
    unfold describeFrameAt
    rw [hlevels]
    exact describeStep_of_maxNestingDepth_le _ _ data idx (by omega)

/-! ## Materialization and the public entry point -/

/-- Source: `materialize`, `InlineToken` arm -/
def materializeToken (frozen : Bytes) : InlineToken → RespFrame
  | .slice offset len => .bulkString (some (slice frozen offset len))
  | .owned bytes => .bulkString (some bytes)

mutual

/-- Source: `materialize` -/
def materialize (frozen : Bytes) : FrameDesc → RespFrame
  | .simpleString dataOffset dataLen => .simpleString (slice frozen dataOffset dataLen)
  | .error dataOffset dataLen => .error (slice frozen dataOffset dataLen)
  | .integer value => .integer value
  | .bulkString dataOffset dataLen => .bulkString (some (slice frozen dataOffset dataLen))
  | .nullBulk => .bulkString none
  | .array descs => .array (materializeItems frozen descs)
  | .map entries => .map (materializeEntries frozen entries)
  | .nullArray => .nullArray
  | .null => .null
  | .inlineCommand tokens => .array (tokens.map (materializeToken frozen))

/-- The items of an array. -/
def materializeItems (frozen : Bytes) : List FrameDesc → List RespFrame
  | [] => []
  | desc :: descs => materialize frozen desc :: materializeItems frozen descs

/-- The entries of a map. -/
def materializeEntries (frozen : Bytes) :
    List (FrameDesc × FrameDesc) → List (RespFrame × RespFrame)
  | [] => []
  | (key, value) :: entries =>
    (materialize frozen key, materialize frozen value) :: materializeEntries frozen entries

end

/-- Parses one frame off the front of the buffer: the outcome and the buffer left. Only a parsed
frame consumes bytes.
Source: `parse` -/
def parse (buf : Bytes) : Except RespParseError (Option RespFrame) × Bytes :=
  match describeFrameAt buf 0 0 with
  | .error e => (.error e, buf)
  | .ok none => (.ok none, buf)
  | .ok (some (desc, consumed)) =>
    (.ok (some (materialize (buf.take consumed) desc)), buf.drop consumed)

end Ratatosk.Resp
