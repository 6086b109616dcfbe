import Ratatosk.Resp.Parse

/-!
# The parser with its panics

`ratatosk-resp/src/parse.rs` once more, as the source runs it: an index or a range outside a buffer,
`usize` arithmetic that overflows and a loop that does not end are outcomes of their own (`Panic`).
`Resp.Parse` reads totally, so it says what is parsed; `Resp.NoPanic` shows that nothing else can
happen.

* `index`, `range`, `add`, `sub` — the operations of the source that can panic.
* `findCrlf`, …, `parse` — the functions of `parse.rs`, each on these operations. The argument
  splitter goes over positions, as the source does.
-/

namespace Ratatosk.Resp

open Lib List

namespace Checked

/-! ## Operations that can panic -/

/-- How the source can stop without a result. -/
inductive Panic where
  /-- `data[i]` with `i` outside. -/
  | index
  /-- `data[a..b]` with `a` after `b` or `b` outside. -/
  | range
  /-- `usize` arithmetic. -/
  | overflow
  /-- A loop that is still running when its fuel is used up. -/
  | endless
  deriving Repr, DecidableEq

/-- A panic, or an error that the parser returns. -/
inductive Fault where
  | panic (p : Panic)
  | parse (e : RespParseError)
  deriving Repr, DecidableEq

/-- The outcome of a function of the parser. -/
abbrev Outcome := Except Fault

/-- A result of the total parser, which has not panicked. -/
def returned {α : Type} : Except RespParseError α → Outcome α
  | .ok a => .ok a
  | .error e => .error (.parse e)

/-- The values of a `usize`. -/
def usizeLimit : Nat := 2 ^ 64

/-- `data[i]`. -/
def index (data : Bytes) (i : Nat) : Outcome UInt8 :=
  match data[i]? with
  | some byte => .ok byte
  | none => .error (.panic .index)

/-- `data[start..stop]`. -/
def range (data : Bytes) (start stop : Nat) : Outcome Bytes :=
  if start ≤ stop ∧ stop ≤ data.length then .ok (slice data start (stop - start))
  else .error (.panic .range)

/-- `a + b`. -/
def add (a b : Nat) : Outcome Nat :=
  if a + b < usizeLimit then .ok (a + b) else .error (.panic .overflow)

/-- `a - b`. -/
def sub (a b : Nat) : Outcome Nat := if b ≤ a then .ok (a - b) else .error (.panic .overflow)

/-! ## Lines -/

/-- Source: `find_crlf`, the loop -/
def findCrlfLoop (data : Bytes) : (fuel searchIdx : Nat) → Outcome (Option Nat)
  | 0, _ => .error (.panic .endless)
  | fuel + 1, searchIdx => do
    let rest ← range data searchIdx data.length
    match memchr 13 rest with
    | none => return none
    | some rel =>
      let pos ← add searchIdx rel
      let next ← add pos 1
      if data.length ≤ next then return none
      else
        let byte ← index data next
        if byte = 10 then return some pos else findCrlfLoop data fuel next

/-- Source: `find_crlf` -/
def findCrlf (data : Bytes) (idx : Nat) : Outcome (Option Nat) :=
  if data.length ≤ idx then return none else findCrlfLoop data data.length idx

/-- Source: `parse_line_offsets` -/
def parseLineOffsets (data : Bytes) (idx : Nat) : Outcome (Option (Nat × Nat × Nat)) := do
  match ← findCrlf data idx with
  | none => return none
  | some lineEnd =>
    let lineLen ← sub lineEnd idx
    let consumed ← add lineLen 2
    return some (idx, lineLen, consumed)

/-- What the frames with a line have in common: the line behind the marker at `idx`, its start, its
length and the bytes up to its end are handed to `next`, or more is asked for. -/
def withLine (data : Bytes) (idx : Nat)
    (next : Nat → Nat → Bytes → Nat → Outcome (Option (FrameDesc × Nat))) :
    Outcome (Option (FrameDesc × Nat)) := do
  let lineIdx ← add idx 1
  match ← parseLineOffsets data lineIdx with
  | none => return none
  | some (lineStart, lineLen, lineConsumed) =>
    let lineEnd ← add lineStart lineLen
    let line ← range data lineStart lineEnd
    next lineStart lineLen line lineConsumed

/-! ## Frames without frames inside -/

/-- Source: `describe_simple_string`, `describe_error`, `ensure_plain_line` -/
def describeLine (desc : Nat → Nat → FrameDesc) (data : Bytes) (idx : Nat) :
    Outcome (Option (FrameDesc × Nat)) :=
  withLine data idx fun lineStart lineLen line lineConsumed => do
    if line.any isLineBreak then throw (.parse .invalidLine)
    let consumed ← add 1 lineConsumed
    return some (desc lineStart lineLen, consumed)

/-- Source: `describe_integer` -/
def describeInteger (data : Bytes) (idx : Nat) : Outcome (Option (FrameDesc × Nat)) :=
  withLine data idx fun _ _ line lineConsumed => do
    let value ← returned (lineNumber .invalidInteger line)
    let consumed ← add 1 lineConsumed
    return some (.integer value, consumed)

/-- The terminator of a payload, whose two bytes must be a line break. -/
def expectCrlf (data : Bytes) (cr lf : Nat) : Outcome Unit := do
  let first ← index data cr
  if first ≠ 13 then throw (.parse .missingCrlf)
  let second ← index data lf
  if second ≠ 10 then throw (.parse .missingCrlf)

/-- Source: `describe_bulk_string`, behind the checks of the length -/
def bulkBody (data : Bytes) (idx headerConsumed len : Nat) :
    Outcome (Option (FrameDesc × Nat)) := do
  let bodyStart ← add idx headerConsumed
  let bodyEnd ← add bodyStart len
  let tailEnd ← add bodyEnd 2
  if data.length < tailEnd then return none
  let lf ← add bodyEnd 1
  expectCrlf data bodyEnd lf
  let consumed ← add headerConsumed len
  let consumed ← add consumed 2
  return some (.bulkString bodyStart len, consumed)

/-- Source: `describe_bulk_string` -/
def describeBulkString (data : Bytes) (idx : Nat) : Outcome (Option (FrameDesc × Nat)) :=
  withLine data idx fun _ _ line lineConsumed => do
    let len ← returned (lineNumber .invalidBulkLength line)
    let headerConsumed ← add 1 lineConsumed
    if len = -1 then return some (.nullBulk, headerConsumed)
    if len < -1 then throw (.parse (.invalidBulkLength line))
    let len := len.toInt.toNat
    if maxBulkLength < len then
      throw (.parse (.invalidBulkLength (lengthExceeds "bulk" len maxBulkLength)))
    bulkBody data idx headerConsumed len

/-- Source: `describe_null` -/
def describeNull (data : Bytes) (idx : Nat) : Outcome (Option (FrameDesc × Nat)) := do
  let tailEnd ← add idx 3
  if data.length < tailEnd then return none
  let cr ← add idx 1
  let lf ← add idx 2
  expectCrlf data cr lf
  return some (.null, 3)

/-! ## Inline commands -/

/-- Source: `split_inline_args`, the loop over blanks -/
def skipSpaces (data : Bytes) (stop : Nat) : (fuel pos : Nat) → Outcome Nat
  | 0, _ => .error (.panic .endless)
  | fuel + 1, pos =>
    if pos < stop then do
      let byte ← index data pos
      if isCSpace byte then
        let pos ← add pos 1
        skipSpaces data stop fuel pos
      else return pos
    else return pos

/-- `data.get(pos..stop).unwrap_or_default()`. -/
def getRange (data : Bytes) (pos stop : Nat) : Bytes :=
  if pos ≤ stop ∧ stop ≤ data.length then slice data pos (stop - pos) else []

/-- The argument so far, or what stands from `tokenStart` on.
Source: `split_inline_args`, `owned.get_or_insert_with` -/
def ownedOr (data : Bytes) (tokenStart pos : Nat) : Option Bytes → Outcome (Option Bytes)
  | some bytes => return some bytes
  | none => do
    let bytes ← range data tokenStart pos
    return some bytes

/-- Source: `split_inline_args`, the loop over an argument -/
def scanArgument (data : Bytes) (stop tokenStart : Nat) :
    (fuel : Nat) → Quote → Option Bytes → Nat → Outcome (Option Bytes × Nat)
  | 0, _, _, _ => .error (.panic .endless)
  | fuel + 1, .double, owned, pos =>
    match getRange data pos stop with
    | [] => throw (.parse .unbalancedQuotes)
    | 92 :: 120 :: high :: low :: _ =>
      if isHexDigit high && isHexDigit low then do
        let next ← add pos 4
        scanArgument data stop tokenStart fuel .double
          (some (owned.getD [] ++ [hexValue high <<< 4 ||| hexValue low])) next
      else do
        let next ← add pos 2
        scanArgument data stop tokenStart fuel .double
          (some (owned.getD [] ++ [unescape 120])) next
    | 92 :: escaped :: _ => do
      let next ← add pos 2
      scanArgument data stop tokenStart fuel .double
        (some (owned.getD [] ++ [unescape escaped])) next
    | byte :: rest => do
      let next ← add pos 1
      if byte = 34 then
        if closesArgument rest then return (some (owned.getD []), next)
        else throw (.parse .unbalancedQuotes)
      else scanArgument data stop tokenStart fuel .double (some (owned.getD [] ++ [byte])) next
  | fuel + 1, .single, owned, pos =>
    match getRange data pos stop with
    | [] => throw (.parse .unbalancedQuotes)
    | 92 :: 39 :: _ => do
      let next ← add pos 2
      scanArgument data stop tokenStart fuel .single (some (owned.getD [] ++ [39])) next
    | byte :: rest => do
      let next ← add pos 1
      if byte = 39 then
        if closesArgument rest then return (some (owned.getD []), next)
        else throw (.parse .unbalancedQuotes)
      else scanArgument data stop tokenStart fuel .single (some (owned.getD [] ++ [byte])) next
  | fuel + 1, .plain, owned, pos =>
    if pos = stop then return (owned, pos)
    else do
      let byte ← index data pos
      if byte = 32 ∨ byte = 10 ∨ byte = 13 ∨ byte = 9 then return (owned, pos)
      else
        let next ← add pos 1
        if byte = 34 then
          let owned ← ownedOr data tokenStart pos owned
          scanArgument data stop tokenStart fuel .double owned next
        else if byte = 39 then
          let owned ← ownedOr data tokenStart pos owned
          scanArgument data stop tokenStart fuel .single owned next
        else scanArgument data stop tokenStart fuel .plain (owned.map (· ++ [byte])) next

/-- The token of an argument between two positions. -/
def inlineToken (tokenStart pos : Nat) : Option Bytes → Outcome InlineToken
  | some bytes => return .owned bytes
  | none => do
    let len ← sub pos tokenStart
    return .slice tokenStart len

/-- Source: `split_inline_args` -/
def splitInlineArgs (data : Bytes) (stop : Nat) : (fuel pos : Nat) → Outcome (List InlineToken)
  | 0, _ => .error (.panic .endless)
  | fuel + 1, pos => do
    let pos ← skipSpaces data stop (data.length + 1) pos
    if pos = stop then return []
    else
      let (owned, after) ← scanArgument data stop pos (data.length + 1) .plain none pos
      let token ← inlineToken pos after owned
      let tokens ← splitInlineArgs data stop fuel after
      return token :: tokens

/-- The end of a line, without a carriage return in front of the line feed. -/
def trimLineEnd (data : Bytes) (idx lineEnd : Nat) : Outcome Nat :=
  if idx < lineEnd then do
    let last ← sub lineEnd 1
    let byte ← index data last
    return if byte = 13 then last else lineEnd
  else return lineEnd

/-- Source: `describe_inline_command` -/
def describeInlineCommand (data : Bytes) (idx : Nat) : Outcome (Option (FrameDesc × Nat)) := do
  let rest ← range data idx data.length
  match memchr 10 rest with
  | none =>
    let len ← sub data.length idx
    if maxInlineLength < len then throw (.parse .inlineTooLong) else return none
  | some newline =>
    let lineEnd ← add idx newline
    let lineEnd ← trimLineEnd data idx lineEnd
    let tokens ← splitInlineArgs data lineEnd (data.length + 1) idx
    let consumed ← add newline 1
    return some (.inlineCommand tokens, consumed)

/-! ## Aggregates -/

/-- The item loop of an array. -/
def describeItems (inner : Nat → Outcome (Option (FrameDesc × Nat))) :
    (len cur : Nat) → Outcome (Option (List FrameDesc × Nat))
  | 0, cur => return some ([], cur)
  | len + 1, cur => do
    match ← inner cur with
    | none => return none
    | some (desc, consumed) =>
      let cur ← add cur consumed
      match ← describeItems inner len cur with
      | none => return none
      | some (descs, cur) => return some (desc :: descs, cur)

/-- The entry loop of a map. -/
def describeEntries (inner : Nat → Outcome (Option (FrameDesc × Nat))) :
    (len cur : Nat) → Outcome (Option (List (FrameDesc × FrameDesc) × Nat))
  | 0, cur => return some ([], cur)
  | len + 1, cur => do
    match ← inner cur with
    | none => return none
    | some (keyDesc, keyConsumed) =>
      let cur ← add cur keyConsumed
      match ← inner cur with
      | none => return none
      | some (valDesc, valConsumed) =>
        let cur ← add cur valConsumed
        match ← describeEntries inner len cur with
        | none => return none
        | some (entries, cur) => return some ((keyDesc, valDesc) :: entries, cur)

/-- Source: `describe_array` -/
def describeArray (inner : Nat → Outcome (Option (FrameDesc × Nat))) (data : Bytes)
    (idx depth : Nat) : Outcome (Option (FrameDesc × Nat)) :=
  if maxNestingDepth ≤ depth then throw (.parse .nestingTooDeep)
  else withLine data idx fun lineStart _ line lineConsumed => do
    let len ← returned (lineNumber .invalidArrayLength line)
    let cur ← add lineStart lineConsumed
    if len = -1 then
      let consumed ← sub cur idx
      return some (.nullArray, consumed)
    if len < -1 then throw (.parse (.invalidArrayLength line))
    let len := len.toInt.toNat
    if maxArrayElements < len then
      throw (.parse (.invalidArrayLength (lengthExceeds "array" len maxArrayElements)))
    match ← describeItems inner len cur with
    | none => return none
    | some (descs, cur) =>
      let consumed ← sub cur idx
      return some (.array descs, consumed)

/-- Source: `describe_map` -/
def describeMap (inner : Nat → Outcome (Option (FrameDesc × Nat))) (data : Bytes)
    (idx depth : Nat) : Outcome (Option (FrameDesc × Nat)) :=
  if maxNestingDepth ≤ depth then throw (.parse .nestingTooDeep)
  else withLine data idx fun lineStart _ line lineConsumed => do
    let len ← returned (lineNumber .invalidMapLength line)
    if len < 0 then throw (.parse (.invalidMapLength line))
    let len := len.toInt.toNat
    if maxMapEntries < len then
      throw (.parse (.invalidMapLength (lengthExceeds "map" len maxMapEntries)))
    let cur ← add lineStart lineConsumed
    match ← describeEntries inner len cur with
    | none => return none
    | some (entries, cur) =>
      let consumed ← sub cur idx
      return some (.map entries, consumed)

/-- Source: `describe_frame_at` -/
def describeStep (inner : Nat → Outcome (Option (FrameDesc × Nat))) (data : Bytes)
    (idx depth : Nat) : Outcome (Option (FrameDesc × Nat)) :=
  if data.length ≤ idx then return none
  else do
    let marker ← index data idx
    if marker = 43 then describeLine .simpleString data idx
    else if marker = 45 then describeLine .error data idx
    else if marker = 58 then describeInteger data idx
    else if marker = 36 then describeBulkString data idx
    else if marker = 42 then describeArray inner data idx depth
    else if marker = 37 then describeMap inner data idx depth
    else if marker = 95 then describeNull data idx
    else if depth = 0 then describeInlineCommand data idx
    else throw (.parse (.invalidFrameType marker))

/-- `describe_frame_at` with the number of levels left as the measure. A call beyond the last level
would not come back. -/
def describeLevel (data : Bytes) : (levels idx depth : Nat) → Outcome (Option (FrameDesc × Nat))
  | 0, idx, depth => describeStep (fun _ => .error (.panic .endless)) data idx depth
  | levels + 1, idx, depth =>
    describeStep (fun cur => describeLevel data levels cur (depth + 1)) data idx depth

/-! ## Materialization and the public entry point -/

/-- `frozen.slice(offset..offset + len)`. -/
def sliceOf (frozen : Bytes) (offset len : Nat) : Outcome Bytes := do
  let stop ← add offset len
  range frozen offset stop

/-- Source: `materialize`, `InlineToken` arm -/
def materializeToken (frozen : Bytes) : InlineToken → Outcome RespFrame
  | .slice offset len => do
    let bytes ← sliceOf frozen offset len
    return .bulkString (some bytes)
  | .owned bytes => return .bulkString (some bytes)

mutual

/-- Source: `materialize` -/
def materialize (frozen : Bytes) : FrameDesc → Outcome RespFrame
  | .simpleString dataOffset dataLen => do
    let bytes ← sliceOf frozen dataOffset dataLen
    return .simpleString bytes
  | .error dataOffset dataLen => do
    let bytes ← sliceOf frozen dataOffset dataLen
    return .error bytes
  | .integer value => return .integer value
  | .bulkString dataOffset dataLen => do
    let bytes ← sliceOf frozen dataOffset dataLen
    return .bulkString (some bytes)
  | .nullBulk => return .bulkString none
  | .array descs => do
    let frames ← materializeItems frozen descs
    return .array frames
  | .map entries => do
    let pairs ← materializeEntries frozen entries
    return .map pairs
  | .nullArray => return .nullArray
  | .null => return .null
  | .inlineCommand tokens => do
    let args ← tokens.mapM (materializeToken frozen)
    return .array args

/-- The items of an array. -/
def materializeItems (frozen : Bytes) : List FrameDesc → Outcome (List RespFrame)
  | [] => return []
  | desc :: descs => do
    let frame ← materialize frozen desc
    let frames ← materializeItems frozen descs
    return frame :: frames

/-- The entries of a map. -/
def materializeEntries (frozen : Bytes) :
    List (FrameDesc × FrameDesc) → Outcome (List (RespFrame × RespFrame))
  | [] => return []
  | (key, value) :: entries => do
    let key ← materialize frozen key
    let value ← materialize frozen value
    let pairs ← materializeEntries frozen entries
    return (key, value) :: pairs

end

/-- Source: `parse`; `buf.split_to(consumed)` panics if there are not as many bytes. -/
def parse (buf : Bytes) : Outcome (Option RespFrame × Bytes) := do
  match ← describeLevel buf maxNestingDepth 0 0 with
  | none => return (none, buf)
  | some (desc, consumed) =>
    let frozen ← range buf 0 consumed
    let frame ← materialize frozen desc
    return (some frame, buf.drop consumed)

end Checked

end Ratatosk.Resp
