import Ratatosk.Resp.Checked
import Ratatosk.Resp.Safety

/-!
# The parser does not panic

`Resp.Checked`, where an index, a range, `usize` arithmetic and an endless loop can panic, comes to
what `Resp.Parse` does.

* `findCrlfLoop_eq`, `scanArgument_scans`, `splitInlineArgs_returned` — **the loops end** and read
  nothing outside the buffer.
* `describeLevel_returned` — **describing a frame does not panic**, by induction over the levels.
* `materialize_eq` — neither does copying the payloads out of the bytes taken.
* `parse_safe` — **parser safety**, for every buffer.
-/

namespace Ratatosk.Resp

open Lib List

namespace Checked

/-! ## Operations -/

section operations

variable {data : Bytes} {a b i : Nat}

@[simp]
lemma ok_bind {α β : Type} (a : α) (f : α → Outcome β) :
    (Except.ok a : Outcome α) >>= f = f a := rfl

/-- A sum below the limit is the sum. -/
lemma add_of_lt (h : a + b < 2 ^ 64) : add a b = .ok (a + b) := if_pos h

/-- A difference that is not negative is the difference. -/
lemma sub_of_le (h : b ≤ a) : sub a b = .ok (a - b) := if_pos h

/-- An index inside the buffer reads its byte. -/
lemma index_of_lt (h : i < data.length) : index data i = .ok data[i] := by
  rw [index, List.getElem?_eq_getElem h]

/-- A range inside the buffer reads its bytes. -/
lemma range_of_le (hab : a ≤ b) (hb : b ≤ data.length) :
    range data a b = .ok (slice data a (b - a)) := if_pos ⟨hab, hb⟩

/-- The range up to the end of the buffer. -/
lemma slice_to_end (data : Bytes) (a : Nat) : slice data a (data.length - a) = data.drop a := by
  rw [slice, ← List.length_drop, List.take_length]

end operations

/-! ## Lines -/

section lines

variable {data : Bytes} {idx : Nat}

/-- **The search loop ends**: each round passes a carriage return, so with as much fuel as there are
bytes left neither embedding is cut off, and nothing is read outside the buffer. -/
lemma findCrlfLoop_eq (hdata : data.length < 2 ^ 63) {fuel fuel' : Nat} (hidx : idx < data.length)
    (hfuel : data.length - idx ≤ fuel) (hfuel' : data.length - idx ≤ fuel') :
    findCrlfLoop data fuel idx = .ok (Resp.findCrlfLoop data fuel' idx) := by
  induction fuel generalizing fuel' idx with
  | zero => omega
  | succ fuel ih =>
    obtain ⟨fuel', rfl⟩ : ∃ n, fuel' = n + 1 := ⟨fuel' - 1, by omega⟩
    rw [findCrlfLoop, Resp.findCrlfLoop, range_of_le hidx.le le_rfl, ok_bind, slice_to_end]
    rcases hcr : memchr 13 (data.drop idx) with _ | rel
    · rfl
    · have hrel := lt_length_of_memchr hcr
      rw [List.length_drop] at hrel
      simp only
      rw [add_of_lt (by omega), ok_bind, add_of_lt (by omega), ok_bind]
      by_cases hend : data.length ≤ idx + rel + 1
      · rw [if_pos hend, if_pos hend]
        rfl
      · have hlt : idx + rel + 1 < data.length := by omega
        rw [if_neg hend, if_neg hend, index_of_lt hlt, ok_bind, List.getElem?_eq_getElem hlt]
        by_cases hlf : data[idx + rel + 1] = 10
        · rw [if_pos hlf, hlf, if_pos rfl]
          rfl
        · rw [if_neg hlf, if_neg (by simpa using hlf)]
          exact ih hlt (by omega) (by omega)

/-- The line search does not panic. -/
lemma findCrlf_eq (hdata : data.length < 2 ^ 63) (idx : Nat) :
    findCrlf data idx = .ok (Resp.findCrlf data idx) := by
  unfold findCrlf Resp.findCrlf
  split_ifs with hidx
  · rfl
  · exact findCrlfLoop_eq hdata (by omega) (by omega) (by omega)

/-- A line that was found lies behind its start and inside the buffer. -/
lemma findCrlf_bounds {lineEnd : Nat} (h : Resp.findCrlf data idx = some lineEnd) :
    idx ≤ lineEnd ∧ lineEnd + 1 < data.length := by
  unfold Resp.findCrlf at h
  split_ifs at h
  obtain ⟨hle, hlf⟩ := findCrlfLoop_some h
  obtain ⟨hlt, -⟩ := List.getElem?_eq_some_iff.mp hlf
  exact ⟨hle, hlt⟩

/-- Neither does cutting out a line. -/
lemma parseLineOffsets_eq (hdata : data.length < 2 ^ 63) (idx : Nat) :
    parseLineOffsets data idx = .ok (Resp.parseLineOffsets data idx) := by
  rw [parseLineOffsets, Resp.parseLineOffsets, findCrlf_eq hdata, ok_bind]
  rcases hline : Resp.findCrlf data idx with _ | lineEnd
  · rfl
  · obtain ⟨hle, hlt⟩ := findCrlf_bounds hline
    simp only [Option.map_some]
    rw [sub_of_le hle, ok_bind, add_of_lt (by omega)]
    rfl

/-- **A frame with a line** runs on that line, which ends inside the buffer. -/
lemma withLine_eq (hdata : data.length < 2 ^ 63) (hidx : idx < data.length)
    {next : Nat → Nat → Bytes → Nat → Outcome (Option (FrameDesc × Nat))} {described : Described}
    (hnone : Resp.parseLineOffsets data (idx + 1) = none → described = .ok none)
    (hsome : ∀ lineLen, idx + 1 + lineLen + 2 ≤ data.length →
      Resp.parseLineOffsets data (idx + 1) = some (idx + 1, lineLen, lineLen + 2) →
      next (idx + 1) lineLen (slice data (idx + 1) lineLen) (lineLen + 2) = returned described) :
    withLine data idx next = returned described := by
  rw [withLine, add_of_lt (by omega), ok_bind, parseLineOffsets_eq hdata, ok_bind]
  rcases hline : Resp.parseLineOffsets data (idx + 1) with _ | ⟨lineStart, lineLen, lineConsumed⟩
  · rw [hnone hline]
    rfl
  · obtain ⟨rfl, rfl, hend⟩ := parseLineOffsets_eq_some hline
    simp only
    rw [add_of_lt (by omega), ok_bind, range_of_le (by omega) (by omega), ok_bind,
      Nat.add_sub_cancel_left]
    exact hsome lineLen hend hline

end lines

/-! ## Frames without frames inside -/

section leaves

variable {data : Bytes} {idx : Nat}

/-- Simple strings and errors. -/
lemma describeLine_returned (hdata : data.length < 2 ^ 63) (hidx : idx < data.length)
    (desc : Nat → Nat → FrameDesc) :
    describeLine desc data idx = returned (Resp.describeLine desc data idx) := by
  apply withLine_eq hdata hidx
  · intro hline
    rw [Resp.describeLine, hline]
    rfl
  · intro lineLen hend hline
    rw [Resp.describeLine, hline, add_of_lt (by omega)]
    simp only
    split_ifs <;> rfl

/-- Integers. -/
lemma describeInteger_returned (hdata : data.length < 2 ^ 63) (hidx : idx < data.length) :
    describeInteger data idx = returned (Resp.describeInteger data idx) := by
  apply withLine_eq hdata hidx
  · intro hline
    rw [Resp.describeInteger, hline]
    rfl
  · intro lineLen hend hline
    rw [Resp.describeInteger, hline, add_of_lt (by omega)]
    simp only
    rcases lineNumber .invalidInteger (slice data (idx + 1) lineLen) with e | value <;> rfl

/-- The two bytes of a line break are read inside the buffer. -/
lemma expectCrlf_eq {cr : Nat} (h : cr + 1 < data.length) :
    expectCrlf data cr (cr + 1) =
      if data[cr]? ≠ some 13 ∨ data[cr + 1]? ≠ some 10 then .error (.parse .missingCrlf)
      else .ok () := by
  have hcr : cr < data.length := by omega
  rw [expectCrlf, index_of_lt hcr, index_of_lt h, ok_bind, ok_bind, List.getElem?_eq_getElem hcr,
    List.getElem?_eq_getElem h]
  by_cases hfirst : data[cr] = 13
  · by_cases hsecond : data[cr + 1] = 10
    · simp [hfirst, hsecond]
      rfl
    · simp [hfirst, hsecond]
      rfl
  · simp [hfirst]
    rfl

/-- The payload of a bulk string: its length is bounded, so no sum overflows, and the terminator is
read only when the buffer reaches that far. -/
lemma bulkBody_returned (hdata : data.length < 2 ^ 63) {header len : Nat}
    (hheader : idx + header ≤ data.length) (hlen : len ≤ maxBulkLength) :
    bulkBody data idx header len =
      returned (if data.length < idx + header + len + 2 then .ok none
        else if data[idx + header + len]? ≠ some 13 ∨ data[idx + header + len + 1]? ≠ some 10 then
          .error .missingCrlf
        else .ok (some (.bulkString (idx + header) len, header + len + 2))) := by
  have hmax : len ≤ 2 ^ 29 := hlen
  rw [bulkBody, add_of_lt (by omega), ok_bind, add_of_lt (by omega), ok_bind,
    add_of_lt (by omega), ok_bind]
  by_cases hend : data.length < idx + header + len + 2
  · rw [if_pos hend, if_pos hend]
    rfl
  · rw [if_neg hend, if_neg hend, add_of_lt (by omega), ok_bind, expectCrlf_eq (by omega)]
    split_ifs
    · rfl
    · rw [ok_bind, add_of_lt (by omega), ok_bind, add_of_lt (by omega)]
      rfl

/-- Bulk strings. -/
lemma describeBulkString_returned (hdata : data.length < 2 ^ 63) (hidx : idx < data.length) :
    describeBulkString data idx = returned (Resp.describeBulkString data idx) := by
  apply withLine_eq hdata hidx
  · intro hline
    rw [Resp.describeBulkString, hline]
    rfl
  · intro lineLen hend hline
    simp only [Resp.describeBulkString, hline]
    rcases lineNumber .invalidBulkLength (slice data (idx + 1) lineLen) with e | len
    · rfl
    · rw [add_of_lt (by omega)]
      simp only [returned, bind, Except.bind]
      by_cases hnull : len = -1
      · simp only [if_pos hnull]
        rfl
      by_cases hneg : len < -1
      · simp only [if_neg hnull, if_pos hneg]
        rfl
      by_cases hover : maxBulkLength < len.toInt.toNat
      · simp only [if_neg hnull, if_neg hneg, if_pos hover]
        rfl
      simp only [if_neg hnull, if_neg hneg, if_neg hover]
      exact bulkBody_returned hdata (by omega) (by omega)

/-- Nulls. -/
lemma describeNull_returned (hdata : data.length < 2 ^ 63) (hidx : idx < data.length) :
    describeNull data idx = returned (Resp.describeNull data idx) := by
  rw [describeNull, add_of_lt (by omega), ok_bind]
  simp only [Resp.describeNull]
  by_cases hend : data.length < idx + 3
  · simp only [if_pos hend]
    rfl
  · simp only [if_neg hend]
    rw [add_of_lt (by omega), ok_bind, add_of_lt (by omega), ok_bind, expectCrlf_eq (by omega)]
    split_ifs <;> rfl

end leaves

/-! ## Inline commands -/

section inlineCommands

variable {data : Bytes} {stop pos tokenStart fuel : Nat}

/-- The bytes from a position of the line to its end. -/
def lineFrom (data : Bytes) (stop pos : Nat) : Bytes := slice data pos (stop - pos)

/-- Their number. -/
lemma length_lineFrom (pos : Nat) (hstop : stop ≤ data.length) :
    (lineFrom data stop pos).length = stop - pos := by
  rw [lineFrom, slice, List.length_take, List.length_drop]
  omega

/-- Further on in the line there is less of it. -/
lemma lineFrom_add (data : Bytes) (stop pos n : Nat) :
    lineFrom data stop (pos + n) = (lineFrom data stop pos).drop n := by
  rw [lineFrom, lineFrom, slice, slice, List.drop_take, List.drop_drop, Nat.sub_sub]

/-- A position in front of the end stands on a byte of the buffer. -/
lemma lineFrom_of_lt (hpos : pos < stop) (hdata : pos < data.length) :
    lineFrom data stop pos = data[pos] :: lineFrom data stop (pos + 1) := by
  rw [lineFrom, lineFrom, slice, slice, List.drop_eq_getElem_cons hdata,
    show stop - pos = stop - (pos + 1) + 1 by omega, List.take_succ_cons]

/-- At the end nothing is left. -/
lemma lineFrom_of_le (hpos : stop ≤ pos) : lineFrom data stop pos = [] := by
  rw [lineFrom, Nat.sub_eq_zero_of_le hpos, slice, List.take_zero]

/-- `get` inside the buffer. -/
lemma getRange_eq (hpos : pos ≤ stop) (hstop : stop ≤ data.length) :
    getRange data pos stop = lineFrom data stop pos := if_pos ⟨hpos, hstop⟩

/-- The loop over blanks stops at the first other byte, or at the end of the line. -/
lemma skipSpaces_eq (hdata : data.length < 2 ^ 63) (hpos : pos ≤ stop) (hstop : stop ≤ data.length)
    (hfuel : stop - pos < fuel) :
    ∃ next, skipSpaces data stop fuel pos = .ok next ∧ next ≤ stop ∧
      lineFrom data stop next = (lineFrom data stop pos).dropWhile isCSpace := by
  induction fuel generalizing pos with
  | zero => omega
  | succ fuel ih =>
    rw [skipSpaces]
    by_cases hlt : pos < stop
    · have hbyte : pos < data.length := hlt.trans_le hstop
      rw [if_pos hlt, index_of_lt hbyte, ok_bind, lineFrom_of_lt hlt hbyte]
      by_cases hspace : isCSpace data[pos]
      · rw [if_pos hspace, add_of_lt (by omega), ok_bind, List.dropWhile_cons_of_pos hspace]
        exact ih hlt (by omega)
      · rw [if_neg hspace, List.dropWhile_cons_of_neg hspace]
        exact ⟨pos, rfl, hpos, lineFrom_of_lt hlt hbyte⟩
    · rw [if_neg hlt, lineFrom_of_le (not_lt.mp hlt)]
      exact ⟨pos, rfl, hpos, lineFrom_of_le (not_lt.mp hlt)⟩

/-- A scan over positions comes to what the scan over bytes comes to, and stops in front of the
bytes that one leaves. -/
def ScansAs (data : Bytes) (stop : Nat) (outcome : Outcome (Option Bytes × Nat)) :
    Except RespParseError (Option Bytes × Bytes) → Prop
  | .error e => outcome = .error (.parse e)
  | .ok (owned, after) =>
    ∃ next, outcome = .ok (owned, next) ∧ next ≤ stop ∧ lineFrom data stop next = after

/-- The scan of an argument that starts at `tokenStart` stands at `pos`, in front of `bytes`, with
fuel for each of them. -/
structure Scanning (data : Bytes) (stop tokenStart fuel pos : Nat) (bytes : Bytes) : Prop where
  start_le : tokenStart ≤ pos
  le_stop : pos ≤ stop
  stop_le : stop ≤ data.length
  fuel_lt : stop - pos < fuel
  line : lineFrom data stop pos = bytes

namespace Scanning

variable {bytes : Bytes}

/-- There is fuel for another round. -/
lemma exists_fuel (h : Scanning data stop tokenStart fuel pos bytes) : ∃ n, fuel = n + 1 :=
  ⟨fuel - 1, by have := h.fuel_lt; omega⟩

/-- What stands in front of the scan is what `get` yields. -/
lemma getRange (h : Scanning data stop tokenStart fuel pos bytes) :
    getRange data pos stop = bytes := by
  rw [getRange_eq h.le_stop h.stop_le, h.line]

/-- Over some of its bytes the scan moves on without overflow. -/
lemma advance (hdata : data.length < 2 ^ 63)
    (h : Scanning data stop tokenStart (fuel + 1) pos bytes) {n : Nat} (hn : 0 < n)
    (hle : n ≤ bytes.length) :
    add pos n = .ok (pos + n) ∧
      Scanning data stop tokenStart fuel (pos + n) (bytes.drop n) := by
  have hlen := length_lineFrom pos h.stop_le
  rw [h.line] at hlen
  have hstart := h.start_le
  have hstop := h.stop_le
  have hfuel := h.fuel_lt
  refine ⟨add_of_lt (by omega), by omega, by omega, hstop, by omega, ?_⟩
  rw [lineFrom_add, h.line]

/-- In front of a byte, that byte is read. -/
lemma index_cons {byte : UInt8} {rest : Bytes}
    (h : Scanning data stop tokenStart fuel pos (byte :: rest)) :
    pos ≠ stop ∧ index data pos = .ok byte := by
  have hlen := length_lineFrom pos h.stop_le
  rw [h.line, List.length_cons] at hlen
  have hlt : pos < stop := by omega
  have hbyte : pos < data.length := hlt.trans_le h.stop_le
  have hline := h.line
  rw [lineFrom_of_lt hlt hbyte] at hline
  rw [index_of_lt hbyte, (List.cons.inj hline).1]
  exact ⟨hlt.ne, rfl⟩

/-- The bytes since the start are a range of the buffer. -/
lemma ownedOr_eq (h : Scanning data stop tokenStart fuel pos bytes) (owned : Option Bytes) :
    ownedOr data tokenStart pos owned =
      .ok (some (owned.getD (slice data tokenStart (pos - tokenStart)))) := by
  cases owned with
  | none =>
    rw [ownedOr, range_of_le h.start_le (h.le_stop.trans h.stop_le)]
    rfl
  | some bytes => rfl

end Scanning

section quoted

variable {owned : Option Bytes} {byte : UInt8} {rest : Bytes}

/-- In double quotes, in front of a byte that starts no escape. -/
lemma scanArgument_double_cons
    (h : Scanning data stop tokenStart (fuel + 1) pos (byte :: rest))
    (hescape : ∀ escaped tail, byte = 92 → rest = escaped :: tail → False) :
    scanArgument data stop tokenStart (fuel + 1) .double owned pos = (add pos 1 >>= fun next =>
      if byte = 34 then
        if closesArgument rest then return (some (owned.getD []), next)
        else throw (.parse .unbalancedQuotes)
      else
        scanArgument data stop tokenStart fuel .double (some (owned.getD [] ++ [byte])) next) := by
  rw [scanArgument, h.getRange]
  split
  · next heq => cases heq
  · next heq =>
    cases heq
    exact (hescape _ _ rfl rfl).elim
  · next heq =>
    cases heq
    exact (hescape _ _ rfl rfl).elim
  · next heq =>
    cases heq
    rfl

/-- In single quotes, in front of a byte that starts no escape. -/
lemma scanArgument_single_cons
    (h : Scanning data stop tokenStart (fuel + 1) pos (byte :: rest))
    (hescape : ∀ tail, byte = 92 → rest = 39 :: tail → False) :
    scanArgument data stop tokenStart (fuel + 1) .single owned pos = (add pos 1 >>= fun next =>
      if byte = 39 then
        if closesArgument rest then return (some (owned.getD []), next)
        else throw (.parse .unbalancedQuotes)
      else
        scanArgument data stop tokenStart fuel .single (some (owned.getD [] ++ [byte])) next) := by
  rw [scanArgument, h.getRange]
  split
  · next heq => cases heq
  · next heq =>
    cases heq
    exact (hescape _ rfl rfl).elim
  · next heq =>
    cases heq
    rfl

/-- Outside quotes, in front of a byte. -/
lemma scanArgument_plain_cons (hdata : data.length < 2 ^ 63)
    (h : Scanning data stop tokenStart (fuel + 1) pos (byte :: rest)) :
    scanArgument data stop tokenStart (fuel + 1) .plain owned pos =
      if byte = 32 ∨ byte = 10 ∨ byte = 13 ∨ byte = 9 then .ok (owned, pos)
      else if byte = 34 then
        scanArgument data stop tokenStart fuel .double
          (some (owned.getD (slice data tokenStart (pos - tokenStart)))) (pos + 1)
      else if byte = 39 then
        scanArgument data stop tokenStart fuel .single
          (some (owned.getD (slice data tokenStart (pos - tokenStart)))) (pos + 1)
      else
        scanArgument data stop tokenStart fuel .plain (owned.map (· ++ [byte])) (pos + 1) := by
  obtain ⟨hne, hbyte⟩ := h.index_cons
  obtain ⟨hadd, -⟩ := h.advance hdata Nat.one_pos (Nat.le_add_left 1 rest.length)
  rw [scanArgument, if_neg hne, hbyte, ok_bind, hadd, h.ownedOr_eq]
  rfl

/-- The bytes seen grow with the scan. -/
lemma Scanning.seen_append (h : Scanning data stop tokenStart fuel pos (byte :: rest)) :
    slice data tokenStart (pos - tokenStart) ++ [byte] =
      slice data tokenStart (pos + 1 - tokenStart) := by
  have hstart := h.start_le
  have hlen := length_lineFrom pos h.stop_le
  rw [h.line, List.length_cons] at hlen
  have hbyte : pos < data.length := by
    have := h.stop_le
    omega
  have hread := h.index_cons.2
  rw [index_of_lt hbyte] at hread
  have hget : (data.drop tokenStart)[pos - tokenStart]? = some byte := by
    rw [List.getElem?_drop, Nat.add_sub_of_le hstart, List.getElem?_eq_getElem hbyte,
      Except.ok.inj hread]
  rw [slice, slice, show pos + 1 - tokenStart = pos - tokenStart + 1 by omega, List.take_add_one,
    hget]
  rfl

end quoted

/-- **Scanning an argument** reads nothing outside the line and ends. The induction is along the
scan over bytes; in front of the first quote the bytes seen are those since the start. -/
lemma scanArgument_scans (hdata : data.length < 2 ^ 63) {quote : Quote} {seen bytes : Bytes}
    {owned : Option Bytes} (h : Scanning data stop tokenStart fuel pos bytes)
    (hseen : quote = .plain → seen = slice data tokenStart (pos - tokenStart)) :
    ScansAs data stop (scanArgument data stop tokenStart fuel quote owned pos)
      (Resp.scanArgument quote seen owned bytes) := by
  obtain ⟨fuel, rfl⟩ := h.exists_fuel
  fun_induction Resp.scanArgument quote seen owned bytes generalizing fuel pos with
  | case1 seen owned =>
    simp only [scanArgument, h.getRange]
    rfl
  | case2 seen owned high low rest hhex ih =>
    obtain ⟨hadd, hnext⟩ := h.advance hdata (n := 4) (by decide) (by simp)
    obtain ⟨fuel, rfl⟩ := hnext.exists_fuel
    simp only [scanArgument, h.getRange, if_pos hhex, hadd, ok_bind]
    exact ih (by simp) fuel hnext
  | case3 seen owned high low rest hhex ih =>
    obtain ⟨hadd, hnext⟩ := h.advance hdata (n := 2) (by decide) (by simp)
    obtain ⟨fuel, rfl⟩ := hnext.exists_fuel
    simp only [scanArgument, h.getRange, if_neg hhex, hadd, ok_bind]
    exact ih (by simp) fuel hnext
  | case4 seen owned escaped rest hhex ih =>
    obtain ⟨hadd, hnext⟩ := h.advance hdata (n := 2) (by decide) (by simp)
    obtain ⟨fuel, rfl⟩ := hnext.exists_fuel
    rw [scanArgument, h.getRange]
    split
    · next heq => cases heq
    · next high low tail heq =>
      cases heq
      exact absurd rfl (hhex high low tail rfl)
    · next heq =>
      cases heq
      rw [hadd]
      exact ih (by simp) fuel hnext
    · next hescape heq =>
      cases heq
      exact absurd rfl (hescape _ _ rfl)
  | case5 seen owned rest hclose hhex hescape =>
    obtain ⟨hadd, hnext⟩ := h.advance hdata (n := 1) (by decide) (by simp)
    rw [scanArgument_double_cons h hescape, hadd, ok_bind, if_pos rfl, if_pos hclose]
    exact ⟨pos + 1, rfl, hnext.le_stop, hnext.line⟩
  | case6 seen owned rest hclose hhex hescape =>
    obtain ⟨hadd, -⟩ := h.advance hdata (n := 1) (by decide) (by simp)
    rw [scanArgument_double_cons h hescape, hadd, ok_bind, if_pos rfl, if_neg hclose]
    rfl
  | case7 seen owned byte rest hhex hescape hquote ih =>
    obtain ⟨hadd, hnext⟩ := h.advance hdata (n := 1) (by decide) (by simp)
    obtain ⟨fuel, rfl⟩ := hnext.exists_fuel
    rw [scanArgument_double_cons h hescape, hadd, ok_bind, if_neg hquote]
    exact ih (by simp) fuel hnext
  | case8 seen owned =>
    simp only [scanArgument, h.getRange]
    rfl
  | case9 seen owned rest ih =>
    obtain ⟨hadd, hnext⟩ := h.advance hdata (n := 2) (by decide) (by simp)
    obtain ⟨fuel, rfl⟩ := hnext.exists_fuel
    simp only [scanArgument, h.getRange, hadd, ok_bind]
    exact ih (by simp) fuel hnext
  | case10 seen owned rest hclose hescape =>
    obtain ⟨hadd, hnext⟩ := h.advance hdata (n := 1) (by decide) (by simp)
    rw [scanArgument_single_cons h hescape, hadd, ok_bind, if_pos rfl, if_pos hclose]
    exact ⟨pos + 1, rfl, hnext.le_stop, hnext.line⟩
  | case11 seen owned rest hclose hescape =>
    obtain ⟨hadd, -⟩ := h.advance hdata (n := 1) (by decide) (by simp)
    rw [scanArgument_single_cons h hescape, hadd, ok_bind, if_pos rfl, if_neg hclose]
    rfl
  | case12 seen owned byte rest hescape hquote ih =>
    obtain ⟨hadd, hnext⟩ := h.advance hdata (n := 1) (by decide) (by simp)
    obtain ⟨fuel, rfl⟩ := hnext.exists_fuel
    rw [scanArgument_single_cons h hescape, hadd, ok_bind, if_neg hquote]
    exact ih (by simp) fuel hnext
  | case13 seen owned =>
    have hlen := length_lineFrom pos h.stop_le
    rw [h.line, List.length_nil] at hlen
    have hend : pos = stop := le_antisymm h.le_stop (by omega)
    rw [scanArgument, if_pos hend]
    exact ⟨pos, rfl, h.le_stop, h.line⟩
  | case14 seen owned byte rest hspace =>
    rw [scanArgument_plain_cons hdata h, if_pos hspace]
    exact ⟨pos, rfl, h.le_stop, h.line⟩
  | case15 seen owned rest hspace ih =>
    obtain ⟨-, hnext⟩ := h.advance hdata (n := 1) (by decide) (by simp)
    obtain ⟨fuel, rfl⟩ := hnext.exists_fuel
    rw [scanArgument_plain_cons hdata h, if_neg hspace, if_pos rfl, ← hseen rfl]
    exact ih (by simp) fuel hnext
  | case16 seen owned rest hspace hdouble ih =>
    obtain ⟨-, hnext⟩ := h.advance hdata (n := 1) (by decide) (by simp)
    obtain ⟨fuel, rfl⟩ := hnext.exists_fuel
    rw [scanArgument_plain_cons hdata h, if_neg hspace, if_neg hdouble, if_pos rfl, ← hseen rfl]
    exact ih (by simp) fuel hnext
  | case17 seen owned byte rest hspace hdouble hsingle ih =>
    obtain ⟨-, hnext⟩ := h.advance hdata (n := 1) (by decide) (by simp)
    obtain ⟨fuel, rfl⟩ := hnext.exists_fuel
    rw [scanArgument_plain_cons hdata h, if_neg hspace, if_neg hdouble, if_neg hsingle]
    refine ih (fun _ => ?_) fuel hnext
    rw [hseen rfl, h.seen_append]

/-- The token of an argument, from the bytes the two scans leave. -/
lemma inlineToken_eq {after : Nat} (hpos : pos ≤ after) (hafter : after ≤ stop)
    (owned : Option Bytes) :
    inlineToken pos after owned = .ok (match owned with
      | some bytes => InlineToken.owned bytes
      | none => .slice (stop - (stop - pos)) (stop - pos - (stop - after))) := by
  cases owned with
  | none =>
    rw [inlineToken, sub_of_le hpos, show stop - (stop - pos) = pos by omega,
      show stop - pos - (stop - after) = after - pos by omega]
    rfl
  | some bytes => rfl

/-- **The splitter** reads nothing outside the line and ends. -/
lemma splitInlineArgs_returned (hdata : data.length < 2 ^ 63) (hstop : stop ≤ data.length)
    {fuel' : Nat} (hpos : pos ≤ stop) (hfuel : stop - pos < fuel) (hfuel' : stop - pos < fuel') :
    splitInlineArgs data stop fuel pos =
      returned (Resp.splitInlineArgs stop fuel' (lineFrom data stop pos)) := by
  induction fuel generalizing fuel' pos with
  | zero => omega
  | succ fuel ih =>
    obtain ⟨fuel', rfl⟩ : ∃ n, fuel' = n + 1 := ⟨fuel' - 1, by omega⟩
    obtain ⟨start, hskip, hstart, hrest⟩ :=
      skipSpaces_eq hdata hpos hstop (by omega : stop - pos < data.length + 1)
    rw [splitInlineArgs, hskip, ok_bind, Resp.splitInlineArgs, ← hrest]
    by_cases hend : start = stop
    · rw [if_pos hend, lineFrom_of_le hend.ge, if_pos rfl]
      rfl
    · have hlen := length_lineFrom start hstop
      have hne : lineFrom data stop start ≠ [] := List.ne_nil_of_length_pos (by omega)
      rw [if_neg hend, if_neg hne]
      have hscanning : Scanning data stop start (data.length + 1) start
          (lineFrom data stop start) := ⟨le_rfl, hstart, hstop, by omega, rfl⟩
      have hscan : ScansAs data stop
          (scanArgument data stop start (data.length + 1) .plain none start)
          (Resp.scanArgument .plain [] none (lineFrom data stop start)) :=
        scanArgument_scans hdata hscanning fun _ => by rw [Nat.sub_self, slice, List.take_zero]
      rcases hbytes : Resp.scanArgument .plain [] none (lineFrom data stop start) with
        e | ⟨owned, after⟩
      · rw [hbytes] at hscan
        rw [hscan]
        rfl
      · rw [hbytes] at hscan
        obtain ⟨next, hout, hnext, rfl⟩ := hscan
        have hle := length_scanArgument_le hbytes
        rw [hrest] at hne hbytes
        have hlt := length_scanArgument_lt hne hbytes
        rw [length_lineFrom _ hstop, length_lineFrom _ hstop] at hle hlt
        rw [hout, ok_bind]
        simp only [bind, Except.bind]
        rw [inlineToken_eq (by omega) hnext,
          ih hnext (by omega) (by omega : stop - next < fuel'),
          length_lineFrom _ hstop, length_lineFrom _ hstop]
        simp only
        rcases Resp.splitInlineArgs stop fuel' (lineFrom data stop next) with e | tokens <;> rfl

/-- The carriage return in front of the line feed is read inside the buffer. -/
lemma trimLineEnd_eq {idx lineEnd : Nat} (hend : lineEnd ≤ data.length) :
    trimLineEnd data idx lineEnd =
      .ok (if idx < lineEnd ∧ data[lineEnd - 1]? = some 13 then lineEnd - 1 else lineEnd) := by
  unfold trimLineEnd
  by_cases hlt : idx < lineEnd
  · have hlast : lineEnd - 1 < data.length := by omega
    rw [if_pos hlt, sub_of_le (by omega), ok_bind, index_of_lt hlast, ok_bind,
      List.getElem?_eq_getElem hlast]
    simp only [hlt, true_and, Option.some.injEq]
    rfl
  · rw [if_neg hlt, if_neg fun h => hlt h.1]
    rfl

/-- Inline commands. -/
lemma describeInlineCommand_returned (hdata : data.length < 2 ^ 63) {idx : Nat}
    (hidx : idx < data.length) :
    describeInlineCommand data idx = returned (Resp.describeInlineCommand data idx) := by
  rw [describeInlineCommand, range_of_le hidx.le le_rfl, ok_bind, slice_to_end]
  simp only [Resp.describeInlineCommand]
  rcases hnewline : memchr 10 (data.drop idx) with _ | newline
  · simp only
    rw [sub_of_le hidx.le, ok_bind]
    split_ifs <;> rfl
  · have hlt := lt_length_of_memchr hnewline
    rw [List.length_drop] at hlt
    simp only
    rw [add_of_lt (by omega), ok_bind, trimLineEnd_eq (by omega), ok_bind]
    have hbounds : ∀ lineEnd, lineEnd =
        (if idx < idx + newline ∧ data[idx + newline - 1]? = some 13 then idx + newline - 1
          else idx + newline) → idx ≤ lineEnd ∧ lineEnd ≤ data.length := by
      rintro lineEnd rfl
      split_ifs <;> omega
    generalize hlineEnd : (if idx < idx + newline ∧ data[idx + newline - 1]? = some 13 then
      idx + newline - 1 else idx + newline) = lineEnd
    obtain ⟨hle, hend⟩ := hbounds lineEnd hlineEnd.symm
    rw [splitInlineArgs_returned hdata hend hle (by omega)
        (by omega : lineEnd - idx < lineEnd - idx + 1), lineFrom, add_of_lt (by omega)]
    rcases Resp.splitInlineArgs lineEnd (lineEnd - idx + 1) (slice data idx (lineEnd - idx)) with
      e | tokens <;> rfl

end inlineCommands

/-! ## Aggregates -/

section aggregates

variable {data : Bytes} {inner : Nat → Outcome (Option (FrameDesc × Nat))}
  {inner' : Nat → Described}

/-- The items of an array, if describing a frame does not panic. -/
lemma describeItems_returned (hdata : data.length < 2 ^ 63) (hadvances : Advances inner' data)
    (hinner : ∀ cur, inner cur = returned (inner' cur)) (len cur : Nat) :
    describeItems inner len cur = returned (Resp.describeItems inner' len cur) := by
  induction len generalizing cur with
  | zero => rfl
  | succ len ih =>
    rw [describeItems, Resp.describeItems, hinner]
    rcases hdesc : inner' cur with e | _ | ⟨desc, consumed⟩
    · rfl
    · rfl
    · obtain ⟨-, hle⟩ := hadvances cur desc consumed hdesc
      simp only [returned, bind, Except.bind]
      rw [add_of_lt (by omega)]
      simp only
      rw [ih]
      rcases Resp.describeItems inner' len (cur + consumed) with e | _ | ⟨descs, cur'⟩ <;> rfl

/-- The entries of a map, if describing a frame does not panic. -/
lemma describeEntries_returned (hdata : data.length < 2 ^ 63) (hadvances : Advances inner' data)
    (hinner : ∀ cur, inner cur = returned (inner' cur)) (len cur : Nat) :
    describeEntries inner len cur = returned (Resp.describeEntries inner' len cur) := by
  induction len generalizing cur with
  | zero => rfl
  | succ len ih =>
    rw [describeEntries, Resp.describeEntries, hinner]
    rcases hkey : inner' cur with e | _ | ⟨keyDesc, keyConsumed⟩
    · rfl
    · rfl
    · obtain ⟨-, hkeyEnd⟩ := hadvances cur keyDesc keyConsumed hkey
      simp only [returned, bind, Except.bind]
      rw [add_of_lt (by omega)]
      simp only
      rw [hinner]
      rcases hval : inner' (cur + keyConsumed) with e | _ | ⟨valDesc, valConsumed⟩
      · rfl
      · rfl
      · obtain ⟨-, hvalEnd⟩ := hadvances _ valDesc valConsumed hval
        simp only [returned]
        rw [add_of_lt (by omega)]
        simp only
        rw [ih]
        rcases Resp.describeEntries inner' len (cur + keyConsumed + valConsumed) with
          e | _ | ⟨entries, cur'⟩ <;> rfl

variable {idx depth : Nat}

/-- Arrays. -/
lemma describeArray_returned (hdata : data.length < 2 ^ 63) (hidx : idx < data.length)
    (hinner : depth < maxNestingDepth →
      Advances inner' data ∧ ∀ cur, inner cur = returned (inner' cur)) :
    describeArray inner data idx depth = returned (Resp.describeArray inner' data idx depth) := by
  unfold describeArray
  by_cases hdepth : maxNestingDepth ≤ depth
  · simp only [Resp.describeArray, if_pos hdepth]
    rfl
  obtain ⟨hadvances, hitems⟩ := hinner (not_le.mp hdepth)
  rw [if_neg hdepth]
  apply withLine_eq hdata hidx
  · intro hline
    simp only [Resp.describeArray, if_neg hdepth, hline]
    rfl
  · intro lineLen hend hline
    simp only [Resp.describeArray, if_neg hdepth, hline]
    rcases lineNumber .invalidArrayLength (slice data (idx + 1) lineLen) with e | len
    · rfl
    · rw [add_of_lt (by omega)]
      simp only [returned, bind, Except.bind]
      by_cases hnull : len = -1
      · simp only [if_pos hnull]
        rw [sub_of_le (by omega)]
        rfl
      by_cases hneg : len < -1
      · simp only [if_neg hnull, if_pos hneg]
        rfl
      by_cases hover : maxArrayElements < len.toInt.toNat
      · simp only [if_neg hnull, if_neg hneg, if_pos hover]
        rfl
      simp only [if_neg hnull, if_neg hneg, if_neg hover]
      rw [describeItems_returned hdata hadvances hitems]
      rcases hdescs : Resp.describeItems inner' len.toInt.toNat (idx + 1 + (lineLen + 2)) with
        e | _ | ⟨descs, cur⟩
      · rfl
      · rfl
      · obtain ⟨hle, -⟩ := describeItems_advances hadvances (by omega) hdescs
        simp only [returned]
        rw [sub_of_le (by omega)]
        rfl

/-- Maps. -/
lemma describeMap_returned (hdata : data.length < 2 ^ 63) (hidx : idx < data.length)
    (hinner : depth < maxNestingDepth →
      Advances inner' data ∧ ∀ cur, inner cur = returned (inner' cur)) :
    describeMap inner data idx depth = returned (Resp.describeMap inner' data idx depth) := by
  unfold describeMap
  by_cases hdepth : maxNestingDepth ≤ depth
  · simp only [Resp.describeMap, if_pos hdepth]
    rfl
  obtain ⟨hadvances, hentries⟩ := hinner (not_le.mp hdepth)
  rw [if_neg hdepth]
  apply withLine_eq hdata hidx
  · intro hline
    simp only [Resp.describeMap, if_neg hdepth, hline]
    rfl
  · intro lineLen hend hline
    simp only [Resp.describeMap, if_neg hdepth, hline]
    rcases lineNumber .invalidMapLength (slice data (idx + 1) lineLen) with e | len
    · rfl
    · simp only [returned, bind, Except.bind]
      by_cases hneg : len < 0
      · simp only [if_pos hneg]
        rfl
      by_cases hover : maxMapEntries < len.toInt.toNat
      · simp only [if_neg hneg, if_pos hover]
        rfl
      simp only [if_neg hneg, if_neg hover]
      rw [add_of_lt (by omega)]
      simp only
      rw [describeEntries_returned hdata hadvances hentries]
      rcases hpairs : Resp.describeEntries inner' len.toInt.toNat (idx + 1 + (lineLen + 2)) with
        e | _ | ⟨entries, cur⟩
      · rfl
      · rfl
      · obtain ⟨hle, -⟩ := describeEntries_advances hadvances (by omega) hpairs
        simp only [returned]
        rw [sub_of_le (by omega)]
        rfl

/-- One frame, if describing the frames inside it does not panic. -/
lemma describeStep_returned (hdata : data.length < 2 ^ 63)
    (hinner : depth < maxNestingDepth →
      Advances inner' data ∧ ∀ cur, inner cur = returned (inner' cur)) (idx : Nat) :
    describeStep inner data idx depth = returned (Resp.describeStep inner' data idx depth) := by
  unfold describeStep Resp.describeStep
  by_cases hidx : data.length ≤ idx
  · rw [if_pos hidx, List.getElem?_eq_none hidx]
    rfl
  · have hlt : idx < data.length := not_le.mp hidx
    rw [if_neg hidx, index_of_lt hlt, ok_bind, List.getElem?_eq_getElem hlt]
    simp only
    generalize data[idx] = marker
    by_cases h43 : marker = 43
    · subst h43
      exact describeLine_returned hdata hlt .simpleString
    by_cases h45 : marker = 45
    · subst h45
      exact describeLine_returned hdata hlt .error
    by_cases h58 : marker = 58
    · subst h58
      exact describeInteger_returned hdata hlt
    by_cases h36 : marker = 36
    · subst h36
      exact describeBulkString_returned hdata hlt
    by_cases h42 : marker = 42
    · subst h42
      exact describeArray_returned hdata hlt hinner
    by_cases h37 : marker = 37
    · subst h37
      exact describeMap_returned hdata hlt hinner
    by_cases h95 : marker = 95
    · subst h95
      exact describeNull_returned hdata hlt
    simp only [h43, h45, h58, h36, h42, h37, h95, if_false]
    split_ifs
    · exact describeInlineCommand_returned hdata hlt
    · rfl

/-- **Describing a frame does not panic**, at any position and depth: by induction over the levels
left, the frames inside first. -/
lemma describeLevel_returned (hdata : data.length < 2 ^ 63) (levels depth : Nat)
    (h : levels + depth = maxNestingDepth) (idx : Nat) :
    describeLevel data levels idx depth = returned (Resp.describeLevel data levels idx depth) := by
  induction levels generalizing depth idx with
  | zero => exact describeStep_returned hdata (fun hdepth => absurd hdepth (by omega)) idx
  | succ levels ih =>
    exact describeStep_returned hdata
      (fun _ => ⟨advances_describeLevel data levels (depth + 1), ih (depth + 1) (by omega)⟩) idx

end aggregates

/-! ## Materialization -/

section materialization

variable {frozen : Bytes}

/-- A slice inside the bytes taken. -/
lemma sliceOf_eq (hfrozen : frozen.length < 2 ^ 63) {offset len : Nat}
    (h : offset + len ≤ frozen.length) :
    sliceOf frozen offset len = .ok (slice frozen offset len) := by
  rw [sliceOf, add_of_lt (by omega), ok_bind, range_of_le (by omega) h, Nat.add_sub_cancel_left]

/-- The items of an array, one after the other. -/
lemma materializeItems_eq {descs : List FrameDesc}
    (h : ∀ desc ∈ descs, materialize frozen desc = .ok (Resp.materialize frozen desc)) :
    materializeItems frozen descs = .ok (Resp.materializeItems frozen descs) := by
  induction descs with
  | nil => rfl
  | cons desc descs ih =>
    rw [materializeItems, h desc List.mem_cons_self,
      ih fun desc hdesc => h desc (List.mem_cons_of_mem _ hdesc)]
    rfl

/-- The entries of a map, one after the other. -/
lemma materializeEntries_eq {entries : List (FrameDesc × FrameDesc)}
    (h : ∀ desc ∈ unpaired entries, materialize frozen desc = .ok (Resp.materialize frozen desc)) :
    materializeEntries frozen entries = .ok (Resp.materializeEntries frozen entries) := by
  induction entries with
  | nil => rfl
  | cons entry entries ih =>
    obtain ⟨key, value⟩ := entry
    have htail : ∀ desc ∈ unpaired entries,
        materialize frozen desc = .ok (Resp.materialize frozen desc) := fun desc hdesc =>
      h desc (List.mem_cons_of_mem _ (List.mem_cons_of_mem _ hdesc))
    rw [materializeEntries, h key List.mem_cons_self,
      h value (List.mem_cons_of_mem _ List.mem_cons_self), ih htail]
    rfl

/-- The arguments of an inline command, one after the other. -/
lemma mapM_materializeToken (hfrozen : frozen.length < 2 ^ 63) {tokens : List InlineToken}
    (h : ∀ offset len, .slice offset len ∈ tokens → offset + len ≤ frozen.length) :
    tokens.mapM (materializeToken frozen) = .ok (tokens.map (Resp.materializeToken frozen)) := by
  induction tokens with
  | nil => rfl
  | cons token tokens ih =>
    have hhead : materializeToken frozen token = .ok (Resp.materializeToken frozen token) := by
      cases token with
      | slice offset len =>
        rw [materializeToken, sliceOf_eq hfrozen (h offset len List.mem_cons_self)]
        rfl
      | owned bytes => rfl
    rw [List.mapM_cons, hhead,
      ih fun offset len hmem => h offset len (List.mem_cons_of_mem _ hmem)]
    rfl

/-- **Materialization does not panic** on a descriptor whose slices lie inside the bytes taken. -/
lemma materialize_eq (hfrozen : frozen.length < 2 ^ 63) {levels : Nat} {desc : FrameDesc}
    (h : Within frozen.length levels desc) :
    materialize frozen desc = .ok (Resp.materialize frozen desc) := by
  induction h with
  | simpleString h | error h | bulkString h =>
    rw [materialize, sliceOf_eq hfrozen h]
    rfl
  | integer | nullBulk | nullArray | null => rfl
  | array _ ih =>
    rw [materialize, materializeItems_eq ih]
    rfl
  | map _ ih =>
    rw [materialize, materializeEntries_eq ih]
    rfl
  | inlineCommand h =>
    rw [materialize, mapM_materializeToken hfrozen h]
    rfl

end materialization

/-- **Parsing does not panic.** On a buffer that fits in memory every index, range, sum and
difference of the source is good and every loop ends; what is returned is what `Resp.parse`
returns. -/
theorem parse_eq {buf : Bytes} (hbuf : buf.length < 2 ^ 63) :
    parse buf = returned ((Resp.parse buf).1.map fun frame => (frame, (Resp.parse buf).2)) := by
  have hdescribe := describeLevel_returned hbuf maxNestingDepth 0 rfl 0
  rw [parse, hdescribe, Resp.parse, describeFrameAt, Nat.sub_zero]
  rcases hdesc : Resp.describeLevel buf maxNestingDepth 0 0 with e | _ | ⟨desc, consumed⟩
  · rfl
  · rfl
  · obtain ⟨-, hle⟩ := advances_describeLevel buf maxNestingDepth 0 0 desc consumed hdesc
    have hwithin := describesWithin_describeLevel buf maxNestingDepth 0 rfl 0 desc consumed hdesc
    rw [Nat.zero_add] at hle hwithin
    have hlen : (buf.take consumed).length = consumed := List.length_take_of_le hle
    rw [← hlen] at hwithin
    have hslice : slice buf 0 (consumed - 0) = buf.take consumed := by
      rw [slice, List.drop_zero, Nat.sub_zero]
    simp only [returned, bind, Except.bind]
    rw [range_of_le (Nat.zero_le _) hle, hslice]
    simp only
    rw [materialize_eq (by omega) hwithin]
    rfl

end Checked

/-! ## Safety -/

/-- **Parser safety.** On every buffer the parser ends in one of three ways. A frame takes at least
one byte and none beyond the buffer, its slices lie inside what it takes and it nests within the
limit; without a frame the buffer is left as it was. Every line it cuts out ends inside the
buffer, and from the last level it descends no further: what a deeper call would return does not
matter. Run with its panics, on a buffer no longer than an allocation can be, it comes to the same
outcome. -/
theorem parse_safe (buf : Bytes) :
    ((∃ desc consumed, 0 < consumed ∧ consumed ≤ buf.length ∧
          Within consumed maxNestingDepth desc ∧
          parse buf = (.ok (some (materialize (buf.take consumed) desc)), buf.drop consumed)) ∨
        parse buf = (.ok none, buf) ∨ ∃ e, parse buf = (.error e, buf)) ∧
      (∀ idx lineStart lineLen lineConsumed,
        parseLineOffsets buf idx = some (lineStart, lineLen, lineConsumed) →
          lineStart + lineLen + 2 ≤ buf.length) ∧
      (∀ inner inner' idx depth, maxNestingDepth ≤ depth →
        describeStep inner buf idx depth = describeStep inner' buf idx depth) ∧
      (buf.length < 2 ^ 63 → Checked.parse buf =
        Checked.returned ((parse buf).1.map fun frame => (frame, (parse buf).2))) := by
  refine ⟨?_, ?_, ?_, Checked.parse_eq⟩
  · rcases hdesc : describeFrameAt buf 0 0 with e | _ | ⟨desc, consumed⟩
    · exact Or.inr (Or.inr ⟨e, by rw [parse, hdesc]⟩)
    · exact Or.inr (Or.inl (by rw [parse, hdesc]))
    · obtain ⟨hpos, hle⟩ := advances_describeFrameAt buf 0 0 desc consumed hdesc
      have hwithin := describesWithin_describeLevel buf maxNestingDepth 0 rfl 0 desc consumed hdesc
      rw [Nat.zero_add] at hle hwithin
      exact Or.inl ⟨desc, consumed, hpos, hle, hwithin, by rw [parse, hdesc]⟩
  · intro idx lineStart lineLen lineConsumed hline
    obtain ⟨rfl, -, hle⟩ := parseLineOffsets_eq_some hline
    exact hle
  · intro inner inner' idx depth hdepth
    exact describeStep_of_maxNestingDepth_le inner inner' buf idx hdepth

/-- A request whose two lengths, payload and terminators are all read. -/
theorem parse_safe_ping :
    (ascii "*1\r\n$4\r\nPING\r\n").length < 2 ^ 63 ∧
      Checked.parse (ascii "*1\r\n$4\r\nPING\r\n") =
        .ok (some (.array [.bulkString (some (ascii "PING"))]), []) :=
  ⟨by decide, (parse_safe _).2.2.2 (by decide)⟩

end Ratatosk.Resp
