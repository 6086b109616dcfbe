import Ratatosk.Resp.Requests
import Ratatosk.Resp.Safety

/-!
# Writing inline commands

How a client writes arguments on one line, and that `split_inline_args` takes the line apart
again.

* `WritesByte`, `WritesArg` — an argument in double quotes, each byte as it is or escaped in any of
  the ways there are, in single quotes, or bare, where these can show it.
* `inline_round_trip` — **a written line is split into the arguments it was written from**, every
  list of arguments can be written, and the splitter ends on every line.
-/

namespace Ratatosk.Resp

open Lib List

/-! ## Written arguments -/

/-- What may follow a backslash in double quotes besides `x`: `n`, `r`, `t`, `b`, `a`, a backslash
and a quote. -/
def shortEscapes : List UInt8 := [110, 114, 116, 98, 97, 92, 34]

/-- A byte inside double quotes. -/
inductive WritesByte : UInt8 → Bytes → Prop where
  | raw {b : UInt8} (h : b ∉ [34, 92, 10]) : WritesByte b [b]
  | short {e : UInt8} (h : e ∈ shortEscapes) : WritesByte (unescape e) [92, e]
  | hex {high low : UInt8} (hhigh : isHexDigit high = true) (hlow : isHexDigit low = true) :
      WritesByte (hexValue high <<< 4 ||| hexValue low) [92, 120, high, low]

/-- A byte inside single quotes. -/
def singleQuoted (b : UInt8) : Bytes := if b = 39 then [92, 39] else [b]

/-- An argument and its text. Single quotes cannot show a line feed, or a backslash at the end,
which would be taken for an escape of the closing quote. -/
inductive WritesArg : Bytes → Bytes → Prop where
  | double {arg : Bytes} {pieces : List Bytes} (h : List.Forall₂ WritesByte arg pieces) :
      WritesArg arg (34 :: pieces.flatten ++ [34])
  | single {arg : Bytes} (hline : 10 ∉ arg) (hlast : arg.getLast? ≠ some 92) :
      WritesArg arg (39 :: arg.flatMap singleQuoted ++ [39])
  | bare {first : UInt8} {rest : Bytes} (hfirst : isCSpace first = false)
      (h : ∀ b ∈ first :: rest, b ∉ [32, 10, 13, 9, 34, 39]) :
      WritesArg (first :: rest) (first :: rest)

/-- Arguments on a line. -/
inductive WritesLine : List Bytes → Bytes → Prop where
  | nil (spaces : Nat) : WritesLine [] (List.replicate spaces 32)
  | cons {arg text : Bytes} {args : List Bytes} {line : Bytes} (spaces : Nat)
      (harg : WritesArg arg text) (hargs : WritesLine args line) (hsep : line.head?.all (· = 32)) :
      WritesLine (arg :: args) (List.replicate spaces 32 ++ (text ++ line))

/-! ## Scanning an argument -/

section scan

variable {arg text rest : Bytes}

lemma closesArgument_of_sep (h : rest.head?.all (· = 32)) : closesArgument rest = true := by
  cases rest with
  | nil => rfl
  | cons b rest =>
    obtain rfl : b = 32 := by simpa using h
    rfl

lemma scanArgument_double (seen : Bytes) (owned : Option Bytes) {pieces : List Bytes}
    (h : List.Forall₂ WritesByte arg pieces) (hrest : closesArgument rest = true) :
    scanArgument .double seen owned (pieces.flatten ++ 34 :: rest) =
      .ok (some (owned.getD [] ++ arg), rest) := by
  induction h generalizing owned with
  | nil => simp [scanArgument, hrest]
  | cons hbyte _ ih =>
    rw [flatten_cons, append_assoc]
    cases hbyte with
    | raw h =>
      simp only [mem_cons, not_mem_nil, or_false, not_or] at h
      simp [scanArgument, h, ih]
    | short h =>
      simp only [shortEscapes, mem_cons, not_mem_nil, or_false] at h
      rcases h with rfl | rfl | rfl | rfl | rfl | rfl | rfl <;> simp [scanArgument, ih]
    | hex hhigh hlow => simp [scanArgument, hhigh, hlow, ih]

lemma scanArgument_single (seen : Bytes) (owned : Option Bytes) (hlast : arg.getLast? ≠ some 92)
    (hrest : closesArgument rest = true) :
    scanArgument .single seen owned (arg.flatMap singleQuoted ++ 39 :: rest) =
      .ok (some (owned.getD [] ++ arg), rest) := by
  induction arg generalizing owned with
  | nil => simp [scanArgument, hrest]
  | cons b arg ih =>
    have hlast' : arg.getLast? ≠ some 92 := by
      cases arg with
      | nil => simp
      | cons c arg => simpa using hlast
    rw [flatMap_cons, append_assoc, singleQuoted]
    split_ifs with hb
    · subst hb
      simp [scanArgument, ih _ hlast']
    · -- a backslash is not the last byte, so no quote follows it
      have hnext : ∀ tail, b = 92 → arg.flatMap singleQuoted ++ 39 :: rest = 39 :: tail → False := by
        rintro tail rfl htail
        cases arg with
        | nil => exact hlast rfl
        | cons c arg =>
          rw [flatMap_cons, singleQuoted] at htail
          split_ifs at htail with hc <;> simp_all
      rw [singleton_append, scanArgument]
      · rw [if_neg hb, ih _ hlast']
        simp
      · exact hnext

lemma scanArgument_bare (seen : Bytes) (h : ∀ b ∈ arg, b ∉ [32, 10, 13, 9, 34, 39])
    (hsep : rest.head?.all (· = 32)) :
    scanArgument .plain seen none (arg ++ rest) = .ok (none, rest) := by
  induction arg generalizing seen with
  | nil =>
    cases rest with
    | nil => rfl
    | cons b rest =>
      obtain rfl : b = 32 := by simpa using hsep
      rfl
  | cons b arg ih =>
    obtain ⟨hb, harg⟩ := forall_mem_cons.mp h
    simp only [mem_cons, not_mem_nil, or_false, not_or] at hb
    simp [scanArgument, hb, ih _ harg]

/-- A written argument is scanned to its end, and is rewritten or the bytes themselves. -/
lemma scanArgument_written (h : WritesArg arg text) (hsep : rest.head?.all (· = 32)) :
    ∃ owned, scanArgument .plain [] none (text ++ rest) = .ok (owned, rest) ∧
      (owned = some arg ∨ owned = none ∧ text = arg) := by
  have hrest := closesArgument_of_sep hsep
  cases h with
  | double h =>
    refine ⟨some arg, ?_, .inl rfl⟩
    simpa [scanArgument] using scanArgument_double [34] (some []) h hrest
  | single hline hlast =>
    refine ⟨some arg, ?_, .inl rfl⟩
    simpa [scanArgument] using scanArgument_single [39] (some []) hlast hrest
  | bare hfirst h => exact ⟨none, scanArgument_bare [] h hsep, .inr ⟨rfl, rfl⟩⟩

end scan

/-! ## Splitting a line -/

section split

variable {args : List Bytes} {arg text line : Bytes}

lemma WritesArg.text_eq_cons (h : WritesArg arg text) :
    ∃ first tail, text = first :: tail ∧ isCSpace first = false := by
  cases h with
  | double h => exact ⟨34, _, rfl, rfl⟩
  | single hline hlast => exact ⟨39, _, rfl, rfl⟩
  | bare hfirst h => exact ⟨_, _, rfl, hfirst⟩

lemma not_mem_pieces {pieces : List Bytes} (h : List.Forall₂ WritesByte arg pieces) :
    10 ∉ pieces.flatten := by
  induction h with
  | nil => exact not_mem_nil
  | cons hbyte _ ih =>
    rw [flatten_cons, mem_append, not_or]
    refine ⟨?_, ih⟩
    cases hbyte with
    | raw h =>
      rw [mem_singleton]
      rintro rfl
      exact h (by decide)
    | short h =>
      simp only [mem_cons, not_mem_nil, or_false]
      rintro (hback | rfl)
      · cases hback
      · exact absurd h (by decide)
    | hex hhigh hlow =>
      intro hmem
      simp only [mem_cons, not_mem_nil, or_false] at hmem
      rcases hmem with h | h | rfl | rfl
      · cases h
      · cases h
      · cases hhigh
      · cases hlow

/-- The text of an argument stays on its line, and does not end in a carriage return. -/
lemma WritesArg.on_line (h : WritesArg arg text) : 10 ∉ text ∧ text.getLast? ≠ some 13 := by
  cases h with
  | double h =>
    rw [getLast?_concat]
    exact ⟨by simpa using not_mem_pieces h, by decide⟩
  | single hline hlast =>
    rw [getLast?_concat]
    refine ⟨?_, by decide⟩
    simp only [cons_append, mem_cons, mem_append, mem_flatMap, singleQuoted]
    rintro (h | ⟨b, hb, hmem⟩ | h)
    · cases h
    · split_ifs at hmem
      · simp at hmem
      · exact hline (mem_singleton.mp hmem ▸ hb)
    · simp at h
  | bare hfirst h =>
    exact ⟨fun hmem => h 10 hmem (by decide),
      fun hlast => h 13 (mem_of_getLast? hlast) (by decide)⟩

lemma WritesLine.on_line (h : WritesLine args line) : 10 ∉ line ∧ line.getLast? ≠ some 13 := by
  induction h with
  | nil spaces =>
    exact ⟨fun h => absurd (eq_of_mem_replicate h) (by decide),
      fun h => absurd (eq_of_mem_replicate (mem_of_getLast? h)) (by decide)⟩
  | @cons arg text args line spaces harg _ _ ih =>
    obtain ⟨hline, hlast⟩ := harg.on_line
    obtain ⟨first, tail, rfl, -⟩ := harg.text_eq_cons
    refine ⟨by simp_all, ?_⟩
    rw [getLast?_append_of_ne_nil _ (by simp)]
    by_cases hnil : line = []
    · rw [hnil, append_nil]
      exact hlast
    · rw [getLast?_append_of_ne_nil _ hnil]
      exact ih.2

lemma dropWhile_spaces (spaces : Nat) (rest : Bytes) :
    (List.replicate spaces 32 ++ rest).dropWhile isCSpace = rest.dropWhile isCSpace := by
  apply dropWhile_append_of_pos
  intro b hb
  rw [eq_of_mem_replicate hb]
  rfl

/-- A written line is split into tokens that show its arguments, wherever it stands. -/
lemma splitInlineArgs_written (h : WritesLine args line) (before behind : Bytes) {fuel : Nat}
    (hfuel : line.length < fuel) :
    ∃ tokens, splitInlineArgs (before ++ line).length fuel line = .ok tokens ∧
      tokens.map (materializeToken (before ++ line ++ behind)) =
        args.map fun arg => .bulkString (some arg) := by
  induction h generalizing before fuel with
  | nil spaces =>
    obtain ⟨fuel, rfl⟩ := Nat.exists_eq_succ_of_ne_zero (Nat.ne_zero_of_lt hfuel)
    refine ⟨[], ?_, rfl⟩
    have hdrop := dropWhile_spaces spaces []
    rw [append_nil] at hdrop
    simp [splitInlineArgs, hdrop]
  | @cons arg text args line spaces harg _ hsep ih =>
    obtain ⟨fuel, rfl⟩ := Nat.exists_eq_succ_of_ne_zero (Nat.ne_zero_of_lt hfuel)
    obtain ⟨owned, hscan, hshown⟩ := scanArgument_written harg hsep
    obtain ⟨first, tail, htext, hfirst⟩ := harg.text_eq_cons
    have hdrop : (List.replicate spaces 32 ++ (text ++ line)).dropWhile isCSpace = text ++ line := by
      rw [dropWhile_spaces, htext, cons_append, dropWhile_cons_of_neg (by simp [hfirst])]
    have hne : text ++ line ≠ [] := by simp [htext]
    have hlength : line.length < fuel := by
      simp [htext] at hfuel
      omega
    obtain ⟨tokens, htokens, hmap⟩ := ih (before ++ (List.replicate spaces 32 ++ text)) hlength
    simp only [append_assoc] at htokens hmap ⊢
    rcases hshown with rfl | ⟨rfl, rfl⟩
    · refine ⟨.owned arg :: tokens, ?_, ?_⟩
      · simp only [splitInlineArgs, hdrop, if_neg hne, hscan, htokens, bind, Except.bind]
        rfl
      · rw [map_cons, hmap]
        rfl
    · have hoffset : (before ++ (List.replicate spaces 32 ++ (text ++ line))).length -
          (text ++ line).length = before.length + spaces := by
        simp only [length_append, length_replicate]
        omega
      have htaken : (text ++ line).length - line.length = text.length := by simp
      have hdata : (before ++ (List.replicate spaces 32 ++ (text ++ (line ++ behind)))).drop
          (before.length + spaces) = text ++ (line ++ behind) := by
        rw [← append_assoc before, drop_left' (by simp)]
      refine ⟨.slice (before.length + spaces) text.length :: tokens, ?_, ?_⟩
      · simp only [splitInlineArgs, hdrop, if_neg hne, hscan, htokens, bind, Except.bind, hoffset,
          htaken]
        rfl
      · rw [map_cons, hmap, materializeToken, slice_of_drop_eq_append hdata]
        rfl

end split

/-! ## The line as a command -/

section command

variable {args : List Bytes} {line : Bytes}

lemma describeInlineCommand_written (h : WritesLine args line) (rest : Bytes) :
    ∃ tokens, describeInlineCommand (line ++ 10 :: rest) 0 =
        .ok (some (.inlineCommand tokens, line.length + 1)) ∧
      materialize ((line ++ 10 :: rest).take (line.length + 1)) (.inlineCommand tokens) =
        bulkArray args := by
  obtain ⟨hline, hlast⟩ := h.on_line
  obtain ⟨tokens, htokens, hmap⟩ := splitInlineArgs_written h [] [10] (Nat.lt_succ_self _)
  have hnewline : memchr 10 ((line ++ 10 :: rest).drop 0) = some line.length :=
    memchr_append_cons hline
  have hend : inlineEnd (line ++ 10 :: rest) 0 line.length = line.length := by
    rw [inlineEnd, Nat.zero_add, if_neg]
    rintro ⟨hpos, hcr⟩
    rw [getElem?_append_left (Nat.sub_one_lt_of_lt hpos), ← getLast?_eq_getElem?] at hcr
    exact hlast hcr
  have hslice : slice (line ++ 10 :: rest) 0 line.length = line := slice_of_drop_eq_append rfl
  refine ⟨tokens, ?_, ?_⟩
  · simp only [describeInlineCommand, hnewline]
    rw [← inlineEnd, hend, Nat.sub_zero, hslice]
    rw [nil_append] at htokens
    rw [htokens]
    rfl
  · have htake : (line ++ 10 :: rest).take (line.length + 1) = [] ++ line ++ [10] := by
      simp [take_append]
    rw [htake, materialize, hmap, bulkArray]

lemma exists_writesByte (b : UInt8) : ∃ piece, WritesByte b piece := by
  by_cases h : b ∈ [34, 92, 10]
  · simp only [mem_cons, not_mem_nil, or_false] at h
    rcases h with rfl | rfl | rfl
    · exact ⟨_, .short (e := 34) (by decide)⟩
    · exact ⟨_, .short (e := 92) (by decide)⟩
    · exact ⟨_, .short (e := 110) (by decide)⟩
  · exact ⟨_, .raw h⟩

/-- Every argument can be written in double quotes. -/
lemma exists_writesArg (arg : Bytes) : ∃ text, WritesArg arg text := by
  obtain ⟨pieces, h⟩ : ∃ pieces, List.Forall₂ WritesByte arg pieces := by
    induction arg with
    | nil => exact ⟨[], .nil⟩
    | cons b arg ih =>
      obtain ⟨piece, hbyte⟩ := exists_writesByte b
      obtain ⟨pieces, h⟩ := ih
      exact ⟨piece :: pieces, .cons hbyte h⟩
  exact ⟨_, .double h⟩

lemma exists_writesLine (args : List Bytes) :
    ∃ line, WritesLine args line ∧ line.head?.all (· = 32) := by
  induction args with
  | nil => exact ⟨[], .nil 0, rfl⟩
  | cons arg args ih =>
    obtain ⟨line, hline, hsep⟩ := ih
    obtain ⟨text, harg⟩ := exists_writesArg arg
    exact ⟨_, .cons 1 harg hline hsep, rfl⟩

/-- **Inline commands.** A line written from arguments, each in double quotes, in single quotes or
bare, is split into these arguments; every list of arguments can be written; and the splitter ends
on every line, with any fuel over the length of the line. -/
theorem inline_round_trip :
    (∀ args line, WritesLine args line → ∀ rest, ∃ tokens,
      describeInlineCommand (line ++ 10 :: rest) 0 =
        .ok (some (.inlineCommand tokens, line.length + 1)) ∧
      materialize ((line ++ 10 :: rest).take (line.length + 1)) (.inlineCommand tokens) =
        bulkArray args) ∧
    (∀ args, ∃ line, WritesLine args line) ∧
    ∀ endIdx line fuel fuel', line.length < fuel → line.length < fuel' →
      splitInlineArgs endIdx fuel line = splitInlineArgs endIdx fuel' line := by
  refine ⟨fun args line h rest => describeInlineCommand_written h rest, ?_, ?_⟩
  · intro args
    obtain ⟨line, hline, -⟩ := exists_writesLine args
    exact ⟨line, hline⟩
  · exact fun endIdx line fuel fuel' => splitInlineArgs_fuel endIdx

end command

end Ratatosk.Resp
