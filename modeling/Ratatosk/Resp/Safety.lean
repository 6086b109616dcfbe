import Ratatosk.Resp.Accepted

/-!
# The parser stays inside its buffer

* `length_scanArgument_lt` — an argument of an inline command takes at least one byte, so the
  splitter ends on every line (`splitInlineArgs_fuel`).
* `describesWithin_describeLevel` — **what is described ends inside the bytes it takes**, and nests
  within the limit.
-/

namespace Ratatosk.Resp

open Lib

/-! ## Inline arguments -/

section arguments

/-- Scanning moves forward. -/
lemma length_scanArgument_le {quote : Quote} {seen bytes after : Bytes} {owned owned' : Option Bytes}
    (h : scanArgument quote seen owned bytes = .ok (owned', after)) :
    after.length ≤ bytes.length := by
  fun_induction scanArgument quote seen owned bytes <;> grind

/-- An argument takes at least its first byte. -/
lemma length_scanArgument_lt {line after : Bytes} {owned : Option Bytes}
    (hline : line.dropWhile isCSpace ≠ [])
    (h : scanArgument .plain [] none (line.dropWhile isCSpace) = .ok (owned, after)) :
    after.length < line.length := by
  have hle : (line.dropWhile isCSpace).length ≤ line.length :=
    (List.dropWhile_suffix isCSpace).length_le
  cases hrest : line.dropWhile isCSpace with
  | nil => exact absurd hrest hline
  | cons byte rest =>
    have hbyte : ¬ isCSpace byte := by
      have := List.head_dropWhile_not isCSpace hline
      simpa [hrest] using this
    have hspace : ¬ (byte = 32 ∨ byte = 10 ∨ byte = 13 ∨ byte = 9) := by
      rintro (rfl | rfl | rfl | rfl) <;> exact hbyte rfl
    rw [hrest, List.length_cons] at hle
    rw [hrest, scanArgument, if_neg hspace] at h
    split_ifs at h <;> exact (length_scanArgument_le h).trans_lt hle

/-- **The splitter ends on every line.** With more fuel than bytes it is never cut off. -/
theorem splitInlineArgs_fuel (endIdx : Nat) {fuel fuel' : Nat} {line : Bytes}
    (h : line.length < fuel) (h' : line.length < fuel') :
    splitInlineArgs endIdx fuel line = splitInlineArgs endIdx fuel' line := by
  induction fuel generalizing fuel' line with
  | zero => omega
  | succ fuel ih =>
    obtain ⟨fuel', rfl⟩ : ∃ n, fuel' = n + 1 := ⟨fuel' - 1, by omega⟩
    simp only [splitInlineArgs]
    split_ifs with hend
    · rfl
    · rcases hscan : scanArgument .plain [] none (line.dropWhile isCSpace) with e | ⟨owned, after⟩
      · rfl
      · have hlt := length_scanArgument_lt hend hscan
        simp only [bind, Except.bind]
        rw [ih (by omega : after.length < fuel) (by omega : after.length < fuel')]

/-- The slices of an inline command lie inside its line. -/
lemma slice_le_of_splitInlineArgs {endIdx fuel : Nat} {line : Bytes} {tokens : List InlineToken}
    (hline : line.length ≤ endIdx) (h : splitInlineArgs endIdx fuel line = .ok tokens)
    {offset len : Nat} (hmem : .slice offset len ∈ tokens) : offset + len ≤ endIdx := by
  induction fuel generalizing line tokens with
  | zero =>
    cases h
    cases hmem
  | succ fuel ih =>
    have hle : (line.dropWhile isCSpace).length ≤ line.length :=
      (List.dropWhile_suffix isCSpace).length_le
    simp only [splitInlineArgs] at h
    split_ifs at h with hend
    · cases h
      cases hmem
    · rcases hscan : scanArgument .plain [] none (line.dropWhile isCSpace) with e | ⟨owned, after⟩
      · rw [hscan] at h
        cases h
      · have hlt := length_scanArgument_lt hend hscan
        rw [hscan] at h
        rcases htail : splitInlineArgs endIdx fuel after with e | rest
        · simp only [bind, Except.bind, htail] at h
          cases h
        · simp only [bind, Except.bind, htail] at h
          cases h
          rcases List.mem_cons.mp hmem with hhead | hrest
          · cases owned with
            | none =>
              cases hhead
              omega
            | some bytes => cases hhead
          · exact ih (by omega) htail hrest

end arguments

/-! ## Descriptors -/

/-- Every slice of a descriptor ends at or before `limit`, and `levels` bounds the arrays and maps
nested in each other. -/
inductive Within (limit : Nat) : (levels : Nat) → FrameDesc → Prop where
  | simpleString {levels offset len : Nat} (h : offset + len ≤ limit) :
      Within limit levels (.simpleString offset len)
  | error {levels offset len : Nat} (h : offset + len ≤ limit) :
      Within limit levels (.error offset len)
  | integer {levels : Nat} (v : Int64) : Within limit levels (.integer v)
  | bulkString {levels offset len : Nat} (h : offset + len ≤ limit) :
      Within limit levels (.bulkString offset len)
  | nullBulk {levels : Nat} : Within limit levels .nullBulk
  | array {levels : Nat} {descs : List FrameDesc} (h : ∀ desc ∈ descs, Within limit levels desc) :
      Within limit (levels + 1) (.array descs)
  | map {levels : Nat} {entries : List (FrameDesc × FrameDesc)}
      (h : ∀ desc ∈ unpaired entries, Within limit levels desc) :
      Within limit (levels + 1) (.map entries)
  | nullArray {levels : Nat} : Within limit (levels + 1) .nullArray
  | null {levels : Nat} : Within limit levels .null
  | inlineCommand {levels : Nat} {tokens : List InlineToken}
      (h : ∀ offset len, .slice offset len ∈ tokens → offset + len ≤ limit) :
      Within limit levels (.inlineCommand tokens)

section within

variable {inner : Nat → Described} {data : Bytes}

lemma Within.mono {limit limit' levels : Nat} {desc : FrameDesc} (h : Within limit levels desc)
    (hle : limit ≤ limit') : Within limit' levels desc := by
  induction h with
  | simpleString h => exact .simpleString (h.trans hle)
  | error h => exact .error (h.trans hle)
  | integer v => exact .integer v
  | bulkString h => exact .bulkString (h.trans hle)
  | nullBulk => exact .nullBulk
  | array _ ih => exact .array ih
  | map _ ih => exact .map ih
  | nullArray => exact .nullArray
  | null => exact .null
  | inlineCommand h => exact .inlineCommand fun offset len hmem => (h offset len hmem).trans hle

/-- What `inner` describes ends inside the bytes it takes. -/
def DescribesWithin (inner : Nat → Described) (levels : Nat) : Prop :=
  ∀ cur desc consumed, inner cur = .ok (some (desc, consumed)) →
    Within (cur + consumed) levels desc

lemma within_of_describeItems (hadvances : Advances inner data) {levels : Nat}
    (hinner : DescribesWithin inner levels) {len cur cur' : Nat} {descs : List FrameDesc}
    (hcur : cur ≤ data.length) (h : describeItems inner len cur = .ok (some (descs, cur'))) :
    ∀ desc ∈ descs, Within cur' levels desc :=
  (forall_mem_of_describeItems hadvances
    (fun cur desc consumed h hle => (hinner cur desc consumed h).mono hle) hcur le_rfl h).2

lemma Accepts.within {idx depth consumed levels : Nat} {desc : FrameDesc}
    (hadvances : Advances inner data)
    (hinner : depth < maxNestingDepth → ∃ n, levels = n + 1 ∧ DescribesWithin inner n)
    (h : Accepts inner data idx depth desc consumed) : Within (idx + consumed) levels desc := by
  cases h with
  | simpleString hend hplain => exact .simpleString (by omega)
  | error hend hplain => exact .error (by omega)
  | integer v hend => exact .integer v
  | nullBulk hend => exact .nullBulk
  | bulkString hlen hend => exact .bulkString (by omega)
  | nullArray hdepth hend =>
    obtain ⟨n, rfl, -⟩ := hinner hdepth
    exact .nullArray
  | array hdepth hend hlen hitems =>
    obtain ⟨n, rfl, hwithin⟩ := hinner hdepth
    obtain ⟨hle, -⟩ := describeItems_advances hadvances hend hitems
    rw [Nat.add_sub_of_le (by omega)]
    exact .array (within_of_describeItems hadvances hwithin hend hitems)
  | map hdepth hend hlen hentries =>
    obtain ⟨n, rfl, hwithin⟩ := hinner hdepth
    have hitems := describeItems_of_entries hentries
    obtain ⟨hle, -⟩ := describeItems_advances hadvances hend hitems
    rw [Nat.add_sub_of_le (by omega)]
    exact .map (within_of_describeItems hadvances hwithin hend hitems)
  | null hend => exact .null
  | @inlineCommand newline tokens hdepth hinline hnewline htokens =>
    refine .inlineCommand fun offset len hmem => ?_
    have hend : inlineEnd data idx newline ≤ idx + newline := by
      unfold inlineEnd
      split_ifs <;> omega
    have hline : (slice data idx (inlineEnd data idx newline - idx)).length ≤
        inlineEnd data idx newline := by
      rw [slice, List.length_take]
      omega
    have := slice_le_of_splitInlineArgs hline htokens hmem
    omega

/-- What is described ends inside the bytes it takes, and uses only the levels left. -/
theorem describesWithin_describeLevel (data : Bytes) (levels depth : Nat)
    (h : levels + depth = maxNestingDepth) :
    DescribesWithin (fun cur => describeLevel data levels cur depth) levels := by
  induction levels generalizing depth with
  | zero =>
    intro idx desc consumed hdesc
    have hinner : Advances (fun _ => .ok none) data := by
      intro cur desc consumed h
      cases h
    exact (accepts_of_describeStep hdesc).within hinner (by omega)
  | succ levels ih =>
    intro idx desc consumed hdesc
    exact (accepts_of_describeStep hdesc).within (advances_describeLevel data levels (depth + 1))
      fun _ => ⟨levels, rfl, ih (depth + 1) (by omega)⟩

end within

end Ratatosk.Resp
