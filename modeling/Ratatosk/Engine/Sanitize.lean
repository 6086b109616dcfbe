import Ratatosk.Lib.Numeral

/-!
# Error texts

`sanitize_error_message` of `ratatosk-engine/src/security.rs`, through which the engine passes the
text of an error before it replies it: the home directory is replaced, what looks like a token or a
key is redacted, and the text is cut.

* `isPlain` — a text in which none of this finds anything, wherever the home directory is:
  `sanitizeErrorMessage_of_isPlain`. The texts that the engine itself writes are plain.
-/

namespace Ratatosk.Engine

open Lib

/-! ## The three passes -/

/-- `str::replace`: each occurrence, from left to right. The number is of the bytes still to skip of
the last one. -/
def replaceAll (pattern replacement : Bytes) : Nat → Bytes → Bytes
  | _, [] => []
  | skip + 1, _ :: rest => replaceAll pattern replacement skip rest
  | 0, byte :: rest =>
    if pattern.isPrefixOf (byte :: rest) then
      replacement ++ replaceAll pattern replacement (pattern.length - 1) rest
    else byte :: replaceAll pattern replacement 0 rest

/-- Source: `replace_home` -/
def replaceHome (home : Option Bytes) (text : Bytes) : Bytes :=
  match home with
  | none => text
  | some home => if home.isEmpty then text else replaceAll home (ascii "$HOME") 0 text

/-- `u8::is_ascii_alphanumeric`. -/
def isAsciiAlphanumeric (byte : UInt8) : Bool :=
  (48 ≤ byte && byte ≤ 57) || (65 ≤ byte && byte ≤ 90) || (97 ≤ byte && byte ≤ 122)

/-- Source: `TOKEN_PREFIXES` -/
def tokenPrefixes : List Bytes := ["ghp_", "sk-", "npm_", "xox", "AKIA"].map ascii

/-- Source: `REDACTED` -/
def redacted : Bytes := ascii "[REDACTED]"

/-- The length of a token that the text starts with.
Source: `prefixed_token_end`, `is_token_char` -/
def prefixedTokenLength (text : Bytes) : Option Nat :=
  (tokenPrefixes.find? fun start => start.isPrefixOf text).map fun start =>
    start.length + ((text.drop start.length).takeWhile fun byte =>
      isAsciiAlphanumeric byte || byte == 95 || byte == 45).length

/-- The number is of the bytes still to skip of a token or word.
Source: `redact_sensitive_text` -/
def redactSensitiveText : Nat → Bytes → Bytes
  | _, [] => []
  | skip + 1, _ :: rest => redactSensitiveText skip rest
  | 0, byte :: rest =>
    match prefixedTokenLength (byte :: rest) with
    | some length => redacted ++ redactSensitiveText (length - 1) rest
    | none =>
      if isAsciiAlphanumeric byte then
        let word := (byte :: rest).takeWhile isAsciiAlphanumeric
        (if 20 ≤ word.length then redacted else word) ++
          redactSensitiveText (word.length - 1) rest
      else byte :: redactSensitiveText 0 rest

/-- So many characters of a text; a character is a byte and the continuation bytes after it.
Source: `truncate_chars` -/
def truncateChars : Nat → Bytes → Bytes
  | _, [] => []
  | n, byte :: rest =>
    if 0x80 ≤ byte ∧ byte < 0xC0 then byte :: truncateChars n rest
    else match n with
      | 0 => []
      | n + 1 => byte :: truncateChars n rest

/-- Source: `sanitize_error_message` -/
def sanitizeErrorMessage (home : Option Bytes) (text : Bytes) : Bytes :=
  truncateChars 256 (redactSensitiveText 0 (replaceHome home text))

/-! ## Plain texts -/

/-- A short ASCII text without a slash in which nothing is redacted. -/
def isPlain (text : Bytes) : Bool :=
  (text.all fun byte => byte < 0x80 && byte != 47) && text.length ≤ 256 &&
    redactSensitiveText 0 text == text

lemma ascii_of_isPlain {text : Bytes} (h : isPlain text = true) : ∀ byte ∈ text, byte < 0x80 := by
  intro byte hbyte
  rw [isPlain, Bool.and_eq_true, Bool.and_eq_true, List.all_eq_true] at h
  have hboth := h.1.1 byte hbyte
  rw [Bool.and_eq_true] at hboth
  exact of_decide_eq_true hboth.1

/-- A pattern with a byte that the text does not have is not found. -/
lemma replaceAll_of_not_mem {pattern : Bytes} (replacement : Bytes) {c : UInt8} (hc : c ∈ pattern)
    {text : Bytes} (htext : c ∉ text) : replaceAll pattern replacement 0 text = text := by
  induction text with
  | nil => rfl
  | cons byte rest ih =>
    have hnot : ¬ pattern.isPrefixOf (byte :: rest) = true := by
      intro hfound
      obtain ⟨after, happend⟩ := List.isPrefixOf_iff_prefix.mp hfound
      refine htext ?_
      rw [← happend]
      exact List.mem_append_left _ hc
    rw [replaceAll, if_neg hnot, ih fun h => htext (List.mem_cons_of_mem _ h)]

lemma truncateChars_of_ascii {text : Bytes} (hascii : ∀ byte ∈ text, byte < 0x80) {n : Nat}
    (hlength : text.length ≤ n) : truncateChars n text = text := by
  induction text generalizing n with
  | nil => rw [truncateChars]
  | cons byte rest ih =>
    obtain ⟨hbyte, hrest⟩ := List.forall_mem_cons.mp hascii
    have hnot : ¬ (0x80 ≤ byte ∧ byte < 0xC0) := fun h => UInt8.not_le.mpr hbyte h.1
    cases n with
    | zero => cases hlength
    | succ n =>
      rw [truncateChars, if_neg hnot, ih hrest (Nat.le_of_succ_le_succ hlength)]

/-- **A plain text is replied as it is**, if the home directory is empty or a path with a slash. -/
theorem sanitizeErrorMessage_of_isPlain {home : Option Bytes}
    (hhome : ∀ dir ∈ home, dir = [] ∨ 47 ∈ dir) {text : Bytes} (h : isPlain text = true) :
    sanitizeErrorMessage home text = text := by
  have hascii := ascii_of_isPlain h
  rw [isPlain, Bool.and_eq_true, Bool.and_eq_true, List.all_eq_true, decide_eq_true_iff,
    beq_iff_eq] at h
  obtain ⟨⟨hbytes, hlength⟩, hredact⟩ := h
  have hslash : (47 : UInt8) ∉ text := by
    intro hmem
    have hboth := hbytes 47 hmem
    revert hboth
    decide
  have hreplace : replaceHome home text = text := by
    unfold replaceHome
    split
    · rfl
    · next dir =>
        split_ifs with hempty
        · rfl
        · rw [List.isEmpty_iff] at hempty
          exact replaceAll_of_not_mem _ ((hhome dir rfl).resolve_left hempty) hslash
  rw [sanitizeErrorMessage, hreplace, hredact, truncateChars_of_ascii hascii hlength]

end Ratatosk.Engine
