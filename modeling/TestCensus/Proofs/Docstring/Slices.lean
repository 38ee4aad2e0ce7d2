import Mathlib.Data.List.TakeWhile
import TestCensus.Docstring.Slices
import TestCensus.Proofs.Docstring.Quotes

/-!
# Literals are decoded exactly

A text literal is read from left to right: its content ends at the first quotes that no backslash
protects (`IsBody`).  `literalValue?` does not read a literal so.  It looks at both ends only, and
still it answers the content, since quotes cannot begin the content of a literal between them.
A letter that makes the literal bytes or formatted leaves it without content.

*Bytes.*  The offset of the first quote is that of the text before it, and a delimiter at both ends
of a body leaves what stands between the two (`exists_between_iff`), so every cut of `slicedValue?`
is at the edge of a character (`slicedValue?_eq`).
-/

namespace TestCensus.Docstring

open TestCensus.Text

variable {delimiter quotes letters body content : List Char}

/-! ## Bodies -/

/-- Whether a backslash protects the character behind a text, if `escaped` says it of the first
character of the text. -/
def escapedAfter (escaped : Bool) : List Char → Bool
  | [] => escaped
  | c :: rest => escapedAfter (!escaped && c == '\\') rest

/-- Quotes that no backslash protects begin only where the text ends with them. -/
def OnlyAtEnd (quotes : List Char) (escaped : Bool) (text : List Char) : Prop :=
  ∀ before after, text = before ++ quotes ++ after → escapedAfter escaped before = false →
    after = []

/-- The content of a literal between quotes. -/
structure IsBody (quotes content : List Char) : Prop where
  /-- The first quotes that no backslash protects are those behind the content. -/
  first : OnlyAtEnd quotes false (content ++ quotes)
  /-- The content does not end with a backslash that protects what follows it. -/
  ended : escapedAfter false content = false

/-- Content between single quotes does not begin with the quote. -/
theorem IsBody.head?_ne {q : Char} (h : IsBody [q] content) : content.head? ≠ some q := by
  intro hhead
  obtain ⟨more, rfl⟩ := List.head?_eq_some_iff.1 hhead
  have hnil := h.first [] (more ++ [q]) rfl rfl
  simp at hnil

/-! ## Scanning -/

/-- What stands before the first quotes that no backslash protects. -/
def scanBody? (quotes : List Char) (escaped : Bool) : List Char → Option (List Char)
  | [] => none
  | c :: rest =>
      if !escaped && startsWith quotes (c :: rest) then some []
      else (scanBody? quotes (!escaped && c == '\\') rest).map (c :: ·)

theorem onlyAtEnd_self (quotes : List Char) (escaped : Bool) :
    OnlyAtEnd quotes escaped quotes := by
  intro before after heq _
  have hlength := congrArg List.length heq
  simp only [List.length_append] at hlength
  exact List.length_eq_zero_iff.1 (by omega)

theorem onlyAtEnd_cons {escaped : Bool} {c : Char} {text : List Char} :
    OnlyAtEnd quotes escaped (c :: text) ↔
      (escaped = false → ∀ after, c :: text = quotes ++ after → after = []) ∧
      OnlyAtEnd quotes (!escaped && c == '\\') text := by
  constructor
  · intro h
    exact ⟨fun hfree after heq => h [] after heq hfree,
      fun before after heq hfree => h (c :: before) after (by simp [heq]) hfree⟩
  · rintro ⟨hhere, hrest⟩ before after heq hfree
    cases before with
    | nil => exact hhere hfree after heq
    | cons d before =>
        obtain ⟨rfl, hbehind⟩ := List.cons.inj heq
        exact hrest before after hbehind hfree

theorem scanBody?_append_iff (hne : quotes ≠ []) {escaped : Bool} :
    scanBody? quotes escaped (content ++ quotes) = some content ↔
      OnlyAtEnd quotes escaped (content ++ quotes) ∧ escapedAfter escaped content = false := by
  induction content generalizing escaped with
  | nil =>
      obtain ⟨q, more, rfl⟩ := List.exists_cons_of_ne_nil hne
      have hstart : startsWith (q :: more) (q :: more) = true :=
        List.isPrefixOf_iff_prefix.2 List.prefix_rfl
      cases escaped with
      | true => simp [scanBody?, escapedAfter]
      | false => simp [scanBody?, escapedAfter, hstart, onlyAtEnd_self]
  | cons c content ih =>
      rw [List.cons_append, scanBody?, onlyAtEnd_cons, escapedAfter]
      split
      case isTrue hhere =>
        -- quotes that begin the content end before the text does
        obtain ⟨hfree, hstart⟩ := Bool.and_eq_true_iff.1 hhere
        obtain ⟨after, hafter⟩ := List.isPrefixOf_iff_prefix.1 hstart
        constructor
        · intro hnil
          cases hnil
        · rintro ⟨⟨hfirst, -⟩, -⟩
          have hnil := hfirst (by simpa using hfree) after hafter.symm
          have hlength := congrArg List.length hafter
          simp only [hnil, List.length_append, List.length_cons, List.length_nil] at hlength
          omega
      case isFalse hhere =>
        have hnone : escaped = false → ∀ after, c :: (content ++ quotes) = quotes ++ after →
            after = [] := by
          intro hfree after heq
          have hstart : startsWith quotes (c :: (content ++ quotes)) = true :=
            List.isPrefixOf_iff_prefix.2 ⟨after, heq.symm⟩
          exact absurd (by rw [hstart, hfree]; rfl) hhere
        rw [and_iff_right hnone, ← ih, Option.map_eq_some_iff]
        simp

/-- Content is a body if a scan from left to right stops behind it. -/
theorem isBody_iff_scanBody? (hne : quotes ≠ []) :
    IsBody quotes content ↔ scanBody? quotes false (content ++ quotes) = some content := by
  rw [scanBody?_append_iff hne]
  constructor
  · intro h
    exact ⟨h.first, h.ended⟩
  · rintro ⟨hfirst, hended⟩
    exact ⟨hfirst, hended⟩

/-! ## Text literals -/

theorem isQuote_of_textMark {c : Char} (h : c ∈ ['r', 'R', 'u', 'U']) : isQuote c = false := by
  simp only [List.mem_cons, List.not_mem_nil, or_false] at h
  rcases h with rfl | rfl | rfl | rfl <;> rfl

theorem isTextMark_of_forall (hletters : ∀ c ∈ letters, c ∈ ['r', 'R', 'u', 'U'])
    (hlength : letters.length ≤ 2) : isTextMark letters = true := by
  rw [isTextMark, Bool.and_eq_true, decide_eq_true_eq, List.all_eq_true]
  refine ⟨hlength, fun c hc => ?_⟩
  have hmark := hletters c hc
  simp only [List.mem_cons, List.not_mem_nil, or_false] at hmark
  rcases hmark with rfl | rfl | rfl | rfl <;> rfl

/-- The content of a text literal is what its quotes enclose, as written. -/
theorem literalValue?_of_isBody (hletters : ∀ c ∈ letters, c ∈ ['r', 'R', 'u', 'U'])
    (hlength : letters.length ≤ 2) (hquotes : quotes ∈ delimiters) (hbody : IsBody quotes content) :
    literalValue? (letters ++ quotes ++ content ++ quotes) = some content := by
  have hplain : ∀ c ∈ letters, isQuote c = false := fun c hc => isQuote_of_textMark (hletters c hc)
  have hhead : ∀ q, quotes = [q] → content.head? ≠ some q := by
    intro q hq
    rw [hq] at hbody
    exact hbody.head?_ne
  rw [List.append_assoc, literalValue?_quoted hplain hquotes,
    if_pos (isTextMark_of_forall hletters hlength), ← List.append_assoc]
  exact findSome?_between?_of_mem hquotes hhead

/-! ## Offsets -/

theorem quoteOffset?_append (hletters : ∀ c ∈ letters, isQuote c = false) {q : Char}
    (hq : isQuote q = true) (rest : List Char) :
    quoteOffset? (letters ++ q :: rest) = some (byteCount letters) := by
  induction letters with
  | nil => simp [quoteOffset?, hq]
  | cons c letters ih =>
      obtain ⟨hc, hletters⟩ := List.forall_mem_cons.1 hletters
      simp [quoteOffset?, hc, ih hletters]

theorem quoteOffset?_eq_none {cs : List Char} (h : ∀ c ∈ cs, isQuote c = false) :
    quoteOffset? cs = none := by
  induction cs with
  | nil => rfl
  | cons c cs ih =>
      obtain ⟨hc, hcs⟩ := List.forall_mem_cons.1 h
      simp [quoteOffset?, hc, ih hcs]

/-- A delimiter fits at both ends if and only if the text is something between two of it. -/
theorem fits_iff :
    (2 * byteCount delimiter ≤ byteCount body && startsWith delimiter body &&
      startsWith delimiter.reverse body.reverse) = true ↔
    ∃ content, body = delimiter ++ content ++ delimiter := by
  rw [Bool.and_eq_true, Bool.and_eq_true, decide_eq_true_eq, startsWith, startsWith,
    List.isPrefixOf_iff_prefix, List.isPrefixOf_iff_prefix, List.reverse_prefix]
  constructor
  · rintro ⟨⟨hroom, ⟨behind, rfl⟩⟩, hsuffix⟩
    rw [byteCount_append] at hroom
    obtain ⟨content, rfl⟩ | ⟨shared, hshared⟩ :=
      List.suffix_or_suffix_of_suffix hsuffix (List.suffix_append delimiter behind)
    · exact ⟨content, (List.append_assoc ..).symm⟩
    · -- what is behind the first is no shorter than the second, so it is the second
      have hcount := congrArg byteCount hshared
      rw [byteCount_append] at hcount
      cases shared with
      | nil => exact ⟨[], by rw [← hshared, List.nil_append, List.append_nil]⟩
      | cons c shared =>
          have hpos := c.utf8Size_pos
          rw [byteCount_cons] at hcount
          omega
  · rintro ⟨content, rfl⟩
    refine ⟨⟨?_, ⟨content ++ delimiter, (List.append_assoc ..).symm⟩⟩, ⟨delimiter ++ content, rfl⟩⟩
    simp only [byteCount_append]
    omega

theorem slice?_between (delimiter content : List Char) :
    slice? (byteCount delimiter)
        (byteCount (delimiter ++ content ++ delimiter) - byteCount delimiter)
        (delimiter ++ content ++ delimiter) = some content := by
  refine slice?_eq_some_iff.2 ⟨delimiter, delimiter, rfl, rfl, ?_⟩
  simp only [byteCount_append]
  omega

/-- No cut at a delimiter fails. -/
theorem sliceBetween?_eq (body : List Char) (candidates : List (List Char)) :
    sliceBetween? body candidates = some (candidates.findSome? (between? · body)) := by
  induction candidates with
  | nil => rfl
  | cons delimiter others ih =>
      rw [sliceBetween?, List.findSome?_cons]
      split
      case isTrue hfits =>
        obtain ⟨content, rfl⟩ := fits_iff.1 hfits
        rw [slice?_between, between?_eq_some.2 rfl]
        rfl
      case isFalse hfits =>
        have hnone : between? delimiter body = none :=
          Option.eq_none_iff_forall_ne_some.2 fun content hcontent =>
            hfits (fits_iff.2 ⟨content, between?_eq_some.1 hcontent⟩)
        rw [ih, hnone]

/-- A letter is a text mark or one that makes a literal bytes or formatted. -/
theorem textMark_eq (c : Char) :
    ['r', 'R', 'u', 'U'].contains c = (isLetter c && !isOtherMark c) := by
  rw [Bool.eq_iff_iff]
  simp only [isLetter, isOtherMark, List.contains_eq_mem]
  grind

theorem all_textMark_eq (letters : List Char) :
    letters.all (['r', 'R', 'u', 'U'].contains ·) =
      (letters.all isLetter && !letters.any isOtherMark) := by
  induction letters with
  | nil => rfl
  | cons c letters ih =>
      rw [List.all_cons, List.all_cons, List.any_cons, textMark_eq, ih]
      cases isLetter c <;> cases isOtherMark c <;> simp

theorem byteCount_of_isLetter (h : letters.all isLetter = true) :
    byteCount letters = letters.length := by
  induction letters with
  | nil => rfl
  | cons c letters ih =>
      obtain ⟨hc, hletters⟩ := Bool.and_eq_true_iff.1 h
      have hsize : c.utf8Size = 1 := by
        simp only [isLetter, List.contains_eq_mem, decide_eq_true_eq, List.mem_cons,
          List.not_mem_nil, or_false] at hc
        rcases hc with rfl | rfl | rfl | rfl | rfl | rfl | rfl | rfl <;> rfl
      rw [byteCount_cons, ih hletters, hsize, List.length_cons, Nat.add_comm]

/-- The letters are tested by their bytes with the same outcome. -/
theorem isTextMark_eq (letters : List Char) :
    isTextMark letters =
      (!(2 < byteCount letters || !letters.all isLetter) && !letters.any isOtherMark) := by
  show (letters.length ≤ 2 && letters.all (['r', 'R', 'u', 'U'].contains ·)) = _
  rw [all_textMark_eq]
  cases hall : letters.all isLetter with
  | false => simp
  | true =>
      have hshort : decide (letters.length ≤ 2) = !decide (2 < letters.length) := by
        rw [← decide_not, decide_eq_decide]
        omega
      rw [byteCount_of_isLetter hall, hshort, Bool.true_and, Bool.not_true, Bool.or_false]

theorem literalValue?_of_forall {raw : List Char} (h : ∀ c ∈ raw, isQuote c = false) :
    literalValue? raw = none := by
  have hbody : raw.dropWhile (!isQuote ·) = [] := by
    rw [List.dropWhile_eq_nil_iff]
    intro c hc
    rw [h c hc]
    rfl
  have hnone : delimiters.findSome? (between? · []) = none := rfl
  rw [literalValue?, hbody, hnone, ite_self]

/-- Every cut is at the edge of a character, and what is cut out is the content. -/
theorem slicedValue?_eq (raw : List Char) : slicedValue? raw = some (literalValue? raw) := by
  cases hquote : raw.find? isQuote with
  | none =>
      have hnone : ∀ c ∈ raw, isQuote c = false := fun c hc =>
        Bool.eq_false_iff.2 (List.find?_eq_none.1 hquote c hc)
      rw [slicedValue?, quoteOffset?_eq_none hnone, literalValue?_of_forall hnone]
  | some q =>
      obtain ⟨hq, letters, rest, rfl, hletters⟩ := List.find?_eq_some_iff_append.1 hquote
      simp only [Bool.not_eq_true'] at hletters
      rw [slicedValue?, quoteOffset?_append hletters hq, literalValue?_append hletters hq,
        isTextMark_eq]
      simp only [slice?_front, slice?_rest, Option.bind_eq_bind, Option.bind_some]
      cases 2 < byteCount letters || !letters.all isLetter with
      | true => rfl
      | false =>
          cases letters.any isOtherMark with
          | true => rfl
          | false => exact sliceBetween?_eq _ _

/-! ## Literals -/

/-- Text literals are decoded exactly.

* Between at most two raw and text marks and quotes on one side and the same quotes on the other,
  a body is the content, as written.
* A literal with a letter before its first quote that makes it bytes or formatted has no content.
* No text is cut beyond its end or inside a character. -/
theorem literalValue?_exact (letters quotes content : List Char) (hlength : letters.length ≤ 2)
    (hquotes : quotes ∈ delimiters) :
    ((∀ c ∈ letters, c ∈ ['r', 'R', 'u', 'U']) → IsBody quotes content →
      literalValue? (letters ++ quotes ++ content ++ quotes) = some content) ∧
    ((∀ c ∈ letters, isQuote c = false) → (∃ c ∈ letters, c ∈ ['b', 'B', 'f', 'F']) →
      ∀ rest, literalValue? (letters ++ rest) = none) ∧
    ∀ raw, slicedValue? raw = some (literalValue? raw) := by
  refine ⟨fun hletters hbody => literalValue?_of_isBody hletters hlength hquotes hbody, ?_,
    slicedValue?_eq⟩
  rintro hplain ⟨c, hc, hother⟩ rest
  refine literalValue?_of_mem hplain hc ?_
  simp only [List.mem_cons, List.not_mem_nil, or_false] at hother
  rcases hother with rfl | rfl | rfl | rfl <;> rfl

/-- A raw literal whose content holds quotes of both kinds and ends with one behind a backslash, and
a raw literal of bytes. -/
theorem literalValue?_exact_raw :
    literalValue? (['r'] ++ ['"', '"', '"'] ++ ['\\', '"', '"', '\'', 'é', '"', '\\', '"'] ++
      ['"', '"', '"']) = some ['\\', '"', '"', '\'', 'é', '"', '\\', '"'] ∧
    literalValue? (['r', 'B'] ++ ['"', 'x', '"']) = none := by
  have hbody : IsBody ['"', '"', '"'] ['\\', '"', '"', '\'', 'é', '"', '\\', '"'] :=
    (isBody_iff_scanBody? (List.cons_ne_nil _ _)).2 (by decide)
  constructor
  · exact (literalValue?_exact ['r'] ['"', '"', '"']
      ['\\', '"', '"', '\'', 'é', '"', '\\', '"'] (by decide) (.head _)).1 (by simp) hbody
  · exact (literalValue?_exact ['r', 'B'] ['"'] ['x'] (by decide) (by simp [delimiters])).2.1
      (by simp [isQuote]) ⟨'B', by simp⟩ ['"', 'x', '"']

end TestCensus.Docstring
