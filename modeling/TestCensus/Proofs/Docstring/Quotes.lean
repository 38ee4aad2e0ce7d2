import TestCensus.Docstring

/-!
# Quotes at both ends of a text

`literalValue?` looks at the two ends of a text only: at the letters before the first quote, and
for a delimiter before and behind what follows them (`between?_eq_some`).  Delimiters are tried
in a fixed order.  Those that come first begin with the other quote or are three where one was
written, so the delimiter that was written is the one that is found, unless the content between
two single quotes begins with this quote (`findSome?_between?_of_mem`).
-/

namespace TestCensus.Docstring

open TestCensus.Text

variable {delimiter quotes letters body content : List Char}

/-- The first character of a delimiter is a quote. -/
theorem exists_cons_of_mem_delimiters (h : quotes ∈ delimiters) :
    ∃ q more, quotes = q :: more ∧ isQuote q = true := by
  simp only [delimiters, List.mem_cons, List.not_mem_nil, or_false] at h
  rcases h with rfl | rfl | rfl | rfl <;> exact ⟨_, _, rfl, rfl⟩

/-! ## Letters -/

/-- The letters of a literal are what stands before the first quote. -/
theorem span_isQuote (hletters : ∀ c ∈ letters, isQuote c = false) {q : Char}
    (hq : isQuote q = true) (rest : List Char) :
    (letters ++ q :: rest).takeWhile (!isQuote ·) = letters ∧
      (letters ++ q :: rest).dropWhile (!isQuote ·) = q :: rest := by
  have hnone : ∀ c ∈ letters, (!isQuote c) = true := fun c hc => by rw [hletters c hc]; rfl
  have hquote : ¬(!isQuote q) = true := by simp [hq]
  constructor
  · rw [List.takeWhile_append_of_pos hnone,
      List.takeWhile_cons_of_neg (p := (!isQuote ·)) hquote, List.append_nil]
  · rw [List.dropWhile_append_of_pos hnone,
      List.dropWhile_cons_of_neg (p := (!isQuote ·)) hquote]

/-- The content of a literal, by its letters and by what follows them. -/
theorem literalValue?_append (hletters : ∀ c ∈ letters, isQuote c = false) {q : Char}
    (hq : isQuote q = true) (rest : List Char) :
    literalValue? (letters ++ q :: rest) =
      if isTextMark letters then delimiters.findSome? (between? · (q :: rest)) else none := by
  obtain ⟨htake, hdrop⟩ := span_isQuote hletters hq rest
  rw [literalValue?, htake, hdrop]

theorem literalValue?_quoted (hletters : ∀ c ∈ letters, isQuote c = false)
    (hquotes : quotes ∈ delimiters) (rest : List Char) :
    literalValue? (letters ++ quotes ++ rest) =
      if isTextMark letters then delimiters.findSome? (between? · (quotes ++ rest)) else none := by
  obtain ⟨q, more, rfl, hq⟩ := exists_cons_of_mem_delimiters hquotes
  rw [List.append_assoc, List.cons_append, literalValue?_append hletters hq]

/-- A text that begins with other characters than quotes and text marks has no content. -/
theorem literalValue?_of_mem {front rest : List Char} (hfront : ∀ c ∈ front, isQuote c = false)
    {c : Char} (hc : c ∈ front) (hmark : "rRuU".toList.contains c = false) :
    literalValue? (front ++ rest) = none := by
  have hletters : isTextMark ((front ++ rest).takeWhile (!isQuote ·)) = false := by
    rw [List.takeWhile_append_of_pos (fun c hc => by rw [hfront c hc]; rfl), isTextMark,
      Bool.and_eq_false_iff]
    refine .inr (List.all_eq_false.2 ⟨c, List.mem_append_left _ hc, ?_⟩)
    rw [hmark]
    exact Bool.false_ne_true
  rw [literalValue?, hletters]
  rfl

/-! ## Delimiters -/

theorem between?_eq_some :
    between? delimiter body = some content ↔ body = delimiter ++ content ++ delimiter := by
  rw [between?, Option.ite_none_right_eq_some, Bool.and_eq_true, Bool.and_eq_true,
    decide_eq_true_eq, startsWith, startsWith, List.isPrefixOf_iff_prefix,
    List.isPrefixOf_iff_prefix, List.reverse_prefix, Option.some.injEq]
  constructor
  · rintro ⟨⟨⟨hlength, ⟨behind, rfl⟩⟩, hsuffix⟩, rfl⟩
    rw [List.length_append] at hlength
    obtain ⟨inner, rfl⟩ :=
      List.suffix_of_suffix_length_le hsuffix (List.suffix_append ..) (by omega)
    rw [List.drop_left', List.append_assoc, List.length_append, List.length_append]
    · congr 2
      exact (List.take_left' (by omega)).symm
    · rfl
  · rintro rfl
    refine ⟨⟨⟨?_, ?_⟩, List.suffix_append ..⟩, ?_⟩
    · simp only [List.length_append]
      omega
    · rw [List.append_assoc]
      exact List.prefix_append ..
    · rw [List.append_assoc, List.drop_left' rfl]
      refine List.take_left' ?_
      simp only [List.length_append]
      omega

theorem between?_of_head (hne : delimiter ≠ []) (hhead : body.head? ≠ delimiter.head?) :
    between? delimiter body = none := by
  refine Option.eq_none_iff_forall_ne_some.2 fun content hcontent => hhead ?_
  obtain ⟨c, more, rfl⟩ := List.exists_cons_of_ne_nil hne
  rw [between?_eq_some.1 hcontent]
  rfl

/-- Single quotes at both ends are not taken for three. -/
theorem between?_three {q : Char} (h : content.head? ≠ some q) :
    between? [q, q, q] ([q] ++ content ++ [q]) = none := by
  refine Option.eq_none_iff_forall_ne_some.2 fun inner hinner => ?_
  have heq := between?_eq_some.1 hinner
  cases content with
  | nil =>
      have hlength := congrArg List.length heq
      simp at hlength
  | cons c more => exact h (congrArg some (List.cons.inj (List.cons.inj heq).2).1)

/-- The delimiter that stands at both ends is the one that is found. -/
theorem findSome?_between?_of_mem (hquotes : quotes ∈ delimiters)
    (hhead : ∀ q, quotes = [q] → content.head? ≠ some q) :
    delimiters.findSome? (between? · (quotes ++ content ++ quotes)) = some content := by
  have hfound : between? quotes (quotes ++ content ++ quotes) = some content :=
    between?_eq_some.2 rfl
  -- delimiters that come first begin with the other quote or are three where one was written
  have hsplit : ∃ before after, delimiters = before ++ quotes :: after ∧
      ∀ d ∈ before, d ≠ [] ∧ (d.head? ≠ quotes.head? ∨ ∃ q, quotes = [q] ∧ d = [q, q, q]) := by
    simp only [delimiters, List.mem_cons, List.not_mem_nil, or_false] at hquotes
    rcases hquotes with rfl | rfl | rfl | rfl
    · exact ⟨[], _, rfl, by simp⟩
    · exact ⟨[['"', '"', '"']], _, rfl, by simp⟩
    · exact ⟨[['"', '"', '"'], ['\'', '\'', '\'']], _, rfl, by simp⟩
    · exact ⟨[['"', '"', '"'], ['\'', '\'', '\''], ['"']], _, rfl, by simp⟩
  obtain ⟨before, after, hdelimiters, hbefore⟩ := hsplit
  refine List.findSome?_eq_some_iff.2 ⟨before, quotes, after, hdelimiters, hfound, fun d hd => ?_⟩
  obtain ⟨hne, hother | ⟨q, hq, rfl⟩⟩ := hbefore d hd
  · obtain ⟨q, more, rfl, -⟩ := exists_cons_of_mem_delimiters hquotes
    exact between?_of_head hne hother.symm
  · rw [hq]
    exact between?_three (hhead q hq)

end TestCensus.Docstring
