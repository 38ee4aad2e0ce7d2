import TestCensus.Proofs.Source.ReturnsInDocstrings
import TestCensus.Proofs.Source.WholeLiterals

/-!
# The content of literals

`IsTextLiteral` says what a text literal is: at most two letters, none of which makes it bytes
or a formatted literal, quotes, content up to the same quotes, and these quotes.
`literalValue?` only looks at both ends of a text.  On the literals of a source that is
enough: it answers the content of text literals and nothing on others
(`literalValue?_eq_some_iff`).  The reasons are that letters are no quotes, and that content
between single quotes never begins with the quote, so the quotes at both ends are not taken
for three.
-/

namespace TestCensus.Source

open TestCensus.Docstring
open TestCensus.Text

/-- The text is a text literal with the given content, as written. -/
def IsTextLiteral (text content : List Char) : Prop :=
  ∃ (d : Delimiter) (letters : List Char), d.Sets letters ∧ letters.length ≤ 2 ∧
    d.bytes = false ∧ d.formatted = false ∧ d.quote ≠ '`' ∧ d.Encloses content ∧
    text = letters ++ d.closing ++ (content ++ d.closing)

variable {d : Delimiter} {letters content text : List Char}

/-! ## Letters -/

theorem Delimiter.Sets.isQuote_eq_false (h : d.Sets letters) :
    ∀ c ∈ letters, isQuote c = false := by
  intro c hc
  have hnone : mannerLetters.all (!isQuote ·) = true := by decide
  simpa using List.all_eq_true.1 hnone c (h.manner c hc)

/-- The quotes that close a literal begin with its quote. -/
theorem Delimiter.closing_eq (d : Delimiter) : ∃ more, d.closing = d.quote :: more := by
  unfold Delimiter.closing
  split <;> exact ⟨_, rfl⟩

theorem Delimiter.Sets.isQuote_quote (h : d.Sets letters) (hslant : d.quote ≠ '`') :
    isQuote d.quote = true := by
  rcases h.quote with hq | hq | ⟨hq, -⟩
  · rw [hq]
    rfl
  · rw [hq]
    rfl
  · exact absurd hq hslant

/-- The letters of a text literal are raw and text marks. -/
theorem Delimiter.Sets.isTextMark_iff (h : d.Sets letters) :
    isTextMark letters = true ↔
      letters.length ≤ 2 ∧ d.bytes = false ∧ d.formatted = false := by
  have hmarks : mannerLetters.all fun c => "rRuU".toList.contains c ==
      (!(c == 'b' || c == 'B') && !(c == 'f' || c == 'F')) := by decide
  have hmark : ∀ c ∈ letters, "rRuU".toList.contains c =
      (!(c == 'b' || c == 'B') && !(c == 'f' || c == 'F')) := fun c hc =>
    beq_iff_eq.1 (List.all_eq_true.1 hmarks c (h.manner c hc))
  rw [isTextMark, Bool.and_eq_true, decide_eq_true_eq, h.bytes, h.formatted, List.any_eq_false,
    List.any_eq_false, List.all_eq_true]
  refine and_congr_right fun _ => ⟨fun hall => ?_, fun hnone c hc => ?_⟩
  · have hboth : ∀ c ∈ letters, (!(c == 'b' || c == 'B')) = true ∧
        (!(c == 'f' || c == 'F')) = true := fun c hc =>
      Bool.and_eq_true_iff.1 (hmark c hc ▸ hall c hc)
    exact ⟨fun c hc => by simpa using (hboth c hc).1, fun c hc => by simpa using (hboth c hc).2⟩
  · rw [hmark c hc, Bool.and_eq_true]
    exact ⟨by simpa using hnone.1 c hc, by simpa using hnone.2 c hc⟩

/-! ## Quotes -/

/-- Content between single quotes does not begin with the quote. -/
theorem Delimiter.Encloses.head?_ne (h : d.Encloses content) (htriple : d.triple = false)
    (hplain : d.formatted = false) (hquote : isQuote d.quote = true) :
    content.head? ≠ some d.quote := by
  intro hhead
  obtain ⟨more, rfl⟩ := List.head?_eq_some_iff.1 hhead
  obtain ⟨behind, hread⟩ := h
  have hslash : d.quote ≠ '\\' := by
    rintro hslash
    rw [hslash] at hquote
    exact absurd hquote (by decide)
  simp [Content.read, hplain, htriple, hslash] at hread

/-- The quotes that close a literal are a delimiter. -/
theorem Delimiter.Sets.closing_mem (h : d.Sets letters) (hslant : d.quote ≠ '`') :
    d.closing ∈ delimiters := by
  rw [Delimiter.closing]
  rcases h.quote with hq | hq | ⟨hq, -⟩
  · cases htriple : d.triple <;> simp [hq, delimiters]
  · cases htriple : d.triple <;> simp [hq, delimiters]
  · exact absurd hq hslant

/-- The delimiter of a literal is found at both its ends. -/
theorem Delimiter.Sets.findSome?_between? (hsets : d.Sets letters) (hslant : d.quote ≠ '`')
    (hplain : d.formatted = false) (hcontent : d.Encloses content) :
    delimiters.findSome? (between? · (d.closing ++ content ++ d.closing)) = some content := by
  refine findSome?_between?_of_mem (hsets.closing_mem hslant) fun q hq => ?_
  have hsingle : d.triple = false ∧ d.quote = q := by
    rw [Delimiter.closing] at hq
    split at hq
    · cases hq
    · rename_i htriple
      exact ⟨Bool.eq_false_iff.2 htriple, (List.cons.inj hq).1⟩
  rw [← hsingle.2]
  exact hcontent.head?_ne hsingle.1 hplain (hsets.isQuote_quote hslant)

/-! ## Contents -/

/-- The content of a literal of a source is known if it is a text literal. -/
theorem literalValue?_eq_some_iff {text content : List Char} (h : IsLiteral text) :
    literalValue? text = some content ↔ IsTextLiteral text content := by
  have hvalue : ∀ {content : List Char}, IsTextLiteral text content →
      literalValue? text = some content := by
    rintro content ⟨d, letters, hsets, hlength, hbytes, hplain, hslant, hcontent, rfl⟩
    rw [literalValue?_quoted hsets.isQuote_eq_false (hsets.closing_mem hslant),
      if_pos (hsets.isTextMark_iff.2 ⟨hlength, hbytes, hplain⟩), ← List.append_assoc]
    exact hsets.findSome?_between? hslant hplain hcontent
  refine ⟨fun hsome => ?_, hvalue⟩
  cases h with
  | @formatted d letters rest hsets hformatted htext =>
      rw [hsets.formatted] at hformatted
      obtain ⟨c, hc, hmark⟩ := List.any_eq_true.1 hformatted
      have hnone : "rRuU".toList.contains c = false := by
        rw [Bool.or_eq_true, beq_iff_eq, beq_iff_eq] at hmark
        rcases hmark with rfl | rfl <;> rfl
      rw [htext, List.append_assoc, literalValue?_of_mem hsets.isQuote_eq_false hc hnone] at hsome
      cases hsome
  | @plain d letters inner hsets hplain hcontent htext =>
      by_cases hslant : d.quote = '`'
      · obtain ⟨more, hmore⟩ := d.closing_eq
        have hfront : ∀ c ∈ letters ++ ['`'], isQuote c = false :=
          List.forall_mem_append.2 ⟨hsets.isQuote_eq_false, List.forall_mem_singleton.2 rfl⟩
        have hsplit : text = letters ++ ['`'] ++ (more ++ (inner ++ d.closing)) := by
          rw [htext]
          simp [hmore, hslant]
        rw [hsplit, literalValue?_of_mem hfront (List.mem_append_right _ (.head _)) rfl] at hsome
        cases hsome
      have hmark : isTextMark letters = true := by
        rw [htext, literalValue?_quoted hsets.isQuote_eq_false (hsets.closing_mem hslant)] at hsome
        exact (Option.ite_none_right_eq_some.1 hsome).1
      obtain ⟨hlength, hbytes, -⟩ := hsets.isTextMark_iff.1 hmark
      have htextLiteral : IsTextLiteral text inner :=
        ⟨d, letters, hsets, hlength, hbytes, hplain, hslant, hcontent, htext⟩
      rw [hvalue htextLiteral] at hsome
      cases hsome
      exact htextLiteral

/-- The contents of adjacent literals are known if all of them are text literals. -/
theorem mapM_literalValue?_eq_some_iff {pieces contents : List (List Char)}
    (h : ∀ piece ∈ pieces, IsLiteral piece) :
    pieces.mapM literalValue? = some contents ↔ List.Forall₂ IsTextLiteral pieces contents := by
  induction pieces generalizing contents with
  | nil =>
      rw [List.mapM_nil, List.forall₂_nil_left_iff]
      exact ⟨fun hnil => (Option.some.inj hnil).symm, fun hnil => congrArg some hnil.symm⟩
  | cons piece pieces ih =>
      obtain ⟨hpiece, hpieces⟩ := List.forall_mem_cons.1 h
      rw [List.mapM_cons, List.forall₂_cons_left_iff]
      simp only [Option.bind_eq_bind, Option.bind_eq_some_iff, literalValue?_eq_some_iff hpiece,
        ih hpieces, Option.pure_def, Option.some.injEq]
      constructor
      · rintro ⟨content, hcontent, others, hothers, rfl⟩
        exact ⟨content, others, hcontent, hothers, rfl⟩
      · rintro ⟨content, others, hcontent, hothers, rfl⟩
        exact ⟨content, hcontent, others, hothers, rfl⟩

end TestCensus.Source
