import Mathlib.Data.List.Forall2
import TestCensus.Proofs.Docstring.Quotes
import TestCensus.Proofs.Source.Returns

/-!
# Docstrings with carriage returns before the line feeds

The lines of a text are those of the text with carriage returns (`Returned.lines_eq`), and a
docstring is made of the lines of what its literals write.  So carriage returns in the literals
do not matter to it (`ofLiterals?_returned`).
-/

namespace TestCensus.Source

open TestCensus.Docstring
open TestCensus.Text

variable {cs ds : List Char}

/-! ## Contents of literals -/

/-- A text of other characters only is the same in both. -/
theorem Returned.all_eq (h : Returned cs ds) {p : Char → Bool} (hfeed : p '\n' = false)
    (hreturn : p '\r' = false) : ds.all p = cs.all p ∧ (cs.all p = true → ds = cs) := by
  induction h with
  | nil => exact ⟨rfl, fun _ => rfl⟩
  | lineFeed _ _ => simp [hfeed, hreturn]
  | char _ _ _ ih =>
      rw [List.all_cons, List.all_cons, ih.1]
      exact ⟨rfl, fun hall => congrArg _ (ih.2 (Bool.and_eq_true_iff.1 hall).2)⟩

theorem isTextMark_returned (h : Returned cs ds) : isTextMark ds = isTextMark cs := by
  obtain ⟨hall, hsame⟩ := h.all_eq (p := ("rRuU".toList.contains ·)) (by decide) (by decide)
  rw [isTextMark, isTextMark, hall]
  cases hletters : cs.all ("rRuU".toList.contains ·) with
  | true => rw [hsame hletters]
  | false => rw [Bool.and_false, Bool.and_false]

/-- What stands between two delimiters is related, if they have no line ends. -/
theorem between?_returned (h : Returned cs ds) {delimiter : List Char}
    (hdelimiter : Returned delimiter delimiter) :
    Option.Rel Returned (between? delimiter cs) (between? delimiter ds) := by
  cases hcontent : between? delimiter cs with
  | some content =>
      obtain rfl := between?_eq_some.1 hcontent
      rw [List.append_assoc] at h
      have hds := (returned_iff.1 h).2
      have hsame : withReturns delimiter = delimiter := (returned_iff.1 hdelimiter).2.symm
      have hnone : '\r' ∉ content := fun hmem => (returned_iff.1 h).1 (by simp [hmem])
      have hbetween : between? delimiter ds = some (withReturns content) := by
        rw [between?_eq_some, hds, withReturns, List.flatMap_append, List.flatMap_append,
          ← withReturns, hsame, List.append_assoc]
        rfl
      rw [hbetween]
      exact .some (returned_iff.2 ⟨hnone, rfl⟩)
  | none =>
      cases hcontent' : between? delimiter ds with
      | none => exact .none
      | some content =>
          have hcs := h.withoutReturns_right
          rw [between?_eq_some.1 hcontent', withoutReturns, List.flatMap_append,
            List.flatMap_append, ← withoutReturns, hdelimiter.withoutReturns_left] at hcs
          rw [between?_eq_some.2 hcs.symm] at hcontent
          cases hcontent

theorem literalValue?_returned (h : Returned cs ds) :
    Option.Rel Returned (literalValue? cs) (literalValue? ds) := by
  obtain ⟨hletters, hbody⟩ := h.run (p := (!isQuote ·)) rfl
  have hdelimiters : ∀ d ∈ delimiters, Returned d d := by
    have hsame : ∀ d ∈ delimiters, '\r' ∉ d ∧ d = withReturns d := by decide
    exact fun d hd => returned_iff.2 (hsame d hd)
  rw [literalValue?, literalValue?, isTextMark_returned hletters]
  split
  · exact findSome?_rel fun d hd => between?_returned hbody (hdelimiters d hd)
  · exact .none

theorem contents_returned {pieces pieces' : List (List Char)}
    (h : List.Forall₂ Returned pieces pieces') :
    Option.Rel (List.Forall₂ Returned) (pieces.mapM literalValue?)
      (pieces'.mapM literalValue?) := by
  induction h with
  | nil => exact .some .nil
  | @cons a b pieces pieces' hpiece _ ih =>
      have hvalue := literalValue?_returned hpiece
      rw [List.mapM_cons, List.mapM_cons]
      generalize literalValue? a = content? at hvalue
      generalize literalValue? b = content?' at hvalue
      cases hvalue with
      | none => exact .none
      | some hcontent =>
          generalize pieces.mapM literalValue? = contents? at ih
          generalize pieces'.mapM literalValue? = contents?' at ih
          cases ih with
          | none => exact .none
          | some hcontents => exact .some (.cons hcontent hcontents)

theorem flatten_returned {pieces pieces' : List (List Char)}
    (h : List.Forall₂ Returned pieces pieces') : Returned pieces.flatten pieces'.flatten := by
  induction h with
  | nil => exact .nil
  | cons hpiece _ ih => exact hpiece.append ih

/-! ## Lines -/

theorem lines_cons {c : Char} (hfeed : c ≠ '\n') (hreturn : c ≠ '\r') (cs : List Char) :
    lines (c :: cs) =
      match lines cs with
      | [] => [[c]]
      | line :: others => (c :: line) :: others := by
  conv => lhs; unfold lines
  split
  · rename_i heq
    cases heq
  · rename_i heq
    exact absurd (List.cons.inj heq).1 hfeed
  · rename_i heq
    exact absurd (List.cons.inj heq).1 hreturn
  · rename_i heq
    obtain ⟨rfl, rfl⟩ := List.cons.inj heq
    rfl

/-- The lines of both texts are the same. -/
theorem Returned.lines_eq (h : Returned cs ds) : lines ds = lines cs := by
  induction h with
  | nil => rfl
  | lineFeed _ ih => exact congrArg ([] :: ·) ih
  | char hc hc' _ ih => rw [lines_cons hc hc', lines_cons hc hc', ih]

theorem expandTabs_returned (h : Returned cs ds) : Returned (expandTabs cs) (expandTabs ds) := by
  induction h with
  | nil => exact .nil
  | lineFeed _ ih => exact ih.lineFeed
  | char hc hc' _ ih =>
      rw [expandTabs, expandTabs]
      split
      · have hspaces : Returned (List.replicate 8 ' ') (List.replicate 8 ' ') :=
          returned_iff.2 (by decide)
        exact hspaces.append ih
      · exact ih.char hc hc'

theorem clean_returned (h : Returned cs ds) : clean ds = clean cs := by
  rw [clean, clean, (expandTabs_returned h).lines_eq]

/-- Carriage returns in the literals of a docstring do not matter to it. -/
theorem ofLiterals?_returned {pieces pieces' : List (List Char)}
    (h : List.Forall₂ Returned pieces pieces') : ofLiterals? pieces' = ofLiterals? pieces := by
  have hcontents := contents_returned h
  rw [ofLiterals?, ofLiterals?]
  generalize pieces.mapM literalValue? = contents? at hcontents
  generalize pieces'.mapM literalValue? = contents?' at hcontents
  cases hcontents with
  | none => rfl
  | some hcontents => exact congrArg some (clean_returned (flatten_returned hcontents))

end TestCensus.Source
