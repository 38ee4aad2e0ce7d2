import Mathlib.Data.Option.Basic
import TestCensus.Proofs.Source.Lexemes

/-!
# Texts with carriage returns before their line feeds

`Returned cs ds` says that `ds` is the text `cs`, in which there is no carriage return, with
one put before each line feed.  The readers of single tokens find the same token in front of
both texts, and what is left is related again.  A text that is a piece of both has no line
feed, and the others, which are content of literals and layout, are related too.
-/

namespace TestCensus.Source

open TestCensus.Text

/-- The second text is the first one with a carriage return before each line feed, and there
is no other carriage return in it. -/
inductive Returned : List Char → List Char → Prop where
  /-- The empty text. -/
  | nil : Returned [] []
  /-- A line feed gets its carriage return. -/
  | lineFeed {cs ds : List Char} : Returned cs ds → Returned ('\n' :: cs) ('\r' :: '\n' :: ds)
  /-- Any other character stays. -/
  | char {c : Char} {cs ds : List Char} : c ≠ '\n' → c ≠ '\r' → Returned cs ds →
      Returned (c :: cs) (c :: ds)

/-- The text with a carriage return before each line feed. -/
def withReturns (cs : List Char) : List Char :=
  cs.flatMap fun c => if c = '\n' then ['\r', '\n'] else [c]

/-- The text without its carriage returns. -/
def withoutReturns (cs : List Char) : List Char :=
  cs.flatMap fun c => if c = '\r' then [] else [c]

theorem returned_iff {cs ds : List Char} : Returned cs ds ↔ '\r' ∉ cs ∧ ds = withReturns cs := by
  constructor
  · intro h
    induction h with
    | nil => simp [withReturns]
    | lineFeed _ ih => exact ⟨by simpa using ih.1, by simp [ih.2, withReturns]⟩
    | char hfeed hreturn _ ih =>
        exact ⟨by simpa [hreturn.symm] using ih.1, by simp [ih.2, withReturns, hfeed]⟩
  · rintro ⟨hnone, rfl⟩
    induction cs with
    | nil => exact .nil
    | cons c cs ih =>
        rw [List.mem_cons, not_or] at hnone
        have hrest := ih hnone.2
        rw [withReturns, List.flatMap_cons]
        split
        · subst c
          exact .lineFeed hrest
        · exact .char ‹_› (Ne.symm hnone.1) hrest

theorem return_not_mem_withoutReturns (cs : List Char) : '\r' ∉ withoutReturns cs := by
  intro hmem
  obtain ⟨c, -, hc⟩ := List.mem_flatMap.1 hmem
  split at hc
  · cases hc
  · exact absurd (List.mem_singleton.1 hc).symm ‹_›

variable {cs ds cs' ds' : List Char}

namespace Returned

theorem append (h : Returned cs ds) (h' : Returned cs' ds') : Returned (cs ++ cs') (ds ++ ds') := by
  rw [returned_iff] at *
  simp [h.1, h'.1, h.2, h'.2, withReturns]

theorem concat {taken taken' : List Char} (h : Returned taken.reverse taken'.reverse)
    {c : Char} (hc : c ≠ '\n') (hc' : c ≠ '\r') :
    Returned (c :: taken).reverse (c :: taken').reverse := by
  rw [List.reverse_cons, List.reverse_cons]
  exact h.append (Returned.nil.char hc hc')

theorem concat_lineFeed {taken taken' : List Char}
    (h : Returned taken.reverse taken'.reverse) :
    Returned ('\n' :: taken).reverse ('\n' :: '\r' :: taken').reverse := by
  rw [List.reverse_cons, List.reverse_cons, List.reverse_cons, List.append_assoc]
  exact h.append Returned.nil.lineFeed

/-- Where the same text is taken from the front of both, it has no line feed. -/
theorem front {text : List Char} (h : Returned (text ++ cs) (text ++ ds)) (h' : Returned cs ds) :
    Returned text text := by
  rw [returned_iff] at *
  obtain ⟨hnone, htext⟩ := h
  have hcancel : text ++ ds = withReturns text ++ ds → text = withReturns text :=
    List.append_cancel_right
  refine ⟨fun hmem => hnone (List.mem_append_left _ hmem), hcancel ?_⟩
  rw [htext, h'.2, withReturns, List.flatMap_append]
  rfl

/-- What is left of both behind the same text is related. -/
theorem behind {text : List Char} (h : Returned (text ++ cs) (text ++ ds))
    (h' : Returned text text) : Returned cs ds := by
  rw [returned_iff] at *
  obtain ⟨hnone, htext⟩ := h
  have hcancel : text ++ ds = text ++ withReturns cs → ds = withReturns cs :=
    List.append_cancel_left
  refine ⟨fun hmem => hnone (List.mem_append_right _ hmem), hcancel ?_⟩
  rw [htext, withReturns, List.flatMap_append]
  exact congrArg (· ++ _) h'.2.symm

theorem withoutReturns_left (h : Returned cs ds) : withoutReturns cs = cs := by
  induction h with
  | nil => rfl
  | lineFeed _ ih => exact congrArg ('\n' :: ·) ih
  | char _ hc _ ih => rw [withoutReturns, List.flatMap_cons, if_neg hc, ← withoutReturns, ih]; rfl

theorem withoutReturns_right (h : Returned cs ds) : withoutReturns ds = cs := by
  induction h with
  | nil => rfl
  | lineFeed _ ih => exact congrArg ('\n' :: ·) ih
  | char _ hc _ ih => rw [withoutReturns, List.flatMap_cons, if_neg hc, ← withoutReturns, ih]; rfl

theorem count_lineFeed (h : Returned cs ds) : ds.count '\n' = cs.count '\n' := by
  induction h with
  | nil => rfl
  | lineFeed _ ih => simp [ih]
  | char _ _ _ ih => simp [List.count_cons, ih]

theorem isEmpty_eq (h : Returned cs ds) : ds.isEmpty = cs.isEmpty := by
  cases h <;> rfl

/-- A run of characters that no line end belongs to is the same in front of both. -/
theorem span (h : Returned cs ds) {p : Char → Bool} (hfeed : p '\n' = false)
    (hreturn : p '\r' = false) :
    ds.takeWhile p = cs.takeWhile p ∧ Returned (cs.dropWhile p) (ds.dropWhile p) := by
  induction h with
  | nil => exact ⟨rfl, .nil⟩
  | lineFeed h _ => simpa [hfeed, hreturn] using h.lineFeed
  | @char c _ _ hc hc' h ih =>
      rw [List.takeWhile_cons, List.takeWhile_cons, List.dropWhile_cons, List.dropWhile_cons]
      split
      · exact ⟨by rw [ih.1], ih.2⟩
      · exact ⟨rfl, h.char hc hc'⟩

/-- A run that line ends belong to as a whole or not at all is related in front of both. -/
theorem run (h : Returned cs ds) {p : Char → Bool} (hp : p '\r' = p '\n') :
    Returned (cs.takeWhile p) (ds.takeWhile p) ∧ Returned (cs.dropWhile p) (ds.dropWhile p) := by
  induction h with
  | nil => exact ⟨.nil, .nil⟩
  | lineFeed h ih =>
      simp only [List.takeWhile_cons, List.dropWhile_cons, hp]
      split
      · exact ⟨ih.1.lineFeed, ih.2⟩
      · exact ⟨.nil, h.lineFeed⟩
  | char hc hc' h ih =>
      rw [List.takeWhile_cons, List.takeWhile_cons, List.dropWhile_cons, List.dropWhile_cons]
      split
      · exact ⟨ih.1.char hc hc', ih.2⟩
      · exact ⟨.nil, h.char hc hc'⟩

theorem head?_eq_some (h : Returned cs ds) {c : Char} (hfeed : c ≠ '\n') (hreturn : c ≠ '\r') :
    ds.head? = some c ↔ cs.head? = some c := by
  cases h with
  | nil => rfl
  | lineFeed _ => simp [hfeed.symm, hreturn.symm]
  | char _ _ _ => simp

end Returned

/-- The same text was taken from the front of both, and what is left is related. -/
inductive SameFront : List Char × List Char → List Char × List Char → Prop where
  /-- The text and what is left. -/
  | mk (text : List Char) {rest rest' : List Char} : Returned rest rest' →
      SameFront (text, rest) (text, rest')

theorem SameFront.exists {text rest : List Char} {b : List Char × List Char}
    (h : SameFront (text, rest) b) : ∃ rest', b = (text, rest') ∧ Returned rest rest' := by
  cases h with | mk _ h => exact ⟨_, rfl, h⟩

/-! ## Names and operators -/

theorem name?_returned (h : Returned cs ds) : Option.Rel SameFront (name? cs) (name? ds) := by
  cases h with
  | nil => exact .none
  | lineFeed _ =>
      rw [name?, if_neg (by decide), name?, if_neg (by decide)]
      exact .none
  | char _ _ h =>
      obtain ⟨htake, hdrop⟩ := h.span (p := continuesName) (by decide) (by decide)
      rw [name?, name?, htake]
      split
      · exact .some (.mk _ hdrop)
      · exact .none

theorem dropStart?_returned (h : Returned cs ds) {start : List Char} (hfeed : '\n' ∉ start)
    (hreturn : '\r' ∉ start) :
    Option.Rel Returned (dropStart? start cs) (dropStart? start ds) := by
  induction start generalizing cs ds with
  | nil =>
      rw [dropStart?, dropStart?]
      exact .some h
  | cons s start ih =>
      rw [List.mem_cons, not_or] at hfeed hreturn
      cases h with
      | nil => exact .none
      | lineFeed _ =>
          rw [dropStart?, if_neg (Ne.symm hfeed.1), dropStart?, if_neg (Ne.symm hreturn.1)]
          exact .none
      | char _ _ h =>
          rw [dropStart?, dropStart?]
          split
          · exact ih h hfeed.2 hreturn.2
          · exact .none

/-- The first of the results is found at the same place. -/
theorem findSome?_rel {α β γ : Type} {R : β → γ → Prop} {p : α → Option β} {q : α → Option γ}
    {as : List α} (h : ∀ a ∈ as, Option.Rel R (p a) (q a)) :
    Option.Rel R (as.findSome? p) (as.findSome? q) := by
  induction as with
  | nil => exact .none
  | cons a as ih =>
      have hfirst := h a (.head _)
      rw [List.findSome?_cons, List.findSome?_cons]
      generalize p a = b? at hfirst
      generalize q a = c? at hfirst
      cases hfirst with
      | none => exact ih fun a ha => h a (.tail _ ha)
      | some hbc => exact .some hbc

theorem operator?_returned (h : Returned cs ds) :
    Option.Rel SameFront (operator? cs) (operator? ds) := by
  have hlines : ∀ o ∈ operators, '\n' ∉ o ∧ '\r' ∉ o := by decide
  refine findSome?_rel fun o ho => ?_
  have hdrop := dropStart?_returned h (hlines o ho).1 (hlines o ho).2
  generalize dropStart? o cs = rest at hdrop
  generalize dropStart? o ds = rest' at hdrop
  cases hdrop with
  | none => exact .none
  | some hrest => exact .some (.mk o hrest)

/-! ## Numerals -/

theorem letterOf_returned (h : Returned cs ds) {letters : List Char} (hfeed : '\n' ∉ letters)
    (hreturn : '\r' ∉ letters) : SameFront (letterOf letters cs) (letterOf letters ds) := by
  cases h with
  | nil => exact .mk [] .nil
  | lineFeed h =>
      rw [letterOf, if_neg (by simpa using hfeed), letterOf, if_neg (by simpa using hreturn)]
      exact .mk [] h.lineFeed
  | char hc hc' h =>
      rw [letterOf, letterOf]
      split
      · exact .mk _ h
      · exact .mk [] (h.char hc hc')

theorem isDigitOf_lineFeed (base : Nat) : isDigitOf base '\n' = false := by simp [isDigitOf]

theorem isDigitOf_return (base : Nat) : isDigitOf base '\r' = false := by simp [isDigitOf]

theorem markedDigits_cons (base : Nat) {c : Char} (hc : c ≠ '_') (rest : List Char) :
    markedDigits base (c :: rest) =
      if isDigitOf base c then
        let (digits, after) := markedDigits base rest
        (c :: digits, after)
      else ([], c :: rest) := by
  conv => lhs; unfold markedDigits
  split
  · rename_i heq
    cases heq
  · rename_i heq
    exact absurd (List.cons.inj heq).1 hc
  · rename_i heq
    obtain ⟨rfl, rfl⟩ := List.cons.inj heq
    rfl

theorem markedDigits_returned (base : Nat) (h : Returned cs ds) :
    SameFront (markedDigits base cs) (markedDigits base ds) := by
  have hunderscore : isDigitOf base '_' = false := by simp [isDigitOf]
  fun_induction markedDigits base cs generalizing ds with
  | case1 =>
      cases h
      exact .mk [] .nil
  | case2 c rest hc digits after hrec ih =>
      cases h with | char _ _ h =>
      cases h with
      | lineFeed h => simp [isDigitOf_lineFeed] at hc
      | char _ _ h =>
          obtain ⟨after', hrec', hafter⟩ := (hrec ▸ ih h).exists
          rw [markedDigits, if_pos hc, hrec']
          exact .mk _ hafter
  | case3 c rest hc =>
      cases h with | char hu hu' h =>
      cases h with
      | lineFeed h =>
          rw [markedDigits, if_neg (by simp [isDigitOf_return])]
          exact .mk [] (h.lineFeed.char hu hu')
      | char hc' hc'' h =>
          rw [markedDigits, if_neg hc]
          exact .mk [] ((h.char hc' hc'').char hu hu')
  | case4 c rest hne hc digits after hrec ih =>
      cases h with
      | lineFeed h => simp [isDigitOf_lineFeed] at hc
      | char _ _ h =>
          obtain ⟨after', hrec', hafter⟩ := (hrec ▸ ih h).exists
          rw [markedDigits_cons base (by rintro rfl; simp [hunderscore] at hc), if_pos hc, hrec']
          exact .mk _ hafter
  | case5 c rest hne hc =>
      cases h with
      | lineFeed h =>
          rw [markedDigits_cons base (by decide), if_neg (by simp [isDigitOf_return])]
          exact .mk [] h.lineFeed
      | char hc' hc'' h =>
          by_cases hu : c = '_'
          · subst hu
            cases h with
            | nil =>
                rw [markedDigits, if_neg hc]
                · exact .mk [] (Returned.nil.char hc' hc'')
                · nofun
            | lineFeed h => exact absurd rfl (hne _ _ rfl)
            | char _ _ _ => exact absurd rfl (hne _ _ rfl)
          · rw [markedDigits_cons base hu, if_neg hc]
            exact .mk [] (h.char hc' hc'')

theorem decimalDigits_returned (inside : Bool) (h : Returned cs ds) :
    SameFront (decimalDigits inside cs) (decimalDigits inside ds) := by
  induction h generalizing inside with
  | nil => exact .mk [] .nil
  | lineFeed h _ =>
      simp only [decimalDigits]
      exact .mk [] h.lineFeed
  | @char c cs ds hc hc' h ih =>
      have hgo : ∀ inside, SameFront
          (let (digits, after) := decimalDigits inside cs; (c :: digits, after))
          (let (digits, after) := decimalDigits inside ds; (c :: digits, after)) := by
        intro inside
        have hrest := ih inside
        generalize decimalDigits inside cs = p at hrest
        generalize decimalDigits inside ds = q at hrest
        cases hrest with | mk digits hafter => exact .mk _ hafter
      rw [decimalDigits, decimalDigits]
      split
      · exact hgo true
      · split
        · exact hgo false
        · exact .mk [] (h.char hc hc')

theorem exponent_returned (h : Returned cs ds) : SameFront (exponent cs) (exponent ds) := by
  cases h with
  | nil => exact .mk [] .nil
  | lineFeed h => exact .mk [] h.lineFeed
  | @char c cs ds hc hc' h =>
      have hsign : SameFront (letterOf ['+', '-'] cs) (letterOf ['+', '-'] ds) :=
        letterOf_returned h (by decide) (by decide)
      rw [exponent, exponent]
      generalize letterOf ['+', '-'] cs = p at hsign
      generalize letterOf ['+', '-'] ds = q at hsign
      cases hsign with | mk sign hsign =>
      have hdigits := decimalDigits_returned false hsign
      dsimp only
      generalize decimalDigits false _ = p at hdigits
      generalize decimalDigits false _ = q at hdigits
      cases hdigits with | mk digits hdigits =>
      dsimp only
      split
      · split
        · exact .mk [] (h.char hc hc')
        · exact .mk _ hdigits
      · exact .mk [] (h.char hc hc')

theorem decimalNumeral_returned (h : Returned cs ds) :
    SameFront (decimalNumeral cs) (decimalNumeral ds) := by
  have hmarks : '\n' ∉ ['L', 'l', 'J', 'j'] ∧ '\r' ∉ ['L', 'l', 'J', 'j'] := by decide
  rcases hwhole : decimalDigits false cs with ⟨whole, rest⟩
  rcases hpoint : letterOf ['.'] rest with ⟨point, afterPoint⟩
  rcases hfraction : decimalDigits false afterPoint with ⟨fraction, afterFraction⟩
  obtain ⟨rest', hwhole', hrest⟩ := (hwhole ▸ decimalDigits_returned false h).exists
  obtain ⟨afterPoint', hpoint', hafterPoint⟩ :=
    (hpoint ▸ letterOf_returned hrest (by decide) (by decide)).exists
  obtain ⟨afterFraction', hfraction', hafterFraction⟩ :=
    (hfraction ▸ decimalDigits_returned false hafterPoint).exists
  simp only [decimalNumeral, hwhole, hpoint, hfraction, hwhole', hpoint', hfraction']
  split
  · rcases hpower : exponent rest with ⟨power, afterPower⟩
    obtain ⟨afterPower', hpower', hafterPower⟩ := (hpower ▸ exponent_returned hrest).exists
    simp only [hpower']
    split
    · exact .mk [] h
    · split
      · have hmark := letterOf_returned hrest hmarks.1 hmarks.2
        generalize letterOf _ rest = p at hmark
        generalize letterOf _ rest' = q at hmark
        cases hmark with | mk mark hafter => exact .mk _ hafter
      · have hmark := letterOf_returned hafterPower hmarks.1 hmarks.2
        generalize letterOf _ afterPower = p at hmark
        generalize letterOf _ afterPower' = q at hmark
        cases hmark with | mk mark hafter => exact .mk _ hafter
  · rcases hpower : exponent afterFraction with ⟨power, afterPower⟩
    obtain ⟨afterPower', hpower', hafterPower⟩ := (hpower ▸ exponent_returned hafterFraction).exists
    simp only [hpower']
    have hmark := letterOf_returned hafterPower hmarks.1 hmarks.2
    generalize letterOf _ afterPower = p at hmark
    generalize letterOf _ afterPower' = q at hmark
    cases hmark with | mk mark hafter => exact .mk _ hafter

theorem markedNumeral?_of_ne {c : Char} (hc : c ≠ '0') (cs : List Char) :
    markedNumeral? (c :: cs) = none := by
  unfold markedNumeral?
  split
  · exact absurd (List.cons.inj ‹_›).1 hc
  · rfl

theorem markedNumeral?_returned (h : Returned cs ds) :
    Option.Rel SameFront (markedNumeral? cs) (markedNumeral? ds) := by
  cases h with
  | nil => exact .none
  | lineFeed _ =>
      rw [markedNumeral?_of_ne (by decide), markedNumeral?_of_ne (by decide)]
      exact .none
  | @char c _ _ _ _ h =>
      by_cases hc : c = '0'
      · subst hc
        cases h with
        | nil => exact .none
        | lineFeed _ =>
            simp only [markedNumeral?, Char.reduceEq, decide_false, Bool.or_self,
              Bool.false_eq_true, if_false, markedDigits_zero, List.isEmpty_nil, if_true]
            exact .none
        | @char m rest rest' _ _ h =>
            rw [markedNumeral?, markedNumeral?]
            dsimp only
            generalize hbase : (if m = 'x' || m = 'X' then 16 else if m = 'o' || m = 'O' then 8
              else if m = 'b' || m = 'B' then 2 else 0) = base
            have hdigits := markedDigits_returned base h
            generalize markedDigits base rest = p at hdigits
            generalize markedDigits base rest' = q at hdigits
            cases hdigits with | mk digits hbehind =>
            have hmark : SameFront (letterOf ['L', 'l'] _) (letterOf ['L', 'l'] _) :=
              letterOf_returned hbehind (by decide) (by decide)
            dsimp only
            generalize letterOf ['L', 'l'] _ = p at hmark
            generalize letterOf ['L', 'l'] _ = q at hmark
            cases hmark with | mk mark hafter =>
            dsimp only
            split
            · exact .none
            · exact .some (.mk _ hafter)
      · rw [markedNumeral?_of_ne hc, markedNumeral?_of_ne hc]
        exact .none

theorem numeral?_returned (h : Returned cs ds) :
    Option.Rel SameFront (numeral? cs) (numeral? ds) := by
  have hmarked := markedNumeral?_returned h
  have hdecimal := decimalNumeral_returned h
  unfold numeral?
  generalize markedNumeral? cs = a at hmarked
  generalize markedNumeral? ds = b at hmarked
  cases hmarked with
  | some h => exact .some h
  | none =>
      generalize decimalNumeral cs = p at hdecimal
      generalize decimalNumeral ds = q at hdecimal
      cases hdecimal with | mk text hafter =>
      dsimp only
      split
      · exact .none
      · exact .some (.mk _ hafter)

/-! ## Openings of literals -/

theorem open?_returned (h : Returned cs ds) :
    Option.Rel (fun a b => b.1 = a.1 ∧ b.2.1 = a.2.1 ∧ Returned a.2.2 b.2.2)
      (Delimiter.open? cs) (Delimiter.open? ds) := by
  obtain ⟨htake, hdrop⟩ :=
    h.span (p := (Delimiter.mannerLetters.contains ·)) (by decide) (by decide)
  unfold Delimiter.open?
  dsimp only
  rw [htake]
  generalize cs.dropWhile (Delimiter.mannerLetters.contains ·) = behind at hdrop
  generalize ds.dropWhile (Delimiter.mannerLetters.contains ·) = behind' at hdrop
  cases hdrop with
  | nil => exact .none
  | lineFeed _ => exact .none
  | char hfeed hreturn hrest =>
      dsimp only
      split
      · cases hrest with
        | nil => exact .some ⟨rfl, rfl, .nil⟩
        | lineFeed hrest =>
            cases hrest <;>
              simp only [Ne.symm hfeed, Ne.symm hreturn, decide_false, Bool.false_and,
                Bool.false_eq_true, if_false]
            · exact .some ⟨rfl, rfl, Returned.nil.lineFeed⟩
            · exact .some ⟨rfl, rfl, (Returned.lineFeed ‹_›).lineFeed⟩
            · exact .some ⟨rfl, rfl, (Returned.char ‹_› ‹_› ‹_›).lineFeed⟩
        | char h₁ h₁' hrest =>
            cases hrest with
            | nil => exact .some ⟨rfl, rfl, .char h₁ h₁' .nil⟩
            | lineFeed hrest =>
                simp only [Ne.symm hfeed, Ne.symm hreturn, decide_false, Bool.and_false,
                  Bool.false_eq_true, if_false]
                exact .some ⟨rfl, rfl, hrest.lineFeed.char h₁ h₁'⟩
            | char h₂ h₂' hrest =>
                dsimp only
                split
                · exact .some ⟨rfl, rfl, hrest⟩
                · exact .some ⟨rfl, rfl, .char h₁ h₁' (.char h₂ h₂' hrest)⟩
      · split
        · exact .some ⟨rfl, rfl, hrest⟩
        · exact .none

end TestCensus.Source
