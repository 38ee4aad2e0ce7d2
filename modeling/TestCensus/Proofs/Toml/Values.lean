import TestCensus.Proofs.Text.Numeral
import TestCensus.Proofs.Toml.Texts
import TestCensus.Toml.Document

/-!
# Written values are read back

Settings are written as texts, lists of texts, truth values and numbers.  `value` reads
each of them as it was written, and stops where the value ends.
-/

namespace TestCensus.Toml

open TestCensus.Text

/-! ## Numbers -/

theorem isDecimal_of_isDigit {c : Char} (h : c.isDigit = true) : isDecimal c = true := by
  simp only [Char.isDigit, Bool.and_eq_true, decide_eq_true_eq] at h
  simp only [isDecimal, Bool.and_eq_true, decide_eq_true_eq]
  exact h

theorem hexValue?_of_isDigit {c : Char} (h : c.isDigit = true) :
    hexValue? c = some (c.toNat - '0'.toNat) := by
  have hdecimal := isDecimal_of_isDigit h
  rw [isDecimal] at hdecimal
  rw [hexValue?, if_pos hdecimal]

theorem numberOf_eq {ds : List Char} (h : ∀ d ∈ ds, d.isDigit = true) :
    numberOf 10 ds = Nat.ofDigitChars 10 ds 0 := by
  have hfrom : ∀ n, ds.foldl (fun n c => 10 * n + (hexValue? c).getD 0) n =
      Nat.ofDigitChars 10 ds n := by
    induction ds with
    | nil => exact fun n => rfl
    | cons d ds ih =>
        rw [List.forall_mem_cons] at h
        intro n
        rw [List.foldl_cons, Nat.ofDigitChars_cons, hexValue?_of_isDigit h.1]
        exact ih h.2 _
  exact hfrom 0

/-- The digits of a number end at a character that is neither a digit nor an
underscore. -/
theorem moreDigits_append {x : Char} (hdecimal : isDecimal x = false) (hjoin : x ≠ '_')
    {ds : List Char} (h : ∀ d ∈ ds, d.isDigit = true) (rest : List Char) :
    moreDigits isDecimal (ds ++ x :: rest) = some (ds, x :: rest) := by
  induction ds with
  | nil =>
      rw [List.nil_append, moreDigits, hdecimal]
      · simp [hjoin]
      · exact fun _ _ hx => absurd hx hjoin
  | cons d ds ih =>
      rw [List.forall_mem_cons] at h
      have hd := isDecimal_of_isDigit h.1
      rw [List.cons_append, moreDigits, hd, if_pos rfl, ih h.2, prepend_some]
      rintro c rest' rfl
      exact absurd hd (by decide)

theorem dropWhile_of_startsDate {cs : List Char} (h : startsDate cs = true) :
    ∃ rest, cs.dropWhile isDecimal = '-' :: rest := by
  unfold startsDate at h
  split at h
  next a b c d e rest =>
    simp only [Bool.and_eq_true, decide_eq_true_eq] at h
    obtain ⟨⟨⟨⟨ha, hb⟩, hc⟩, hd⟩, rfl⟩ := h
    refine ⟨rest, ?_⟩
    rw [List.dropWhile_cons_of_pos ha, List.dropWhile_cons_of_pos hb,
      List.dropWhile_cons_of_pos hc, List.dropWhile_cons_of_pos hd]
    rfl
  next => cases h

theorem dropWhile_of_startsTime {cs : List Char} (h : startsTime cs = true) :
    ∃ rest, cs.dropWhile isDecimal = ':' :: rest := by
  unfold startsTime at h
  split at h
  next a b c rest =>
    simp only [Bool.and_eq_true, decide_eq_true_eq] at h
    obtain ⟨⟨ha, hb⟩, rfl⟩ := h
    refine ⟨rest, ?_⟩
    rw [List.dropWhile_cons_of_pos ha, List.dropWhile_cons_of_pos hb]
    rfl
  next => cases h

/-- Digits up to a line end begin a number. -/
theorem numberOrMoment_append {ds : List Char} (h : ∀ d ∈ ds, d.isDigit = true)
    (rest : List Char) : numberOrMoment (ds ++ '\n' :: rest) = number (ds ++ '\n' :: rest) := by
  have hdrop : (ds ++ '\n' :: rest).dropWhile isDecimal = '\n' :: rest := by
    rw [List.dropWhile_append_of_pos fun d hd => isDecimal_of_isDigit (h d hd)]
    rfl
  have hdate : startsDate (ds ++ '\n' :: rest) ≠ true := by
    intro hdate
    obtain ⟨rest', hrest'⟩ := dropWhile_of_startsDate hdate
    cases hdrop.symm.trans hrest'
  have htime : startsTime (ds ++ '\n' :: rest) ≠ true := by
    intro htime
    obtain ⟨rest', hrest'⟩ := dropWhile_of_startsTime htime
    cases hdrop.symm.trans hrest'
  rw [numberOrMoment, if_neg hdate, if_neg htime]

theorem decimalDigits_append {n : Nat} {ds : List Char} (h : IsNumeral n ds)
    (rest : List Char) : decimalDigits (ds ++ '\n' :: rest) = some (ds, '\n' :: rest) := by
  obtain ⟨d, ds, rfl, hleading⟩ := h.leading
  have hdecimal := h.decimal
  rw [List.forall_mem_cons] at hdecimal
  by_cases hd : d = '0'
  · subst hd
    rw [hleading rfl]
    rfl
  · rw [List.cons_append, decimalDigits, digits, if_pos (isDecimal_of_isDigit hdecimal.1),
      moreDigits_append (by decide) (by decide) hdecimal.2, prepend_some]
    exact fun _ h => hd (List.cons.inj h).1

theorem sign_of_isDigit {d : Char} (h : d.isDigit = true) (cs : List Char) :
    sign (d :: cs) = (none, d :: cs) := by
  unfold sign
  split
  next hd =>
    rw [(List.cons.inj hd).1] at h
    exact absurd h (by decide)
  next hd =>
    rw [(List.cons.inj hd).1] at h
    exact absurd h (by decide)
  next => rfl

theorem number_append {n : Nat} (hn : n ≤ maxInteger) {ds : List Char} (h : IsNumeral n ds)
    (rest : List Char) : number (ds ++ '\n' :: rest) = some (.integer n, '\n' :: rest) := by
  have hdigits := decimalDigits_append h rest
  have hvalue := (numberOf_eq h.decimal).trans h.value
  obtain ⟨d, ds, rfl, hleading⟩ := h.leading
  have hd := (List.forall_mem_cons.1 h.decimal).1
  have hbased : ∀ x rest', x ≠ '\n' → d :: ds ++ '\n' :: rest ≠ '0' :: x :: rest' := by
    intro x rest' hx heq
    obtain ⟨hzero, htail⟩ := List.cons.inj heq
    rw [hleading hzero] at htail
    exact hx (List.cons.inj htail).1.symm
  unfold number
  rw [List.cons_append, sign_of_isDigit hd]
  split
  next heq =>
    obtain ⟨-, heq⟩ := Prod.mk.inj heq
    rw [(List.cons.inj heq).1] at hd
    exact absurd hd (by decide)
  next heq =>
    obtain ⟨-, heq⟩ := Prod.mk.inj heq
    rw [(List.cons.inj heq).1] at hd
    exact absurd hd (by decide)
  next heq => exact absurd (Prod.mk.inj heq).2 (hbased _ _ (by decide))
  next heq => exact absurd (Prod.mk.inj heq).2 (hbased _ _ (by decide))
  next heq => exact absurd (Prod.mk.inj heq).2 (hbased _ _ (by decide))
  next heq =>
    obtain ⟨rfl, rfl⟩ := Prod.mk.inj heq
    rw [← List.cons_append, hdigits]
    simp [hvalue, boundedInteger?, hn]

theorem value_number (depth : Nat) {n : Nat} (hn : n ≤ maxInteger) (rest : List Char) :
    value depth ((toString n).toList ++ '\n' :: rest) = some (.integer n, '\n' :: rest) := by
  have h := isNumeral_toString n
  have hread := (numberOrMoment_append h.decimal rest).trans (number_append hn h rest)
  obtain ⟨d, ds, hds, -⟩ := h.leading
  have hd : d.isDigit = true := h.decimal d (hds ▸ List.mem_cons_self)
  have hne : ∀ x : Char, x.isDigit = false → d ≠ x := fun x hx => ne_of_isDigit hd hx
  rw [hds, List.cons_append] at hread ⊢
  rw [value.eq_def]
  dsimp only
  rw [if_neg, if_neg (hne 't' (by decide)), if_neg (hne 'f' (by decide)),
    if_neg (hne '[' (by decide)), if_neg (hne '{' (by decide)), hread]
  simp [hne '"' (by decide), hne '\'' (by decide)]

/-! ## Texts -/

/-- A text begins with its quote. -/
theorem exists_writtenText (cs : List Char) :
    ∃ q tail, (q = '"' ∨ q = '\'') ∧ writtenText cs = q :: tail := by
  have hform := Form.holds_of cs
  unfold writtenText
  generalize Form.of cs = form at hform
  cases hform with
  | basic isLong =>
      cases isLong with
      | false => exact ⟨_, _, .inl rfl, rfl⟩
      | true => exact ⟨_, _, .inl rfl, rfl⟩
  | literal => exact ⟨_, _, .inr rfl, rfl⟩
  | longLiteral => exact ⟨_, _, .inr rfl, rfl⟩

theorem value_text (depth : Nat) {x : Char} (hdouble : x ≠ '"') (hsingle : x ≠ '\'')
    (cs rest : List Char) :
    value depth (writtenText cs ++ x :: rest) = some (.text (String.ofList cs), x :: rest) := by
  have hread := quotedText_writtenText hdouble hsingle cs rest
  obtain ⟨q, tail, hq, htail⟩ := exists_writtenText cs
  rw [htail, List.cons_append] at hread ⊢
  rw [value.eq_def]
  dsimp only
  rw [if_pos (by simpa using hq), hread]
  rfl

/-! ## Lists of texts -/

/-- No space stands before a text. -/
theorem skipFillers_writtenText (cs rest : List Char) :
    skipFillers (writtenText cs ++ rest) = writtenText cs ++ rest := by
  obtain ⟨q, tail, hq, htail⟩ := exists_writtenText cs
  rw [htail, List.cons_append]
  rcases hq with rfl | rfl
  · rfl
  · rfl

/-- One element of an array is read, if a comma or the closing bracket follows. -/
theorem elements_text {depth n : Nat} (s : String) {x : Char} (hdouble : x ≠ '"')
    (hsingle : x ≠ '\'') (rest : List Char) :
    elements (value depth) (n + 1) (writtenText s.toList ++ x :: rest) =
      match skipFillers (x :: rest) with
      | ',' :: rest => do
          let (vs, rest) ← elements (value depth) n rest
          return (.text s :: vs, rest)
      | ']' :: rest => return ([.text s], rest)
      | _ => none := by
  have hread := value_text depth hdouble hsingle s.toList rest
  have hskip := skipFillers_writtenText s.toList (x :: rest)
  obtain ⟨q, tail, hq, htail⟩ := exists_writtenText s.toList
  rw [htail, List.cons_append] at hread hskip ⊢
  rw [elements, hskip]
  split
  next heq =>
    rw [(List.cons.inj heq).1] at hq
    exact absurd hq (by decide)
  next =>
    rw [hread, String.ofList_toList]
    rfl

/-- Space before an element does not count. -/
theorem elements_skip (element : Reader Value) (n : Nat) {cs cs' : List Char}
    (h : skipFillers cs = skipFillers cs') : elements element n cs = elements element n cs' := by
  cases n with
  | zero => rfl
  | succ n => rw [elements, elements, h]

/-- An element of a list on a line of its own. -/
def itemLine (s : String) : List Char :=
  ['\n', ' ', ' ', ' ', ' '] ++ writtenText s.toList ++ [',']

theorem skipFillers_space (rest : List Char) : skipFillers (' ' :: rest) = skipFillers rest := rfl

theorem skipFillers_lineEnd (rest : List Char) :
    skipFillers ('\n' :: rest) = skipFillers rest := rfl

theorem elements_itemLine {depth n : Nat} (s : String) (rest : List Char) :
    elements (value depth) (n + 1) (itemLine s ++ rest) =
      (elements (value depth) n rest).map fun (vs, rest) => (.text s :: vs, rest) := by
  have hskip : skipFillers (itemLine s ++ rest) =
      skipFillers (writtenText s.toList ++ ',' :: rest) := by
    rw [itemLine, List.append_assoc, List.append_assoc]
    simp only [List.cons_append, List.nil_append, skipFillers_lineEnd, skipFillers_space]
  rw [elements_skip _ _ hskip, elements_text s (by decide) (by decide)]
  show ((elements (value depth) n rest).bind fun (vs, rest) => some (.text s :: vs, rest)) = _
  cases elements (value depth) n rest with
  | none => rfl
  | some read => rfl

theorem elements_itemLines {depth : Nat} (ss : List String) (rest : List Char) {n : Nat}
    (hn : ss.length < n) :
    elements (value depth) n (ss.flatMap itemLine ++ '\n' :: ']' :: rest) =
      some (ss.map Value.text, rest) := by
  induction ss generalizing n with
  | nil =>
      obtain ⟨n, rfl⟩ := Nat.exists_eq_succ_of_ne_zero (Nat.ne_zero_of_lt hn)
      rfl
  | cons s ss ih =>
      obtain ⟨n, rfl⟩ := Nat.exists_eq_succ_of_ne_zero (Nat.ne_zero_of_lt hn)
      rw [List.flatMap_cons, List.append_assoc, elements_itemLine, ih (Nat.lt_of_succ_lt_succ hn)]
      rfl

/-- A list has at most as many elements as its text has characters. -/
theorem length_le_flatMap_itemLine (ss : List String) :
    ss.length ≤ (ss.flatMap itemLine).length := by
  induction ss with
  | nil => exact Nat.le_refl 0
  | cons s ss ih =>
      rw [List.flatMap_cons, List.length_append, List.length_cons, itemLine, List.length_append]
      simp only [List.length_cons, List.length_nil]
      omega

theorem value_list (depth : Nat) (ss : List String) (rest : List Char) :
    value (depth + 1) (writtenList ss ++ rest) = some (.array (ss.map .text), rest) := by
  have harray : ∀ cs vs, elements (value depth) (cs.length + 1) cs = some (vs, rest) →
      value (depth + 1) ('[' :: cs) = some (.array vs, rest) := by
    intro cs vs h
    rw [value.eq_def]
    dsimp only
    rw [if_neg (by decide), if_neg (by decide), if_neg (by decide), if_pos rfl, h]
    rfl
  match ss with
  | [] => exact harray _ _ rfl
  | [s] =>
      rw [writtenList, List.append_assoc, List.cons_append]
      exact harray _ _ (elements_text s (by decide) (by decide) rest)
  | s :: s' :: ss =>
      have hspace : "\n    ".toList = ['\n', ' ', ' ', ' ', ' '] := by decide +kernel
      have htext : writtenList (s :: s' :: ss) ++ rest =
          '[' :: ((s :: s' :: ss).flatMap itemLine ++ '\n' :: ']' :: rest) := by
        rw [writtenList, hspace, List.append_assoc, List.cons_append]
        · rfl
        · exact List.cons_ne_nil _ _
        · exact fun _ h => absurd (List.cons.inj h).2 (List.cons_ne_nil _ _)
      rw [htext]
      refine harray _ _ (elements_itemLines _ rest ?_)
      have hlength := length_le_flatMap_itemLine (s :: s' :: ss)
      rw [List.length_append]
      omega

end TestCensus.Toml
