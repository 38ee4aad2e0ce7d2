import TestCensus.Proofs.Source.Lexemes

/-!
# Progress of the reader

A step of the reader that reading goes on after takes at least one character
(`Reader.step_shortens`).  So a source is read to its end with as many steps as it has
characters and one more, and more steps change nothing (`Reader.run_eq_of_length_lt`).
-/

namespace TestCensus.Source

open TestCensus.Text

namespace Reader

variable {r : Reader} {cs : List Char}

theorem length_lt_of_append {text rest : List Char} (h : text ++ rest = cs) (hne : text ≠ []) :
    rest.length < cs.length := by
  have hpos := List.length_pos_iff.2 hne
  rw [← h, List.length_append]
  omega

theorem outermost?_shortens {gap : Gap} {s : Reader} {rest : List Char}
    (h : r.outermost? gap cs = some (s, some rest)) : rest.length < cs.length := by
  unfold outermost? at h
  split at h
  · cases h
    exact Nat.lt_succ_self _
  · split at h
    · cases h
      exact Nat.lt_succ_self _
    · split at h
      · cases h
      · cases h
        exact Nat.lt_succ_self _
  · split at h
    · cases h
      exact Nat.lt_succ_of_lt (Nat.lt_succ_self _)
    · cases h
  · cases h

theorem open?_ne_nil {text rest : List Char} {d : Delimiter}
    (h : Delimiter.open? cs = some (text, d, rest)) : text ≠ [] := by
  unfold Delimiter.open? at h
  dsimp only at h
  split at h
  · split at h
    · split at h
      · split at h <;> cases h <;> simp
      · cases h
        simp
    · split at h
      · cases h
        simp
      · cases h
  · cases h

theorem name?_ne_nil {text rest : List Char} (h : name? cs = some (text, rest)) : text ≠ [] := by
  cases cs with
  | nil => cases h
  | cons c tail =>
      rw [name?] at h
      split at h
      · cases h
        exact List.cons_ne_nil _ _
      · cases h

theorem numeral?_ne_nil {text rest : List Char} (h : numeral? cs = some (text, rest)) :
    text ≠ [] := by
  unfold numeral? at h
  split at h
  · rename_i hmarked
    cases h
    unfold markedNumeral? at hmarked
    split at hmarked
    · obtain ⟨-, hsome⟩ := Option.ite_none_left_eq_some.1 hmarked
      cases hsome
      exact List.cons_ne_nil _ _
    · cases hmarked
  · dsimp only at h
    split at h
    · cases h
    · rename_i hempty
      cases h
      simpa using hempty

theorem operator?_ne_nil {text rest : List Char} (h : operator? cs = some (text, rest)) :
    text ≠ [] := by
  obtain ⟨o, ho, hfound⟩ := List.exists_of_findSome?_eq_some h
  obtain ⟨rest', -, he⟩ := Option.map_eq_some_iff.1 hfound
  cases he
  exact (by decide : ∀ o ∈ operators, o ≠ []) _ ho

theorem atToken_shortens {gap : Gap} {s : Reader} {rest : List Char}
    (h : r.atToken gap cs = (s, some rest)) : rest.length < cs.length := by
  unfold atToken at h
  split at h
  · rename_i hnext
    exact outermost?_shortens (h ▸ hnext)
  split at h
  · rename_i hopen
    cases h
    exact length_lt_of_append (Delimiter.open?_eq_some hopen) (open?_ne_nil hopen)
  split at h
  · rename_i hname
    cases h
    exact length_lt_of_append (name?_eq_some hname).symm (name?_ne_nil hname)
  split at h
  · rename_i hnumeral
    cases h
    exact length_lt_of_append (numeral?_eq_some hnumeral) (numeral?_ne_nil hnumeral)
  split at h
  · rename_i hoperator
    cases h
    exact length_lt_of_append (operator?_eq_some hoperator) (operator?_ne_nil hoperator)
  · cases h

theorem inSpec_shortens {s : Reader} {rest : List Char} (h : r.inSpec cs = (s, some rest)) :
    rest.length < cs.length := by
  have hlength := (List.dropWhile_suffix isLineEnd (l := cs)).length_le
  have hhead := List.head?_dropWhile_not isLineEnd cs
  unfold inSpec at h
  dsimp only at h
  split at h
  · cases h
  · rename_i c after hcons
    rw [hcons] at hlength hhead
    have hafter : after.length < cs.length := hlength
    split at h
    · cases h
      exact hafter
    · split at h
      · cases h
        exact hafter
      · rename_i hopen hclose
        cases h
        have hspec : isSpecText c = true := by
          have hline : isLineEnd c = false := hhead
          simp [isSpecText, hopen, hclose, hline]
        rw [List.dropWhile_cons_of_pos hspec]
        exact Nat.lt_of_le_of_lt (List.dropWhile_suffix _).length_le hafter

theorem inContent_shortens {d : Delimiter} {s : Reader} {rest : List Char}
    (h : r.inContent d cs = (s, some rest)) : rest.length < cs.length := by
  have hcs : (Content.read d [] false 0 cs).1 ++ (Content.read d [] false 0 cs).2.2 = cs :=
    Content.read_append rfl
  have hstop := Content.read_stop d [] false 0 cs
  unfold inContent at h
  generalize Content.read d [] false 0 cs = a at h hcs hstop
  obtain ⟨content, stop, behind⟩ := a
  have hlength := congrArg List.length hcs
  have hbehind := hstop.length_le
  rw [List.length_append] at hlength
  dsimp only at h hlength hbehind
  cases stop with
  | broken => cases h
  | close =>
      cases h
      have hclosing : 0 < d.closing.length := by
        unfold Delimiter.closing
        split <;> exact Nat.succ_pos _
      have hbehind : d.closing.length ≤ behind.length := hbehind
      rw [List.length_drop]
      omega
  | field =>
      cases h
      have hbehind : 1 ≤ behind.length := hbehind
      rw [List.length_drop]
      omega

/-- A step that reading goes on after takes at least one character. -/
theorem step_shortens {s : Reader} {rest : List Char} (h : r.step cs = (s, some rest)) :
    rest.length < cs.length := by
  unfold step at h
  split at h
  · exact inContent_shortens h
  · exact inSpec_shortens h
  · split at h
    · cases h
    · rename_i hgap
      have hlength := congrArg List.length (gapOf_eq hgap)
      rw [List.length_append] at hlength
      exact Nat.lt_of_lt_of_le (atToken_shortens h) (by omega)

/-- More steps than there are characters are enough to end, so their number does not matter. -/
theorem run_eq_of_length_lt {n m : Nat} (hn : cs.length < n) (hm : cs.length < m) :
    run n r cs = run m r cs := by
  induction n generalizing m r cs with
  | zero => exact absurd hn (Nat.not_lt_zero _)
  | succ n ih =>
      obtain ⟨m, rfl⟩ : ∃ k, m = k + 1 := ⟨m - 1, by omega⟩
      rcases hnext : r.step cs with ⟨s, rest?⟩
      simp only [run, hnext]
      cases rest? with
      | none => rfl
      | some rest =>
          have hshort := step_shortens hnext
          exact ih (by omega) (by omega)

end Reader

end TestCensus.Source
