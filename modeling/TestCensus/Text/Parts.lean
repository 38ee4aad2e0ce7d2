/-!
# Parts of a text

The questions asked of names and paths: whether one text starts another, ends
it or occurs in it, and what stands before and after the last occurrence of a
character.
-/

namespace TestCensus.Text

/-- The text `start` begins the text `cs`. -/
def startsWith (start cs : List Char) : Bool := start.isPrefixOf cs

/-- The text `part` occurs in the text as a run of neighbouring characters. -/
def occursIn (part : List Char) : List Char → Bool
  | [] => part.isEmpty
  | c :: rest => startsWith part (c :: rest) || occursIn part rest

/-- What stands before and after the last `sep`, if there is one. -/
def splitAtLast (sep : Char) : List Char → Option (List Char × List Char)
  | [] => none
  | c :: rest =>
      match splitAtLast sep rest with
      | some (before, after) => some (c :: before, after)
      | none => if c = sep then some ([], rest) else none

/-- The pieces of a text between the occurrences of `sep`, one more than there
are occurrences. -/
def splitOn (sep : Char) : List Char → List (List Char)
  | [] => [[]]
  | c :: rest =>
      if c = sep then [] :: splitOn sep rest
      else
        match splitOn sep rest with
        | [] => [[c]]
        | piece :: others => (c :: piece) :: others

/-- What is left of a text after `start`, if it starts so. -/
def dropStart? : List Char → List Char → Option (List Char)
  | [], cs => some cs
  | _ :: _, [] => none
  | s :: start, c :: cs => if s = c then dropStart? start cs else none

/-- The string `start` begins the string `s`. -/
def hasStart (s start : String) : Bool := startsWith start.toList s.toList

/-- The string `part` occurs in the string `s`. -/
def contains (s part : String) : Bool := occursIn part.toList s.toList

theorem hasStart_iff {s start : String} : hasStart s start = true ↔ start.toList <+: s.toList :=
  List.isPrefixOf_iff_prefix

theorem occursIn_iff {part cs : List Char} : occursIn part cs = true ↔ part <:+: cs := by
  induction cs with
  | nil => simp [occursIn]
  | cons c rest ih =>
      rw [occursIn, Bool.or_eq_true, ih, List.infix_cons_iff]
      exact or_congr_left List.isPrefixOf_iff_prefix

theorem contains_iff {s part : String} : contains s part = true ↔ part.toList <:+: s.toList :=
  occursIn_iff

theorem splitAtLast_eq_some {sep : Char} {cs before after : List Char}
    (h : splitAtLast sep cs = some (before, after)) : cs = before ++ sep :: after := by
  induction cs generalizing before with
  | nil => simp [splitAtLast] at h
  | cons c rest ih =>
      simp only [splitAtLast] at h
      split at h
      · rename_i before' after' hr
        simp only [Option.some.injEq, Prod.mk.injEq] at h
        obtain ⟨rfl, rfl⟩ := h
        rw [ih hr]
        rfl
      · split at h
        · rename_i hc
          simp only [Option.some.injEq, Prod.mk.injEq] at h
          obtain ⟨rfl, rfl⟩ := h
          simp [hc]
        · simp at h

theorem splitAtLast_of_not_mem {sep : Char} {cs : List Char} (h : sep ∉ cs) :
    splitAtLast sep cs = none := by
  induction cs with
  | nil => rfl
  | cons c rest ih =>
      simp only [List.mem_cons, not_or] at h
      rw [splitAtLast, ih h.2]
      exact if_neg (Ne.symm h.1)

theorem not_mem_of_splitAtLast_eq_none {sep : Char} {cs : List Char}
    (h : splitAtLast sep cs = none) : sep ∉ cs := by
  induction cs with
  | nil => exact List.not_mem_nil
  | cons c rest ih =>
      rw [splitAtLast] at h
      split at h
      · cases h
      · rename_i hrest
        split at h
        · cases h
        · rename_i hc
          rw [List.mem_cons, not_or]
          exact ⟨Ne.symm hc, ih hrest⟩

/-- No separator stands behind the last one. -/
theorem not_mem_of_splitAtLast {sep : Char} {cs before after : List Char}
    (h : splitAtLast sep cs = some (before, after)) : sep ∉ after := by
  induction cs generalizing before with
  | nil => cases h
  | cons c rest ih =>
      rw [splitAtLast] at h
      split at h
      · rename_i hrest
        cases h
        exact ih hrest
      · rename_i hrest
        split at h
        · cases h
          exact not_mem_of_splitAtLast_eq_none hrest
        · cases h

/-- The last separator is the one with none behind it. -/
theorem splitAtLast_append {sep : Char} {after : List Char} (h : sep ∉ after)
    (before : List Char) : splitAtLast sep (before ++ sep :: after) = some (before, after) := by
  induction before with
  | nil =>
      rw [List.nil_append, splitAtLast, splitAtLast_of_not_mem h]
      exact if_pos rfl
  | cons c before ih => rw [List.cons_append, splitAtLast, ih]

theorem splitOn_ne_nil (sep : Char) (cs : List Char) : splitOn sep cs ≠ [] := by
  cases cs with
  | nil => simp [splitOn]
  | cons c rest =>
      simp only [splitOn]
      split
      · simp
      · split <;> simp

/-- A separator ends a piece, whatever stands behind it. -/
theorem splitOn_append_sep (sep : Char) (cs rest : List Char) :
    splitOn sep (cs ++ sep :: rest) = splitOn sep cs ++ splitOn sep rest := by
  induction cs with
  | nil => simp [splitOn]
  | cons c cs ih =>
      rw [List.cons_append, splitOn, splitOn, ih]
      by_cases hc : c = sep
      · simp [hc]
      · cases hpieces : splitOn sep cs with
        | nil => exact absurd hpieces (splitOn_ne_nil sep cs)
        | cons piece others => simp [hc]

/-- What stands before the first separator belongs to the first piece. -/
theorem splitOn_append {sep : Char} {cs : List Char} (h : sep ∉ cs) (rest : List Char) :
    ∃ first others, splitOn sep rest = first :: others ∧
      splitOn sep (cs ++ rest) = (cs ++ first) :: others := by
  induction cs with
  | nil =>
      cases hpieces : splitOn sep rest with
      | nil => exact absurd hpieces (splitOn_ne_nil sep rest)
      | cons first others => exact ⟨first, others, rfl, hpieces⟩
  | cons c cs ih =>
      simp only [List.mem_cons, not_or] at h
      obtain ⟨first, others, hrest, hcs⟩ := ih h.2
      refine ⟨first, others, hrest, ?_⟩
      rw [List.cons_append, splitOn, if_neg (Ne.symm h.1), hcs]
      rfl

theorem splitOn_of_not_mem {sep : Char} {cs : List Char} (h : sep ∉ cs) :
    splitOn sep cs = [cs] := by
  obtain ⟨first, others, hnil, hcs⟩ := splitOn_append h []
  simp only [splitOn, List.cons.injEq] at hnil
  rw [List.append_nil] at hcs
  rw [hcs, ← hnil.1, ← hnil.2, List.append_nil]

theorem not_mem_of_mem_splitOn {sep : Char} {cs piece : List Char} (h : piece ∈ splitOn sep cs) :
    sep ∉ piece := by
  induction cs generalizing piece with
  | nil =>
      simp only [splitOn, List.mem_singleton] at h
      simp [h]
  | cons c cs ih =>
      simp only [splitOn] at h
      split at h
      · rcases List.mem_cons.1 h with rfl | h
        · simp
        · exact ih h
      · rename_i hc
        split at h
        · rename_i hnil
          exact absurd hnil (splitOn_ne_nil sep cs)
        · rename_i first others hpieces
          rcases List.mem_cons.1 h with rfl | h
          · have hfirst := ih (by rw [hpieces]; exact .head _)
            simp [hfirst, Ne.symm hc]
          · exact ih (by rw [hpieces]; exact .tail _ h)

theorem dropStart?_eq_some {start cs rest : List Char} (h : dropStart? start cs = some rest) :
    cs = start ++ rest := by
  induction start generalizing cs with
  | nil => simpa [dropStart?] using h
  | cons s start ih =>
      cases cs with
      | nil => simp [dropStart?] at h
      | cons c cs =>
          simp only [dropStart?] at h
          split at h
          · rename_i hs
            rw [hs, ih h]
            rfl
          · simp at h

end TestCensus.Text
