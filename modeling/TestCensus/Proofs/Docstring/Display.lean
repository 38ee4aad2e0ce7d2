import TestCensus.Docstring.Display
import TestCensus.Proofs.Docstring.Indentation

/-!
# Docstrings and their display

A docstring loses its indentation much as on display, but not by the same rule.  This module says
for which docstrings both rules give the same text.

*Lines.*  Both rules work on the pieces of a docstring between its line feeds.  `clean` takes a
carriage return off the end of each piece but the last (`chopped`), and a last piece that is empty
is no line for it, which does not matter (`cleanLines_chopped`).

*Tabs.*  A tab counts as eight spaces for one rule and goes to the next stop for the other, which
is the same exactly if it stands at a stop (`expandTabs_eq_fillTabs_iff`): the other rule never
gives more spaces, so the lengths of both texts tell.

*Margins.*  A tool may count other characters as blank than `clean` does, so its margin may be
another one, and it may take more or less off the first line.

*Empty lines.*  The lines that are left are the same exactly if each line is (`trimLines_eq_iff`):
of a line that is not blank `clean` leaves something visible, and of a blank line the display
leaves blanks at most.  So the condition is one on each line, `ShownAlike`, and
`clean_eq_display_iff` puts it together.
-/

namespace TestCensus.Docstring

open TestCensus.Text

/-! ## Pieces and lines -/

/-- A line without a carriage return at its end. -/
def chopReturn (line : List Char) : List Char :=
  if line.getLast? = some '\r' then line.dropLast else line

/-- The pieces of a text without the carriage returns in front of its line feeds. -/
def chopped : List (List Char) → List (List Char)
  | [] => []
  | [last] => [last]
  | line :: others => chopReturn line :: chopped others

theorem chopped_cons_cons (line next : List Char) (more : List (List Char)) :
    chopped (line :: next :: more) = chopReturn line :: chopped (next :: more) := rfl

theorem exists_splitOn (cs : List Char) : ∃ piece others, splitOn '\n' cs = piece :: others :=
  List.exists_cons_of_ne_nil (splitOn_ne_nil '\n' cs)

theorem splitOn_lineFeed (cs : List Char) : splitOn '\n' ('\n' :: cs) = [] :: splitOn '\n' cs := by
  rw [splitOn, if_pos rfl]

theorem splitOn_char {c : Char} (hc : c ≠ '\n') {cs piece : List Char} {others : List (List Char)}
    (h : splitOn '\n' cs = piece :: others) : splitOn '\n' (c :: cs) = (c :: piece) :: others := by
  rw [splitOn, if_neg hc, h]

theorem chopReturn_cons {c : Char} {line : List Char} (h : line = [] → c ≠ '\r') :
    chopReturn (c :: line) = c :: chopReturn line := by
  cases line with
  | nil =>
      have hc : some c ≠ some '\r' := fun heq => h rfl (Option.some.inj heq)
      rw [chopReturn, List.getLast?_singleton, if_neg hc]
      rfl
  | cons d line =>
      rw [chopReturn, chopReturn, List.getLast?_cons_cons, List.dropLast_cons_cons]
      split <;> rfl

theorem exists_of_splitOn_nil {cs next : List Char} {more : List (List Char)}
    (h : splitOn '\n' cs = [] :: next :: more) : ∃ rest, cs = '\n' :: rest := by
  cases cs with
  | nil => cases h
  | cons d rest =>
      by_cases hd : d = '\n'
      · exact ⟨rest, by rw [hd]⟩
      · obtain ⟨piece, others, hrest⟩ := exists_splitOn rest
        rw [splitOn_char hd hrest] at h
        cases h

/-- The lines of a text are its pieces without the carriage returns, where a last piece that is
empty is no line. -/
theorem chopped_splitOn (cs : List Char) :
    chopped (splitOn '\n' cs) = lines cs ∨ chopped (splitOn '\n' cs) = lines cs ++ [[]] := by
  fun_induction lines cs with
  | case1 => exact .inr rfl
  | case2 rest ih =>
      obtain ⟨piece, others, hrest⟩ := exists_splitOn rest
      rw [splitOn_lineFeed]
      rw [hrest] at ih ⊢
      exact ih.imp (congrArg ([] :: ·)) (congrArg ([] :: ·))
  | case3 rest ih =>
      obtain ⟨piece, others, hrest⟩ := exists_splitOn rest
      rw [splitOn_char (by decide) (splitOn_lineFeed rest)]
      rw [hrest] at ih ⊢
      exact ih.imp (congrArg ([] :: ·)) (congrArg ([] :: ·))
  | case4 c rest hc _ hlines ih =>
      obtain ⟨piece, others, hrest⟩ := exists_splitOn rest
      rw [splitOn_char hc hrest]
      rw [hrest, hlines] at ih
      cases others with
      | nil =>
          rcases ih with ih | ih
          · cases ih
          · cases ih
            exact .inl rfl
      | cons next more =>
          rw [chopped_cons_cons] at ih
          rcases ih with ih | ih
          · cases ih
          · cases more <;> cases (List.cons.inj ih).2
  | case5 c rest hc hreturn line others hlines ih =>
      obtain ⟨piece, pieces, hrest⟩ := exists_splitOn rest
      rw [splitOn_char hc hrest]
      rw [hrest, hlines] at ih
      cases pieces with
      | nil =>
          rcases ih with ih | ih
          · cases ih
            exact .inl rfl
          · cases others <;> cases ih
      | cons next more =>
          have hpiece : piece = [] → c ≠ '\r' := by
            rintro rfl rfl
            obtain ⟨after, rfl⟩ := exists_of_splitOn_nil hrest
            exact hreturn after rfl rfl
          rw [chopped_cons_cons] at ih ⊢
          rw [chopReturn_cons hpiece]
          rcases ih with ih | ih
          · obtain ⟨rfl, hothers⟩ := List.cons.inj ih
            exact .inl (congrArg _ hothers)
          · obtain ⟨rfl, hothers⟩ := List.cons.inj ih
            exact .inr (congrArg _ hothers)

theorem trimLines_append_nil (ls : List (List Char)) : trimLines (ls ++ [[]]) = trimLines ls := by
  rw [trimLines, trimLines, List.dropWhile_append]
  split
  · rename_i hall
    rw [List.isEmpty_iff.1 hall]
    rfl
  · rw [List.reverse_append]
    rfl

theorem margin_append_nil (rest : List (List Char)) : margin (rest ++ [[]]) = margin rest := by
  rw [margin, margin, List.filter_append]
  exact congrArg (fun ls => ((List.map indentation ls).min?).getD 0) (List.append_nil _)

theorem cleanLines_append_nil (ls : List (List Char)) :
    cleanLines (ls ++ [[]]) = cleanLines ls := by
  cases ls with
  | nil => rfl
  | cons first rest =>
      rw [List.cons_append, cleanLines, cleanLines, margin_append_nil, List.map_append,
        ← List.cons_append]
      exact trimLines_append_nil _

/-- A docstring is cleaned piece by piece. -/
theorem cleanLines_chopped (cs : List Char) :
    cleanLines (chopped (splitOn '\n' cs)) = cleanLines (lines cs) := by
  rcases chopped_splitOn cs with h | h
  · rw [h]
  · rw [h, cleanLines_append_nil]

/-! ## Tabs -/

theorem not_mem_spaces (n : Nat) : '\n' ∉ List.replicate n ' ' := fun h =>
  absurd (List.eq_of_mem_replicate h) (by decide)

/-- The pieces of a text in which tabs are eight spaces. -/
theorem splitOn_expandTabs (cs : List Char) :
    splitOn '\n' (expandTabs cs) = (splitOn '\n' cs).map expandTabs := by
  induction cs with
  | nil => rfl
  | cons c rest ih =>
      obtain ⟨piece, others, hrest⟩ := exists_splitOn rest
      rw [hrest, List.map_cons] at ih
      by_cases hc : c = '\n'
      · subst hc
        have hexpand : expandTabs ('\n' :: rest) = '\n' :: expandTabs rest := rfl
        rw [hexpand, splitOn_lineFeed, splitOn_lineFeed, ih, hrest]
        rfl
      · have hwidth : '\n' ∉ if c = '\t' then List.replicate 8 ' ' else [c] := by
          split
          · exact not_mem_spaces 8
          · exact fun h => hc (List.mem_singleton.1 h).symm
        obtain ⟨first, more, hfirst, hsplit⟩ := splitOn_append hwidth (expandTabs rest)
        rw [ih] at hfirst
        obtain ⟨rfl, rfl⟩ := List.cons.inj hfirst
        rw [expandTabs, hsplit, splitOn_char hc hrest, List.map_cons, expandTabs]

/-- The pieces of a text in which tabs are filled up. -/
theorem splitOn_fillTabs {cs piece : List Char} {others : List (List Char)}
    (h : splitOn '\n' cs = piece :: others) (column : Nat) :
    splitOn '\n' (fillTabs column cs) = fillTabs column piece :: others.map (fillTabs 0) := by
  induction cs generalizing piece others column with
  | nil => cases h; rfl
  | cons c rest ih =>
      obtain ⟨piece', others', hrest⟩ := exists_splitOn rest
      by_cases hc : c = '\n'
      · subst hc
        have hfill : fillTabs column ('\n' :: rest) = '\n' :: fillTabs 0 rest := rfl
        rw [splitOn_lineFeed, hrest] at h
        cases h
        rw [hfill, splitOn_lineFeed, ih hrest]
        rfl
      · have hwidth : '\n' ∉
            if c = '\t' then List.replicate (nextStop column - column) ' ' else [c] := by
          split
          · exact not_mem_spaces _
          · exact fun h => hc (List.mem_singleton.1 h).symm
        obtain ⟨first, more, hfirst, hsplit⟩ :=
          splitOn_append hwidth (fillTabs (columnAfter column c) rest)
        rw [ih hrest] at hfirst
        obtain ⟨rfl, rfl⟩ := List.cons.inj hfirst
        rw [splitOn_char hc hrest] at h
        cases h
        rw [fillTabs, hsplit, fillTabs]

theorem expandTabs_append (xs ys : List Char) :
    expandTabs (xs ++ ys) = expandTabs xs ++ expandTabs ys := by
  induction xs with
  | nil => rfl
  | cons c xs ih => rw [List.cons_append, expandTabs, expandTabs, ih, List.append_assoc]

theorem fillTabs_append (column : Nat) (xs ys : List Char) :
    fillTabs column (xs ++ ys) =
      fillTabs column xs ++ fillTabs (columnBehind column xs) ys := by
  induction xs generalizing column with
  | nil => rfl
  | cons c xs ih =>
      rw [List.cons_append, fillTabs, fillTabs, ih, List.append_assoc]
      rfl

/-- Every tab of a text that begins at a column stands at a tab stop. -/
def OnStops (column : Nat) (cs : List Char) : Prop :=
  ∀ before after, cs = before ++ '\t' :: after → columnBehind column before % 8 = 0

theorem onStops_cons {column : Nat} {c : Char} {rest : List Char} :
    OnStops column (c :: rest) ↔
      (c = '\t' → column % 8 = 0) ∧ OnStops (columnAfter column c) rest := by
  constructor
  · intro h
    exact ⟨fun hc => h [] rest (by rw [hc]; rfl),
      fun before after hrest => h (c :: before) after (by rw [hrest]; rfl)⟩
  · rintro ⟨hc, hrest⟩ before after heq
    cases before with
    | nil => exact hc (List.cons.inj heq).1
    | cons d before =>
        obtain ⟨rfl, hrest'⟩ := List.cons.inj heq
        exact hrest before after hrest'

theorem nextStop_sub (column : Nat) : nextStop column - column = 8 - column % 8 := by
  rw [nextStop]
  omega

/-- Filled up to the next stop, a text is never longer. -/
theorem length_fillTabs_le (column : Nat) (cs : List Char) :
    (fillTabs column cs).length ≤ (expandTabs cs).length := by
  induction cs generalizing column with
  | nil => exact Nat.le_refl 0
  | cons c rest ih =>
      have hrest := ih (columnAfter column c)
      rw [fillTabs, expandTabs, List.length_append, List.length_append]
      split
      · rw [List.length_replicate, List.length_replicate, nextStop_sub]
        omega
      · exact Nat.add_le_add_left hrest _

/-- Eight spaces are the same as a tab that stands at a tab stop, and only as such a tab. -/
theorem expandTabs_eq_fillTabs_iff (column : Nat) (cs : List Char) :
    expandTabs cs = fillTabs column cs ↔ OnStops column cs := by
  induction cs generalizing column with
  | nil => exact ⟨fun _ before _ heq => absurd heq (by simp), fun _ => rfl⟩
  | cons c rest ih =>
      rw [onStops_cons, ← ih, expandTabs, fillTabs]
      by_cases hc : c = '\t'
      · rw [if_pos hc, if_pos hc, nextStop_sub]
        constructor
        · intro heq
          have hlength := congrArg List.length heq
          have hle := length_fillTabs_le (columnAfter column c) rest
          rw [List.length_append, List.length_append, List.length_replicate,
            List.length_replicate] at hlength
          have hcolumn : column % 8 = 0 := by omega
          rw [hcolumn] at heq
          exact ⟨fun _ => hcolumn, List.append_cancel_left heq⟩
        · rintro ⟨hcolumn, heq⟩
          rw [hcolumn hc, heq]
      · rw [if_neg hc, if_neg hc]
        exact ⟨fun heq => ⟨fun hc' => absurd hc' hc, List.append_cancel_left heq⟩,
          fun h => by rw [h.2]⟩

/-! ## Carriage returns -/

theorem count_return_expandTabs (cs : List Char) :
    (expandTabs cs).count '\r' = cs.count '\r' := by
  induction cs with
  | nil => rfl
  | cons c rest ih =>
      rw [expandTabs, List.count_append, ih]
      split
      · rename_i hc
        subst hc
        rw [List.count_cons_of_ne (by decide), List.count_eq_zero.2 (by decide), Nat.zero_add]
      · rw [← List.count_append]
        rfl

theorem count_return_fillTabs (column : Nat) (cs : List Char) :
    (fillTabs column cs).count '\r' = cs.count '\r' := by
  induction cs generalizing column with
  | nil => rfl
  | cons c rest ih =>
      rw [fillTabs, List.count_append, ih]
      split
      · rename_i hc
        subst hc
        have hspaces : '\r' ∉ List.replicate (nextStop column - column) ' ' := fun h =>
          absurd (List.eq_of_mem_replicate h) (by decide)
        rw [List.count_cons_of_ne (by decide), List.count_eq_zero.2 hspaces, Nat.zero_add]
      · rw [← List.count_append]
        rfl

/-- The line `q` is the line `p`, or `p` without the carriage return at its end. -/
def Chopped (q p : List Char) : Prop := q = p ∨ p = q ++ ['\r']

theorem chopReturn_chopped (line : List Char) : Chopped (chopReturn line) line := by
  rw [chopReturn]
  split
  · rename_i hlast
    obtain ⟨before, rfl⟩ := List.getLast?_eq_some_iff.1 hlast
    exact .inr (by rw [List.dropLast_concat])
  · exact .inl rfl

theorem chopReturn_eq_iff {line : List Char} :
    chopReturn line = line ↔ line.getLast? ≠ some '\r' := by
  rw [chopReturn]
  split
  · rename_i hlast
    obtain ⟨before, rfl⟩ := List.getLast?_eq_some_iff.1 hlast
    simp
  · rename_i hlast
    exact ⟨fun _ => hlast, fun _ => rfl⟩

theorem expandTabs_chopReturn (line : List Char) :
    expandTabs (chopReturn line) = chopReturn (expandTabs line) := by
  rcases List.eq_nil_or_concat line with rfl | ⟨before, c, rfl⟩
  · rfl
  · rw [List.concat_eq_append, expandTabs_append]
    by_cases hreturn : c = '\r'
    · subst hreturn
      have hsingle : expandTabs ['\r'] = ['\r'] := rfl
      rw [hsingle, chopReturn, chopReturn, List.getLast?_concat, List.getLast?_concat, if_pos rfl,
        if_pos rfl, List.dropLast_concat, List.dropLast_concat]
    · have hlast : (expandTabs before ++ expandTabs [c]).getLast? ≠ some '\r' := by
        by_cases htab : c = '\t'
        · subst htab
          have hspaces : (expandTabs ['\t']).getLast? = some ' ' := by decide
          rw [List.getLast?_append, hspaces]
          exact fun heq => absurd (Option.some.inj heq) (by decide)
        · have hsingle : expandTabs [c] = [c] := by simp [expandTabs, htab]
          rw [hsingle, List.getLast?_concat]
          exact fun heq => hreturn (Option.some.inj heq)
      have hkept : chopReturn (before ++ [c]) = before ++ [c] := by
        rw [chopReturn_eq_iff, List.getLast?_concat]
        exact fun heq => hreturn (Option.some.inj heq)
      rw [hkept, chopReturn_eq_iff.2 hlast, expandTabs_append]

theorem chopped_map_expandTabs (pieces : List (List Char)) :
    chopped (pieces.map expandTabs) = (chopped pieces).map expandTabs := by
  fun_induction chopped pieces with
  | case1 => rfl
  | case2 last => rfl
  | case3 line others hothers ih =>
      obtain ⟨next, more, rfl⟩ := List.exists_cons_of_ne_nil hothers
      rw [List.map_cons, List.map_cons, chopped_cons_cons, ← List.map_cons, ih,
        ← expandTabs_chopReturn]
      rfl

theorem chopped_forall₂ (pieces : List (List Char)) :
    List.Forall₂ Chopped (chopped pieces) pieces := by
  fun_induction chopped pieces with
  | case1 => exact .nil
  | case2 last => exact .cons (.inl rfl) .nil
  | case3 line others hothers ih => exact .cons (chopReturn_chopped line) ih

/-- The carriage returns matter unless no visible line in front of another ends in one. -/
theorem forall₂_chopped_iff (pieces : List (List Char)) :
    List.Forall₂ (fun q p => isBlankText p = false → q = p) (chopped pieces) pieces ↔
      ∀ line ∈ pieces.dropLast, isBlankText line = false → line.getLast? ≠ some '\r' := by
  fun_induction chopped pieces with
  | case1 => exact ⟨fun _ => nofun, fun _ => .nil⟩
  | case2 last => exact ⟨fun _ => nofun, fun _ => .cons (fun _ => rfl) .nil⟩
  | case3 line others hothers ih =>
      obtain ⟨next, more, rfl⟩ := List.exists_cons_of_ne_nil hothers
      rw [List.forall₂_cons, ih, List.dropLast_cons_cons, List.forall_mem_cons, chopReturn_eq_iff]

/-! ## Indentation -/

/-- The blank characters at the front of a line. -/
def lead (line : List Char) : List Char := line.takeWhile isBlank

theorem lead_append_trimStart (line : List Char) : lead line ++ trimStart line = line :=
  List.takeWhile_append_dropWhile

theorem isBlankText_lead (line : List Char) : isBlankText (lead line) = true :=
  isBlankText_takeWhile line

theorem isBlankText_cons (c : Char) (cs : List Char) :
    isBlankText (c :: cs) = (isBlank c && isBlankText cs) := List.all_cons

theorem isBlankText_spaces (n : Nat) : isBlankText (List.replicate n ' ') = true :=
  List.all_eq_true.2 fun c hc => by rw [List.eq_of_mem_replicate hc]; decide

theorem isBlankText_expandTabs (cs : List Char) : isBlankText (expandTabs cs) = isBlankText cs := by
  induction cs with
  | nil => rfl
  | cons c rest ih =>
      rw [expandTabs, isBlankText_append, ih, isBlankText_cons]
      split
      · rename_i hc
        rw [isBlankText_spaces, hc]
        rfl
      · rw [isBlankText_cons]
        exact congrArg (· && _) (Bool.and_true _)

theorem isBlankText_fillTabs (column : Nat) (cs : List Char) :
    isBlankText (fillTabs column cs) = isBlankText cs := by
  induction cs generalizing column with
  | nil => rfl
  | cons c rest ih =>
      rw [fillTabs, isBlankText_append, ih, isBlankText_cons]
      split
      · rename_i hc
        rw [isBlankText_spaces, hc]
        rfl
      · rw [isBlankText_cons]
        exact congrArg (· && _) (Bool.and_true _)

theorem StartsVisibly.expandTabs {cs : List Char} (h : StartsVisibly cs) :
    StartsVisibly (expandTabs cs) := by
  obtain ⟨c, rest, rfl, hc⟩ := h
  have htab : c ≠ '\t' := by rintro rfl; cases hc
  rw [Docstring.expandTabs, if_neg htab]
  exact ⟨c, _, rfl, hc⟩

theorem StartsVisibly.fillTabs {cs : List Char} (h : StartsVisibly cs) (column : Nat) :
    StartsVisibly (fillTabs column cs) := by
  obtain ⟨c, rest, rfl, hc⟩ := h
  have htab : c ≠ '\t' := by rintro rfl; cases hc
  rw [Docstring.fillTabs, if_neg htab]
  exact ⟨c, _, rfl, hc⟩

/-- Blank characters in front of a visible one are the indentation. -/
theorem takeWhile_visible {xs ys : List Char} (hxs : isBlankText xs = true)
    (hys : StartsVisibly ys) :
    (xs ++ ys).takeWhile isBlank = xs ∧ (xs ++ ys).dropWhile isBlank = ys := by
  obtain ⟨c, rest, rfl, hc⟩ := hys
  have hall := List.all_eq_true.1 hxs
  rw [List.takeWhile_append_of_pos hall, List.dropWhile_append_of_pos hall,
    List.takeWhile_cons_of_neg (by simp [hc]), List.dropWhile_cons_of_neg (by simp [hc]),
    List.append_nil]
  exact ⟨rfl, rfl⟩

/-- The blank characters in front of a visible one and what stands behind them can be told from the
text. -/
theorem append_visible_inj {xs xs' ys ys' : List Char} (hxs : isBlankText xs = true)
    (hxs' : isBlankText xs' = true) (hys : StartsVisibly ys) (hys' : StartsVisibly ys') :
    xs ++ ys = xs' ++ ys' ↔ xs = xs' ∧ ys = ys' := by
  constructor
  · intro heq
    obtain ⟨htake, hdrop⟩ := takeWhile_visible hxs hys
    rw [heq] at htake hdrop
    obtain ⟨htake', hdrop'⟩ := takeWhile_visible hxs' hys'
    exact ⟨htake.symm.trans htake', hdrop.symm.trans hdrop'⟩
  · rintro ⟨rfl, rfl⟩
    rfl

theorem isBlankText_dropWhile {xs : List Char} (h : isBlankText xs = true) (p : Char → Bool) :
    isBlankText (xs.dropWhile p) = true :=
  List.all_eq_true.2 fun c hc => List.all_eq_true.1 h c ((List.dropWhile_suffix p).subset hc)

theorem isBlankText_drop {xs : List Char} (h : isBlankText xs = true) (n : Nat) :
    isBlankText (xs.drop n) = true :=
  List.all_eq_true.2 fun c hc => List.all_eq_true.1 h c (List.mem_of_mem_drop hc)

theorem takeWhile_expandTabs {line : List Char} (h : isBlankText line = false) :
    (expandTabs line).takeWhile isBlank = expandTabs (lead line) ∧
      (expandTabs line).dropWhile isBlank = expandTabs (trimStart line) := by
  have hsplit := expandTabs_append (lead line) (trimStart line)
  rw [lead_append_trimStart] at hsplit
  rw [hsplit]
  exact takeWhile_visible ((isBlankText_expandTabs _).trans (isBlankText_lead line))
    (startsVisibly_trimStart h).expandTabs

theorem fillTabs_eq_append (line : List Char) :
    fillTabs 0 line =
      fillTabs 0 (lead line) ++ fillTabs (columnBehind 0 (lead line)) (trimStart line) := by
  rw [← fillTabs_append, lead_append_trimStart]

theorem visible_fillTabs (column : Nat) (cs : List Char) :
    visible (fillTabs column cs) = visible cs := by
  induction cs generalizing column with
  | nil => rfl
  | cons c rest ih =>
      rw [fillTabs, visible_append, ih]
      split
      · rename_i hc
        rw [visible_of_blank (isBlankText_spaces _), hc, visible_cons_blank (by decide)]
        rfl
      · rw [← visible_append]
        rfl

theorem Chopped.visible_eq {q p : List Char} (h : Chopped q p) : visible q = visible p := by
  rcases h with rfl | rfl
  · rfl
  · have hreturn : visible ['\r'] = [] := by decide
    rw [visible_append, hreturn, List.append_nil]

/-- A carriage return at the end of a line is not in the way of its indentation. -/
theorem Chopped.lead_eq {q p : List Char} (h : Chopped q p) (hp : isBlankText p = false) :
    isBlankText q = false ∧ lead q = lead p ∧ Chopped (trimStart q) (trimStart p) := by
  rcases h with rfl | rfl
  · exact ⟨hp, rfl, .inl rfl⟩
  · have hq : isBlankText q = false := by
      rw [isBlankText_append, Bool.and_eq_false_iff] at hp
      exact hp.resolve_right (by decide)
    have hvisible : StartsVisibly (trimStart q ++ ['\r']) := by
      obtain ⟨c, rest, hrest, hc⟩ := startsVisibly_trimStart hq
      exact ⟨c, rest ++ ['\r'], congrArg (· ++ ['\r']) hrest, hc⟩
    have hsplit := takeWhile_visible (isBlankText_lead q) hvisible
    rw [← List.append_assoc, lead_append_trimStart] at hsplit
    exact ⟨hq, hsplit.1.symm, .inr hsplit.2⟩

theorem Chopped.trimStart_eq_iff {q p : List Char} (h : Chopped q p)
    (hp : isBlankText p = false) : trimStart q = trimStart p ↔ q = p := by
  obtain ⟨-, hlead, -⟩ := h.lead_eq hp
  conv => rhs; rw [← lead_append_trimStart q, ← lead_append_trimStart p, hlead]
  exact (List.append_right_inj _).symm

theorem Chopped.isBlankText_eq {q p : List Char} (h : Chopped q p) :
    isBlankText q = isBlankText p := by
  rcases h with rfl | rfl
  · rfl
  · rw [isBlankText_append]
    exact (Bool.and_true _).symm

/-- A text is the same under both rules exactly if it has no carriage return to lose and its tabs
stand at tab stops. -/
theorem Chopped.expandTabs_eq_iff {q p : List Char} (h : Chopped q p) (column : Nat) :
    expandTabs q = fillTabs column p ↔ q = p ∧ OnStops column p := by
  rcases h with rfl | rfl
  · rw [expandTabs_eq_fillTabs_iff, eq_self, true_and]
  · have hne : q ≠ q ++ ['\r'] := fun heq => by simpa using congrArg List.length heq
    refine ⟨fun heq => ?_, fun h => absurd h.1 hne⟩
    have hcount := congrArg (List.count '\r') heq
    rw [count_return_expandTabs, count_return_fillTabs, List.count_append] at hcount
    simp at hcount

/-- A text without the blanks in front of it and one character more has lost a visible one. -/
theorem visible_drop_lt (blanks : List Char) {behind : List Char} (h : StartsVisibly behind)
    {n : Nat} (hn : blanks.length < n) :
    (visible ((blanks ++ behind).drop n)).length < (visible behind).length := by
  obtain ⟨c, rest, rfl, hc⟩ := h
  obtain ⟨k, rfl⟩ := Nat.exists_eq_add_of_lt hn
  have hdrop : (blanks ++ c :: rest).drop (blanks.length + k + 1) = rest.drop k := by
    rw [Nat.add_assoc, List.drop_length_add_append, List.drop_succ_cons]
  have hvisible : visible (c :: rest) = c :: visible rest := by
    rw [visible, List.filter_cons, hc]
    rfl
  rw [hdrop, hvisible, List.length_cons]
  exact Nat.lt_succ_of_le ((List.drop_sublist k rest).filter _).length_le

/-! ## Margins -/

theorem indentation_expandTabs {line : List Char} (h : isBlankText line = false) :
    indentation (expandTabs line) = (expandTabs (lead line)).length :=
  congrArg List.length (takeWhile_expandTabs h).1

theorem margin_expandTabs_le {rest : List (List Char)} {line : List Char} (hline : line ∈ rest)
    (hvisible : isBlankText line = false) :
    margin (rest.map expandTabs) ≤ (expandTabs (lead line)).length :=
  (margin_le (List.mem_map_of_mem hline) ((isBlankText_expandTabs line).trans hvisible)).trans_eq
    (indentation_expandTabs hvisible)

/-- The carriage returns make no difference to the margin. -/
theorem margin_chopped {qs ps : List (List Char)} (h : List.Forall₂ Chopped qs ps) :
    margin (qs.map expandTabs) = margin (ps.map expandTabs) := by
  have hwidths : ((qs.map expandTabs).filter (!isBlankText ·)).map indentation =
      ((ps.map expandTabs).filter (!isBlankText ·)).map indentation := by
    induction h with
    | nil => rfl
    | @cons q p qs ps hqp _ ih =>
        rw [List.map_cons, List.map_cons, List.filter_cons, List.filter_cons,
          isBlankText_expandTabs, isBlankText_expandTabs]
        cases hp : isBlankText p with
        | true => rw [hqp.isBlankText_eq, hp]; exact ih
        | false =>
            obtain ⟨hq, hlead, -⟩ := hqp.lead_eq hp
            have hindent : indentation (expandTabs q) = indentation (expandTabs p) := by
              rw [indentation_expandTabs hq, indentation_expandTabs hp, hlead]
            rw [hq]
            exact congrArg₂ List.cons hindent ih
  rw [margin, margin, hwidths]

/-! ## Lines that are left -/

/-- What `clean` leaves of a line that is not blank, for a margin of which it takes blank characters
only. -/
theorem Chopped.cutMargin_eq {q p : List Char} (h : Chopped q p) (hp : isBlankText p = false)
    {m : Nat} (hm : m ≤ (expandTabs (lead p)).length) :
    cutMargin m (expandTabs q) = (expandTabs (lead p)).drop m ++ expandTabs (trimStart q) := by
  obtain ⟨hq, hlead, -⟩ := h.lead_eq hp
  have hvisible : ¬isBlankText (expandTabs q) = true := by
    rw [isBlankText_expandTabs, hq]
    exact Bool.false_ne_true
  have hexpand := expandTabs_append (lead p) (trimStart q)
  rw [← hlead, lead_append_trimStart, hlead] at hexpand
  rw [cutMargin, if_neg hvisible, hexpand, List.drop_append_of_le_length hm]

theorem isBlankText_drop_expandTabs_lead (p : List Char) (m : Nat) :
    isBlankText ((expandTabs (lead p)).drop m) = true :=
  isBlankText_drop ((isBlankText_expandTabs _).trans (isBlankText_lead p)) m

/-- A line that is not blank is the same under both rules, for margins of which both take blank
characters only. -/
theorem Chopped.cut_eq_iff {q p : List Char} (h : Chopped q p) (hp : isBlankText p = false)
    {m n : Nat} (hm : m ≤ (expandTabs (lead p)).length) (hn : n ≤ (fillTabs 0 (lead p)).length) :
    cutMargin m (expandTabs q) = (fillTabs 0 p).drop n ↔
      (expandTabs (lead p)).drop m = (fillTabs 0 (lead p)).drop n ∧ q = p ∧
        OnStops (columnBehind 0 (lead p)) (trimStart p) := by
  obtain ⟨hq, -, hrest⟩ := h.lead_eq hp
  have hbehind := (startsVisibly_trimStart hp).fillTabs (columnBehind 0 (lead p))
  have hblank := isBlankText_drop ((isBlankText_fillTabs 0 _).trans (isBlankText_lead p)) n
  rw [h.cutMargin_eq hp hm, fillTabs_eq_append, List.drop_append_of_le_length hn,
    append_visible_inj (isBlankText_drop_expandTabs_lead p m) hblank
      (startsVisibly_trimStart hq).expandTabs hbehind,
    hrest.expandTabs_eq_iff, h.trimStart_eq_iff hp]

/-- A line of which the display takes a visible character is another one, for `clean` takes none. -/
theorem Chopped.cut_ne_of_lt {q p : List Char} (h : Chopped q p) (hp : isBlankText p = false)
    {m n : Nat} (hm : m ≤ (expandTabs (lead p)).length) (hn : (fillTabs 0 (lead p)).length < n) :
    cutMargin m (expandTabs q) ≠ (fillTabs 0 p).drop n := by
  intro heq
  obtain ⟨-, -, hrest⟩ := h.lead_eq hp
  have hbehind := (startsVisibly_trimStart hp).fillTabs (columnBehind 0 (lead p))
  have hlost := visible_drop_lt (fillTabs 0 (lead p)) hbehind hn
  rw [← fillTabs_eq_append, ← heq, h.cutMargin_eq hp hm, visible_append,
    visible_of_blank (isBlankText_drop_expandTabs_lead p m), List.nil_append, visible_expandTabs,
    hrest.visible_eq, visible_fillTabs] at hlost
  exact Nat.lt_irrefl _ hlost

/-- A line behind the first is the same under both rules, for a margin of which `clean` takes blank
characters only.  On display the line may lose visible ones. -/
theorem Chopped.other_eq_iff {q p : List Char} (h : Chopped q p) {m : Nat}
    (hm : isBlankText p = false → m ≤ (expandTabs (lead p)).length) (n : Nat) :
    cutMargin m (expandTabs q) = (fillTabs 0 p).drop n ↔
      (isBlankText p = false → q = p) ∧ OnStops (columnBehind 0 (lead p)) (trimStart p) ∧
      (isBlankText p = false → n ≤ (fillTabs 0 (lead p)).length ∧
        (expandTabs (lead p)).drop m = (fillTabs 0 (lead p)).drop n) ∧
      (isBlankText p = true → (fillTabs 0 p).length ≤ n) := by
  cases hp : isBlankText p with
  | true =>
      have hq := (isBlankText_expandTabs q).trans (h.isBlankText_eq.trans hp)
      rw [cutMargin, if_pos hq, trimStart_blank hp, eq_comm, List.drop_eq_nil_iff]
      constructor
      · intro hlength
        exact ⟨fun hvisible => absurd hvisible.symm Bool.false_ne_true,
          fun before _ heq => absurd heq (by simp),
          fun hvisible => absurd hvisible.symm Bool.false_ne_true, fun _ => hlength⟩
      · exact fun hall => hall.2.2.2 rfl
  | false =>
      by_cases hn : n ≤ (fillTabs 0 (lead p)).length
      · rw [h.cut_eq_iff hp (hm hp) hn]
        constructor
        · rintro ⟨hindent, hsame, hstops⟩
          exact ⟨fun _ => hsame, hstops, fun _ => ⟨hn, hindent⟩,
            fun hblank => absurd hblank Bool.false_ne_true⟩
        · rintro ⟨hsame, hstops, hindent, -⟩
          exact ⟨(hindent rfl).2, hsame rfl, hstops⟩
      · exact iff_of_false (h.cut_ne_of_lt hp (hm hp) (Nat.lt_of_not_le hn))
          fun hall => hn (hall.2.2.1 rfl).1

theorem drop_length_takeWhile (p : Char → Bool) (cs : List Char) :
    cs.drop (cs.takeWhile p).length = cs.dropWhile p := by
  have hdrop : (cs.takeWhile p ++ cs.dropWhile p).drop (cs.takeWhile p).length = cs.dropWhile p :=
    List.drop_left
  rwa [List.takeWhile_append_dropWhile] at hdrop

/-- The first line is the same under both rules if both take the same characters off it. -/
theorem Chopped.first_eq_iff {q p : List Char} (h : Chopped q p) (space : Char → Bool) :
    trimStart (expandTabs q) = (fillTabs 0 p).dropWhile space ↔
      (isBlankText p = false → q = p) ∧ OnStops (columnBehind 0 (lead p)) (trimStart p) ∧
      (fillTabs 0 p).takeWhile space = fillTabs 0 (lead p) := by
  cases hp : isBlankText p with
  | true =>
      have hlead : lead p = p := List.takeWhile_eq_self_iff.2 (List.all_eq_true.1 hp)
      have hq := (isBlankText_expandTabs q).trans (h.isBlankText_eq.trans hp)
      rw [trimStart_blank hq, trimStart_blank hp, hlead, eq_comm, List.dropWhile_eq_nil_iff,
        List.takeWhile_eq_self_iff]
      constructor
      · exact fun hall => ⟨nofun, fun before _ heq => absurd heq (by simp), hall⟩
      · exact fun hall => hall.2.2
  | false =>
      obtain ⟨hq, hlead, -⟩ := h.lead_eq hp
      have hblank : ¬isBlankText (expandTabs q) = true := by
        rw [isBlankText_expandTabs, hq]
        exact Bool.false_ne_true
      have htrim : trimStart (expandTabs q) =
          cutMargin (expandTabs (lead p)).length (expandTabs q) := by
        rw [cutMargin, if_neg hblank, ← hlead, ← indentation_expandTabs hq, drop_indentation]
        rfl
      rw [htrim, ← drop_length_takeWhile, h.other_eq_iff (fun _ => Nat.le_refl _), hp,
        List.drop_length, eq_comm (a := []), List.drop_eq_nil_iff]
      refine and_congr_right fun _ => and_congr_right fun _ => ?_
      constructor
      · rintro ⟨hlength, -⟩
        obtain ⟨hle, hge⟩ := hlength rfl
        have hprefix := List.prefix_of_prefix_length_le (List.takeWhile_prefix space)
          (fillTabs_eq_append p ▸ List.prefix_append _ _) hle
        exact hprefix.eq_of_length (Nat.le_antisymm hle hge)
      · intro hsame
        rw [hsame]
        exact ⟨fun _ => ⟨Nat.le_refl _, Nat.le_refl _⟩,
          fun hblank => absurd hblank Bool.false_ne_true⟩

/-- A statement about pairs of lines that splits into one about pairs and one about lines. -/
theorem forall₂_iff_and {R S T : List Char → List Char → Prop} {C : List Char → Prop}
    {qs ps : List (List Char)} (h : List.Forall₂ R qs ps)
    (hsplit : ∀ q, ∀ p ∈ ps, R q p → (S q p ↔ T q p ∧ C p)) :
    List.Forall₂ S qs ps ↔ List.Forall₂ T qs ps ∧ ∀ p ∈ ps, C p := by
  induction h with
  | nil => exact ⟨fun _ => ⟨.nil, nofun⟩, fun _ => .nil⟩
  | @cons q p qs ps hqp _ ih =>
      rw [List.forall₂_cons, List.forall₂_cons, hsplit q p (.head _) hqp,
        ih fun q' p' hp' => hsplit q' p' (.tail _ hp'), List.forall_mem_cons]
      exact and_and_and_comm

/-- A line that is left, and what the display leaves of the same one: the line is empty if it is
blank, and then the display has left blanks at most. -/
def LeftAlike (a b : List Char) : Prop :=
  isBlankText a = true → a = [] ∧ isBlankText b = true

/-- A visible line that both lists have behind lines of their own has no fewer in front of it on
display. -/
theorem length_before_le {before before' more more' : List (List Char)} {line : List Char}
    (h : List.Forall₂ LeftAlike (before ++ line :: more) (before' ++ line :: more'))
    (hbefore : ∀ l ∈ before, l = []) (hvisible : isBlankText line = false) :
    before.length ≤ before'.length := by
  induction before generalizing before' with
  | nil => exact Nat.zero_le _
  | cons a before ih =>
      obtain ⟨rfl, hrest⟩ := List.forall_mem_cons.1 hbefore
      cases before' with
      | nil =>
          cases h with | cons hline _ => ?_
          exact absurd (hline rfl).2 (by rw [hvisible]; exact Bool.false_ne_true)
      | cons b before' =>
          cases h with | cons _ hmore => ?_
          exact Nat.succ_le_succ (ih hmore hrest)

theorem eq_of_all_nil {xs ys : List (List Char)} (hxs : ∀ l ∈ xs, l = []) (hys : ∀ l ∈ ys, l = [])
    (hlength : xs.length = ys.length) : xs = ys := by
  rw [List.eq_replicate_of_mem hxs, List.eq_replicate_of_mem hys, hlength]

theorem not_blank_of_leftAlike {as bs : List (List Char)} (h : List.Forall₂ LeftAlike as bs)
    {line : List Char} (hline : line ∈ as) (hne : line ≠ []) : isBlankText line = false := by
  induction h with
  | nil => cases hline
  | cons hhead _ ih =>
      rcases List.mem_cons.1 hline with rfl | hline
      · exact Bool.eq_false_iff.2 fun hblank => hne (hhead hblank).1
      · exact ih hline

/-- The trimmed lines tell the lines, though a visible line may be empty on display. -/
theorem trimLines_eq_iff {as bs : List (List Char)} (h : List.Forall₂ LeftAlike as bs) :
    trimLines as = trimLines bs ↔ as = bs := by
  refine ⟨fun heq => ?_, congrArg trimLines⟩
  have hhead := head?_trimLines as
  have hlast := getLast?_trimLines as
  obtain ⟨before, after, has, hempty⟩ := trimLines_eq as
  obtain ⟨before', after', hbs, hempty'⟩ := trimLines_eq bs
  obtain ⟨hbefore, hafter⟩ := List.forall_mem_append.1 hempty
  obtain ⟨hbefore', hafter'⟩ := List.forall_mem_append.1 hempty'
  rw [← heq] at hbs
  generalize trimLines as = left at has hbs hhead hlast
  subst has hbs
  have hlength := h.length_eq
  rw [List.length_append, List.length_append, List.length_append, List.length_append] at hlength
  cases left with
  | nil =>
      rw [List.append_nil, List.append_nil]
      rw [List.length_nil] at hlength
      exact eq_of_all_nil hempty hempty' (by simpa using hlength)
  | cons line more =>
      -- the first line that is left bounds what is dropped in front, the last what is behind
      have hfront : before.length ≤ before'.length := by
        have hmem : line ∈ before ++ line :: more ++ after := by simp
        have hvisible := not_blank_of_leftAlike h hmem (by simpa using hhead)
        simp only [List.append_assoc, List.cons_append] at h
        exact length_before_le h hbefore hvisible
      have hback : after.length ≤ after'.length := by
        obtain ⟨less, last, hlasts⟩ :=
          (List.eq_nil_or_concat (line :: more)).resolve_left (List.cons_ne_nil _ _)
        rw [hlasts] at h hlast
        have hmem : last ∈ before ++ less.concat last ++ after := by simp
        have hvisible := not_blank_of_leftAlike h hmem (by simpa using hlast)
        have hreverse := List.forall₂_reverse_iff.2 h
        simp only [List.reverse_append, List.concat_eq_append, List.reverse_cons, List.reverse_nil,
          List.nil_append, List.cons_append] at hreverse
        simpa using length_before_le hreverse (by simpa using hafter) hvisible
      rw [eq_of_all_nil hbefore hbefore' (by omega), eq_of_all_nil hafter hafter' (by omega)]

theorem joinLines_inj {as bs : List (List Char)} (ha : ∀ line ∈ as, '\n' ∉ line)
    (hb : ∀ line ∈ bs, '\n' ∉ line) (hahead : as.head? ≠ some []) (hbhead : bs.head? ≠ some []) :
    joinLines as = joinLines bs ↔ as = bs := by
  refine ⟨fun heq => ?_, congrArg joinLines⟩
  rw [← outputLines_joinLines ha hahead, heq, outputLines_joinLines hb hbhead]

/-! ## Docstrings -/

/-- Both rules give the same text for a docstring with these pieces between its line feeds, where
the tool that displays it takes off what `space` says. -/
structure ShownAlike (space : Char → Bool) (ls : List (List Char)) : Prop where
  /-- The tool takes the indentation off the first line, and nothing else. -/
  first : ∀ line ∈ ls.head?, (fillTabs 0 line).takeWhile space = fillTabs 0 (lead line)
  /-- Behind the indentation of a line, a tab stands at a tab stop. -/
  stops : ∀ line ∈ ls, OnStops (columnBehind 0 (lead line)) (trimStart line)
  /-- A line in front of a line feed that is not blank does not end in a carriage return. -/
  returns : ∀ line ∈ ls.dropLast, isBlankText line = false → line.getLast? ≠ some '\r'
  /-- Behind the first line, the margin of the tool is in every indentation, and what is beyond the
  margins is the same for tabs of eight spaces and for tabs that are filled up. -/
  indents : ∀ line ∈ ls.tail, isBlankText line = false →
    displayMargin space (ls.tail.map (fillTabs 0)) ≤ (fillTabs 0 (lead line)).length ∧
      (expandTabs (lead line)).drop (margin (ls.tail.map expandTabs)) =
        (fillTabs 0 (lead line)).drop (displayMargin space (ls.tail.map (fillTabs 0)))
  /-- Behind the first line, no blank line is longer than the margin of the tool. -/
  blanks : ∀ line ∈ ls.tail, isBlankText line = true →
    (fillTabs 0 line).length ≤ displayMargin space (ls.tail.map (fillTabs 0))

/-- The lines that both rules leave, before the empty ones at the ends are dropped. -/
theorem left_eq_iff (space : Char → Bool) {q first : List Char} {qs rest : List (List Char)}
    (hfirst : Chopped q first) (hrest : List.Forall₂ Chopped qs rest) (n : Nat) :
    trimStart (expandTabs q) :: (qs.map expandTabs).map (cutMargin (margin (qs.map expandTabs))) =
        (fillTabs 0 first).dropWhile space :: (rest.map (fillTabs 0)).map (List.drop n) ↔
      List.Forall₂ (fun q p => isBlankText p = false → q = p) (q :: qs) (first :: rest) ∧
      (∀ line ∈ first :: rest, OnStops (columnBehind 0 (lead line)) (trimStart line)) ∧
      (fillTabs 0 first).takeWhile space = fillTabs 0 (lead first) ∧
      ∀ line ∈ rest,
        (isBlankText line = false → n ≤ (fillTabs 0 (lead line)).length ∧
          (expandTabs (lead line)).drop (margin (rest.map expandTabs)) =
            (fillTabs 0 (lead line)).drop n) ∧
        (isBlankText line = true → (fillTabs 0 line).length ≤ n) := by
  have hothers : (qs.map expandTabs).map (cutMargin (margin (rest.map expandTabs))) =
        (rest.map (fillTabs 0)).map (List.drop n) ↔
      List.Forall₂ (fun q p => cutMargin (margin (rest.map expandTabs)) (expandTabs q) =
        (fillTabs 0 p).drop n) qs rest := by
    rw [List.map_map, List.map_map, ← List.forall₂_eq_eq_eq, List.forall₂_map_left_iff,
      List.forall₂_map_right_iff]
    rfl
  rw [margin_chopped hrest, List.cons.injEq, hothers, hfirst.first_eq_iff,
    forall₂_iff_and hrest fun q p hp hqp => hqp.other_eq_iff (margin_expandTabs_le hp) n,
    List.forall₂_cons, List.forall_mem_cons]
  constructor
  · rintro ⟨⟨hreturn, hstop, htaken⟩, hreturns, hall⟩
    exact ⟨⟨hreturn, hreturns⟩, ⟨hstop, fun l hl => (hall l hl).1⟩, htaken,
      fun l hl => (hall l hl).2⟩
  · rintro ⟨⟨hreturn, hreturns⟩, ⟨hstop, hstops⟩, htaken, hall⟩
    exact ⟨⟨hreturn, hstop, htaken⟩, hreturns, fun l hl => ⟨hstops l hl, hall l hl⟩⟩

theorem Loses.leftAlike {n : Nat} {line short shown : List Char} (h : Loses n line short)
    (hshown : isBlankText line = true → isBlankText shown = true) : LeftAlike short shown := by
  intro hshort
  cases h with
  | blank hblank => exact ⟨rfl, hshown hblank⟩
  | indented _ _ hvisible => exact absurd hshort (by rw [hvisible]; exact Bool.false_ne_true)

theorem left_forall₂ (space : Char → Bool) {q first : List Char} {qs rest : List (List Char)}
    (hfirst : Chopped q first) (hrest : List.Forall₂ Chopped qs rest) (n : Nat) :
    List.Forall₂ LeftAlike
      (trimStart (expandTabs q) :: (qs.map expandTabs).map (cutMargin (margin (qs.map expandTabs))))
      ((fillTabs 0 first).dropWhile space :: (rest.map (fillTabs 0)).map (List.drop n)) := by
  have hfilled : ∀ {q p : List Char}, Chopped q p → isBlankText (expandTabs q) = true →
      isBlankText (fillTabs 0 p) = true := fun {q p} hqp hq => by
    rwa [isBlankText_fillTabs, ← hqp.isBlankText_eq, ← isBlankText_expandTabs]
  refine .cons ((trimStart_loses _).leftAlike fun hq => ?_) ?_
  · exact isBlankText_dropWhile (hfilled hfirst hq) space
  · rw [List.map_map, List.map_map, List.forall₂_map_left_iff, List.forall₂_map_right_iff]
    have hloses : ∀ q ∈ qs, Loses (margin (qs.map expandTabs)) (expandTabs q)
        (cutMargin (margin (qs.map expandTabs)) (expandTabs q)) := fun q hq =>
      cutMargin_loses (margin_le (List.mem_map_of_mem hq))
    refine ((List.forall₂_and_left qs rest).2 ⟨hloses, hrest⟩).imp fun q p hqp => ?_
    exact hqp.1.leftAlike fun hq => isBlankText_drop (hfilled hqp.2 hq) n

theorem not_mem_of_mem_displayLines {space : Char → Bool} {ls : List (List Char)}
    (h : ∀ line ∈ ls, '\n' ∉ line) {line : List Char} (hline : line ∈ displayLines space ls) :
    '\n' ∉ line := by
  cases ls with
  | nil => cases hline
  | cons first rest =>
      obtain ⟨before, after, hshort, -⟩ := trimLines_eq
        (first.dropWhile space :: rest.map (List.drop (displayMargin space rest)))
      have hmem : line ∈
          first.dropWhile space :: rest.map (List.drop (displayMargin space rest)) := by
        rw [hshort]
        exact List.mem_append_left _ (List.mem_append_right _ hline)
      rcases List.mem_cons.1 hmem with rfl | hmem
      · exact fun hc => h first (.head _) ((List.dropWhile_suffix _).subset hc)
      · obtain ⟨l, hl, rfl⟩ := List.mem_map.1 hmem
        exact fun hc => h l (.tail _ hl) (List.mem_of_mem_drop hc)

theorem head?_displayLines (space : Char → Bool) (ls : List (List Char)) :
    (displayLines space ls).head? ≠ some [] := by
  cases ls with
  | nil => nofun
  | cons first rest => exact head?_trimLines _

/-- Both rules leave the same text exactly if they leave the same lines. -/
theorem clean_eq_display_iff_lines (space : Char → Bool) (doc : List Char) :
    clean doc = display space doc ↔
      cleanLines ((chopped (splitOn '\n' doc)).map expandTabs) =
        displayLines space (splitOn '\n' (fillTabs 0 doc)) := by
  have hclean : cleanLines ((chopped (splitOn '\n' doc)).map expandTabs) =
      cleanLines (lines (expandTabs doc)) := by
    rw [← chopped_map_expandTabs, ← splitOn_expandTabs, cleanLines_chopped]
  rw [hclean]
  exact joinLines_inj
    (fun _ hline => not_mem_of_mem_cleanLines (fun _ => not_mem_of_mem_lines) hline)
    (fun _ hline => not_mem_of_mem_displayLines (fun _ => not_mem_of_mem_splitOn) hline)
    (cleanLines_deindents _).choose_spec.choose_spec.head (head?_displayLines _ _)

/-- Cleaned, a docstring is as it is on display exactly if these conditions hold of its lines,
which are the pieces between its line feeds.

* The tool that displays it takes the indentation off the first line, and nothing else.
* Behind the indentation, every tab stands at a tab stop.
* No line that is not blank has a carriage return in front of its line feed.
* Behind the first line, the margin of the tool takes nothing visible, and the indentations have the
  same blanks beyond the margins, however tabs are widened.
* Behind the first line, no blank line is longer than the margin of the tool.

The tool may count whatever it likes as blank. -/
theorem clean_eq_display_iff (space : Char → Bool) (doc : List Char) :
    clean doc = display space doc ↔ ShownAlike space (splitOn '\n' doc) := by
  obtain ⟨first, rest, hdoc⟩ := exists_splitOn doc
  have hchopped := chopped_forall₂ (first :: rest)
  have hreturns := forall₂_chopped_iff (first :: rest)
  rw [clean_eq_display_iff_lines, splitOn_fillTabs hdoc, hdoc]
  generalize chopped (first :: rest) = all at hchopped hreturns
  cases hchopped with | @cons q _ qs _ hfirst hrest => ?_
  rw [List.map_cons, cleanLines, displayLines,
    trimLines_eq_iff (left_forall₂ space hfirst hrest _), left_eq_iff space hfirst hrest, hreturns]
  constructor
  · rintro ⟨hends, hstops, htaken, hall⟩
    exact ⟨fun l hl => Option.mem_some_iff.1 hl ▸ htaken, hstops, hends,
      fun l hl => (hall l hl).1, fun l hl => (hall l hl).2⟩
  · intro h
    exact ⟨h.returns, h.stops, h.first first rfl, fun l hl => ⟨h.indents l hl, h.blanks l hl⟩⟩

/-- A docstring whose tabs stand at tab stops, with a blank line as long as the margin. -/
def stopsDoc : List Char := "A\n\tB\n        \n\t  C\n\t".toList

theorem clean_eq_display_iff_stops :
    clean stopsDoc = "A\nB\n\n  C".toList ∧
      (clean stopsDoc = display isBlankOrSeparator stopsDoc ↔
        ShownAlike isBlankOrSeparator (splitOn '\n' stopsDoc)) ∧
      ShownAlike isBlankOrSeparator (splitOn '\n' stopsDoc) ∧
      (clean stopsDoc = display isSpace stopsDoc ↔ ShownAlike isSpace (splitOn '\n' stopsDoc)) ∧
      ShownAlike isSpace (splitOn '\n' stopsDoc) := by
  have hseparators := clean_eq_display_iff isBlankOrSeparator stopsDoc
  have hspaces := clean_eq_display_iff isSpace stopsDoc
  exact ⟨by decide, hseparators, hseparators.1 (by decide), hspaces, hspaces.1 (by decide)⟩

/-- A separator is indentation for some tools only. -/
example :
    clean "A\n  \u001cB".toList = "A\n\u001cB".toList ∧
      display isSpace "A\n  \u001cB".toList = "A\n\u001cB".toList ∧
      display isBlankOrSeparator "A\n  \u001cB".toList = "A\nB".toList := by
  decide

/-- A tab between words stands at no tab stop, so it has eight spaces where the display has
five. -/
theorem clean_ne_display :
    clean "A\n  B\tC".toList = "A\nB        C".toList ∧
      display isBlankOrSeparator "A\n  B\tC".toList = "A\nB     C".toList ∧
      display isSpace "A\n  B\tC".toList = "A\nB     C".toList ∧
      clean "A\n  B\tC".toList ≠ display isBlankOrSeparator "A\n  B\tC".toList ∧
      clean "A\n  B\tC".toList ≠ display isSpace "A\n  B\tC".toList := by
  decide

end TestCensus.Docstring
