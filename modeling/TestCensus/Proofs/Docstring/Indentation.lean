import Mathlib.Data.List.Forall2
import Mathlib.Data.List.TakeWhile
import TestCensus.Docstring
import TestCensus.Proofs.Source.ReturnsInDocstrings
import TestCensus.Proofs.Text.Utf8

/-!
# Only indentation is removed

`clean` takes blank characters off the front of lines and empty lines off both ends, and
nothing else.  `Deindents` says what that means of the lines before and after.

*Lines.*  Each line is shortened by itself: the first one loses all its blank characters, and
the others lose the margin (`Loses`).  That the margin takes no visible character is because it
is the smallest indentation of the lines that lose it (`margin_le`), and that one of them starts
visibly is because it is the indentation of one (`exists_indentation_eq_margin`).

*Texts.*  The lines that are left can be read off the text again, since none of them holds a line
feed and the outermost ones are not empty (`outputLines_joinLines`).

*Bytes.*  A text is held in bytes, and what a line loses is cut off behind as many bytes as the
characters of the margin have.  What is left is a text (`decode?_drop`).
-/

namespace TestCensus.Docstring

open TestCensus.Text

/-! ## What a line may lose -/

/-- The text starts with a character that is not blank. -/
def StartsVisibly (line : List Char) : Prop := ∃ c rest, line = c :: rest ∧ isBlank c = false

/-- A line loses its first `n` characters, which are blank.  A blank line becomes empty. -/
inductive Loses (n : Nat) : List Char → List Char → Prop where
  /-- The line is blank. -/
  | blank {line : List Char} : isBlankText line = true → Loses n line []
  /-- The line is not blank. -/
  | indented {blanks rest : List Char} : blanks.length = n → isBlankText blanks = true →
      isBlankText rest = false → Loses n (blanks ++ rest) rest

/-- The first line loses `first` characters, and every other line `margin`. -/
inductive Shortened (first margin : Nat) : List (List Char) → List (List Char) → Prop where
  /-- There are no lines. -/
  | nil : Shortened first margin [] []
  /-- There is a first line. -/
  | cons {line short : List Char} {ls shorts : List (List Char)} : Loses first line short →
      List.Forall₂ (Loses margin) ls shorts → Shortened first margin (line :: ls) (short :: shorts)

/-- The lines `ls` lose their indentation and become `short`, of which `out` is left. -/
structure Deindents (ls short out : List (List Char)) (first margin : Nat) : Prop where
  /-- Each line loses blank characters at its front, and all but the first equally many. -/
  shortened : Shortened first margin ls short
  /-- The first line starts visibly, unless it is blank. -/
  visible_first : ∀ line ∈ short.head?, line = [] ∨ StartsVisibly line
  /-- If a line behind the first is not blank, then one of these starts visibly. -/
  visible_other : (∃ line ∈ ls.tail, isBlankText line = false) →
    ∃ line ∈ short.tail, StartsVisibly line
  /-- Only empty lines at both ends are gone. -/
  trimmed : ∃ before after, short = before ++ out ++ after ∧ ∀ line ∈ before ++ after, line = []
  /-- The first line that is left is not empty. -/
  head : out.head? ≠ some []
  /-- The last line that is left is not empty. -/
  last : out.getLast? ≠ some []

/-! ## Blank characters -/

theorem isBlankText_takeWhile (line : List Char) :
    isBlankText (line.takeWhile isBlank) = true :=
  List.all_takeWhile

theorem isBlankText_append (xs ys : List Char) :
    isBlankText (xs ++ ys) = (isBlankText xs && isBlankText ys) :=
  List.all_append

theorem startsVisibly_trimStart {line : List Char} (h : isBlankText line = false) :
    StartsVisibly (trimStart line) := by
  have hne : line.dropWhile isBlank ≠ [] := by
    intro hnil
    rw [List.dropWhile_eq_nil_iff] at hnil
    rw [isBlankText, List.all_eq_true.2 hnil] at h
    cases h
  obtain ⟨c, rest, hrest⟩ := List.exists_cons_of_ne_nil hne
  have hhead := List.head_dropWhile_not isBlank hne
  simp only [hrest, List.head_cons] at hhead
  exact ⟨c, rest, hrest, hhead⟩

theorem StartsVisibly.not_blank {line : List Char} (h : StartsVisibly line) :
    isBlankText line = false := by
  obtain ⟨c, rest, rfl, hc⟩ := h
  rw [isBlankText, List.all_cons, hc, Bool.false_and]

/-- A text is its indentation and what stands behind it. -/
theorem drop_indentation (line : List Char) :
    line.drop (indentation line) = line.dropWhile isBlank := by
  have hdrop : (line.takeWhile isBlank ++ line.dropWhile isBlank).drop (indentation line) =
      line.dropWhile isBlank := List.drop_left
  rwa [List.takeWhile_append_dropWhile] at hdrop

theorem trimStart_blank {line : List Char} (h : isBlankText line = true) : trimStart line = [] :=
  List.dropWhile_eq_nil_iff.2 (List.all_eq_true.1 h)

/-! ## Lines that lose something -/

theorem trimStart_loses (line : List Char) : Loses (indentation line) line (trimStart line) := by
  cases hblank : isBlankText line with
  | true => rw [trimStart_blank hblank]; exact .blank hblank
  | false =>
      have hloses := Loses.indented (n := indentation line) rfl (isBlankText_takeWhile line)
        (startsVisibly_trimStart hblank).not_blank
      have hsplit : line.takeWhile isBlank ++ trimStart line = line :=
        List.takeWhile_append_dropWhile
      rwa [hsplit] at hloses

theorem cutMargin_loses {m : Nat} {line : List Char}
    (h : isBlankText line = false → m ≤ indentation line) : Loses m line (cutMargin m line) := by
  rw [cutMargin]
  split
  · rename_i hblank
    exact .blank hblank
  · rename_i hvisible
    rw [Bool.not_eq_true] at hvisible
    have hm := h hvisible
    have htake : line.take m = (line.takeWhile isBlank).take m := by
      conv => lhs; rw [← List.takeWhile_append_dropWhile (p := isBlank) (l := line)]
      exact List.take_append_of_le_length hm
    have hblanks : isBlankText (line.take m) = true := by
      rw [htake, isBlankText, List.all_eq_true]
      exact fun c hc => List.all_eq_true.1 (isBlankText_takeWhile line) c (List.mem_of_mem_take hc)
    have hrest : isBlankText (line.drop m) = false := by
      have hsplit := isBlankText_append (line.take m) (line.drop m)
      rwa [List.take_append_drop, hblanks, Bool.true_and, hvisible, eq_comm] at hsplit
    have hlength : (line.take m).length = m :=
      List.length_take_of_le (Nat.le_trans hm (indentation_le_length line))
    have hloses := Loses.indented hlength hblanks hrest
    rwa [List.take_append_drop] at hloses

/-! ## The margin -/

section

variable {rest : List (List Char)} {line : List Char}

theorem mem_visible : line ∈ rest.filter (!isBlankText ·) ↔
    line ∈ rest ∧ isBlankText line = false := by
  rw [List.mem_filter, Bool.not_eq_true']

/-- The margin is at most the indentation of every line that is not blank. -/
theorem margin_le (hline : line ∈ rest) (hvisible : isBlankText line = false) :
    margin rest ≤ indentation line := by
  have hmem : indentation line ∈ (rest.filter (!isBlankText ·)).map indentation :=
    List.mem_map_of_mem (mem_visible.2 ⟨hline, hvisible⟩)
  obtain ⟨m, hm⟩ := Option.isSome_iff_exists.1 (List.isSome_min?_of_mem hmem)
  rw [margin, hm, Option.getD_some]
  exact (List.min?_eq_some_iff.1 hm).2 _ hmem

/-- The margin is the indentation of one of the lines that are not blank, if there is one. -/
theorem exists_indentation_eq_margin (hline : line ∈ rest) (hvisible : isBlankText line = false) :
    ∃ l ∈ rest, isBlankText l = false ∧ indentation l = margin rest := by
  have hmem : indentation line ∈ (rest.filter (!isBlankText ·)).map indentation :=
    List.mem_map_of_mem (mem_visible.2 ⟨hline, hvisible⟩)
  obtain ⟨m, hm⟩ := Option.isSome_iff_exists.1 (List.isSome_min?_of_mem hmem)
  obtain ⟨l, hl, hindent⟩ := List.mem_map.1 (List.min?_eq_some_iff.1 hm).1
  obtain ⟨hl, hlvisible⟩ := mem_visible.1 hl
  exact ⟨l, hl, hlvisible, by rw [margin, hm, Option.getD_some, hindent]⟩

theorem cutMargin_startsVisibly {m : Nat} (hvisible : isBlankText line = false)
    (hm : indentation line = m) : StartsVisibly (cutMargin m line) := by
  rw [cutMargin, if_neg (by rw [hvisible]; exact Bool.false_ne_true), ← hm, drop_indentation]
  exact startsVisibly_trimStart hvisible

end

/-! ## Empty lines at both ends -/

theorem dropWhile_isEmpty_eq (ls : List (List Char)) :
    ∃ before, ls = before ++ ls.dropWhile List.isEmpty ∧ (∀ line ∈ before, line = []) ∧
      (ls.dropWhile List.isEmpty).head? ≠ some [] := by
  refine ⟨ls.takeWhile List.isEmpty, List.takeWhile_append_dropWhile.symm, ?_, ?_⟩
  · exact fun line hline => List.isEmpty_iff.1 (List.all_eq_true.1 List.all_takeWhile line hline)
  · intro hhead
    have hnot := List.head?_dropWhile_not List.isEmpty ls
    rw [hhead] at hnot
    cases hnot

/-- Only empty lines are gone from both ends. -/
theorem trimLines_eq (ls : List (List Char)) :
    ∃ before after, ls = before ++ trimLines ls ++ after ∧ ∀ line ∈ before ++ after, line = [] := by
  obtain ⟨before, hls, hbefore, -⟩ := dropWhile_isEmpty_eq ls
  obtain ⟨after, hrest, hafter, -⟩ := dropWhile_isEmpty_eq (ls.dropWhile List.isEmpty).reverse
  refine ⟨before, after.reverse, ?_, fun line hline => ?_⟩
  · rw [trimLines, List.append_assoc, ← List.reverse_append, ← hrest, List.reverse_reverse]
    exact hls
  · rcases List.mem_append.1 hline with hline | hline
    · exact hbefore line hline
    · exact hafter line (List.mem_reverse.1 hline)

theorem getLast?_trimLines (ls : List (List Char)) : (trimLines ls).getLast? ≠ some [] := by
  rw [trimLines, List.getLast?_reverse]
  exact (dropWhile_isEmpty_eq _).choose_spec.2.2

theorem head?_trimLines (ls : List (List Char)) : (trimLines ls).head? ≠ some [] := by
  obtain ⟨after, hrest, hafter, -⟩ := dropWhile_isEmpty_eq (ls.dropWhile List.isEmpty).reverse
  have hdropped : ls.dropWhile List.isEmpty = trimLines ls ++ after.reverse := by
    rw [trimLines, ← List.reverse_append, ← hrest, List.reverse_reverse]
  intro hhead
  refine (dropWhile_isEmpty_eq ls).choose_spec.2.2 ?_
  rw [hdropped, List.head?_append, hhead]
  rfl

/-! ## Lines of a text -/

theorem not_mem_of_mem_lines {cs line : List Char} (h : line ∈ lines cs) : '\n' ∉ line := by
  fun_induction lines cs generalizing line with
  | case1 => cases h
  | case2 rest ih | case3 rest ih =>
      rcases List.mem_cons.1 h with rfl | h
      · exact List.not_mem_nil
      · exact ih h
  | case4 c rest hc =>
      obtain rfl := List.mem_singleton.1 h
      exact fun hmem => hc (List.mem_singleton.1 hmem).symm
  | case5 c rest hc _ line' others hlines ih =>
      rw [hlines] at ih
      rcases List.mem_cons.1 h with rfl | h
      · intro hmem
        rcases List.mem_cons.1 hmem with hmem | hmem
        · exact hc hmem.symm
        · exact ih (.head _) hmem
      · exact ih (.tail _ h)

/-- The lines of what `clean` gives. -/
def outputLines (text : List Char) : List (List Char) :=
  if text.isEmpty then [] else splitOn '\n' text

theorem splitOn_joinLines {ls : List (List Char)} (hne : ls ≠ []) (h : ∀ line ∈ ls, '\n' ∉ line) :
    splitOn '\n' (joinLines ls) = ls := by
  fun_induction joinLines ls with
  | case1 => exact absurd rfl hne
  | case2 line => exact splitOn_of_not_mem (h line (.head _))
  | case3 line others hothers ih =>
      rw [splitOn_append_sep, splitOn_of_not_mem (h line (.head _)),
        ih hothers fun l hl => h l (.tail _ hl)]
      rfl

theorem joinLines_ne_nil {ls : List (List Char)} (hne : ls ≠ []) (hhead : ls.head? ≠ some []) :
    joinLines ls ≠ [] := by
  fun_induction joinLines ls with
  | case1 => exact absurd rfl hne
  | case2 line => exact fun hnil => hhead (congrArg some hnil)
  | case3 line others => simp

/-- The lines that are left can be read off the text. -/
theorem outputLines_joinLines {ls : List (List Char)} (h : ∀ line ∈ ls, '\n' ∉ line)
    (hhead : ls.head? ≠ some []) : outputLines (joinLines ls) = ls := by
  by_cases hne : ls = []
  · rw [hne]; rfl
  · rw [outputLines, List.isEmpty_eq_false_iff.2 (joinLines_ne_nil hne hhead),
      splitOn_joinLines hne h]
    rfl

/-! ## Visible characters -/

/-- The characters of a text that are not blank. -/
def visible (cs : List Char) : List Char := cs.filter (!isBlank ·)

theorem visible_append (xs ys : List Char) : visible (xs ++ ys) = visible xs ++ visible ys :=
  List.filter_append ..

theorem visible_of_blank {cs : List Char} (h : isBlankText cs = true) : visible cs = [] := by
  rw [visible, List.filter_eq_nil_iff]
  intro c hc
  rw [List.all_eq_true.1 h c hc]
  exact Bool.false_ne_true

theorem visible_cons_blank {c : Char} (hc : isBlank c = true) (cs : List Char) :
    visible (c :: cs) = visible cs := by
  rw [visible, List.filter_cons, hc]
  rfl

theorem visible_expandTabs (cs : List Char) : visible (expandTabs cs) = visible cs := by
  induction cs with
  | nil => rfl
  | cons c rest ih =>
      rw [expandTabs, visible_append, ih]
      split
      · rename_i htab
        rw [visible_of_blank (by decide), List.nil_append, htab, visible_cons_blank (by decide)]
      · rw [← visible_append]
        rfl

theorem visible_lines (cs : List Char) : visible (lines cs).flatten = visible cs := by
  fun_induction lines cs with
  | case1 => rfl
  | case2 rest ih => rw [List.flatten_cons, List.nil_append, ih, visible_cons_blank (by decide)]
  | case3 rest ih =>
      rw [List.flatten_cons, List.nil_append, ih, visible_cons_blank (by decide),
        visible_cons_blank (by decide)]
  | case4 c rest _ _ hlines ih =>
      rw [hlines] at ih
      rw [← List.singleton_append (l := rest), visible_append, ← ih, ← visible_append]
      rfl
  | case5 c rest _ _ line others hlines ih =>
      rw [hlines] at ih
      rw [← List.singleton_append (l := rest), visible_append, ← ih, ← visible_append]
      rfl

theorem visible_joinLines (ls : List (List Char)) :
    visible (joinLines ls) = visible ls.flatten := by
  fun_induction joinLines ls with
  | case1 => rfl
  | case2 line => rw [List.flatten_singleton]
  | case3 line others _ ih =>
      rw [visible_append, visible_cons_blank (by decide), ih, List.flatten_cons, visible_append]

theorem Loses.visible_eq {n : Nat} {line short : List Char} (h : Loses n line short) :
    visible short = visible line := by
  cases h with
  | blank hblank => rw [visible_of_blank hblank]; rfl
  | indented _ hblanks _ => rw [visible_append, visible_of_blank hblanks, List.nil_append]

theorem visible_flatten_of_loses {n : Nat} {ls short : List (List Char)}
    (h : List.Forall₂ (Loses n) ls short) : visible short.flatten = visible ls.flatten := by
  induction h with
  | nil => rfl
  | cons hline _ ih =>
      rw [List.flatten_cons, List.flatten_cons, visible_append, visible_append,
        hline.visible_eq, ih]

theorem Shortened.visible_eq {first margin : Nat} {ls short : List (List Char)}
    (h : Shortened first margin ls short) : visible short.flatten = visible ls.flatten := by
  cases h with
  | nil => rfl
  | cons hfirst hothers =>
      rw [List.flatten_cons, List.flatten_cons, visible_append, visible_append, hfirst.visible_eq,
        visible_flatten_of_loses hothers]

/-- No visible character is lost, and none moves. -/
theorem Deindents.visible_eq {ls short out : List (List Char)} {first margin : Nat}
    (h : Deindents ls short out first margin) : visible out.flatten = visible ls.flatten := by
  obtain ⟨before, after, hshort, hempty⟩ := h.trimmed
  have hnil : ∀ xs : List (List Char), (∀ line ∈ xs, line = []) → xs.flatten = [] :=
    fun xs hxs => List.flatten_eq_nil_iff.2 hxs
  rw [← h.shortened.visible_eq, hshort, List.flatten_append, List.flatten_append,
    hnil before fun l hl => hempty l (List.mem_append_left _ hl),
    hnil after fun l hl => hempty l (List.mem_append_right _ hl), List.nil_append, List.append_nil]

/-! ## Bytes -/

/-- The number of bytes that hold a text. -/
def byteLength (cs : List Char) : Nat := (utf8 (String.ofList cs)).length

/-- Behind the bytes of its first characters, the bytes of a text are those of the others. -/
theorem decode?_drop (m : Nat) (cs : List Char) :
    decode? ((utf8 (String.ofList cs)).drop (byteLength (cs.take m))) =
      some (String.ofList (cs.drop m)) := by
  have hbytes : utf8 (String.ofList cs) =
      utf8 (String.ofList (cs.take m)) ++ utf8 (String.ofList (cs.drop m)) := by
    rw [← utf8_append, List.take_append_drop]
  rw [hbytes, byteLength, List.drop_left, decode?_utf8]

/-! ## Docstrings -/

theorem cleanLines_deindents (ls : List (List Char)) :
    ∃ short first, Deindents ls short (cleanLines ls) first (margin ls.tail) := by
  cases ls with
  | nil => exact ⟨[], 0, .nil, nofun, nofun, ⟨[], [], rfl, nofun⟩, nofun, nofun⟩
  | cons line rest =>
      refine ⟨trimStart line :: rest.map (cutMargin (margin rest)), indentation line, ?_⟩
      have hothers : List.Forall₂ (Loses (margin rest)) rest (rest.map (cutMargin (margin rest))) :=
        List.forall₂_map_right_iff.2 <| List.forall₂_same.2 fun l hl =>
          cutMargin_loses (margin_le hl)
      exact {
        shortened := .cons (trimStart_loses line) hothers
        visible_first := by
          rintro l ⟨⟩
          cases hblank : isBlankText line with
          | true => exact .inl (trimStart_blank hblank)
          | false => exact .inr (startsVisibly_trimStart hblank)
        visible_other := by
          rintro ⟨l, hl, hvisible⟩
          obtain ⟨l', hl', hvisible', hindent⟩ := exists_indentation_eq_margin hl hvisible
          exact ⟨_, List.mem_map_of_mem hl', cutMargin_startsVisibly hvisible' hindent⟩
        trimmed := trimLines_eq _
        head := head?_trimLines _
        last := getLast?_trimLines _ }

theorem not_mem_of_mem_cleanLines {ls : List (List Char)} (h : ∀ line ∈ ls, '\n' ∉ line)
    {line : List Char} (hline : line ∈ cleanLines ls) : '\n' ∉ line := by
  cases ls with
  | nil => cases hline
  | cons first rest =>
      obtain ⟨before, after, hshort, -⟩ :=
        trimLines_eq (trimStart first :: rest.map (cutMargin (margin rest)))
      have hmem : line ∈ trimStart first :: rest.map (cutMargin (margin rest)) := by
        rw [hshort]
        exact List.mem_append_left _ (List.mem_append_right _ hline)
      rcases List.mem_cons.1 hmem with rfl | hmem
      · exact fun hc => h first (.head _) ((List.dropWhile_suffix _).subset hc)
      · obtain ⟨l, hl, rfl⟩ := List.mem_map.1 hmem
        rw [cutMargin]
        split
        · exact List.not_mem_nil
        · exact fun hc => h l (.tail _ hl) (List.mem_of_mem_drop hc)

theorem outputLines_clean (doc : List Char) :
    outputLines (clean doc) = cleanLines (lines (expandTabs doc)) := by
  obtain ⟨_, _, hdeindents⟩ := cleanLines_deindents (lines (expandTabs doc))
  exact outputLines_joinLines
    (fun line hline => not_mem_of_mem_cleanLines (fun _ => not_mem_of_mem_lines) hline)
    hdeindents.head

/-- A docstring loses its indentation and nothing else.

* Of its lines, in which each tab is eight spaces, those are left that are not blank and those
  between them.  The first line loses its blank characters, the others equally many of them, and a
  blank line all it has; one of the others starts visibly afterwards, and so does the first.  The
  first and the last line that are left are not empty.
* Its visible characters are left, in the same order.
* What a line loses ends in front of a character: the bytes behind it are a text. -/
theorem clean_deindents (doc : List Char) :
    ∃ short first margin,
      Deindents (lines (expandTabs doc)) short (outputLines (clean doc)) first margin ∧
      visible (clean doc) = visible doc ∧
      ∀ line ∈ (lines (expandTabs doc)).tail, isBlankText line = false →
        Loses margin line (line.drop margin) ∧
        decode? ((utf8 (String.ofList line)).drop (byteLength (line.take margin))) =
          some (String.ofList (line.drop margin)) := by
  obtain ⟨short, first, hdeindents⟩ := cleanLines_deindents (lines (expandTabs doc))
  refine ⟨short, first, _, outputLines_clean doc ▸ hdeindents, ?_, fun line hline hvisible => ?_⟩
  · rw [clean, visible_joinLines, hdeindents.visible_eq, visible_lines, visible_expandTabs]
  · have hloses := cutMargin_loses fun h => margin_le hline h
    rw [cutMargin, if_neg (by rw [hvisible]; exact Bool.false_ne_true)] at hloses
    exact ⟨hloses, decode?_drop _ line⟩

/-- The lines behind the first one lose as much as the one with the least indentation. -/
example : clean [' ', 'a', '\n', ' ', ' ', ' ', 'b', '\n', '\n', ' ', ' ', 'c', '\n', ' '] =
    ['a', '\n', ' ', 'b', '\n', '\n', 'c'] := by decide +kernel

end TestCensus.Docstring
