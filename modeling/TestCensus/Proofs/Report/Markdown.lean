import TestCensus.Proofs.Report.Quoted
import TestCensus.Text.Parts

/-!
# The sections of the report in Markdown

The report in Markdown is put together from texts that each get a line end.  Some of
them quote what was found: paths, names, and what a collector wrote.  A line feed in a
quoted text makes further lines of it, and these may look like anything.

*Lines.*  `textLines` cuts a report at its line feeds.  A text without a line feed
(`IsLine`) is one line, and the lines of a report are those of its texts, one text
after the other (`textLines_unlines`).

*Starts.*  How a line starts says what it is.  The numbers at the top of a report and
the headings are lines that start as intended, and every bullet has a first line that
does.  So the lines that start in one way are the intended ones and, behind each list,
those of the further lines of its texts that start alike (`linesFrom_markdown`).

*Structure.*  `markdown_structure_iff` says when the structure of a report is the
intended one: exactly if no quoted text has a line feed.  The headings alone are right
exactly if no further line looks like one, and none of the right ones is ever missing
or out of order.
-/

namespace TestCensus

open TestCensus.Text

namespace Report

/-! ## Lines -/

/-- The lines of a text, which are the pieces between its line feeds. -/
def textLines (s : String) : List String := (splitOn '\n' s.toList).map String.ofList

/-- The text has no line feed, so it is one line. -/
def IsLine (s : String) : Prop := '\n' ∉ s.toList

instance (s : String) : Decidable (IsLine s) := inferInstanceAs (Decidable (¬_))

/-- The lines of a text behind the first one. -/
def furtherLines (s : String) : List String := (textLines s).tail

@[simp] theorem isLine_append {a b : String} : IsLine (a ++ b) ↔ IsLine a ∧ IsLine b :=
  lacks_append

/-- A text is a line if its characters are no line feeds. -/
theorem isLine_ofList {cs : List Char} (h : '\n' ∉ cs) : IsLine (String.ofList cs) :=
  lacks_ofList h

/-- A line feed is a control character. -/
theorem isControl_lineFeed : IsControl '\n' := by decide

theorem isLine_toString (n : Nat) : IsLine (toString n) := isControl_lineFeed.lacks_nat n

theorem textLines_of_isLine {s : String} (h : IsLine s) : textLines s = [s] := by
  rw [textLines, splitOn_of_not_mem h, List.map_singleton, String.ofList_toList]

/-- The lines of a text are lines. -/
theorem isLine_of_mem_textLines {s line : String} (h : line ∈ textLines s) : IsLine line := by
  obtain ⟨piece, hpiece, rfl⟩ := List.mem_map.1 h
  exact isLine_ofList (not_mem_of_mem_splitOn hpiece)

/-- What stands before a text on its first line changes none of the further lines. -/
theorem textLines_append {a : String} (h : IsLine a) (b : String) :
    ∃ first, textLines (a ++ b) = (a ++ first) :: furtherLines b := by
  obtain ⟨first, others, hb, hab⟩ := splitOn_append h b.toList
  refine ⟨String.ofList first, ?_⟩
  simp [textLines, furtherLines, hb, hab, String.ofList_append]

theorem furtherLines_append {a : String} (h : IsLine a) (b : String) :
    furtherLines (a ++ b) = furtherLines b := by
  obtain ⟨first, hlines⟩ := textLines_append h b
  rw [furtherLines, hlines]
  rfl

theorem furtherLines_ofList (cs : List Char) :
    furtherLines (String.ofList cs) = (splitOn '\n' cs).tail.map String.ofList := by
  rw [furtherLines, textLines, String.toList_ofList, List.map_tail]

/-- The lines of a report are those of its texts, one text after the other, and those of
whatever follows. -/
theorem textLines_unlines_append (texts : List String) (rest : String) :
    textLines (unlines texts ++ rest) = texts.flatMap textLines ++ textLines rest := by
  induction texts with
  | nil => simp [unlines]
  | cons s texts ih =>
      have hsplit : (unlines (s :: texts) ++ rest).toList =
          s.toList ++ '\n' :: (unlines texts ++ rest).toList := by
        simp [unlines, String.join_cons]
      rw [textLines, hsplit, splitOn_append_sep, List.map_append, List.flatMap_cons,
        List.append_assoc, ← ih]
      rfl

theorem textLines_unlines (texts : List String) :
    textLines (unlines texts) = texts.flatMap textLines ++ [""] := by
  have h := textLines_unlines_append texts ""
  rwa [String.append_empty] at h

theorem flatMap_textLines {texts : List String} (h : ∀ s ∈ texts, IsLine s) :
    texts.flatMap textLines = texts := by
  induction texts with
  | nil => rfl
  | cons s rest ih =>
      rw [List.flatMap_cons, textLines_of_isLine (h s (.head _)),
        ih fun x hx => h x (.tail _ hx)]
      rfl

/-! ## Starts -/

/-- The lines of a report that start with a text. -/
def linesFrom (start report : String) : List String :=
  (textLines report).filter (hasStart · start)

/-- No text starts with both. -/
structure Apart (a b : String) : Prop where
  /-- The first is no start of the second. -/
  left : hasStart b a = false
  /-- The second is no start of the first. -/
  right : hasStart a b = false

theorem hasStart_ofList (cs start : List Char) :
    hasStart (String.ofList cs) (String.ofList start) = startsWith start cs := by
  rw [hasStart, String.toList_ofList, String.toList_ofList]

theorem apart_ofList {as bs : List Char} (h : startsWith as bs = false)
    (h' : startsWith bs as = false) : Apart (String.ofList as) (String.ofList bs) :=
  ⟨(hasStart_ofList bs as).trans h, (hasStart_ofList as bs).trans h'⟩

theorem Apart.hasStart_eq_false {a b s : String} (h : Apart a b) (hs : hasStart s a = true) :
    hasStart s b = false := by
  have hright := h.right
  have hleft := h.left
  rw [Bool.eq_false_iff, ne_eq, hasStart_iff] at hright hleft ⊢
  intro hb
  rcases List.prefix_or_prefix_of_prefix hb (hasStart_iff.1 hs) with hpre | hpre
  · exact hright hpre
  · exact hleft hpre

theorem hasStart_append {a b start : String} (h : hasStart a start = true) :
    hasStart (a ++ b) start = true := by
  rw [hasStart_iff] at h ⊢
  rw [String.toList_append]
  exact h.trans (List.prefix_append _ _)

theorem hasStart_self (a b : String) : hasStart (a ++ b) a = true :=
  hasStart_append (hasStart_iff.2 List.prefix_rfl)

theorem filter_hasStart_of_apart {a start : String} {lines : List String} (h : Apart a start)
    (hlines : ∀ s ∈ lines, hasStart s a = true) : lines.filter (hasStart · start) = [] := by
  refine List.filter_eq_nil_iff.2 fun s hs => ?_
  rw [h.hasStart_eq_false (hlines s hs)]
  exact Bool.false_ne_true

/-- A kind of heading: no line starts with it by chance. -/
structure IsHeading (start : String) : Prop where
  /-- An empty line is no such heading. -/
  nonempty : hasStart "" start = false
  /-- A bullet is no such heading. -/
  bullet : Apart "- " start

theorem isHeading_section : IsHeading "## " :=
  ⟨hasStart_ofList [] _, apart_ofList rfl rfl⟩

theorem isHeading_category : IsHeading "### " :=
  ⟨hasStart_ofList [] _, apart_ofList rfl rfl⟩

/-- Headings of categories and of sections are told apart. -/
theorem category_apart_section : Apart "### " "## " := apart_ofList rfl rfl

theorem section_apart_category : Apart "## " "### " := apart_ofList rfl rfl

/-! ## The numbers at the top -/

variable (t : Tally)

/-- The categories that have a section. -/
def shownCategories : List Category :=
  Category.all.filter fun c => t.categoryCounts.countOf c.name != 0

/-- The heading of the section of a category. -/
def categoryHeading (c : Category) : String := "### " ++ c.glyph ++ " " ++ c.name

/-- What is said of a category that has a section. -/
def categoryBullets (c : Category) : List String :=
  let count := t.categoryCounts.countOf c.name
  [ "- **Count:** " ++ toString count ++ " (" ++
      percentText (Number.percentage count.val t.total.val) ++ ")",
    "- **Description:** " ++ c.description ]

/-- The lines of a category that has a section. -/
def shownLines (c : Category) : List String :=
  ["", categoryHeading c, ""] ++ categoryBullets t c

/-- What stands before the lists. -/
def topLines : List String :=
  ["# Test Suite Marker Audit", "", "## Overall Statistics", ""] ++ statisticsLines t ++
    ["", "## Test Categories"] ++ (shownCategories t).flatMap (shownLines t)

theorem isLine_count (n : Count) : IsLine (toString n) := isLine_toString n.val

theorem isLine_percentText (x : Number.Binary64) : IsLine (percentText x) :=
  isControl_lineFeed.lacks_percentText x

theorem isLine_countSource (source : CountSource) : IsLine source.name :=
  isControl_lineFeed.lacks_countSource source

theorem isLine_of_mem_statisticsLines : ∀ s ∈ statisticsLines t, IsLine s := by
  simp only [statisticsLines, List.forall_mem_cons, isLine_append, isLine_count, isLine_toString,
    isLine_percentText, isLine_countSource, List.not_mem_nil, false_implies, implies_true, and_true]
  and_intros <;> exact isLine_ofList (by decide)

theorem isLine_of_mem_all : ∀ c ∈ Category.all,
    IsLine c.glyph ∧ IsLine c.name ∧ IsLine c.description :=
  isControl_lineFeed.lacks_category

theorem isLine_of_mem_shownLines {c : Category} (h : c ∈ Category.all) :
    ∀ s ∈ shownLines t c, IsLine s := by
  obtain ⟨hglyph, hname, hdescription⟩ := isLine_of_mem_all c h
  simp only [shownLines, categoryBullets, categoryHeading, List.cons_append, List.nil_append,
    List.forall_mem_cons, isLine_append, isLine_count, isLine_percentText, hglyph, hname,
    hdescription, List.not_mem_nil, false_implies, implies_true, and_true]
  and_intros <;> exact isLine_ofList (by decide)

theorem isLine_of_mem_topLines : ∀ s ∈ topLines t, IsLine s := by
  intro s hs
  simp only [topLines, List.mem_append, List.mem_flatMap] at hs
  rcases hs with ((hs | hs) | hs) | ⟨c, hc, hs⟩
  · revert s
    simp only [List.forall_mem_cons, List.not_mem_nil, false_implies, implies_true, and_true]
    and_intros <;> exact isLine_ofList (by decide)
  · exact isLine_of_mem_statisticsLines t s hs
  · revert s
    simp only [List.forall_mem_cons, List.not_mem_nil, false_implies, implies_true, and_true]
    and_intros <;> exact isLine_ofList (by decide)
  · exact isLine_of_mem_shownLines t (List.mem_filter.1 hc).1 s hs

theorem hasStart_of_mem_statisticsLines : ∀ s ∈ statisticsLines t, hasStart s "- " = true := by
  simp only [statisticsLines, List.forall_mem_cons, List.not_mem_nil, false_implies, implies_true,
    and_true]
  exact ⟨hasStart_append (hasStart_ofList _ _), hasStart_append (hasStart_ofList _ _),
    hasStart_append (hasStart_append (hasStart_append (hasStart_append (hasStart_ofList _ _)))),
    hasStart_append (hasStart_append (hasStart_append (hasStart_append (hasStart_ofList _ _)))),
    hasStart_append (hasStart_ofList _ _)⟩

theorem hasStart_of_mem_categoryBullets (c : Category) :
    ∀ s ∈ categoryBullets t c, hasStart s "- " = true := by
  simp only [categoryBullets, List.forall_mem_cons, List.not_mem_nil, false_implies, implies_true,
    and_true]
  exact ⟨hasStart_append
      (hasStart_append (hasStart_append (hasStart_append (hasStart_ofList _ _)))),
    hasStart_append (hasStart_ofList _ _)⟩

theorem hasStart_categoryHeading (c : Category) : hasStart (categoryHeading c) "### " = true :=
  hasStart_append (hasStart_append (hasStart_self _ _))

/-- The headings of sections at the top. -/
theorem filter_topLines_section :
    (topLines t).filter (hasStart · "## ") = ["## Overall Statistics", "## Test Categories"] := by
  have htop : ["# Test Suite Marker Audit", "", "## Overall Statistics", ""].filter
      (hasStart · "## ") = ["## Overall Statistics"] := by decide +kernel
  have htitle : ["", "## Test Categories"].filter (hasStart · "## ") = ["## Test Categories"] := by
    decide +kernel
  have hshown : ∀ c, (shownLines t c).filter (hasStart · "## ") = [] := by
    intro c
    have hheading := category_apart_section.hasStart_eq_false (hasStart_categoryHeading c)
    rw [shownLines, List.filter_append, filter_hasStart_of_apart isHeading_section.bullet
      (hasStart_of_mem_categoryBullets t c)]
    simp [isHeading_section.nonempty, hheading]
  rw [topLines, List.filter_append, List.filter_append, List.filter_append, htop, htitle,
    filter_hasStart_of_apart isHeading_section.bullet (hasStart_of_mem_statisticsLines t),
    List.filter_flatMap]
  simp [hshown]

/-- The headings of categories. -/
theorem filter_topLines_category :
    (topLines t).filter (hasStart · "### ") = (shownCategories t).map categoryHeading := by
  have htop : ["# Test Suite Marker Audit", "", "## Overall Statistics", ""].filter
      (hasStart · "### ") = [] := by decide +kernel
  have htitle : ["", "## Test Categories"].filter (hasStart · "### ") = [] := by decide +kernel
  have hshown : ∀ c, (shownLines t c).filter (hasStart · "### ") = [categoryHeading c] := by
    intro c
    rw [shownLines, List.filter_append, filter_hasStart_of_apart isHeading_category.bullet
      (hasStart_of_mem_categoryBullets t c)]
    simp [isHeading_category.nonempty, hasStart_categoryHeading]
  rw [topLines, List.filter_append, List.filter_append, List.filter_append, htop, htitle,
    filter_hasStart_of_apart isHeading_category.bullet (hasStart_of_mem_statisticsLines t),
    List.filter_flatMap]
  simp [hshown, List.map_eq_flatMap]

/-- There are five bullets for the whole suite, and two for each category. -/
theorem length_filter_topLines :
    ((topLines t).filter (hasStart · "- ")).length = 5 + 2 * (shownCategories t).length := by
  have htop : ["# Test Suite Marker Audit", "", "## Overall Statistics", ""].filter
      (hasStart · "- ") = [] := by decide +kernel
  have htitle : ["", "## Test Categories"].filter (hasStart · "- ") = [] := by decide +kernel
  have hapart : Apart "### " "- " := apart_ofList rfl rfl
  have hempty : hasStart "" "- " = false := hasStart_ofList [] _
  have hshown : ∀ c, ((shownLines t c).filter (hasStart · "- ")).length = 2 := by
    intro c
    rw [shownLines, List.filter_append,
      List.filter_eq_self.2 (hasStart_of_mem_categoryBullets t c)]
    simp [hempty, hapart.hasStart_eq_false (hasStart_categoryHeading c), categoryBullets]
  rw [topLines, List.filter_append, List.filter_append, List.filter_append, htop, htitle,
    List.filter_eq_self.2 (hasStart_of_mem_statisticsLines t), List.filter_flatMap]
  have hsum : ((shownCategories t).map fun _ => 2).sum = 2 * (shownCategories t).length := by
    rw [List.map_const', List.sum_replicate_nat, Nat.mul_comm]
  simp only [List.nil_append, List.append_nil, List.length_append, List.length_flatMap, hshown,
    hsum]
  rfl

/-! ## Lists -/

/-- The lists of a report: each with the title of its section and the texts that get a
bullet. -/
def lists : List (String × List String) :=
  [ ("Issues", t.issues.map Issue.message),
    ("Warnings", t.warnings.map Warning.message),
    ("Uncategorized Tests", t.uncategorizedFunctions.map functionBullet) ]

/-- The texts that get a bullet. -/
def listedTexts : List String := (lists t).flatMap Prod.snd

/-- The lines before the bullets of a list. -/
def titleLines (title : String) (bullets : List String) : List String :=
  if bullets.isEmpty then [] else ["", "## " ++ title, ""]

theorem isLine_of_mem_lists : ∀ l ∈ lists t, IsLine l.1 := by
  simp only [lists, List.forall_mem_cons, List.not_mem_nil, false_implies, implies_true, and_true]
  and_intros <;> exact isLine_ofList (by decide)

theorem isLine_of_mem_titleLines {title : String} (h : IsLine title) (bullets : List String) :
    ∀ s ∈ titleLines title bullets, IsLine s := by
  unfold titleLines
  split
  · nofun
  · simp only [List.forall_mem_cons, isLine_append, h, List.not_mem_nil, false_implies,
      implies_true, and_true]
    and_intros <;> exact isLine_ofList (by decide)

theorem sectionLines_eq (title : String) (bullets : List String) :
    sectionLines title bullets = titleLines title bullets ++ bullets.map ("- " ++ ·) := by
  unfold sectionLines titleLines
  cases bullets with
  | nil => rfl
  | cons s rest => rfl

/-- A category without tests has no lines. -/
theorem flatMap_categoryLines :
    Category.all.flatMap (categoryLines t) = (shownCategories t).flatMap (shownLines t) := by
  unfold shownCategories
  induction Category.all with
  | nil => rfl
  | cons c rest ih =>
      rw [List.flatMap_cons, ih, categoryLines]
      by_cases hzero : t.categoryCounts.countOf c.name = 0
      · rw [if_pos hzero, List.filter_cons_of_neg (by simp [hzero]), List.nil_append]
      · rw [if_neg hzero, List.filter_cons_of_pos (by simp [hzero]), List.flatMap_cons]
        rfl

theorem markdownLines_eq :
    markdownLines t = topLines t ++ (lists t).flatMap fun l => sectionLines l.1 l.2 := by
  rw [markdownLines, flatMap_categoryLines]
  simp [topLines, lists]

/-- The line of a bullet looks like no heading, but the further lines may. -/
theorem filter_bullets {start : String} (h : IsHeading start) (bullets : List String) :
    ((bullets.map ("- " ++ ·)).flatMap textLines).filter (hasStart · start) =
      (bullets.flatMap furtherLines).filter (hasStart · start) := by
  induction bullets with
  | nil => rfl
  | cons s rest ih =>
      have hdash : IsLine "- " := isLine_ofList (by decide)
      obtain ⟨first, hfirst⟩ := textLines_append hdash s
      have hstart := h.bullet.hasStart_eq_false (hasStart_self "- " first)
      rw [List.map_cons, List.flatMap_cons, List.filter_append, ih, hfirst,
        List.filter_cons_of_neg (by simp [hstart]), List.flatMap_cons, List.filter_append]

/-- The lines of a list that look like a heading are its title and those of the further
lines that do. -/
theorem filter_sectionLines {start title : String} (h : IsHeading start) (htitle : IsLine title)
    (bullets : List String) :
    ((sectionLines title bullets).flatMap textLines).filter (hasStart · start) =
      (titleLines title bullets).filter (hasStart · start) ++
        (bullets.flatMap furtherLines).filter (hasStart · start) := by
  rw [sectionLines_eq, List.flatMap_append, List.filter_append, filter_bullets h,
    flatMap_textLines (isLine_of_mem_titleLines htitle bullets)]

theorem filter_lists {start : String} (h : IsHeading start) {ls : List (String × List String)}
    (hls : ∀ l ∈ ls, IsLine l.1) :
    ((ls.flatMap fun l => sectionLines l.1 l.2).flatMap textLines).filter (hasStart · start) =
      ls.flatMap fun l => (titleLines l.1 l.2).filter (hasStart · start) ++
        (l.2.flatMap furtherLines).filter (hasStart · start) := by
  induction ls with
  | nil => rfl
  | cons l rest ih =>
      rw [List.flatMap_cons, List.flatMap_append, List.filter_append,
        filter_sectionLines h (hls l (.head _)), ih fun x hx => hls x (.tail _ hx),
        List.flatMap_cons]

/-- The lines of a report that look like a heading: the intended ones, and behind each
list those of its further lines that do. -/
theorem linesFrom_markdown {start : String} (h : IsHeading start) :
    linesFrom start (markdown t) = (topLines t).filter (hasStart · start) ++
      (lists t).flatMap fun l => (titleLines l.1 l.2).filter (hasStart · start) ++
        (l.2.flatMap furtherLines).filter (hasStart · start) := by
  rw [linesFrom, markdown, textLines_unlines, markdownLines_eq, List.flatMap_append,
    flatMap_textLines (isLine_of_mem_topLines t), List.filter_append, List.filter_append,
    filter_lists h (isLine_of_mem_lists t)]
  simp [h.nonempty]

/-- If every listed text is a line, it gets exactly one bullet. -/
theorem linesFrom_markdown_bullets (h : ∀ s ∈ listedTexts t, IsLine s) :
    linesFrom "- " (markdown t) =
      (topLines t).filter (hasStart · "- ") ++ (listedTexts t).map ("- " ++ ·) := by
  have hdash : IsLine "- " := isLine_ofList (by decide)
  have hempty : hasStart "" "- " = false := hasStart_ofList [] _
  have hapart : Apart "## " "- " := apart_ofList rfl rfl
  have hlines : ∀ s ∈ markdownLines t, IsLine s := by
    intro s hs
    rw [markdownLines_eq, List.mem_append, List.mem_flatMap] at hs
    rcases hs with hs | ⟨l, hl, hs⟩
    · exact isLine_of_mem_topLines t s hs
    · rw [sectionLines_eq, List.mem_append, List.mem_map] at hs
      rcases hs with hs | ⟨text, htext, rfl⟩
      · exact isLine_of_mem_titleLines (isLine_of_mem_lists t l hl) l.2 s hs
      · exact isLine_append.2 ⟨hdash, h text (List.mem_flatMap.2 ⟨l, hl, htext⟩)⟩
  have htitles : ∀ l : String × List String,
      (sectionLines l.1 l.2).filter (hasStart · "- ") = l.2.map ("- " ++ ·) := by
    intro l
    have hbullets : (l.2.map ("- " ++ ·)).filter (hasStart · "- ") = l.2.map ("- " ++ ·) := by
      refine List.filter_eq_self.2 fun s hs => ?_
      obtain ⟨text, -, rfl⟩ := List.mem_map.1 hs
      exact hasStart_self _ _
    rw [sectionLines_eq, List.filter_append, hbullets, titleLines]
    split
    · rfl
    · simp [hempty, hapart.hasStart_eq_false (hasStart_self "## " l.1)]
  rw [linesFrom, markdown, textLines_unlines, flatMap_textLines hlines, markdownLines_eq,
    List.filter_append, List.filter_append, List.filter_flatMap]
  simp [htitles, hempty, listedTexts, List.map_flatMap]

/-! ## Structure -/

theorem isLine_issue (issue : Issue) : IsLine issue.message := isControl_lineFeed.lacks_issue issue

/-- The message of a warning is a line exactly if all that it quotes are. -/
theorem isLine_message {w : Warning} : IsLine w.message ↔ ∀ s ∈ w.quotedTexts, IsLine s :=
  isControl_lineFeed.lacks_message_iff

/-- The bullet of a function is a line exactly if all that it quotes are. -/
theorem isLine_functionBullet {f : TestFunction} :
    IsLine (functionBullet f) ↔ ∀ s ∈ f.quotedTexts, IsLine s := by
  have htick : IsLine "`" := isLine_ofList (by decide)
  have hin : IsLine "` in `" := isLine_ofList (by decide)
  have hquoted : IsLine f.qualifiedName ∧ IsLine f.place ↔ ∀ s ∈ f.quotedTexts, IsLine s :=
    isControl_lineFeed.lacks_function_iff
  simp only [functionBullet, isLine_append, htick, hin, true_and, and_true, hquoted]

theorem isLine_listedTexts_iff :
    (∀ s ∈ listedTexts t, IsLine s) ↔ ∀ s ∈ t.quotedTexts, IsLine s := by
  have hlisted : listedTexts t = t.issues.map Issue.message ++
      (t.warnings.map Warning.message ++ t.uncategorizedFunctions.map functionBullet) := by
    simp [listedTexts, lists]
  rw [hlisted, Tally.quotedTexts]
  simp only [List.forall_mem_append, List.forall_mem_map, List.forall_mem_flatMap, isLine_issue,
    isLine_message, isLine_functionBullet, implies_true, true_and]

/-- The titles of the sections: two that are always there, and one for each list that is
not empty. -/
def sectionTitles : List String :=
  ["Overall Statistics", "Test Categories"] ++
    ((lists t).filter (!·.2.isEmpty)).map Prod.fst

/-- The report has the intended structure. -/
structure HasSections (report : String) : Prop where
  /-- The headings of sections are those of the titles, in order. -/
  sections : linesFrom "## " report = (sectionTitles t).map ("## " ++ ·)
  /-- The other headings are those of the categories that have a count, in order. -/
  categories : linesFrom "### " report = (shownCategories t).map categoryHeading
  /-- Behind the bullets of the suite and the categories, every issue, warning and listed
  function has one bullet. -/
  bullets : ∃ numbers, numbers.length = 5 + 2 * (shownCategories t).length ∧
    linesFrom "- " report = numbers ++ (listedTexts t).map ("- " ++ ·)

/-- The parts of a list stay where something is put behind each. -/
theorem flatMap_sublist {α β : Type} (f g : α → List β) (l : List α) :
    (l.flatMap f).Sublist (l.flatMap fun a => f a ++ g a) := by
  induction l with
  | nil => exact .refl _
  | cons a l ih =>
      rw [List.flatMap_cons, List.flatMap_cons]
      exact (List.sublist_append_left _ _).append ih

/-- What stands behind the parts of a list changes it unless it is empty. -/
theorem flatMap_append_eq_iff {α β : Type} (f g : α → List β) (l : List α) :
    (l.flatMap fun a => f a ++ g a) = l.flatMap f ↔ ∀ a ∈ l, g a = [] := by
  have hlength : ∀ l : List α, (l.flatMap f).length ≤ (l.flatMap fun a => f a ++ g a).length :=
    fun l => (flatMap_sublist f g l).length_le
  induction l with
  | nil => simp
  | cons a l ih =>
      rw [List.flatMap_cons, List.flatMap_cons, List.append_assoc, List.append_cancel_left_eq,
        List.forall_mem_cons]
      constructor
      · intro h
        have hnil : g a = [] := by
          have hle := hlength l
          have hsum := congrArg List.length h
          rw [List.length_append] at hsum
          exact List.length_eq_zero_iff.1 (by omega)
        rw [hnil, List.nil_append] at h
        exact ⟨hnil, ih.1 h⟩
      · rintro ⟨hnil, h⟩
        rw [hnil, ih.2 h, List.nil_append]

/-- The headings of the titles. -/
theorem map_sectionTitles :
    (sectionTitles t).map ("## " ++ ·) = ["## Overall Statistics", "## Test Categories"] ++
      (lists t).flatMap fun l => (titleLines l.1 l.2).filter (hasStart · "## ") := by
  have htop : ["Overall Statistics", "Test Categories"].map ("## " ++ ·) =
      ["## Overall Statistics", "## Test Categories"] := by decide +kernel
  rw [sectionTitles, List.map_append, htop]
  congr 1
  induction lists t with
  | nil => rfl
  | cons l rest ih =>
      rw [List.flatMap_cons, ← ih, titleLines]
      cases hempty : l.2.isEmpty with
      | true => simp [hempty]
      | false => simp [hempty, isHeading_section.nonempty, hasStart_self]

/-- No title of a list looks like the heading of a category. -/
theorem filter_titleLines_category (l : String × List String) :
    (titleLines l.1 l.2).filter (hasStart · "### ") = [] := by
  unfold titleLines
  split
  · rfl
  · simp [isHeading_category.nonempty,
      section_apart_category.hasStart_eq_false (hasStart_self "## " l.1)]

/-- A further line that starts so can be found in one of the lists. -/
theorem filter_furtherLines_eq_nil_iff (start : String) :
    (∀ l ∈ lists t, (l.2.flatMap furtherLines).filter (hasStart · start) = []) ↔
      ∀ s ∈ listedTexts t, ∀ line ∈ furtherLines s, hasStart line start = false := by
  simp only [listedTexts, List.filter_eq_nil_iff, List.mem_flatMap, Bool.not_eq_true,
    forall_exists_index, and_imp]
  constructor
  · intro h s l hl hs line hline
    exact h l hl line s hs hline
  · intro h l hl line s hs hline
    exact h s l hl hs line hline

theorem sections_eq_iff :
    linesFrom "## " (markdown t) = (sectionTitles t).map ("## " ++ ·) ↔
      ∀ s ∈ listedTexts t, ∀ line ∈ furtherLines s, hasStart line "## " = false := by
  rw [linesFrom_markdown t isHeading_section, filter_topLines_section, map_sectionTitles,
    List.append_cancel_left_eq, flatMap_append_eq_iff, filter_furtherLines_eq_nil_iff]

theorem categories_eq_iff :
    linesFrom "### " (markdown t) = (shownCategories t).map categoryHeading ↔
      ∀ s ∈ listedTexts t, ∀ line ∈ furtherLines s, hasStart line "### " = false := by
  rw [linesFrom_markdown t isHeading_category, filter_topLines_category,
    List.append_right_eq_self, List.flatMap_eq_nil_iff, ← filter_furtherLines_eq_nil_iff]
  simp only [filter_titleLines_category, List.nil_append]

/-- The headings of sections are all there, in order, whatever is quoted. -/
theorem sections_sublist :
    ((sectionTitles t).map ("## " ++ ·)).Sublist (linesFrom "## " (markdown t)) := by
  rw [linesFrom_markdown t isHeading_section, filter_topLines_section, map_sectionTitles]
  exact (flatMap_sublist _ _ _).append_left _

theorem categories_sublist :
    ((shownCategories t).map categoryHeading).Sublist (linesFrom "### " (markdown t)) := by
  rw [linesFrom_markdown t isHeading_category, filter_topLines_category]
  exact List.sublist_append_left _ _

/-- A further line that looks like a heading is taken for one. -/
theorem mem_linesFrom_of_mem_furtherLines {start s line : String} (h : IsHeading start)
    (hs : s ∈ listedTexts t) (hline : line ∈ furtherLines s) (hstart : hasStart line start = true) :
    line ∈ linesFrom start (markdown t) := by
  obtain ⟨l, hl, hsl⟩ := List.mem_flatMap.1 hs
  rw [linesFrom_markdown t h]
  refine List.mem_append_right _ (List.mem_flatMap.2 ⟨l, hl, List.mem_append_right _ ?_⟩)
  exact List.mem_filter.2 ⟨List.mem_flatMap.2 ⟨s, hsl, hline⟩, hstart⟩

/-- Every listed text has one bullet exactly if all quoted texts are lines. -/
theorem bullets_iff :
    (∃ numbers, numbers.length = 5 + 2 * (shownCategories t).length ∧
      linesFrom "- " (markdown t) = numbers ++ (listedTexts t).map ("- " ++ ·)) ↔
      ∀ s ∈ t.quotedTexts, IsLine s := by
  rw [← isLine_listedTexts_iff]
  constructor
  · rintro ⟨numbers, -, hbullets⟩ s hs
    have hmem : "- " ++ s ∈ linesFrom "- " (markdown t) := by
      rw [hbullets]
      exact List.mem_append_right _ (List.mem_map_of_mem hs)
    exact (isLine_append.1 (isLine_of_mem_textLines (List.mem_filter.1 hmem).1)).2
  · intro h
    exact ⟨_, length_filter_topLines t, linesFrom_markdown_bullets t h⟩

/-- The report in Markdown has the intended structure exactly if no quoted text has a line
feed.  The headings alone are the intended ones exactly if no further line of a listed
text starts like one; they are always there and in order. -/
theorem markdown_structure_iff :
    (HasSections t (markdown t) ↔ ∀ s ∈ t.quotedTexts, IsLine s) ∧
      (linesFrom "## " (markdown t) = (sectionTitles t).map ("## " ++ ·) ↔
        ∀ s ∈ listedTexts t, ∀ line ∈ furtherLines s, hasStart line "## " = false) ∧
      (linesFrom "### " (markdown t) = (shownCategories t).map categoryHeading ↔
        ∀ s ∈ listedTexts t, ∀ line ∈ furtherLines s, hasStart line "### " = false) ∧
      ((sectionTitles t).map ("## " ++ ·)).Sublist (linesFrom "## " (markdown t)) ∧
      ((shownCategories t).map categoryHeading).Sublist (linesFrom "### " (markdown t)) := by
  refine ⟨⟨fun h => (bullets_iff t).1 h.bullets, fun h => ?_⟩, sections_eq_iff t,
    categories_eq_iff t, sections_sublist t, categories_sublist t⟩
  have hfurther : ∀ s ∈ listedTexts t, furtherLines s = [] := by
    intro s hs
    rw [furtherLines, textLines_of_isLine ((isLine_listedTexts_iff t).2 h s hs)]
    rfl
  exact
    { sections := (sections_eq_iff t).2 fun s hs line hline => by
        rw [hfurther s hs] at hline
        cases hline
      categories := (categories_eq_iff t).2 fun s hs line hline => by
        rw [hfurther s hs] at hline
        cases hline
      bullets := (bullets_iff t).2 h }

/-- A suite without tests whose collector failed with a message of two lines. -/
def multilineFailure : Tally :=
  { files := []
    collected := some ⟨[], none⟩
    recorded := [.collectFailure none
      ("collection exited with status 4: usage error" ++ "\n## Issues")] }

/-- The report of this suite has a section for issues, of which there are none. -/
theorem multilineFailure_forges_section :
    multilineFailure.issues = [] ∧
      "## Issues" ∈ linesFrom "## " (markdown multilineFailure) ∧
      ¬HasSections multilineFailure (markdown multilineFailure) := by
  have hfurther : furtherLines ("collection failed for the full suite: " ++
      ("collection exited with status 4: usage error" ++ "\n## Issues")) = ["## Issues"] := by
    rw [furtherLines_append (isLine_ofList (by decide)),
      furtherLines_append (isLine_ofList (by decide))]
    exact furtherLines_ofList _
  have hlisted : ∃ s ∈ listedTexts multilineFailure, furtherLines s = ["## Issues"] :=
    ⟨_, .head _, hfurther⟩
  obtain ⟨s, hs, hline⟩ := hlisted
  have hmem : "## Issues" ∈ furtherLines s := hline ▸ .head _
  have hstart : hasStart "## Issues" "## " = true := hasStart_ofList _ _
  have hsections : ¬HasSections multilineFailure (markdown multilineFailure) := fun h =>
    Bool.false_ne_true (((sections_eq_iff _).1 h.sections s hs _ hmem).symm.trans hstart)
  exact ⟨by decide, mem_linesFrom_of_mem_furtherLines _ isHeading_section hs hmem hstart, hsections⟩

end Report

end TestCensus
