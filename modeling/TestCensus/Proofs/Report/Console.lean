import TestCensus.Proofs.Report.Quoted
import TestCensus.Proofs.Tally.Accounts
import TestCensus.Report.Marks

/-!
# Colors are decoration

The report for the console is a styled text, which is written with its styles or without.
`console_decorated` says that the styles are all that makes the difference: a terminal shows
the same characters either way, and every style is reset before the next one begins.

*Marks.*  A text without escape characters is shown as it is, whatever follows
(`marksFrom_append`), and a sequence is one mark (`marksFrom_sequence`).  So the marks of a
styled text are those of its pieces, one piece after the other (`marks_renderPieces`).

*Pieces.*  That needs a styled text whose pieces are clean: none of their texts brings an
escape character of its own, and no style has the code of the reset (`Piece.IsClean`).  The
pieces of the report are clean if what it quotes has no escape character (`consolePieces_clean`).
-/

namespace TestCensus

/-! ## The texts of a tally -/

/-- The texts that are recorded of a function. -/
def TestFunction.texts (f : TestFunction) : List String :=
  f.quotedTexts ++ f.docstring.toList ++ f.markers.names

/-- The texts that are recorded of a file. -/
def TestFile.texts (f : TestFile) : List String := f.path :: f.functions.flatMap TestFunction.texts

/-- The texts in a tally. -/
def Tally.texts (t : Tally) : List String :=
  t.files.flatMap TestFile.texts ++ t.recorded.flatMap Warning.quotedTexts ++
    t.collected.toList.flatMap fun c => c.perCategory.map Prod.fst

namespace Report

/-! ## Marks -/

theorem marksFrom_passed (passed rest : List Char) :
    marksFrom passed.length (passed ++ rest) = marksFrom 0 rest := by
  induction passed with
  | nil => rfl
  | cons c passed ih => exact ih

theorem marksFrom_cons {c : Char} (hc : c ≠ escape) (rest : List Char) :
    marksFrom 0 (c :: rest) = .shown c :: marksFrom 0 rest := by
  have hnone : sequence? (c :: rest) = none := by
    cases rest with
    | nil => rfl
    | cons d rest => simp [sequence?, hc]
  rw [marksFrom, hnone]

/-- A text without escape characters is shown. -/
theorem marksFrom_append {cs : List Char} (h : escape ∉ cs) (rest : List Char) :
    marksFrom 0 (cs ++ rest) = cs.map .shown ++ marksFrom 0 rest := by
  induction cs with
  | nil => rfl
  | cons c cs ih =>
      rw [List.mem_cons, not_or] at h
      rw [List.cons_append, marksFrom_cons (Ne.symm h.1), ih h.2]
      rfl

/-- A sequence sets its style. -/
theorem marksFrom_sequence {digits : List Char} (hne : digits ≠ [])
    (hdigits : ∀ c ∈ digits, c.isDigit = true) (rest : List Char) :
    marksFrom 0 (escape :: '[' :: (digits ++ 'm' :: rest)) = .style digits :: marksFrom 0 rest := by
  have htake : (digits ++ 'm' :: rest).takeWhile Char.isDigit = digits := by
    rw [List.takeWhile_append_of_pos hdigits]
    simp
  have hsome : sequence? (escape :: '[' :: (digits ++ 'm' :: rest)) = some digits := by
    simp [sequence?, htake, hne]
  have hpassed := marksFrom_passed ('[' :: (digits ++ ['m'])) rest
  rw [marksFrom, hsome]
  simpa using hpassed

/-! ## Pieces -/

/-- The code sets a style that is not the reset. -/
structure IsStyle (code : String) : Prop where
  /-- There is a digit. -/
  nonempty : code.toList ≠ []
  /-- There are only digits. -/
  decimal : ∀ c ∈ code.toList, c.isDigit = true
  /-- The code is not that of the reset. -/
  not_reset : code.toList ≠ ['0']

/-- The piece brings no escape characters of its own, and resets no style. -/
inductive Piece.IsClean : Piece → Prop where
  /-- The piece is not painted. -/
  | plain {text : String} : Lacks escape text → IsClean (.plain text)
  /-- The piece is painted. -/
  | painted {code text : String} : IsStyle code → Lacks escape text → IsClean (.painted code text)

/-- The marks of a piece that is written with its style. -/
def Piece.marks : Piece → List Mark
  | plain text => text.toList.map .shown
  | painted code text => .style code.toList :: (text.toList.map .shown ++ [.style ['0']])

theorem filterMap_shown?_map (cs : List Char) :
    (cs.map Mark.shown).filterMap Mark.shown? = cs := by
  induction cs with
  | nil => rfl
  | cons c cs ih => exact congrArg (c :: ·) ih

theorem filterMap_style?_map (cs : List Char) :
    (cs.map Mark.shown).filterMap Mark.style? = [] := by
  induction cs with
  | nil => rfl
  | cons c cs ih => exact ih

/-- A painted piece shows what it shows without its style. -/
theorem Piece.filterMap_shown? (p : Piece) :
    p.marks.filterMap Mark.shown? = (p.render false).toList := by
  cases p with
  | plain text => exact filterMap_shown?_map _
  | painted code text =>
      show (text.toList.map Mark.shown ++ [Mark.style ['0']]).filterMap Mark.shown? = text.toList
      rw [List.filterMap_append, filterMap_shown?_map]
      exact List.append_nil _

/-- A clean piece has the marks of its style and its text, whatever follows. -/
theorem Piece.IsClean.marksFrom_render {p : Piece} (h : p.IsClean) (rest : List Char) :
    marksFrom 0 ((p.render true).toList ++ rest) = p.marks ++ marksFrom 0 rest := by
  cases h with
  | plain htext => exact marksFrom_append htext rest
  | @painted code text hcode htext =>
      have hstart : (styleStart code).toList = escape :: '[' :: (code.toList ++ ['m']) := by
        simp [styleStart, escape]
      have hend : styleEnd.toList = escape :: '[' :: (['0'] ++ ['m']) := by
        simp [styleEnd, escape]
      have hreset := marksFrom_sequence (List.cons_ne_nil '0' []) (by simp) rest
      show marksFrom 0 ((styleStart code ++ text ++ styleEnd).toList ++ rest) =
        .style code.toList :: (text.toList.map .shown ++ [.style ['0']]) ++ marksFrom 0 rest
      simp only [String.toList_append, hstart, hend, List.append_assoc, List.cons_append,
        List.nil_append] at hreset ⊢
      rw [marksFrom_sequence hcode.nonempty hcode.decimal, marksFrom_append htext, hreset]

/-! ## Styled texts -/

/-- Styles and resets take turns: each style is reset once before the next one begins, and
nothing is reset otherwise. -/
inductive InTurn : List (List Char) → Prop where
  /-- No style is set. -/
  | nil : InTurn []
  /-- A style is set and then reset. -/
  | painted {digits : List Char} {more : List (List Char)} : digits ≠ ['0'] → InTurn more →
      InTurn (digits :: ['0'] :: more)

section

variable {pieces : List Piece} (h : ∀ p ∈ pieces, p.IsClean)

include h

/-- A styled text has the marks of its pieces. -/
theorem marks_renderPieces : marks (renderPieces true pieces) = pieces.flatMap Piece.marks := by
  unfold marks
  induction pieces with
  | nil => rfl
  | cons p pieces ih =>
      rw [List.forall_mem_cons] at h
      show marksFrom 0 (String.join (p.render true :: pieces.map (Piece.render true))).toList = _
      rw [String.join_cons, String.toList_append, h.1.marksFrom_render, List.flatMap_cons]
      exact congrArg (p.marks ++ ·) (ih h.2)

theorem withoutStyles_renderPieces :
    withoutStyles (renderPieces true pieces) = renderPieces false pieces := by
  have hshown : ∀ ps : List Piece, (ps.flatMap Piece.marks).filterMap Mark.shown? =
      (renderPieces false ps).toList := by
    intro ps
    induction ps with
    | nil => rfl
    | cons p ps ih =>
        show _ = (String.join (p.render false :: ps.map (Piece.render false))).toList
        rw [List.flatMap_cons, List.filterMap_append, p.filterMap_shown?, ih, String.join_cons,
          String.toList_append]
        rfl
  rw [withoutStyles, marks_renderPieces h, hshown, String.ofList_toList]

theorem inTurn_styles : InTurn (styles (renderPieces true pieces)) := by
  rw [styles, marks_renderPieces h]
  induction pieces with
  | nil => exact .nil
  | cons p pieces ih =>
      rw [List.forall_mem_cons] at h
      rw [List.flatMap_cons, List.filterMap_append]
      cases h.1 with
      | plain htext =>
          rw [Piece.marks, filterMap_style?_map]
          exact ih h.2
      | @painted code text hcode htext =>
          have hstyles : (Piece.painted code text).marks.filterMap Mark.style? =
              [code.toList, ['0']] := by
            show code.toList :: (text.toList.map Mark.shown ++ [Mark.style ['0']]).filterMap
              Mark.style? = _
            rw [List.filterMap_append, filterMap_style?_map]
            rfl
          rw [hstyles]
          exact .painted hcode.not_reset (ih h.2)

theorem lacks_renderPieces : Lacks escape (renderPieces false pieces) := by
  rw [renderPieces, lacks_join, List.forall_mem_map]
  intro p hp
  cases h p hp with
  | plain htext => exact htext
  | painted hcode htext => exact htext

end

/-! ## The report for the console -/

theorem isControl_escape : IsControl escape := by decide

theorem lacks_unlines {lines : List String} (h : ∀ s ∈ lines, Lacks escape s) :
    Lacks escape (unlines lines) := by
  rw [unlines, lacks_join, List.forall_mem_map]
  intro s hs
  have hfeed : Lacks escape "\n" := lacks_ofList (by decide)
  exact lacks_append.2 ⟨h s hs, hfeed⟩

theorem lacks_replicate {c : Char} (hc : escape ≠ c) (n : Nat) :
    Lacks escape (String.ofList (List.replicate n c)) :=
  lacks_ofList fun hmem => hc (List.eq_of_mem_replicate hmem)

theorem lacks_padStart {s : String} (h : Lacks escape s) (width : Nat) :
    Lacks escape (padStart width s) :=
  lacks_append.2 ⟨lacks_replicate (by decide) _, h⟩

theorem lacks_padEnd {s : String} (h : Lacks escape s) (width : Nat) :
    Lacks escape (padEnd width s) :=
  lacks_append.2 ⟨h, lacks_replicate (by decide) _⟩

set_option maxRecDepth 2048 in
theorem lacks_banner : Lacks escape banner :=
  lacks_append.2 ⟨lacks_append.2 ⟨lacks_ofList (by decide), lacks_ofList (by decide)⟩,
    lacks_ofList (by decide)⟩

variable {t : Tally}

theorem lacks_consoleStatistics : ∀ s ∈ consoleStatistics t, Lacks escape s := by
  have hx := isControl_escape
  simp only [consoleStatistics, List.forall_mem_cons, lacks_append, hx.lacks_count, hx.lacks_nat,
    hx.lacks_percentText, List.not_mem_nil, false_implies, implies_true, and_true]
  and_intros <;> exact hx.lacks (by decide)

theorem lacks_categoryRow {c : Category} (hc : c ∈ Category.all) :
    ∀ s ∈ categoryRow t c, Lacks escape s := by
  have hx := isControl_escape
  obtain ⟨hglyph, hname, hdescription⟩ := hx.lacks_category c hc
  unfold categoryRow
  dsimp only
  split
  · exact fun s hs => absurd hs List.not_mem_nil
  · simp only [List.forall_mem_singleton, lacks_append, hglyph, hdescription,
      lacks_padEnd hname, lacks_padStart (hx.lacks_count _), lacks_padStart (hx.lacks_tenthsText _),
      and_true]
    and_intros <;> exact hx.lacks (by decide)

theorem lacks_fileRows (h : ∀ f ∈ t.files, Lacks escape f.path) :
    ∀ s ∈ fileRows t, Lacks escape s := by
  have hx := isControl_escape
  unfold fileRows
  rw [List.forall_mem_map]
  intro f hf
  have hmem : f ∈ t.files := (List.mem_filter.1 (List.mem_mergeSort.1 hf)).1
  simp only [lacks_append, h f hmem, lacks_padStart (hx.lacks_count _), and_true]
  and_intros <;> exact hx.lacks (by decide)

theorem isStyle_ofList (cs : List Char) (hne : cs ≠ []) (hdigits : cs.all Char.isDigit = true)
    (hreset : cs ≠ ['0']) : IsStyle (String.ofList cs) where
  nonempty := by simpa using hne
  decimal := by simpa using hdigits
  not_reset := by simpa using hreset

/-- Two digits of a color are a style. -/
theorem isStyle_two {a b : Char} (ha : a.isDigit = true) (hb : b.isDigit = true) :
    IsStyle (String.ofList [a, b]) :=
  isStyle_ofList [a, b] (by simp) (by simp [ha, hb]) (by simp)

theorem plain_clean {text : String} (h : Lacks escape text) :
    ∀ p ∈ [Piece.plain text], p.IsClean :=
  List.forall_mem_singleton.2 (.plain h)

theorem heading_clean {title : String} (h : Lacks escape title) :
    ∀ p ∈ heading title, p.IsClean := by
  have hbold : IsStyle "1" := isStyle_ofList ['1'] (by simp) rfl (by simp)
  have hfeed : Lacks escape "\n" := lacks_ofList (by decide)
  simp only [heading, List.forall_mem_cons, List.not_mem_nil, false_implies, implies_true, and_true]
  refine ⟨.plain hfeed, .painted hbold h, .plain ?_⟩
  simp only [lacks_append, hfeed, true_and, and_true]
  exact lacks_replicate (by decide) _

theorem signedSection_clean {title code sign : String} {messages : List String}
    (htitle : Lacks escape title) (hcode : IsStyle code) (hsign : Lacks escape sign)
    (h : ∀ m ∈ messages, Lacks escape m) :
    ∀ p ∈ signedSection title code sign messages, p.IsClean := by
  have hfeed : Lacks escape "\n" := lacks_ofList (by decide)
  have hspace : Lacks escape " " := lacks_ofList (by decide)
  have hindent : Lacks escape "  " := lacks_ofList (by decide)
  unfold signedSection
  split
  · exact fun p hp => absurd hp List.not_mem_nil
  · rw [List.forall_mem_append, List.forall_mem_flatMap]
    refine ⟨heading_clean htitle, fun m hm => ?_⟩
    have hmessage : Lacks escape (" " ++ m ++ "\n") :=
      lacks_append.2 ⟨lacks_append.2 ⟨hspace, h m hm⟩, hfeed⟩
    simp only [List.forall_mem_cons, List.not_mem_nil, false_implies, implies_true, and_true]
    exact ⟨.plain hindent, .painted hcode hsign, .plain hmessage⟩

theorem uncategorizedSection_clean
    (h : ∀ f ∈ t.uncategorizedFunctions, ∀ s ∈ f.quotedTexts, Lacks escape s) :
    ∀ p ∈ uncategorizedSection t, p.IsClean := by
  have hx := isControl_escape
  have hrows : ∀ f ∈ t.uncategorizedFunctions,
      Lacks escape ("  - " ++ f.qualifiedName ++ " (" ++ f.place ++ ")") := by
    intro f hf
    obtain ⟨hname, hplace⟩ := hx.lacks_function_iff.2 (h f hf)
    simp only [lacks_append, hname, hplace, and_true]
    and_intros <;> exact hx.lacks (by decide)
  unfold uncategorizedSection
  split
  · exact fun p hp => absurd hp List.not_mem_nil
  · rw [List.forall_mem_append, List.forall_mem_singleton]
    exact ⟨heading_clean (hx.lacks (by decide)),
      .plain (lacks_unlines (List.forall_mem_map.2 hrows))⟩

/-- The report is put together from clean pieces if what it quotes has no escape character. -/
theorem consolePieces_clean (hfiles : ∀ f ∈ t.files, Lacks escape f.path)
    (hquoted : ∀ s ∈ t.quotedTexts, Lacks escape s) (threshold : Nat) :
    ∀ p ∈ consolePieces t threshold, p.IsClean := by
  have hx := isControl_escape
  rw [Tally.quotedTexts, List.forall_mem_append, List.forall_mem_flatMap,
    List.forall_mem_flatMap] at hquoted
  obtain ⟨hwarnings, hfunctions⟩ := hquoted
  have hissues : ∀ m ∈ t.issues.map Issue.message, Lacks escape m :=
    List.forall_mem_map.2 fun issue _ => hx.lacks_issue issue
  have hmessages : ∀ m ∈ t.warnings.map Warning.message, Lacks escape m :=
    List.forall_mem_map.2 fun w hw => hx.lacks_message_iff.2 (hwarnings w hw)
  have hsource : Lacks escape ("Tests by Category (" ++ t.countSource.name ++ " counts)") := by
    simp only [lacks_append, hx.lacks_countSource, and_true]
    and_intros <;> exact hx.lacks (by decide)
  have hverdict : ∀ v : Verdict, IsStyle (verdictCode v) ∧ Lacks escape v.label := by
    intro v
    cases v with
    | excellent => exact ⟨isStyle_two rfl rfl, hx.lacks (by decide)⟩
    | good => exact ⟨isStyle_two rfl rfl, hx.lacks (by decide)⟩
    | needsImprovement => exact ⟨isStyle_two rfl rfl, hx.lacks (by decide)⟩
  have hcategories : ∀ s ∈ Category.all.flatMap (categoryRow t), Lacks escape s :=
    List.forall_mem_flatMap.2 fun c hc => lacks_categoryRow hc
  have hred : IsStyle "31" := isStyle_two rfl rfl
  have hyellow : IsStyle "33" := isStyle_two rfl rfl
  simp only [consolePieces, List.forall_mem_append]
  and_intros
  · exact plain_clean lacks_banner
  · exact heading_clean (hx.lacks (by decide))
  · exact plain_clean (lacks_unlines lacks_consoleStatistics)
  · exact heading_clean hsource
  · exact plain_clean (lacks_unlines hcategories)
  · exact heading_clean (hx.lacks (by decide))
  · exact plain_clean (lacks_unlines (lacks_fileRows hfiles))
  · exact signedSection_clean (hx.lacks (by decide)) hred (hx.lacks (by decide)) hissues
  · exact signedSection_clean (hx.lacks (by decide)) hyellow (hx.lacks (by decide)) hmessages
  · exact uncategorizedSection_clean hfunctions
  · have hstart : Lacks escape "\nVerdict: " := lacks_ofList (by decide)
    have hfeed : Lacks escape "\n" := lacks_ofList (by decide)
    obtain ⟨hcolor, hlabel⟩ := hverdict (t.verdict threshold)
    rw [List.forall_mem_cons, List.forall_mem_cons, List.forall_mem_singleton]
    exact ⟨.plain hstart, .painted hcolor hlabel, .plain hfeed⟩

theorem mem_texts_of_file {file : TestFile} (hfile : file ∈ t.files) {s : String}
    (hs : s ∈ file.texts) : s ∈ t.texts :=
  List.mem_append_left _ (List.mem_append_left _ (List.mem_flatMap.2 ⟨file, hfile, hs⟩))

/-- What the reports quote are texts of the tally. -/
theorem quotedTexts_subset (t : Tally) : t.quotedTexts ⊆ t.texts := by
  have hmismatch : t.mismatch.flatMap Warning.quotedTexts = [] := by
    unfold Tally.mismatch
    repeat' split
    all_goals rfl
  have hfunction : ∀ f ∈ t.functions, ∀ s ∈ f.quotedTexts, s ∈ t.texts := by
    intro f hf s hs
    obtain ⟨file, hfile, hf⟩ := List.mem_flatMap.1 hf
    have htext : s ∈ f.texts := List.mem_append_left _ (List.mem_append_left _ hs)
    have hrecorded : s ∈ file.texts := .tail _ (List.mem_flatMap.2 ⟨f, hf, htext⟩)
    exact mem_texts_of_file hfile hrecorded
  intro s hs
  rw [Tally.quotedTexts, Tally.warnings, List.flatMap_append, hmismatch, List.append_nil] at hs
  rcases List.mem_append.1 hs with hwarning | hbullet
  · exact List.mem_append_left _ (List.mem_append_right _ hwarning)
  · obtain ⟨f, hf, htext⟩ := List.mem_flatMap.1 hbullet
    rw [Tally.uncategorizedFunctions_eq] at hf
    exact hfunction f (List.mem_filter.1 hf).1 s htext

/-- The colors of the report for the console are decoration, if no text of the tally has an
escape character.

* Without its sequences, the report in colors is the report without colors.
* The latter has no escape character.
* In the former, every style is reset once before the next one begins. -/
theorem console_decorated (t : Tally) (threshold : Nat)
    (h : ∀ s ∈ t.texts, escape ∉ s.toList) :
    withoutStyles (console t threshold true) = console t threshold false ∧
      escape ∉ (console t threshold false).toList ∧
      InTurn (styles (console t threshold true)) := by
  have hfiles : ∀ f ∈ t.files, Lacks escape f.path := by
    intro f hf
    exact h f.path (mem_texts_of_file hf (.head _))
  have hquoted : ∀ s ∈ t.quotedTexts, Lacks escape s := by
    intro s hs
    exact h s (quotedTexts_subset t hs)
  have hclean := consolePieces_clean hfiles hquoted threshold
  exact ⟨withoutStyles_renderPieces hclean, lacks_renderPieces hclean, inTurn_styles hclean⟩

/-- A suite with a function without markers, a warning and answers of a collector. -/
def shadedSuite : Tally :=
  { files := [⟨"tests/test_a.py",
      [⟨"test_a", none, "tests/test_a.py", 1, MarkerSet.ofList ["unit"], false, some "Adds.",
          Count.ofNat 2⟩,
        ⟨"test_b", some "TestB", "tests/test_a.py", 7, MarkerSet.ofList [], true, none,
          Count.ofNat 1⟩]⟩]
    collected := some ⟨[("unit", Count.ofNat 2)], some (Count.ofNat 2)⟩
    recorded := [.collectFailure (some "slow") "collection timed out after 3s"] }

theorem console_decorated_shaded :
    (∀ s ∈ shadedSuite.texts, escape ∉ s.toList) ∧
      withoutStyles (console shadedSuite 0 true) = console shadedSuite 0 false ∧
      escape ∉ (console shadedSuite 0 false).toList ∧
      InTurn (styles (console shadedSuite 0 true)) := by
  have htexts : ∀ s ∈ shadedSuite.texts, escape ∉ s.toList := by decide +kernel
  exact ⟨htexts, console_decorated shadedSuite 0 htexts⟩

end Report

end TestCensus
