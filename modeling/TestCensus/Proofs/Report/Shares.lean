import TestCensus.Proofs.Number.Tenths
import TestCensus.Proofs.Report.Markdown
import TestCensus.Proofs.Tally.Percentage
import TestCensus.Report.Format

/-!
# The share in the reports

Every report shows the share of the categorized instances with one decimal place.  The
reports for people round the share itself; the report for programs rounds its tenfold, which
has been rounded before.

*Reading.*  `share?` finds the share in a report as a reader would: behind its label in a
text, and as a member of the summary in JSON.  A share is read as a number of tenths, so
that equal shares are equal decimal numbers.

*Agreement.*  The reports agree exactly if the share is not halfway between two tenths
(`Binary64.IsHalfway`).  In counts, the exact share has to be halfway, and the number of 53
bits nearest to it as well (`isHalfway_percentage_iff`).
-/

namespace TestCensus

open TestCensus.Text

/-! ## Halfway shares -/

namespace Number

open Binary64

variable {part whole : Nat}

/-- The share of counts that are not too large rounds the exact share. -/
theorem rounds_share (hle : part ≤ whole) (hpos : 0 < whole) (hsmall : whole < 2 ^ 41) :
    Rounds (part * 100 / whole) (percentage part whole) := by
  have h := rounds_percentage part hpos
  rwa [value_hundredfold (by omega), value_ofNat (by omega)] at h

/-- Rounding moves the tenfold of a share by less than it takes to get halfway. -/
theorem eq_of_isHalfway (hle : part ≤ whole) (hpos : 0 < whole) (hsmall : whole < 2 ^ 41)
    (h : (percentage part whole).IsHalfway) :
    2000 * part = (2 * (percentage part whole).tenths + 1) * whole := by
  have hwhole : (0 : ℚ) < whole := by exact_mod_cast hpos
  have hwhole' : (whole : ℚ) < 2 ^ 41 := by exact_mod_cast hsmall
  have hpart : (part : ℚ) ≤ whole := by exact_mod_cast hle
  have hshare : (part * 100 / whole : ℚ) ≤ 100 := by
    rw [div_le_iff₀ hwhole]
    linarith
  have hexact : (part * 100 / whole : ℚ) * whole = part * 100 :=
    div_mul_cancel₀ _ hwhole.ne'
  obtain ⟨hlower, hupper⟩ := abs_le.1 (rounds_share hle hpos hsmall).error
  obtain ⟨htenLower, htenUpper⟩ := abs_le.1 (percentage part whole).rounds_tenfold.error
  rw [h] at htenLower htenUpper
  -- Both errors together are below `2 ^ -42`, and twice the whole is at most `2 ^ 42`.
  have hnear : |((percentage part whole).tenths + 1 / 2 : ℚ) - part * 100 / whole * 10| <
      1 / 2 ^ 42 := by
    rw [abs_lt]
    constructor
    · linarith
    · linarith
  obtain ⟨hnearLower, hnearUpper⟩ := abs_lt.1 hnear
  have hbelow : (2000 * part : ℚ) < (2 * (percentage part whole).tenths + 1) * whole + 1 := by
    nlinarith
  have habove : ((2 * (percentage part whole).tenths + 1) * whole : ℚ) < 2000 * part + 1 := by
    nlinarith
  have hbelow' : 2000 * part < (2 * (percentage part whole).tenths + 1) * whole + 1 := by
    exact_mod_cast hbelow
  have habove' : (2 * (percentage part whole).tenths + 1) * whole < 2000 * part + 1 := by
    exact_mod_cast habove
  omega

/-- A share is halfway exactly if the exact share is, and if the number nearest to that
half is. -/
theorem isHalfway_percentage_iff (hle : part ≤ whole) (hpos : 0 < whole)
    (hsmall : whole < 2 ^ 41) : (percentage part whole).IsHalfway ↔
      ∃ k, 2000 * part = (2 * k + 1) * whole ∧ (ofRatio (2 * k + 1) 20).IsHalfway := by
  have hsame : ∀ k, 2000 * part = (2 * k + 1) * whole →
      ((percentage part whole).IsHalfway ↔ (ofRatio (2 * k + 1) 20).IsHalfway) := by
    intro k hk
    have hwhole : (whole : ℚ) ≠ 0 := by exact_mod_cast hpos.ne'
    have hratio : (part * 100 / whole : ℚ) = ((2 * k + 1 : ℕ) : ℚ) / (20 : ℕ) := by
      rw [div_eq_div_iff hwhole (by norm_num)]
      have hk' : (2000 * part : ℚ) = (2 * k + 1) * whole := by exact_mod_cast hk
      push_cast
      linarith
    have hshare := rounds_share hle hpos hsmall
    rw [hratio] at hshare
    exact isHalfway_congr (hshare.unique (rounds_ofRatio (2 * k + 1) (by norm_num)))
  constructor
  · intro h
    have hexact := eq_of_isHalfway hle hpos hsmall h
    exact ⟨_, hexact, (hsame _ hexact).1 h⟩
  · rintro ⟨k, hk, h⟩
    exact (hsame k hk).2 h

/-- The tenths of a share are few. -/
theorem tenths_percentage_lt (hle : part ≤ whole) : (percentage part whole).tenths < 2 ^ 52 := by
  have hnearly := (shareBounds hle).nearly
  have htenths := (percentage part whole).isNearest_tenths.lower
  have hlt : ((percentage part whole).tenths : ℚ) < 2 ^ 52 := by linarith
  exact_mod_cast hlt

end Number

namespace Report

open TestCensus.Json TestCensus.Number

/-! ## Reading the share -/

/-- The share in percent at the end of a line, in tenths. -/
def lineShare? (line : String) : Option Nat :=
  (splitAtLast '(' line.toList).bind fun parts =>
    (Json.read (parts.2.takeWhile (· != '%'))).bind Datum.tenths?

/-- The share on the first line with a label. -/
def labelledShare? (label report : String) : Option Nat :=
  (linesFrom label report).head?.bind lineShare?

/-- The share that a report in a format shows, in tenths. -/
def share? : Format → String → Option Nat
  | .console, report => labelledShare? "  Categorized: " report
  | .json, report => (Json.read report.toList).bind fun d =>
      (Contents.ofDatum? d).map (·.summary.percentage)
  | .markdown, report => labelledShare? "- **Categorized:** " report

theorem read_tenthsText (n : Nat) :
    Json.read (tenthsText n).toList = some (Value.tenths n).datum := by
  have h := read_render (.tenths n)
  rwa [Value.render, String.toList_ofList, written] at h

/-- A number of tenths is written with digits and a point. -/
theorem not_mem_tenthsText {c : Char} (hdigit : c.isDigit = false) (hpoint : c ≠ '.') (n : Nat) :
    c ∉ (tenthsText n).toList := by
  have hdigits : ∀ m : Nat, c ∉ (toString m).toList := fun m h =>
    ne_of_isDigit ((isNumeral_toString m).decimal _ h) hdigit rfl
  rw [← List.append_nil (tenthsText n).toList, tenthsText_append]
  simp only [List.mem_append, List.mem_cons, List.append_nil, hdigits, hpoint, or_self,
    not_false_eq_true]

/-- The share in brackets at the end of a line is read. -/
theorem lineShare?_append (start : String) (x : Binary64) :
    lineShare? (start ++ " (" ++ percentText x ++ ")") = some x.tenths := by
  have hopen : '(' ∉ (tenthsText x.tenths).toList ++ ['%', ')'] := by
    simp [not_mem_tenthsText]
  have hpercent : '%' ∉ (tenthsText x.tenths).toList := not_mem_tenthsText rfl (by decide) _
  have hline : (start ++ " (" ++ percentText x ++ ")").toList =
      (start.toList ++ [' ']) ++ '(' :: ((tenthsText x.tenths).toList ++ ['%', ')']) := by
    simp [percentText]
  have htake : ((tenthsText x.tenths).toList ++ ['%', ')']).takeWhile (· != '%') =
      (tenthsText x.tenths).toList := by
    rw [List.takeWhile_append_of_pos]
    · simp
    · intro c hc
      simpa using fun h : c = '%' => hpercent (h ▸ hc)
  rw [lineShare?, hline, splitAtLast_append hopen, Option.bind_some, htake, read_tenthsText]
  rfl

/-- Behind lines without the label, the share on a line with it is the one that is read. -/
theorem labelledShare?_eq {label report rest : String} {before after : List String}
    (count : Count) (x : Binary64) (hlabel : IsLine label)
    (hbefore : ∀ s ∈ before, IsLine s ∧ hasStart s label = false)
    (hreport : report = unlines (before ++
      (label ++ toString count ++ " (" ++ percentText x ++ ")") :: after) ++ rest) :
    labelledShare? label report = some x.tenths := by
  have hline : IsLine (label ++ toString count ++ " (" ++ percentText x ++ ")") := by
    simp only [isLine_append, hlabel, isLine_count, isLine_percentText, true_and, and_true]
    exact ⟨isLine_ofList (by decide), isLine_ofList (by decide)⟩
  have hstart : hasStart (label ++ toString count ++ " (" ++ percentText x ++ ")") label = true :=
    hasStart_append (hasStart_append (hasStart_append (hasStart_self _ _)))
  have hnone : before.filter (hasStart · label) = [] :=
    List.filter_eq_nil_iff.2 fun s hs => by simp [(hbefore s hs).2]
  rw [labelledShare?, linesFrom, hreport, textLines_unlines_append, List.flatMap_append,
    flatMap_textLines fun s hs => (hbefore s hs).1, List.flatMap_cons, textLines_of_isLine hline,
    List.append_assoc, List.filter_append, hnone, List.nil_append, List.append_assoc,
    List.singleton_append, List.filter_cons, if_pos hstart]
  exact lineShare?_append _ x

/-! ## The top of the report for the console -/

theorem unlines_append (above below : List String) :
    unlines (above ++ below) = unlines above ++ unlines below := by
  rw [unlines, List.map_append, String.join_append]
  rfl

theorem renderPieces_append (color : Bool) (above below : List Piece) :
    renderPieces color (above ++ below) = renderPieces color above ++ renderPieces color below := by
  rw [renderPieces, List.map_append, String.join_append]
  rfl

theorem renderPieces_plain (color : Bool) (text : String) :
    renderPieces color [.plain text] = text := by
  simp [renderPieces, Piece.render]

/-- The lines of the banner. -/
def bannerLines : List String :=
  [ "╔══════════════════════════════════════════╗",
    "║          Test Suite Marker Audit         ║",
    "╚══════════════════════════════════════════╝" ]

/-- The lines of a heading. -/
def headingLines (color : Bool) (title : String) : List String :=
  [ "", (Piece.painted "1" title).render color,
    String.ofList (List.replicate title.length '─') ]

/-- The lines above the numbers of the suite. -/
def consoleTop (color : Bool) : List String :=
  bannerLines ++ headingLines color "Overall Statistics"

theorem unlines_bannerLines : unlines bannerLines = banner := by decide +kernel

theorem unlines_headingLines (color : Bool) (title : String) :
    unlines (headingLines color title) = renderPieces color (heading title) := by
  simp [renderPieces, heading, headingLines, unlines, String.join_cons, Piece.render,
    String.append_assoc]

/-- The report for the console begins with lines. -/
theorem console_eq (t : Tally) (threshold : Nat) (color : Bool) : ∃ rest,
    console t threshold color = unlines (consoleTop color ++ consoleStatistics t) ++ rest := by
  obtain ⟨rest, hrest⟩ : ∃ rest, consolePieces t threshold =
      [.plain banner] ++ heading "Overall Statistics" ++
        [.plain (unlines (consoleStatistics t))] ++ rest := by
    simp only [consolePieces, List.append_assoc]
    exact ⟨_, rfl⟩
  refine ⟨renderPieces color rest, ?_⟩
  rw [console, hrest, renderPieces_append, renderPieces_append, renderPieces_append,
    renderPieces_plain, renderPieces_plain, consoleTop, unlines_append, unlines_append,
    unlines_bannerLines, unlines_headingLines]

set_option maxRecDepth 2048 in
theorem bannerLines_plain : ∀ s ∈ bannerLines, IsLine s ∧ hasStart s "  Categorized: " = false := by
  rw [bannerLines, List.forall_mem_cons, List.forall_mem_cons, List.forall_mem_singleton]
  exact ⟨⟨isLine_ofList (by decide), hasStart_ofList _ _⟩,
    ⟨isLine_ofList (by decide), hasStart_ofList _ _⟩,
    ⟨isLine_ofList (by decide), hasStart_ofList _ _⟩⟩

/-- The title may be painted, and the sequence before it starts with no space. -/
theorem headingLines_plain (color : Bool) : ∀ s ∈ headingLines color "Overall Statistics",
    IsLine s ∧ hasStart s "  Categorized: " = false := by
  have htitle : IsLine ((Piece.painted "1" "Overall Statistics").render color) ∧
      hasStart ((Piece.painted "1" "Overall Statistics").render color) "  Categorized: " =
        false := by
    cases color with
    | false => exact ⟨isLine_ofList (by decide), hasStart_ofList _ _⟩
    | true =>
        have hstyle : Apart "\x1b[" "  Categorized: " := apart_ofList rfl rfl
        constructor
        · simp only [Piece.render, styleStart, styleEnd, if_true, isLine_append]
          and_intros <;> exact isLine_ofList (by decide)
        · exact hstyle.hasStart_eq_false
            (hasStart_append (hasStart_append (hasStart_append (hasStart_self _ _))))
  have hrule : ∀ n, IsLine (String.ofList (List.replicate n '─')) ∧
      hasStart (String.ofList (List.replicate n '─')) "  Categorized: " = false := by
    intro n
    refine ⟨isLine_ofList fun h => absurd (List.eq_of_mem_replicate h) (by decide), ?_⟩
    cases n with
    | zero => exact hasStart_ofList [] _
    | succ n => exact hasStart_ofList ('─' :: List.replicate n '─') _
  rw [headingLines, List.forall_mem_cons, List.forall_mem_cons, List.forall_mem_singleton]
  exact ⟨⟨isLine_ofList (by decide), hasStart_ofList _ _⟩, htitle, hrule _⟩

/-- No line above the numbers starts like one of them. -/
theorem consoleTop_plain (color : Bool) : ∀ s ∈ consoleTop color,
    IsLine s ∧ hasStart s "  Categorized: " = false :=
  List.forall_mem_append.2 ⟨bannerLines_plain, headingLines_plain color⟩

/-! ## The share in each format -/

/-- Two counts behind other labels are lines without the label. -/
theorem plain_counts {label first second : String} (hfirst : IsLine first ∧ Apart first label)
    (hsecond : IsLine second ∧ Apart second label) (m n : Nat) :
    ∀ s ∈ [first ++ toString m, second ++ toString n], IsLine s ∧ hasStart s label = false := by
  have hplain : ∀ other, IsLine other ∧ Apart other label → ∀ k : Nat,
      IsLine (other ++ toString k) ∧ hasStart (other ++ toString k) label = false :=
    fun other h k => ⟨isLine_append.2 ⟨h.1, isLine_toString k⟩,
      h.2.hasStart_eq_false (hasStart_self _ _)⟩
  rw [List.forall_mem_cons, List.forall_mem_singleton]
  exact ⟨hplain first hfirst m, hplain second hsecond n⟩

variable (t : Tally)

theorem share?_console (threshold : Nat) (color : Bool) :
    share? .console (console t threshold color) = some t.percentage.tenths := by
  have htests : IsLine "  Total tests: " ∧ Apart "  Total tests: " "  Categorized: " :=
    ⟨isLine_ofList (by decide), apart_ofList rfl rfl⟩
  have hfiles : IsLine "  Total files: " ∧ Apart "  Total files: " "  Categorized: " :=
    ⟨isLine_ofList (by decide), apart_ofList rfl rfl⟩
  have hnumbers := plain_counts htests hfiles t.total.val t.files.length
  obtain ⟨after, hafter⟩ : ∃ after, consoleStatistics t =
      ["  Total tests: " ++ toString t.total.val, "  Total files: " ++ toString t.files.length] ++
        ("  Categorized: " ++ toString t.categorized ++ " (" ++ percentText t.percentage ++ ")") ::
          after := ⟨_, rfl⟩
  obtain ⟨rest, hrest⟩ := console_eq t threshold color
  rw [hafter, ← List.append_assoc] at hrest
  exact labelledShare?_eq t.categorized t.percentage (isLine_ofList (by decide))
    (List.forall_mem_append.2 ⟨consoleTop_plain color, hnumbers⟩) hrest

theorem share?_markdown : share? .markdown (markdown t) = some t.percentage.tenths := by
  have htop : ∀ s ∈ ["# Test Suite Marker Audit", "", "## Overall Statistics", ""],
      IsLine s ∧ hasStart s "- **Categorized:** " = false := by decide +kernel
  have htests : IsLine "- **Total tests:** " ∧ Apart "- **Total tests:** " "- **Categorized:** " :=
    ⟨isLine_ofList (by decide), apart_ofList rfl rfl⟩
  have hfiles : IsLine "- **Total files:** " ∧ Apart "- **Total files:** " "- **Categorized:** " :=
    ⟨isLine_ofList (by decide), apart_ofList rfl rfl⟩
  have hnumbers := plain_counts htests hfiles t.total.val t.files.length
  obtain ⟨after, hafter⟩ : ∃ after, markdownLines t =
      ["# Test Suite Marker Audit", "", "## Overall Statistics", ""] ++
        ["- **Total tests:** " ++ toString t.total.val,
          "- **Total files:** " ++ toString t.files.length] ++
        ("- **Categorized:** " ++ toString t.categorized ++ " (" ++ percentText t.percentage ++
          ")") :: after := ⟨_, rfl⟩
  have hreport : markdown t = unlines (markdownLines t) ++ "" := String.append_empty.symm
  rw [hafter] at hreport
  exact labelledShare?_eq t.categorized t.percentage (isLine_ofList (by decide))
    (List.forall_mem_append.2 ⟨htop, hnumbers⟩) hreport

theorem share?_json : share? .json (json t) = some t.percentage.roundedTenths := by
  rw [share?, json, read_render, Option.bind_some, ofDatum?_jsonValue]
  rfl

/-! ## Agreement -/

/-- The shares that are found in the reports of a tally. -/
structure SharesShown (found : Format → Option Nat) : Prop where
  /-- The reports for people show the share rounded exactly. -/
  texts : found .console = some t.percentage.tenths ∧ found .markdown = some t.percentage.tenths
  /-- The report for programs shows a tenth more if the share is halfway, and the same
  otherwise. -/
  programs : (t.percentage.IsHalfway ∧ found .json = some (t.percentage.tenths + 1)) ∨
    (¬t.percentage.IsHalfway ∧ found .json = some t.percentage.tenths)
  /-- All reports show the same share exactly if it is not halfway. -/
  agree_iff : (∀ format format', found format = found format') ↔ ¬t.percentage.IsHalfway
  /-- A share of less than `2 ^ 41` instances is halfway exactly if the exact share is, and the
  number nearest to that half. -/
  halfway_iff : 0 < t.total.val → t.total.val < 2 ^ 41 → (t.percentage.IsHalfway ↔
    ∃ k, 2000 * t.categorized.val = (2 * k + 1) * t.total.val ∧
      (Binary64.ofRatio (2 * k + 1) 20).IsHalfway)

/-- Every report shows a share, and the shares agree exactly if the share is not halfway
between two tenths. -/
theorem shares_agree_iff (threshold : Nat) (color : Bool) :
    SharesShown t fun format => share? format (render format threshold color t) := by
  have hconsole := share?_console t threshold color
  have hmarkdown := share?_markdown t
  have hjson := share?_json t
  have hsmall : t.percentage.tenths < 2 ^ 52 := tenths_percentage_lt t.categorized_le_total
  constructor
  case texts => exact ⟨hconsole, hmarkdown⟩
  case programs =>
    by_cases h : t.percentage.IsHalfway
    · exact Or.inl ⟨h, hjson.trans (congrArg some (Binary64.roundedTenths_of_isHalfway h))⟩
    · exact Or.inr ⟨h, hjson.trans (congrArg some
        (Binary64.roundedTenths_of_not_isHalfway hsmall h))⟩
  case agree_iff =>
    rw [← Binary64.roundedTenths_eq_tenths_iff hsmall]
    constructor
    · intro h
      exact Option.some.inj (hjson.symm.trans ((h .json .console).trans hconsole))
    · intro h
      have hall : ∀ format, share? format (render format threshold color t) =
          some t.percentage.tenths := by
        intro format
        cases format with
        | console => exact hconsole
        | json => exact hjson.trans (congrArg some h)
        | markdown => exact hmarkdown
      intro format format'
      exact (hall format).trans (hall format').symm
  case halfway_iff =>
    intro hpos hlt
    exact isHalfway_percentage_iff t.categorized_le_total hpos hlt

/-- A suite in which one of sixteen instances is categorized. -/
def sixteenth : Tally :=
  { files := [⟨"test_a.py",
      [⟨"test_a", none, "test_a.py", 1, MarkerSet.ofList ["unit"], false, none, Count.ofNat 1⟩,
        ⟨"test_b", none, "test_a.py", 2, MarkerSet.ofList [], false, none, Count.ofNat 15⟩]⟩]
    collected := none
    recorded := [] }

/-- The share of 6.25 percent is shown as 6.2 percent in texts and as 6.3 percent in JSON. -/
theorem sixteenth_shares :
    share? .console (console sixteenth standardThreshold false) = some 62 ∧
      share? .markdown (markdown sixteenth) = some 62 ∧
      share? .json (json sixteenth) = some 63 := by
  have htenths : sixteenth.percentage.tenths = 62 := by decide +kernel
  have hrounded : sixteenth.percentage.roundedTenths = 63 := by decide +kernel
  rw [share?_console, share?_markdown, share?_json, htenths, hrounded]
  exact ⟨rfl, rfl, rfl⟩

end Report

end TestCensus
