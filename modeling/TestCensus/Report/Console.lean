import TestCensus.Report.Markdown
import TestCensus.Report.Styled

/-!
# The report for the console

A banner, the numbers of the whole suite, the categories that have a count, the
files by the number of their instances, and lists of issues, warnings and
functions without markers where there are any.  The verdict stands at the end.
Headings, the signs of issues and warnings and the verdict are painted.
-/

namespace TestCensus.Report

open TestCensus.Number

/-- A text filled up with spaces at its end. -/
def padEnd (width : Nat) (s : String) : String :=
  s ++ String.ofList (List.replicate (width - s.length) ' ')

/-- A text filled up with spaces at its start. -/
def padStart (width : Nat) (s : String) : String :=
  String.ofList (List.replicate (width - s.length) ' ') ++ s

/-- The banner. -/
def banner : String :=
  "╔══════════════════════════════════════════╗\n" ++
    "║          Test Suite Marker Audit         ║\n" ++
    "╚══════════════════════════════════════════╝\n"

/-- A heading with a rule of its width below it. -/
def heading (title : String) : List Piece :=
  [ .plain "\n", .painted "1" title,
    .plain ("\n" ++ String.ofList (List.replicate title.length '─') ++ "\n") ]

/-- The lines of the numbers of the whole suite. -/
def consoleStatistics (t : Tally) : List String :=
  [ "  Total tests: " ++ toString t.total,
    "  Total files: " ++ toString t.files.length,
    "  Categorized: " ++ toString t.categorized ++ " (" ++ percentText t.percentage ++ ")",
    "  Uncategorized: " ++ toString t.uncategorized ++ " (" ++
      toString t.uncategorizedFunctions.length ++ " functions)" ]

/-- The line of a category, if it has a count. -/
def categoryRow (t : Tally) (c : Category) : List String :=
  let count := t.categoryCounts.countOf c.name
  if count = 0 then []
  else
    [ "  " ++ c.glyph ++ " " ++ padEnd 12 c.name ++ " " ++ padStart 6 (toString count) ++
        " (" ++ padStart 5 (tenthsText (Number.percentage count.val t.total.val).tenths) ++
        "%)  " ++ c.description ]

/-- The order of files: by their totals, the larger first, and then by path. -/
def filePrecedes (a b : TestFile) : Bool :=
  b.total.val < a.total.val || (a.total = b.total && a.path ≤ b.path)

/-- The lines of the files that have instances. -/
def fileRows (t : Tally) : List String :=
  ((t.files.filter (0 < ·.total.val)).mergeSort filePrecedes).map fun f =>
    "  " ++ padStart 6 (toString f.total) ++ "  " ++ f.path

/-- A section of lines that start with a painted sign, if there are any. -/
def signedSection (title code sign : String) (messages : List String) : List Piece :=
  if messages.isEmpty then []
  else
    heading title ++
      messages.flatMap fun m => [.plain "  ", .painted code sign, .plain (" " ++ m ++ "\n")]

/-- The section of the functions without markers, if there are any. -/
def uncategorizedSection (t : Tally) : List Piece :=
  if t.uncategorizedFunctions.isEmpty then []
  else
    heading "Uncategorized Tests" ++
      [.plain (unlines (t.uncategorizedFunctions.map fun f =>
        "  - " ++ f.qualifiedName ++ " (" ++ f.place ++ ")"))]

/-- The code of the color of a verdict. -/
def verdictCode : Verdict → String
  | .excellent => "32"
  | .good => "33"
  | .needsImprovement => "31"

/-- The report for the console, as a styled text. -/
def consolePieces (t : Tally) (threshold : Nat) : List Piece :=
  [.plain banner] ++
    heading "Overall Statistics" ++ [.plain (unlines (consoleStatistics t))] ++
    heading ("Tests by Category (" ++ t.countSource.name ++ " counts)") ++
    [.plain (unlines (Category.all.flatMap (categoryRow t)))] ++
    heading "Tests by File" ++ [.plain (unlines (fileRows t))] ++
    signedSection "Issues" "31" "✗" (t.issues.map Issue.message) ++
    signedSection "Warnings" "33" "⚠" (t.warnings.map Warning.message) ++
    uncategorizedSection t ++
    [ .plain "\nVerdict: ",
      .painted (verdictCode (t.verdict threshold)) (t.verdict threshold).label,
      .plain "\n" ]

/-- The report for the console. -/
def console (t : Tally) (threshold : Nat) (color : Bool) : String :=
  renderPieces color (consolePieces t threshold)

end TestCensus.Report
