import TestCensus.Tally

/-!
# The report in Markdown

A title, the numbers of the whole suite, one section per category that has a
count, and sections for issues, warnings and functions without markers where
there are any.
-/

namespace TestCensus.Report

open TestCensus.Number

/-- Lines, each with its line end. -/
def unlines (lines : List String) : String := String.join (lines.map (· ++ "\n"))

/-- A share in percent, with one decimal place. -/
def percentText (x : Binary64) : String := tenthsText x.tenths ++ "%"

/-- The lines of the numbers of the whole suite. -/
def statisticsLines (t : Tally) : List String :=
  [ "- **Total tests:** " ++ toString t.total,
    "- **Total files:** " ++ toString t.files.length,
    "- **Categorized:** " ++ toString t.categorized ++ " (" ++ percentText t.percentage ++ ")",
    "- **Uncategorized:** " ++ toString t.uncategorized ++ " (" ++
      toString t.uncategorizedFunctions.length ++ " functions)",
    "- **Category counts from:** " ++ t.countSource.name ]

/-- The lines of a category, if it has a count. -/
def categoryLines (t : Tally) (c : Category) : List String :=
  let count := t.categoryCounts.countOf c.name
  if count = 0 then []
  else
    [ "",
      "### " ++ c.glyph ++ " " ++ c.name,
      "",
      "- **Count:** " ++ toString count ++ " (" ++
        percentText (Number.percentage count.val t.total.val) ++ ")",
      "- **Description:** " ++ c.description ]

/-- The lines of a section with a list, if the list is not empty. -/
def sectionLines (title : String) (bullets : List String) : List String :=
  if bullets.isEmpty then [] else ["", "## " ++ title, ""] ++ bullets.map ("- " ++ ·)

/-- The bullet of a function without markers. -/
def functionBullet (f : TestFunction) : String :=
  "`" ++ f.qualifiedName ++ "` in `" ++ f.place ++ "`"

/-- The report in Markdown, as texts that each get a line end. -/
def markdownLines (t : Tally) : List String :=
  ["# Test Suite Marker Audit", "", "## Overall Statistics", ""] ++ statisticsLines t ++
    ["", "## Test Categories"] ++ Category.all.flatMap (categoryLines t) ++
    sectionLines "Issues" (t.issues.map Issue.message) ++
    sectionLines "Warnings" (t.warnings.map Warning.message) ++
    sectionLines "Uncategorized Tests" (t.uncategorizedFunctions.map functionBullet)

/-- The report in Markdown. -/
def markdown (t : Tally) : String := unlines (markdownLines t)

end TestCensus.Report
