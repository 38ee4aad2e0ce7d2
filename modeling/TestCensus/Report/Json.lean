import TestCensus.Json.Printer
import TestCensus.Tally

/-!
# The report in JSON

The report for programs.  The members of every object stand in the order of their
names.  The share of the categorized instances is rounded to one decimal place.
-/

namespace TestCensus.Report

open TestCensus.Json

/-- A function of a file. -/
def functionValue (f : TestFunction) : Value :=
  .object
    [ ("async", .bool f.isAsync),
      ("class", .ofOption .text f.className),
      ("instance_count", .nat f.instances.val),
      ("line", .nat f.line),
      ("markers", .ofList .text f.markers.names),
      ("name", .text f.name) ]

/-- A file with its functions. -/
def fileValue (f : TestFile) : Value :=
  .object
    [ ("functions", .ofList functionValue f.functions),
      ("path", .text f.path),
      ("test_count", .nat f.total.val) ]

/-- A function without markers. -/
def uncategorizedValue (f : TestFunction) : Value :=
  .object
    [ ("file", .text f.file),
      ("line", .nat f.line),
      ("name", .text f.qualifiedName) ]

/-- The numbers of the whole suite. -/
def summaryValue (t : Tally) : Value :=
  .object
    [ ("categorization_percentage", .tenths t.percentage.roundedTenths),
      ("categorized", .nat t.categorized.val),
      ("category_count_source", .text t.countSource.name),
      ("total_files", .nat t.files.length),
      ("total_tests", .nat t.total.val),
      ("uncategorized", .nat t.uncategorized.val),
      ("uncategorized_functions", .nat t.uncategorizedFunctions.length) ]

/-- The report as a value. -/
def jsonValue (t : Tally) : Value :=
  .object
    [ ("categories", .object (t.categoryCounts.map fun e => (e.1, .nat e.2.val))),
      ("files", .ofList fileValue t.files),
      ("issues", .ofList (fun i => .text i.message) t.issues),
      ("summary", summaryValue t),
      ("uncategorized_tests", .ofList uncategorizedValue t.uncategorizedFunctions),
      ("warnings", .ofList (fun w => .text w.message) t.warnings) ]

/-- The report in JSON. -/
def json (t : Tally) : String := (jsonValue t).render

end TestCensus.Report
