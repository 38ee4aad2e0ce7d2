import TestCensus.Json.Reader

/-!
# The contents of a report

`Contents.ofDatum?` gives what a program finds in a report in JSON.  Members are looked
up by their names, and members that are not known are passed over.  Numbers of tests are
natural numbers, and the percentage is a number of tenths.
-/

namespace TestCensus

namespace Json

/-- A text. -/
def Datum.text? : Datum → Option String
  | .text s => some s
  | _ => none

/-- A truth value. -/
def Datum.bool? : Datum → Option Bool
  | .bool b => some b
  | _ => none

/-- A natural number. -/
def Datum.natural? : Datum → Option Nat
  | .number false n (.ofNat e) => some (n * Nat.pow 10 e)
  | _ => none

/-- A number of tenths. -/
def Datum.tenths? : Datum → Option Nat
  | .number false n (-1) => some n
  | .number false n (.ofNat e) => some (n * Nat.pow 10 (e + 1))
  | _ => none

/-- A value of a kind, or `null`. -/
def Datum.optional? (kind : Datum → Option α) : Datum → Option (Option α)
  | .null => some none
  | d => (kind d).map some

/-- A list of values of a kind. -/
def Datum.list? (kind : Datum → Option α) : Datum → Option (List α)
  | .array items => items.mapM kind
  | _ => none

/-- Names with values of a kind. -/
def Datum.table? (kind : Datum → Option α) : Datum → Option (List (String × α))
  | .object members => members.mapM fun m => (kind m.2).map (m.1, ·)
  | _ => none

/-- The member of an object with a name. -/
def Datum.member? (name : String) : Datum → Option Datum
  | .object members => members.lookup name
  | _ => none

end Json

namespace Report

open TestCensus.Json

/-- A function of a file, as reported. -/
structure ReportedFunction where
  /-- The name of the function. -/
  name : String
  /-- The names of the classes around it. -/
  className : Option String
  /-- The names of its markers. -/
  markers : List String
  /-- The line on which it starts. -/
  line : Nat
  /-- The function is a coroutine. -/
  isAsync : Bool
  /-- The number of instances that it stands for. -/
  instances : Nat
deriving DecidableEq

/-- The name of the function behind the names of its classes. -/
def ReportedFunction.qualifiedName (f : ReportedFunction) : String :=
  match f.className with
  | some c => c ++ "::" ++ f.name
  | none => f.name

/-- A file, as reported. -/
structure ReportedFile where
  /-- The path of the file. -/
  path : String
  /-- The number of test instances in it. -/
  total : Nat
  /-- Its functions. -/
  functions : List ReportedFunction
deriving DecidableEq

/-- A function without markers, as reported. -/
structure ReportedGap where
  /-- The name of the function behind the names of its classes. -/
  name : String
  /-- The path of its file. -/
  file : String
  /-- The line on which it starts. -/
  line : Nat
deriving DecidableEq

/-- The numbers of the whole suite, as reported. -/
structure ReportedSummary where
  /-- The number of test instances. -/
  totalTests : Nat
  /-- The number of files. -/
  totalFiles : Nat
  /-- The number of test instances whose function has a marker. -/
  categorized : Nat
  /-- The number of test instances whose function has none. -/
  uncategorized : Nat
  /-- The number of functions without markers. -/
  uncategorizedFunctions : Nat
  /-- The share of the categorized instances, in tenths of a percent. -/
  percentage : Nat
  /-- Where the counts per category come from. -/
  countSource : String
deriving DecidableEq

/-- What a report says. -/
structure Contents where
  /-- The numbers of the whole suite. -/
  summary : ReportedSummary
  /-- The counts per category. -/
  categories : List (String × Nat)
  /-- The files with their functions. -/
  files : List ReportedFile
  /-- The texts of the issues. -/
  issues : List String
  /-- The texts of the warnings. -/
  warnings : List String
  /-- The functions without markers. -/
  gaps : List ReportedGap
deriving DecidableEq

/-- A function in a report. -/
def ReportedFunction.ofDatum? (d : Datum) : Option ReportedFunction := do
  return {
    name := ← (← d.member? "name").text?
    className := ← (← d.member? "class").optional? Datum.text?
    markers := ← (← d.member? "markers").list? Datum.text?
    line := ← (← d.member? "line").natural?
    isAsync := ← (← d.member? "async").bool?
    instances := ← (← d.member? "instance_count").natural? }

/-- A file in a report. -/
def ReportedFile.ofDatum? (d : Datum) : Option ReportedFile := do
  return {
    path := ← (← d.member? "path").text?
    total := ← (← d.member? "test_count").natural?
    functions := ← (← d.member? "functions").list? ReportedFunction.ofDatum? }

/-- A function without markers in a report. -/
def ReportedGap.ofDatum? (d : Datum) : Option ReportedGap := do
  return {
    name := ← (← d.member? "name").text?
    file := ← (← d.member? "file").text?
    line := ← (← d.member? "line").natural? }

/-- The numbers of the whole suite in a report. -/
def ReportedSummary.ofDatum? (d : Datum) : Option ReportedSummary := do
  return {
    totalTests := ← (← d.member? "total_tests").natural?
    totalFiles := ← (← d.member? "total_files").natural?
    categorized := ← (← d.member? "categorized").natural?
    uncategorized := ← (← d.member? "uncategorized").natural?
    uncategorizedFunctions := ← (← d.member? "uncategorized_functions").natural?
    percentage := ← (← d.member? "categorization_percentage").tenths?
    countSource := ← (← d.member? "category_count_source").text? }

namespace Contents

/-- The contents of a report. -/
def ofDatum? (d : Datum) : Option Contents := do
  return {
    summary := ← ReportedSummary.ofDatum? (← d.member? "summary")
    categories := ← (← d.member? "categories").table? Datum.natural?
    files := ← (← d.member? "files").list? ReportedFile.ofDatum?
    issues := ← (← d.member? "issues").list? Datum.text?
    warnings := ← (← d.member? "warnings").list? Datum.text?
    gaps := ← (← d.member? "uncategorized_tests").list? ReportedGap.ofDatum? }

end Contents

end Report

end TestCensus
