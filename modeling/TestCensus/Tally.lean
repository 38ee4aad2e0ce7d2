import TestCensus.Category
import TestCensus.CountTable
import TestCensus.Number.Binary64
import TestCensus.Suite

/-!
# Tallies

A tally is the result of a census.  It holds what was found: the files of the
suite, the answers of a collector if one was asked, and the warnings recorded on
the way.  Everything else that a report shows is a function of these.

* The functions of the suite are gone through once, and four accounts are kept on
  the way: the total, the categorized amount, the functions without markers, and
  the amount per category (`Accounts`).  The uncategorized amount is what the
  categorized one leaves of the total.
* The counts per category that are shown come from the collector if it was asked,
  and otherwise from the suite (`categoryCounts`, `countSource`).
* Functions without markers are a problem, which is reported as one issue
  (`issues`).  Warnings never are.
* A collector that counts another total than the suite adds a warning at the end
  (`warnings`).
* The verdict looks at the number of functions without markers, and at whether there
  is an issue about anything else.
-/

namespace TestCensus

open TestCensus.Number

/-! ## Issues and warnings -/

/-- A problem of a suite. -/
inductive Issue where
  /-- Some functions have no marker. -/
  | gap (functions : Nat) (instances : Count)
deriving DecidableEq

/-- The text of an issue. -/
def Issue.message : Issue → String
  | gap functions instances =>
      "Found " ++ toString functions ++ " uncategorized test functions (" ++
        toString instances ++ " test instances)"

/-- The issue is about functions without markers. -/
def Issue.isGap : Issue → Bool
  | gap _ _ => true

/-- A failure that did not end the census, or something worth knowing. -/
inductive Warning where
  /-- A file has no tests because it cannot be read. -/
  | parseFailure (path detail : String)
  /-- A collection query has no answer; no category means the whole suite. -/
  | collectFailure (category : Option String) (detail : String)
  /-- The collector counts another total than the suite has. -/
  | countMismatch (staticTotal collectedTotal : Count)
  /-- A test is declared more than once. -/
  | redeclaration (path name : String) (line firstLine : Nat)
  /-- A part of a directory cannot be read. -/
  | scanProblem (detail : String)
deriving DecidableEq

/-- The text of a warning. -/
def Warning.message : Warning → String
  | parseFailure path detail => "could not parse " ++ path ++ ": " ++ detail
  | collectFailure (some category) detail =>
      "collection failed for category '" ++ category ++ "': " ++ detail
  | collectFailure none detail => "collection failed for the full suite: " ++ detail
  | countMismatch staticTotal collectedTotal =>
      "static analysis found " ++ toString staticTotal ++
        " test instances but the collector reported " ++ toString collectedTotal
  | redeclaration path name line firstLine =>
      path ++ ":" ++ toString line ++ ": " ++ name ++
        " redefines the test declared at line " ++ toString firstLine
  | scanProblem detail => "scan problem: " ++ detail

/-! ## Accounts -/

/-- What is counted while the functions of a suite are gone through. -/
structure Accounts where
  /-- The number of test instances. -/
  total : Count
  /-- The number of test instances whose function has a marker. -/
  categorized : Count
  /-- The functions without markers. -/
  uncategorized : List TestFunction
  /-- The number of test instances per category. -/
  perCategory : CountTable

namespace Accounts

/-- The accounts before the first function. -/
def opening : Accounts := ⟨0, 0, [], CountTable.ofNames Category.names fun _ => 0⟩

/-- The accounts after one more function.  Markers that are no categories count for
the categorized amount and for nothing else. -/
def enter (a : Accounts) (f : TestFunction) : Accounts :=
  if f.isCategorized then
    { total := a.total + f.instances
      categorized := a.categorized + f.instances
      uncategorized := a.uncategorized
      perCategory := a.perCategory.raiseAll f.markers.names f.instances }
  else
    { a with
      total := a.total + f.instances
      uncategorized := a.uncategorized ++ [f] }

/-- The accounts after all functions. -/
def ofFunctions (functions : List TestFunction) : Accounts := functions.foldl enter opening

end Accounts

/-! ## Tallies -/

/-- The answers of a collector.  A query without an answer counts as zero. -/
structure CollectedCounts where
  /-- The counts of the queries per category. -/
  perCategory : List (String × Count)
  /-- The count of the query for the whole suite, if it was answered. -/
  total : Option Count
deriving DecidableEq

/-- Where the counts per category come from. -/
inductive CountSource where
  /-- From the collector. -/
  | collected
  /-- From the markers in the suite. -/
  | static
deriving DecidableEq, Repr

/-- The name of a source of counts. -/
def CountSource.name : CountSource → String
  | collected => "oracle"
  | static => "static"

/-- The rating of a suite. -/
inductive Verdict where
  /-- Every function has a marker. -/
  | excellent
  /-- Few functions have none. -/
  | good
  /-- Many functions have none. -/
  | needsImprovement
deriving DecidableEq, Repr

/-- The text of a verdict. -/
def Verdict.label : Verdict → String
  | excellent => "EXCELLENT"
  | good => "GOOD"
  | needsImprovement => "NEEDS IMPROVEMENT"

/-- The result of a census. -/
structure Tally where
  /-- The files of the suite. -/
  files : List TestFile
  /-- The answers of the collector, if one was asked. -/
  collected : Option CollectedCounts
  /-- The warnings recorded before the totals were compared. -/
  recorded : List Warning

namespace Tally

/-- The functions of the suite, file by file. -/
def functions (t : Tally) : List TestFunction := t.files.flatMap TestFile.functions

/-- The accounts of the suite. -/
def accounts (t : Tally) : Accounts := Accounts.ofFunctions t.functions

/-- The number of test instances. -/
def total (t : Tally) : Count := t.accounts.total

/-- The number of test instances whose function has a marker. -/
def categorized (t : Tally) : Count := t.accounts.categorized

/-- The functions without markers. -/
def uncategorizedFunctions (t : Tally) : List TestFunction := t.accounts.uncategorized

/-- The number of test instances that are not categorized. -/
def uncategorized (t : Tally) : Count := t.total.minus t.categorized

/-- The counts per category that the markers in the suite give. -/
def staticCounts (t : Tally) : CountTable := t.accounts.perCategory

/-- The counts per category that are shown. -/
def categoryCounts (t : Tally) : CountTable :=
  match t.collected with
  | some c => (CountTable.ofNames Category.names fun _ => 0).putAll c.perCategory
  | none => t.staticCounts

/-- Where the counts per category that are shown come from. -/
def countSource (t : Tally) : CountSource :=
  match t.collected with
  | some _ => .collected
  | none => .static

/-- The problems of the suite. -/
def issues (t : Tally) : List Issue :=
  if t.uncategorizedFunctions.isEmpty then []
  else [.gap t.uncategorizedFunctions.length (countInstances t.uncategorizedFunctions)]

/-- The warning that the collector counts another total, if it does. -/
def mismatch (t : Tally) : List Warning :=
  match t.collected.bind CollectedCounts.total with
  | some n => if n = t.total then [] else [.countMismatch t.total n]
  | none => []

/-- All warnings, in the order in which they were recorded. -/
def warnings (t : Tally) : List Warning := t.recorded ++ t.mismatch

/-- The share of the categorized instances, in percent. -/
def percentage (t : Tally) : Binary64 := Number.percentage t.categorized.val t.total.val

/-- There is an issue about something else than functions without markers. -/
def hasOtherIssues (t : Tally) : Bool := t.issues.any fun i => !i.isGap

/-- The rating of the suite; up to `threshold` functions without markers are
few. -/
def verdict (t : Tally) (threshold : Nat) : Verdict :=
  match t.uncategorizedFunctions.length, t.hasOtherIssues with
  | 0, false => .excellent
  | n, false => if n ≤ threshold then .good else .needsImprovement
  | _, true => .needsImprovement

/-- The exit status: in strict mode, one for a suite with a problem. -/
def exitStatus (t : Tally) (strict : Bool) : Nat :=
  if strict && (!t.issues.isEmpty || !t.uncategorizedFunctions.isEmpty) then 1 else 0

end Tally

end TestCensus
