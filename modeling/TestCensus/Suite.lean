import TestCensus.MarkerSet
import TestCensus.Number.Count

/-!
# Test suites

A suite is a list of test files, and a file a list of test functions in the order
of the source.  A function stands for one or more instances.  Every total of a
suite is a saturating sum of the instance counts of some of its functions.
-/

namespace TestCensus

/-- A test function of a suite. -/
structure TestFunction where
  /-- The name of the function. -/
  name : String
  /-- The names of the classes around it, joined. -/
  className : Option String
  /-- The path of its file. -/
  file : String
  /-- The line on which it starts. -/
  line : Nat
  /-- Its markers. -/
  markers : MarkerSet
  /-- The function is a coroutine. -/
  isAsync : Bool
  /-- Its docstring. -/
  docstring : Option String
  /-- The number of instances that it stands for. -/
  instances : Count
deriving DecidableEq

namespace TestFunction

/-- The function has a marker. -/
def isCategorized (f : TestFunction) : Bool := !f.markers.isEmpty

/-- The function has the given marker. -/
def isMarked (f : TestFunction) (marker : String) : Bool := f.markers.names.contains marker

theorem isMarked_iff {f : TestFunction} {marker : String} :
    f.isMarked marker = true ↔ marker ∈ f.markers.names := by
  rw [isMarked, List.contains_iff_mem]

theorem isCategorized_iff {f : TestFunction} :
    f.isCategorized = true ↔ ∃ marker, marker ∈ f.markers.names := by
  rw [isCategorized, Bool.not_eq_true', MarkerSet.isEmpty_eq_false]

/-- The name of the function behind the names of its classes. -/
def qualifiedName (f : TestFunction) : String :=
  match f.className with
  | some c => c ++ "::" ++ f.name
  | none => f.name

/-- The place of the function, as path and line. -/
def place (f : TestFunction) : String := f.file ++ ":" ++ toString f.line

end TestFunction

/-- The sum of the instance counts of functions. -/
def countInstances (functions : List TestFunction) : Count :=
  Count.sum (functions.map TestFunction.instances)

/-- A test file of a suite. -/
structure TestFile where
  /-- The path of the file, as reported. -/
  path : String
  /-- Its functions, in the order of the source. -/
  functions : List TestFunction
deriving DecidableEq

/-- The number of test instances in a file. -/
def TestFile.total (f : TestFile) : Count := countInstances f.functions

end TestCensus
