import TestCensus.Discovery
import TestCensus.Report.Format

/-!
# Settings

The settings of a census say where the test files are, by which names tests are
recognized, how the collector is asked and how a suite is rated.  A setting may be
absent, and then its standard value holds.  A list of exclude patterns or of
further arguments is never absent, only empty.
-/

namespace TestCensus

/-- Where the test files are. -/
structure ScanSettings where
  /-- The directories with tests, relative to the root of the project. -/
  testDirs : Option (List String) := none
  /-- How the name of a test file starts. -/
  fileStart : Option String := none
  /-- The extensions of test files. -/
  extensions : Option (List String) := none
  /-- Ignore files are respected. -/
  respectIgnoreFiles : Option Bool := none
  /-- Patterns of files and directories that are left out. -/
  exclude : List String := []
  /-- The number of workers. -/
  threads : Option Nat := none
deriving DecidableEq, Repr

/-- By which names tests are recognized. -/
structure NamingSettings where
  /-- How the name of a test function starts. -/
  functionStart : Option String := none
  /-- How the name of a test class may start. -/
  classStart : Option String := none
  /-- What the name of a test class may contain. -/
  classMarker : Option String := none
  /-- The module whose member `mark` carries the markers. -/
  markModule : Option String := none
deriving DecidableEq, Repr

/-- How the collector is asked. -/
structure CollectSettings where
  /-- The collector is asked at all. -/
  enabled : Option Bool := none
  /-- The program of the collector with its first arguments. -/
  command : Option (List String) := none
  /-- Further arguments. -/
  extraArguments : List String := []
  /-- The seconds that a query may take. -/
  timeout : Option Nat := none
deriving DecidableEq, Repr

/-- How a suite is rated. -/
structure ReportSettings where
  /-- The number of functions without markers that are few. -/
  goodThreshold : Option Nat := none
deriving DecidableEq, Repr

/-- The settings of a census. -/
structure Settings where
  /-- Where the test files are. -/
  scan : ScanSettings := {}
  /-- By which names tests are recognized. -/
  naming : NamingSettings := {}
  /-- How the collector is asked. -/
  collect : CollectSettings := {}
  /-- How a suite is rated. -/
  report : ReportSettings := {}
deriving DecidableEq, Repr

instance : Inhabited Settings := ⟨{}⟩

/-! ## The values that hold -/

/-- An extension without the dots before it. -/
def bareExtension (extension : String) : String :=
  String.ofList (extension.toList.dropWhile (· = '.'))

namespace ScanSettings

/-- The directories with tests. -/
def effectiveTestDirs (s : ScanSettings) : List String := s.testDirs.getD ["tests"]

/-- How the name of a test file starts. -/
def effectiveFileStart (s : ScanSettings) : String := s.fileStart.getD "test_"

/-- The extensions of test files, without dots before them. -/
def effectiveExtensions (s : ScanSettings) : List String :=
  (s.extensions.map fun es => es.map bareExtension).getD ["py"]

/-- Ignore files are respected. -/
def respectsIgnoreFiles (s : ScanSettings) : Bool := s.respectIgnoreFiles.getD true

/-- The number of workers; zero stands for one per processor. -/
def effectiveThreads (s : ScanSettings) : Nat := s.threads.getD 0

end ScanSettings

/-- The naming conventions. -/
def NamingSettings.rules (s : NamingSettings) : NamingRules :=
  { functionStart := s.functionStart.getD NamingRules.standard.functionStart
    classStart := s.classStart.getD NamingRules.standard.classStart
    classMarker := s.classMarker.getD NamingRules.standard.classMarker
    markModule := s.markModule.getD NamingRules.standard.markModule }

namespace CollectSettings

/-- The collector is asked. -/
def isEnabled (s : CollectSettings) : Bool := s.enabled.getD true

/-- The program of the collector with its first arguments. -/
def effectiveCommand (s : CollectSettings) : List String :=
  s.command.getD ["python", "-m", "pytest"]

/-- The seconds that a query may take. -/
def effectiveTimeout (s : CollectSettings) : Nat := s.timeout.getD 120

end CollectSettings

/-- The number of functions without markers that are few. -/
def ReportSettings.effectiveThreshold (s : ReportSettings) : Nat :=
  s.goodThreshold.getD Report.standardThreshold

end TestCensus
