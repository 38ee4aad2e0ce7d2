import TestCensus.Census.CheckPoints
import TestCensus.Census.FileRecord
import TestCensus.Collect.Query
import TestCensus.Files.Locate

/-!
# Running a census

A census locates the test files, has workers make a record of each, asks the collector,
and puts everything together.

* The entries of the result are those of the records, in the order of the located
  files.
* The warnings are the problems of the search, then those of the records, then
  those about queries without an answer.
* The collector is asked only if there is one and the settings do not disable it.

A census that finds its handle cancelled at a check point has no result, and neither has
one whose workers cannot be started.
-/

namespace TestCensus

open TestCensus.Files

/-- How a system starts workers. -/
structure Workforce where
  /-- The number of workers that are there when so many were asked for, or why none can
  be started.  Who asks for zero leaves the number to the system. -/
  start : Nat → Except String Nat
  /-- Workers that were started are at least one. -/
  pos_of_start : ∀ asked started, start asked = .ok started → 0 < started

/-- As many workers as were asked for, and one if the number is left to the system. -/
def Workforce.willing : Workforce where
  start asked := .ok (max asked 1)
  pos_of_start asked started h := by
    cases h
    exact Nat.le_max_right asked 1

namespace Census

/-- Ends a census whose handle is cancelled. -/
def checkPoint (isCancelled : Bool) : Except CensusFailure Unit :=
  if isCancelled then .error .cancelled else .ok ()

/-- A failure of the search as one of the census. -/
def ofScanFailure : ScanFailure → CensusFailure
  | .cancelled => .cancelled
  | f => .scan f

/-- The number of workers that read the files. -/
def startWorkers (workforce : Workforce) (settings : ScanSettings) : Except CensusFailure Nat :=
  (workforce.start settings.effectiveThreads).mapError fun message => .scan (.workerPool message)

/-- The collector that is asked. -/
def effectiveCollector (settings : Settings) (collector : Option Collector) :
    Option Collector := if settings.collect.isEnabled then collector else none

/-- The result of a census whose files are located and recorded. -/
def tally (problems : List String) (records : List FileRecord) (collector : Option Collector) :
    Tally :=
  { files := records.map FileRecord.file
    collected := collector.map Collector.counts
    recorded := problems.map Warning.scanProblem ++ records.flatMap FileRecord.warnings ++
      (collector.map Collector.warnings).getD [] }

/-- The result of a census of the files below roots, reported relative to a base. -/
def run (t : Tree) (settings : Settings) (collector : Option Collector) (seen : CheckPoints)
    (base : List Component) (roots : List Path) (workforce : Workforce) :
    Except CensusFailure Tally := do
  let located ← (settings.scan.locate t seen.atEvent roots).mapError ofScanFailure
  let _ ← startWorkers workforce settings.scan
  checkPoint ((List.range located.files.length).any seen.atFile)
  let records := located.files.map (FileRecord.ofFile settings.naming.rules t base)
  checkPoint seen.afterFiles
  let result := tally located.problems records (effectiveCollector settings collector)
  checkPoint seen.afterQueries
  return result

theorem bind_eq_ok {α β ε : Type} {x : Except ε α} {f : α → Except ε β} {b : β} :
    x >>= f = .ok b ↔ ∃ a, x = .ok a ∧ f a = .ok b := by
  cases x with
  | error e => simp [bind, Except.bind]
  | ok a => simp [bind, Except.bind]

theorem checkPoint_eq_ok {isCancelled : Bool} :
    checkPoint isCancelled = .ok () ↔ isCancelled = false := by
  cases isCancelled <;> simp [checkPoint]

theorem mapError_eq_ok {α ε ε' : Type} {x : Except ε α} {f : ε → ε'} {a : α} :
    x.mapError f = .ok a ↔ x = .ok a := by
  cases x with
  | error e => exact iff_of_false nofun nofun
  | ok b => exact ⟨fun h => congrArg Except.ok (Except.ok.inj h), fun h => by rw [h]; rfl⟩

/-- A census has a result when the search succeeds, the workers are started, and no check
point finds the handle cancelled. -/
theorem run_eq_ok {t : Tree} {settings : Settings} {collector : Option Collector}
    {seen : CheckPoints} {base : List Component} {roots : List Path} {workforce : Workforce}
    {result : Tally} :
    run t settings collector seen base roots workforce = .ok result ↔
      ∃ located, settings.scan.locate t seen.atEvent roots = .ok located ∧
        (∃ started, workforce.start settings.scan.effectiveThreads = .ok started) ∧
        (List.range located.files.length).any seen.atFile = false ∧
        seen.afterFiles = false ∧ seen.afterQueries = false ∧
        result = tally located.problems
          (located.files.map (FileRecord.ofFile settings.naming.rules t base))
          (effectiveCollector settings collector) := by
  constructor
  · intro h
    obtain ⟨located, hlocated, h⟩ := bind_eq_ok.1 h
    obtain ⟨started, hstarted, h⟩ := bind_eq_ok.1 h
    obtain ⟨⟨⟩, hfile, h⟩ := bind_eq_ok.1 h
    obtain ⟨⟨⟩, hfiles, h⟩ := bind_eq_ok.1 h
    obtain ⟨⟨⟩, hqueries, h⟩ := bind_eq_ok.1 h
    cases h
    exact ⟨located, mapError_eq_ok.1 hlocated, ⟨started, mapError_eq_ok.1 hstarted⟩,
      checkPoint_eq_ok.1 hfile, checkPoint_eq_ok.1 hfiles, checkPoint_eq_ok.1 hqueries, rfl⟩
  · rintro ⟨located, hlocated, ⟨started, hstarted⟩, hfile, hfiles, hqueries, rfl⟩
    refine bind_eq_ok.2 ⟨located, mapError_eq_ok.2 hlocated, ?_⟩
    refine bind_eq_ok.2 ⟨started, mapError_eq_ok.2 hstarted, ?_⟩
    refine bind_eq_ok.2 ⟨(), checkPoint_eq_ok.2 hfile, ?_⟩
    refine bind_eq_ok.2 ⟨(), checkPoint_eq_ok.2 hfiles, ?_⟩
    exact bind_eq_ok.2 ⟨(), checkPoint_eq_ok.2 hqueries, rfl⟩

/-- The roots of a project: its test directories, or the project itself if it has
none. -/
def projectRoots (settings : Settings) (project : Path) : List Path :=
  match settings.scan.effectiveTestDirs with
  | [] => [project]
  | dirs => dirs.map project.join

/-- The result of a census of a project. -/
def ofProject (t : Tree) (settings : Settings) (collector : Option Collector)
    (seen : CheckPoints) (project : Path) (workforce : Workforce := .willing) :
    Except CensusFailure Tally :=
  run t settings collector seen project.components (projectRoots settings project) workforce

/-- What the files of a suite are reported relative to: the directory that holds
its first root. -/
def suiteBase (roots : List Path) : List Component :=
  (roots.head?.map fun r => parentComponents r.components).getD []

/-- The result of a census of a suite, which is given by its roots. -/
def ofSuite (t : Tree) (settings : Settings) (collector : Option Collector)
    (seen : CheckPoints) (roots : List Path) (workforce : Workforce := .willing) :
    Except CensusFailure Tally :=
  run t settings collector seen (suiteBase roots) roots workforce

end Census

end TestCensus
