import TestCensus.Census.Run
import TestCensus.Command.Arguments

/-!
# Running a command

A command reads its arguments and the settings of a project, makes a census, and
writes the report to the standard output or to a file.  If anything fails, it
ends with the status `Command.fatalStatus` and prints nothing but the failure.
Otherwise the status is that of the suite, which depends neither on the format of
the report nor on where it goes.
-/

namespace TestCensus.Command

open TestCensus.Files

/-- The exit status of a command that failed. -/
def fatalStatus : Nat := 2

/-- What a command leaves behind. -/
structure Outcome where
  /-- The exit status. -/
  status : Nat
  /-- What was printed to the standard output. -/
  output : String
  /-- What was printed as the failure of the command. -/
  failure : String
  /-- The files after the command. -/
  tree : Tree

/-- Why a command that was understood has no report. -/
inductive Failure where
  /-- There are no settings. -/
  | settings (f : SettingsFailure)
  /-- The census has no result. -/
  | census (f : CensusFailure)
  /-- The report cannot be made. -/
  | report (f : ReportFailure)
  /-- The report cannot be written. -/
  | unwritten (path : String) (e : PathError)
deriving DecidableEq

/-- The text of a failure, as printed. -/
def Failure.text : Failure → String
  | settings f => tagged f.code f.message
  | census f => tagged f.code f.message
  | report f => tagged f.code f.message
  | unwritten path e => "error: failed to write report to " ++ path ++ ": " ++ e.message

/-- How the collector of a project is asked under its settings. -/
abbrev CollectorOf := CollectSettings → Path → Collector

/-- The result of a census with arguments, and the settings of the project. -/
def census (t : Tree) (collectorOf : CollectorOf) (environment : Variables) (a : Arguments)
    (workforce : Workforce) : Except Failure (Settings × Tally) := do
  let root : Path := ⟨a.root.getD "."⟩
  let settings ←
    (Settings.load t root (a.config.map Files.Path.mk) environment a.overrides).mapError .settings
  let collector := collectorOf settings.collect root
  let result ←
    (Census.ofProject t settings (some collector) .never root workforce).mapError .census
  return (settings, result)

/-- Delivers a report: the tree with the file that was asked for, or what is to be
printed. -/
def deliver (t : Tree) (report : String) : Option String → Except Failure (Tree × String)
  | none => .ok (t, report)
  | some path =>
      match t.write ⟨path⟩ (Text.utf8 report) with
      | .ok written => .ok (written, "")
      | .error e => .error (.unwritten path e)

/-- Makes a census with arguments and delivers the report. -/
def execute (t : Tree) (collectorOf : CollectorOf) (environment : Variables) (a : Arguments)
    (onTerminal : Bool) (workforce : Workforce) : Except Failure Outcome := do
  let (settings, result) ← census t collectorOf environment a workforce
  let color := a.output.isNone && onTerminal
  let report ← (Report.renderNamed a.format.name settings.report.effectiveThreshold color
    result).mapError .report
  let (tree, output) ← deliver t report a.output
  return { status := result.exitStatus a.strict, output, failure := "", tree }

/-- The name and version of the program. -/
def versionText : String := "markaudit 0.1.0\n"

/-- How the program is used. -/
def helpText : String :=
  "Audit pytest test categorization markers\n\nUsage: markaudit [OPTIONS]\n"

/-- Runs a command with its arguments. -/
def run (t : Tree) (collectorOf : CollectorOf) (environment : Variables) (onTerminal : Bool)
    (arguments : List String) (workforce : Workforce := .willing) : Outcome :=
  match Arguments.read arguments with
  | .error .refused => ⟨fatalStatus, "", "error: unexpected arguments", t⟩
  | .error .help => ⟨0, helpText, "", t⟩
  | .error .version => ⟨0, versionText, "", t⟩
  | .ok a =>
      match execute t collectorOf environment a onTerminal workforce with
      | .ok outcome => outcome
      | .error f => ⟨fatalStatus, "", f.text, t⟩

end TestCensus.Command
