import TestCensus.Collect.Process
import TestCensus.Files.Path
import TestCensus.Settings.Basic

/-!
# Launching a collector

The settings name the program of a collector and its first arguments.  A query
adds the arguments that make it list tests, and if it is about a category, those
that choose the category.  The program runs in the directory of the project.

What the system does with all that is a function from a launch to the behaviour
of the process, or to why there is no process (`Launcher`).
-/

namespace TestCensus.Collect

open TestCensus.Files

/-- What the system is asked to start. -/
structure Launch where
  /-- The program, by name or path. -/
  program : String
  /-- Its arguments. -/
  arguments : List String
  /-- The directory in which it runs. -/
  directory : Path
deriving DecidableEq, Repr

/-- How the system starts programs. -/
abbrev Launcher := Launch → Except String Behaviour

/-- The arguments that make a program list tests. -/
def listArguments : List String := ["--collect-only", "-q", "-p", "no:cacheprovider"]

/-- The arguments that choose what is asked. -/
def queryArguments : Query → List String
  | some category => ["-m", category]
  | none => []

/-- How a query is put to programs. -/
structure Inquiry where
  /-- The program and its first arguments. -/
  command : List String
  /-- Its last arguments. -/
  extraArguments : List String
  /-- The milliseconds that a query may take. -/
  timeout : Nat
  /-- The directory in which the program runs. -/
  directory : Path
deriving DecidableEq, Repr

namespace Inquiry

/-- The inquiry that settings describe. -/
def ofSettings (s : CollectSettings) (root : Path) : Inquiry :=
  ⟨s.effectiveCommand, s.extraArguments, s.effectiveTimeout * 1000, root⟩

/-- What is started for a query. -/
def launch? (i : Inquiry) (asked : Query) : Option Launch :=
  match i.command with
  | [] => none
  | program :: leading =>
      some ⟨program, leading ++ listArguments ++ queryArguments asked ++ i.extraArguments,
        i.directory⟩

/-- How a query ends whose process behaves in a certain way. -/
def outcome (i : Inquiry) (program : String) : Except String Behaviour → QueryOutcome
  | .ok behaviour => answer i.timeout behaviour
  | .error message => .failure (.spawn program message)

/-- The collector that puts an inquiry to the programs of a system. -/
def collector (i : Inquiry) (launcher : Launcher) : Collector := fun asked =>
  match i.launch? asked with
  | none => .failure .emptyCommand
  | some launch => i.outcome launch.program (launcher launch)

end Inquiry

end TestCensus.Collect
