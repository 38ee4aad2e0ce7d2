import TestCensus.Failure
import TestCensus.Report.Console
import TestCensus.Report.Json

/-!
# Report formats

A report has one of three formats, which are known by name.
-/

namespace TestCensus.Report

/-- A format of reports. -/
inductive Format where
  /-- For people at a console. -/
  | console
  /-- For programs. -/
  | json
  /-- For documents. -/
  | markdown
deriving DecidableEq, Repr

namespace Format

/-- All formats. -/
def all : List Format := [console, json, markdown]

/-- The name of a format. -/
def name : Format → String
  | console => "console"
  | json => "json"
  | markdown => "markdown"

/-- The format of a name. -/
def named? (name : String) : Option Format := all.find? (·.name == name)

end Format

/-- The number of functions without markers that are few, unless configured
otherwise. -/
def standardThreshold : Nat := 5

/-- The report of a tally in a format. -/
def render (format : Format) (threshold : Nat) (color : Bool) (t : Tally) : String :=
  match format with
  | .console => console t threshold color
  | .json => json t
  | .markdown => markdown t

/-- The report of a tally in the format of a name. -/
def renderNamed (name : String) (threshold : Nat) (color : Bool) (t : Tally) :
    Except ReportFailure String :=
  match Format.named? name with
  | some format => .ok (render format threshold color t)
  | none => .error (.unknownFormat name)

theorem Format.named?_name (format : Format) : named? format.name = some format := by
  cases format <;> decide

theorem renderNamed_name (format : Format) (threshold : Nat) (color : Bool) (t : Tally) :
    renderNamed format.name threshold color t = .ok (render format threshold color t) := by
  rw [renderNamed, Format.named?_name]

end TestCensus.Report
