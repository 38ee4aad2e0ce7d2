import TestCensus.Category
import TestCensus.Failure
import TestCensus.Tally

/-!
# Collection queries

A collector is asked once per category and once for the whole suite.  Each query
ends with a count, with a failure, or with a crash of whoever asked.  The queries
do not depend on each other, so a collector is a function from what is asked to
how that query ends, and it does not matter which of them ends first.

A query without an answer counts as zero, and there is a warning for it.  The
warnings stand in the order of the categories, and the one for the whole suite is
the last.
-/

namespace TestCensus

/-- How a query ends. -/
inductive QueryOutcome where
  /-- It gives a count. -/
  | count (n : Count)
  /-- It fails. -/
  | failure (f : CollectFailure)
  /-- The one who asked crashed. -/
  | crash
deriving DecidableEq

/-- What is asked of a collector: the tests of a category, or all. -/
abbrev Query := Option String

/-- How the queries to a collector end. -/
abbrev Collector := Query → QueryOutcome

namespace QueryOutcome

/-- The count of a query that gives one, or why there is none. -/
def result : QueryOutcome → Except CollectFailure Count
  | count n => .ok n
  | failure f => .error f
  | crash => .error (.io "oracle query panicked")

/-- The count that a query gives, if it gives one. -/
def answer? (o : QueryOutcome) : Option Count := o.result.toOption

/-- The warning that a query has no answer, if it has none. -/
def warning? (asked : Query) (o : QueryOutcome) : Option Warning :=
  match o.result with
  | .ok _ => none
  | .error f => some (.collectFailure asked f.message)

end QueryOutcome

namespace Collector

/-- What is asked of a collector, in order. -/
def queries : List Query := Category.names.map some ++ [none]

/-- The counts that a collector gives. -/
def counts (c : Collector) : CollectedCounts :=
  { perCategory := Category.names.map fun name => (name, ((c (some name)).answer?).getD 0)
    total := (c none).answer? }

/-- The warnings about queries without an answer. -/
def warnings (c : Collector) : List Warning := queries.filterMap fun q => (c q).warning? q

end Collector

/-- What was asked, each with how the query ended, in the order in which it was
asked. -/
abbrev Answers := List (Query × QueryOutcome)

namespace Answers

/-- The counts in the answers. -/
def counts (a : Answers) : CollectedCounts :=
  { perCategory := a.filterMap fun x => x.1.map fun name => (name, (x.2.answer?).getD 0)
    total := (a.lookup none).bind QueryOutcome.answer? }

/-- The warnings about queries without an answer. -/
def warnings (a : Answers) : List Warning := a.filterMap fun x => x.2.warning? x.1

end Answers

/-- What a collector answers to all that it is asked. -/
def Collector.answers (c : Collector) : Answers := queries.map fun q => (q, c q)

theorem Collector.answers_counts (c : Collector) : c.answers.counts = c.counts := by
  have hnone : ∀ names : List String,
      ((names.map some ++ [none]).map fun q => (q, c q)).lookup none = some (c none) := by
    intro names
    induction names with
    | nil => rfl
    | cons name rest ih => exact ih
  rw [Answers.counts, Collector.counts, Collector.answers, Collector.queries, hnone]
  simp [List.filterMap_map, Function.comp_def]

theorem Collector.answers_warnings (c : Collector) : c.answers.warnings = c.warnings :=
  List.filterMap_map

end TestCensus
