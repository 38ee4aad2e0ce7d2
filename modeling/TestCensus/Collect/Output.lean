import TestCensus.Number.Count
import TestCensus.Text.Lines
import TestCensus.Text.Parts

/-!
# The output of a collector

A collector in quiet mode prints one line per collected test, and a summary.  The
line of a test is its node id, in which two colons stand between the file and the
test.  No other line has two colons, so the collected tests are counted by them.
-/

namespace TestCensus.Collect

open TestCensus.Text

/-- The line holds a node id. -/
def isNodeId (line : List Char) : Bool := occursIn [':', ':'] line

/-- The number of tests that an output lists. -/
def countNodeIds (output : String) : Count :=
  Count.ofNat ((lines output.toList).countP isNodeId)

end TestCensus.Collect
