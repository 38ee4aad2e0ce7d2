import TestCensus.Collect.Output
import TestCensus.Collect.Query
import TestCensus.Text.Blank
import TestCensus.Text.Utf8

/-!
# Watching a process

A query runs a process and watches it.  What a process does is given by when and
how it ends, and by what it writes to its two pipes and when each of them is
closed.  A pipe may be closed later than the process ends, if another process
still holds it.  Times are in milliseconds from the start of the process.

The process is looked at every `pollInterval`.  If it has ended, its status is
that of the query.  If it has not and the time is up, it is killed and the query
fails.  Only then is the output taken: it is waited for as long as the query may
take, and what is not closed until then counts as nothing.

* Status 0 answers with the number of lines that are names of tests, and status 5
  with zero.
* Any other status is a failure that shows what was written to the pipe for
  errors, which is waited for `errorWait` long.

Times are counted from a point in the past, and that count has a limit.  A time
that would pass it cannot be waited for, and whoever asks for it crashes.
-/

namespace TestCensus.Collect

open TestCensus.Text

/-! ## Processes -/

/-- How a process ends. -/
inductive Ending where
  /-- It ends with a status. -/
  | status (code : Nat)
  /-- A signal ends it. -/
  | signal
deriving DecidableEq, Repr

/-- What is written to a pipe. -/
structure Pipe where
  /-- All bytes that are written to it. -/
  content : List UInt8
  /-- When nobody can write to it any more, if that ever happens. -/
  closesAt : Option Nat
deriving DecidableEq

/-- What a process does. -/
structure Behaviour where
  /-- When and how it ends, if it ever does. -/
  ending : Option (Nat × Ending)
  /-- The pipe for output. -/
  output : Pipe
  /-- The pipe for errors. -/
  errors : Pipe
deriving DecidableEq

/-! ## Times -/

/-- The time between two looks at a process. -/
def pollInterval : Nat := 20

/-- The time that the pipe for errors is waited for. -/
def errorWait : Nat := 10 * pollInterval

/-- The times from which on nobody can wait. -/
def waitLimit : Nat := 9223372036854775807000

/-- The first look at a process at a time or after it. -/
def firstLook (time : Nat) : Nat := (time + (pollInterval - 1)) / pollInterval * pollInterval

/-- What a pipe has given when it was waited for until a time. -/
def Pipe.received (p : Pipe) (time : Nat) : List UInt8 :=
  match p.closesAt with
  | some closed => if closed ≤ time then p.content else []
  | none => []

/-- When the wait for a pipe is over that lasts until a time and begins at another. -/
def Pipe.receivedAt (p : Pipe) (start time : Nat) : Nat :=
  match p.closesAt with
  | some closed => min (max start closed) time
  | none => time

/-! ## Answers -/

/-- The status of a process that found no tests. -/
def noTestsStatus : Nat := 5

/-- The answer of a process whose end was seen at a time. -/
def answerAt (timeout seen : Nat) (b : Behaviour) : Ending → QueryOutcome
  | .signal => .failure .terminated
  | .status code =>
      if code = 0 then
        .count (countNodeIds (decodeLossy (b.output.received (seen + timeout))))
      else if code = noTestsStatus then .count 0
      else
        let later := b.output.receivedAt seen (seen + timeout)
        .failure (.exitStatus code (trimmed (decodeLossy (b.errors.received (later + errorWait)))))

/-- The answer of a process that is watched for a time. -/
def answer (timeout : Nat) (b : Behaviour) : QueryOutcome :=
  if waitLimit ≤ timeout then .crash
  else
    match b.ending with
    | some (time, ending) =>
        if firstLook time ≤ firstLook timeout then answerAt timeout (firstLook time) b ending
        else .failure (.timeout (timeout / 1000))
    | none => .failure (.timeout (timeout / 1000))

end TestCensus.Collect
