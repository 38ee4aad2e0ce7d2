import TestCensus.Collect.Process

/-!
# The course of a watch

`answer` says how a query ends if nobody is ever delayed.  Here is what happens while a
process is watched, with any delays.  Whoever watches is one of many who share a machine, so
between two of its steps any time may pass.  Each pipe is read by a helper, which hands
over what it read when the pipe is closed or at any time after that.  `Step` lists what the
watch can do next, and a `Course` is any sequence of such steps, so what holds of every
course holds in whichever order the process ends, the pipes are closed, the helpers hand
over and the time is up.

*The process.*  The watch works out when the time is up, or crashes because the clock cannot
count so far (`starting`).  It looks whether the process has ended (`looking`).  If not, it
compares the clock with the time that it worked out (`comparing`): it kills the process and
gives up, or it rests for `pollInterval` and looks again.

*The pipes.*  When it has seen the end, it expects the output.  If that was handed over it
takes it (`expecting`).  If not, it compares the clock again (`lacking`): it goes on without
the output, or it sleeps until the output is there or the time is up, and tries again.  The
pipe for errors is waited for in the same way, if anybody wants to know about it.

Times are in milliseconds from the start of the process.
-/

namespace TestCensus.Collect

open TestCensus.Text

/-- The reading of the clock from which on it cannot count. -/
def clockLimit : Nat := 9223372036854775808000

/-- What a watch is about.  Nothing of it changes while the watch takes its course. -/
structure Watched where
  /-- The milliseconds that the query may take. -/
  timeout : Nat
  /-- What the process does. -/
  process : Behaviour
  /-- What the clock reads when the process starts. -/
  clock : Nat
  /-- When the watch begins. -/
  start : Nat
  /-- When the output is handed over, if that ever happens. -/
  outputAt : Option Nat
  /-- When what was written to the pipe for errors is handed over. -/
  errorsAt : Option Nat
  /-- The output is read to its end. -/
  output_closed : ∀ t ∈ outputAt, ∃ closed ∈ process.output.closesAt, closed ≤ t
  /-- The pipe for errors is read to its end. -/
  errors_closed : ∀ t ∈ errorsAt, ∃ closed ∈ process.errors.closesAt, closed ≤ t

/-- What the watch waits for when it has seen how the process ended. -/
inductive Awaited where
  /-- The output. -/
  | output (ending : Ending)
  /-- What was written to the pipe for errors, after the output was taken or given up. -/
  | errors (code : Nat) (output : Option (List UInt8))

/-- How far a watch is. -/
inductive Stage where
  /-- It has not worked out when the time is up. -/
  | starting
  /-- It is about to look at the process. -/
  | looking (deadline : Nat)
  /-- It has seen the process running and is about to compare the clock. -/
  | comparing (deadline : Nat)
  /-- It is about to take what it waits for. -/
  | expecting (a : Awaited) (deadline : Nat)
  /-- What it waits for was not there, and it is about to compare the clock. -/
  | lacking (a : Awaited) (deadline : Nat)
  /-- The query has ended.  If the end of the process was seen, the report holds how it ended and
  the output, or that the output was given up. -/
  | ended (outcome : QueryOutcome) (report : Option (Ending × Option (List UInt8)))

/-- A moment of a watch. -/
structure Moment where
  /-- The time. -/
  time : Nat
  /-- How far the watch is. -/
  stage : Stage

namespace Watched

variable (w : Watched)

/-- The clock can count up to the time that the query may take. -/
def Fits : Prop := w.clock + w.start + w.timeout < clockLimit

/-- When what is waited for is handed over. -/
def handedAt : Awaited → Option Nat
  | .output _ => w.outputAt
  | .errors _ _ => w.errorsAt

/-- The pipe that is waited for. -/
def pipe : Awaited → Pipe
  | .output _ => w.process.output
  | .errors _ _ => w.process.errors

/-- What is waited for was handed over. -/
def Handed (a : Awaited) (time : Nat) : Prop := ∃ handed ∈ w.handedAt a, handed ≤ time

/-- How the watch goes on with what it waited for, or without it. -/
def proceed (now : Nat) : Awaited → Option (List UInt8) → Stage
  | .output .signal, output => .ended (.failure .terminated) (some (.signal, output))
  | .output (.status code), output =>
      if code = 0 then
        .ended (.count (countNodeIds (decodeLossy (output.getD [])))) (some (.status code, output))
      else if code = noTestsStatus then .ended (.count 0) (some (.status code, output))
      else .expecting (.errors code output) (now + errorWait)
  | .errors code output, errors =>
      .ended (.failure (.exitStatus code (trimmed (decodeLossy (errors.getD [])))))
        (some (.status code, output))

/-- What the watch can do next. -/
inductive Step : Moment → Moment → Prop where
  /-- The clock cannot count up to the deadline. -/
  | crash {now : Nat} : clockLimit ≤ w.clock + now + w.timeout →
      Step ⟨now, .starting⟩ ⟨now, .ended .crash none⟩
  /-- The deadline is worked out. -/
  | start {now later : Nat} : w.clock + now + w.timeout < clockLimit → now ≤ later →
      Step ⟨now, .starting⟩ ⟨later, .looking (now + w.timeout)⟩
  /-- The process has ended. -/
  | see {now later deadline time : Nat} {ending : Ending} :
      w.process.ending = some (time, ending) → time ≤ now → now ≤ later →
      Step ⟨now, .looking deadline⟩ ⟨later, .expecting (.output ending) (later + w.timeout)⟩
  /-- The process is running. -/
  | miss {now later deadline : Nat} : (∀ x ∈ w.process.ending, now < x.1) → now ≤ later →
      Step ⟨now, .looking deadline⟩ ⟨later, .comparing deadline⟩
  /-- The time is up. -/
  | overdue {now later deadline : Nat} : deadline ≤ now → now ≤ later →
      Step ⟨now, .comparing deadline⟩
        ⟨later, .ended (.failure (.timeout (w.timeout / 1000))) none⟩
  /-- The time is not up. -/
  | rest {now later deadline : Nat} : now < deadline → now + pollInterval ≤ later →
      Step ⟨now, .comparing deadline⟩ ⟨later, .looking deadline⟩
  /-- What is waited for is there. -/
  | take {now later deadline : Nat} {a : Awaited} : w.Handed a now → now ≤ later →
      Step ⟨now, .expecting a deadline⟩ ⟨later, proceed later a (some (w.pipe a).content)⟩
  /-- What is waited for is not there. -/
  | lack {now later deadline : Nat} {a : Awaited} : ¬w.Handed a now → now ≤ later →
      Step ⟨now, .expecting a deadline⟩ ⟨later, .lacking a deadline⟩
  /-- The wait is over. -/
  | giveUp {now later deadline : Nat} {a : Awaited} : deadline ≤ now → now ≤ later →
      Step ⟨now, .lacking a deadline⟩ ⟨later, proceed later a none⟩
  /-- The wait is not over, and goes on until something happens. -/
  | wake {now later deadline : Nat} {a : Awaited} : now < deadline → now ≤ later →
      deadline ≤ later ∨ w.Handed a later →
      Step ⟨now, .lacking a deadline⟩ ⟨later, .expecting a deadline⟩

/-- The moment is reached with a number of steps. -/
inductive Course : Nat → Moment → Prop where
  /-- The watch begins. -/
  | begin : Course 0 ⟨w.start, .starting⟩
  /-- One more step is taken. -/
  | step {n : Nat} {m m' : Moment} : Course n m → w.Step m m' → Course (n + 1) m'

/-- There is a course that ends so. -/
def Ends (outcome : QueryOutcome) (report : Option (Ending × Option (List UInt8))) : Prop :=
  ∃ n time, w.Course n ⟨time, .ended outcome report⟩

end Watched

/-! ## Without delays -/

/-- The watch of a process without delays: it begins when the process starts, and the helpers
hand over at once.  The clock has counted a second. -/
def Watched.punctual (timeout : Nat) (process : Behaviour) : Watched where
  timeout := timeout
  process := process
  clock := 1000
  start := 0
  outputAt := process.output.closesAt
  errorsAt := process.errors.closesAt
  output_closed := fun t ht => ⟨t, ht, Nat.le_refl t⟩
  errors_closed := fun t ht => ⟨t, ht, Nat.le_refl t⟩

/-- What a pipe has given when it was waited for until a time, or that it was given up. -/
def Pipe.taken? (p : Pipe) (time : Nat) : Option (List UInt8) :=
  match p.closesAt with
  | some closed => if closed ≤ time then some p.content else none
  | none => none

/-- What is known at the end of a watch without delays. -/
def report (timeout : Nat) (b : Behaviour) : Option (Ending × Option (List UInt8)) :=
  if waitLimit ≤ timeout then none
  else
    match b.ending with
    | some (time, ending) =>
        if firstLook time ≤ firstLook timeout then
          some (ending, b.output.taken? (firstLook time + timeout))
        else none
    | none => none

end TestCensus.Collect
