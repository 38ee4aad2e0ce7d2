import TestCensus.Collect.Process
import TestCensus.Files.Tree
import TestCensus.Shell.Printing
import TestCensus.Shell.Syntax

/-!
# The state of a shell

A shell has parameters, arguments, files, and three channels.  What is written to a
channel goes to a sink.  Time passes only while a command sleeps; a process that is
not waited for has a time of its own, and it holds the sinks of its channels until
it ends.

A signal ends a shell, unless an action was set for it (`State.traps`).  Actions
run between commands.  The action for the number zero runs at the end.

A command that does not go on says why (`Flow`).  One of the reasons is that it
never ends, as far as can be seen.
-/

namespace TestCensus.Shell

open TestCensus.Collect TestCensus.Files TestCensus.Text

/-- Where something that is written goes. -/
inductive Sink where
  /-- To the pipe for output. -/
  | output
  /-- To the pipe for errors. -/
  | errors
  /-- Nowhere. -/
  | nowhere
  /-- To a command that reads it, or into a word. -/
  | captured (depth : Nat)
  /-- To the end of a file. -/
  | file (path : Path)
deriving DecidableEq

/-- The channels of a command. -/
structure Channels where
  /-- What is still to be read. -/
  input : List UInt8
  /-- Where output goes. -/
  output : Sink
  /-- Where errors go. -/
  errors : Sink
  /-- Where other channels go, by number. -/
  others : List (Nat × Sink) := []

/-- A process that is not waited for. -/
structure Job where
  /-- The sinks that it holds. -/
  holds : List Sink
  /-- When it ends, if it ever does. -/
  endsAt : Option Nat

/-- The state of a shell. -/
structure State where
  /-- The files. -/
  tree : Tree
  /-- The values of parameters. -/
  bindings : List (String × String) := []
  /-- The name of the script. -/
  name : String
  /-- The arguments of the script. -/
  arguments : List String
  /-- The names of the parameters that programs get. -/
  exported : List String := []
  /-- The names of the parameters that cannot be set. -/
  fixed : List String := []
  /-- The values that parameters had before a command with a name set its own,
  last first. -/
  replaced : List (String × Option String) := []
  /-- The commands with names. -/
  named : List (String × Command) := []
  /-- The number of commands with names that are running. -/
  calls : Nat := 0
  /-- The number of loops that are running. -/
  loops : Nat := 0
  /-- The actions for signals. -/
  traps : List (Nat × String) := []
  /-- The actions that are to run next. -/
  pending : List String := []
  /-- The number of lines of the script. -/
  lines : Nat := 1
  /-- The line of the last command. -/
  line : Nat := 1
  /-- The status of the last command. -/
  status : Nat := 0
  /-- A failure ends the script. -/
  stopsAtFailure : Bool := false
  /-- A parameter that is not set ends the script. -/
  stopsAtMissing : Bool := false
  /-- The milliseconds since the start. -/
  clock : Nat := 0
  /-- The channels. -/
  channels : Channels := { input := [], output := .output, errors := .errors }
  /-- What was written, last first. -/
  written : List (Sink × List UInt8) := []
  /-- The processes that were not waited for, last first. -/
  jobs : List Job := []

/-- Why a command does not go on. -/
inductive Flow where
  /-- The shell exits. -/
  | exits
  /-- A command with a name is left. -/
  | returns
  /-- A signal ends the shell. -/
  | killed (number : Nat)
  /-- A number of loops are left. -/
  | leaves (loops : Nat)
  /-- A number of loops are left, and the last of them is repeated. -/
  | repeats (loops : Nat)
  /-- It never ends. -/
  | hangs
deriving DecidableEq

/-- A command that works on the state of a shell. -/
abbrev Effect := EStateM Flow State

/-- The number by which the shell is known as a process. -/
def shellProcess : Nat := 4000

namespace State

/-- The value of a parameter, if it is set. -/
def value? (s : State) (name : String) : Option String :=
  match name with
  | "?" => some (toString s.status)
  | "#" => some (toString s.arguments.length)
  | "$" => some (toString shellProcess)
  | "!" => if s.jobs.isEmpty then none else some (toString (shellProcess + s.jobs.length))
  | "-" => some ""
  | "0" => some s.name
  | "@" => if s.arguments.isEmpty then none else some (" ".intercalate s.arguments)
  | "*" =>
      let gap := match s.bindings.lookup "IFS" with
        | some separators => String.ofList (separators.toList.take 1)
        | none => " "
      if s.arguments.isEmpty then none else some (gap.intercalate s.arguments)
  | "PWD" => some s.tree.current.text
  | _ =>
      if !name.isEmpty && name.toList.all Char.isDigit then s.arguments[decimal name.toList - 1]?
      else s.bindings.lookup name

/-- The state with a parameter set. -/
def setValue (s : State) (name value : String) : State :=
  { s with bindings := (name, value) :: s.bindings.filter fun v => v.1 != name }

/-- The state with a parameter set, or not set at all. -/
def setTo (s : State) (name : String) : Option String → State
  | some value => s.setValue name value
  | none => { s with bindings := s.bindings.filter fun v => v.1 != name }

/-- The characters at which texts are split. -/
def separators (s : State) : List Char := ((s.bindings.lookup "IFS").getD " \t\n").toList

/-- The state with something written. -/
def write (s : State) (sink : Sink) (bytes : List UInt8) : State :=
  match sink with
  | .nowhere => s
  | .file path =>
      let before := (s.tree.readBytes path).toOption.getD []
      { s with tree := (s.tree.write path (before ++ bytes)).toOption.getD s.tree }
  | sink => { s with written := (sink, bytes) :: s.written }

/-- Everything that was written to a sink. -/
def writtenTo (s : State) (sink : Sink) : List UInt8 :=
  (s.written.filter fun w => w.1 == sink).reverse.flatMap Prod.snd

/-- When nobody writes to a sink any more, if the shell itself does so until a
time. -/
def closing (s : State) (sink : Sink) (shellEnds : Nat) : Option Nat :=
  s.jobs.foldl (fun last job =>
    if job.holds.contains sink then
      match last, job.endsAt with
      | some a, some b => some (max a b)
      | _, _ => none
    else last) (some shellEnds)

/-- The behaviour of a shell that is left in a state. -/
def behaviour (s : State) (ending : Option Ending) : Behaviour :=
  let pipe (sink : Sink) : Pipe :=
    ⟨s.writtenTo sink, if ending.isSome then s.closing sink s.clock else none⟩
  ⟨ending.map fun e => (s.clock, e), pipe .output, pipe .errors⟩

end State

/-- Writes to the output. -/
def say (bytes : List UInt8) : Effect Unit := modify fun s => s.write s.channels.output bytes

/-- Writes a line to the errors. -/
def complain (message : String) : Effect Unit :=
  modify fun s => s.write s.channels.errors (keptBytes (message ++ "\n"))

/-- Writes an error of the shell itself. -/
def complainAsShell (message : String) : Effect Unit := do
  let s ← get
  complain (s.name ++ ": " ++ toString s.line ++ ": " ++ message)

/-- Sets the status. -/
def finish (status : Nat) : Effect Unit := modify fun s => { s with status }

/-- Ends the script with an error of the shell. -/
def giveUp (message : String) : Effect α := do
  complainAsShell message
  finish 2
  throw .exits

/-- Sets a parameter, if it can be set. -/
def setParameter (name value : String) : Effect Unit := do
  if (← get).fixed.contains name then giveUp (name ++ ": is read only")
  else modify fun s => s.setValue name value

/-- Runs a command that may leave the script. -/
def leaving (body : Effect Unit) : Effect Unit :=
  try body
  catch
    | .exits => pure ()
    | .returns => pure ()
    | flow => throw flow

/-- Runs a command of which only its output, its time and its status are left. -/
def apart (body : Effect Unit) : Effect Unit := do
  let before ← get
  try body
  catch
    | .exits => pure ()
    | .returns => pure ()
    | .leaves _ => pure ()
    | .repeats _ => pure ()
    | flow => throw flow
  modify fun s =>
    { before with
      tree := { s.tree with current := before.tree.current }
      status := s.status
      clock := s.clock
      written := s.written
      jobs := s.jobs }

/-- Runs a command with other channels.  What it reads of the input is read,
unless the input is another one too. -/
def withChannels (keepsInput : Bool) (channels : Channels) (body : Effect Unit) : Effect Unit := do
  let before := (← get).channels
  modify fun s => { s with channels }
  let flow ← try body; pure none catch flow => pure (some flow)
  modify fun s =>
    { s with channels :=
        { before with input := if keepsInput then s.channels.input else before.input } }
  match flow with
  | none => return
  | some flow => throw flow

/-- Takes what was written to a sink. -/
def takeWritten (sink : Sink) : Effect (List UInt8) := do
  let s ← get
  set { s with written := s.written.filter fun w => w.1 != sink }
  return s.writtenTo sink

/-- Runs a command and takes what it writes, when nobody can write more. -/
def capturing (depth : Nat) (body : Effect Unit) : Effect (List UInt8) := do
  let sink := Sink.captured depth
  withChannels true { (← get).channels with output := sink } (apart body)
  let s ← get
  match s.closing sink s.clock with
  | none => throw .hangs
  | some time =>
      set { s with clock := time }
      takeWritten sink

/-- Runs a command for one that reads what it writes.  A command that never ends
gives what it writes before that, and ends when nobody reads it any more. -/
def feeding (depth : Nat) (body : Effect Unit) : Effect (List UInt8) :=
  try capturing depth body
  catch
    | .hangs => do
        let bytes ← takeWritten (.captured depth)
        if bytes.isEmpty then throw .hangs else return bytes
    | flow => throw flow

/-- Runs a command whose failure is looked at and does not end a script. -/
def tested (body : Effect Unit) : Effect Unit := do
  let before := (← get).stopsAtFailure
  modify fun s => { s with stopsAtFailure := false }
  body
  modify fun s => { s with stopsAtFailure := before }

/-- Ends a script after a failure, if it is to end then. -/
def stopAtFailure : Effect Unit := do
  let s ← get
  if s.stopsAtFailure && s.status != 0 then throw .exits

/-- Repeats a step as long as it says so, at most a number of times. -/
def repeatStep (step : Effect Bool) : Nat → Effect Unit
  | 0 => throw .hangs
  | n + 1 => do if ← step then repeatStep step n

/-- Runs the body of a loop; false if the loop is left. -/
def loopBody (body : Effect Unit) : Effect Bool := do
  let loops := (← get).loops
  modify fun s => { s with loops := loops + 1 }
  let goesOn ←
    try
      body
      pure true
    catch
      | .leaves n => if n ≤ 1 then pure false else throw (.leaves (n - 1))
      | .repeats n => if n ≤ 1 then pure true else throw (.repeats (n - 1))
      | flow => throw flow
  modify fun s => { s with loops }
  return goesOn

end TestCensus.Shell
