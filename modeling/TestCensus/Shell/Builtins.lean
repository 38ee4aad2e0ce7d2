import TestCensus.Shell.Fields
import TestCensus.Shell.Filters
import TestCensus.Shell.Options

/-!
# Commands of the shell itself

Some commands change the state of the shell, and no program could run them.  Most
are here, each as a function of its arguments (`builtin?`).  Those that run other
commands are missing, since they need the means to run them.

A command that cannot do what it is asked for ends the script, because the shell
itself has failed then.
-/

namespace TestCensus.Shell

open TestCensus.Files TestCensus.Text

/-! ## Names -/

/-- The names of the commands that a shell runs itself and that cannot get another
meaning. -/
def specialNames : List String :=
  [":", ".", "break", "continue", "eval", "exec", "exit", "export", "readonly", "return", "set",
    "shift", "trap", "unset"]

/-- The names of the other commands that a shell runs itself. -/
def builtinNames : List String :=
  ["alias", "cd", "command", "echo", "false", "hash", "kill", "local", "printf", "pwd", "read",
    "test", "[", "times", "true", "type", "ulimit", "umask", "unalias", "wait"]

/-- The signal that an action is for; the end of a script has the number zero. -/
def trapped? (s : String) : Option Nat :=
  if s = "EXIT" || s = "0" then some 0 else signal? s

/-! ## Single commands -/

/-- Leaves with a status that is given as a text. -/
def leaveWith (program : String) (flow : Flow) (code : String) : Effect Nat := do
  match integer? code.toList with
  | some status =>
      if 0 ≤ status then
        finish (status.toNat % 256)
        throw flow
      else giveUp (program ++ ": Illegal number: " ++ code)
  | none => giveUp (program ++ ": Illegal number: " ++ code)

/-- The number that the first argument gives, or one. -/
def countArgument (program : String) (arguments : List String) : Effect Nat :=
  match arguments with
  | [] => return 1
  | a :: _ =>
      match integer? a.toList with
      | some n => if 0 ≤ n then return n.toNat else giveUp (program ++ ": Illegal number: " ++ a)
      | none => giveUp (program ++ ": Illegal number: " ++ a)

/-- Declares parameters, and sets those that have values. -/
def declareAll (mark : State → String → State) (names : List String) : Effect Nat := do
  names.forM fun a => do
    let (name, value) := match assignment? a.toList with
      | some (name, value) => (name, some (String.ofList value))
      | none => (a, none)
    if (← get).calls != 0 then
      modify fun s => { s with replaced := (name, s.value? name) :: s.replaced }
    match value with
    | some value => setParameter name value
    | none => pure ()
    modify fun s => mark s name
  return 0

/-- Reads a line of the input into parameters. -/
def readInput (names : List String) (raw : Bool) : Effect Nat := do
  let s ← get
  let line := s.channels.input.takeWhile (· != 10)
  set { s with channels := { s.channels with input := s.channels.input.drop (line.length + 1) } }
  let text := (keptText line).toList
  let text := if raw then text else text.filter (· != '\\')
  let isOuter (c : Char) := s.separators.contains c && isBlank c
  let text := ((text.dropWhile isOuter).reverse.dropWhile isOuter).reverse
  let values := splitInto s.separators names.length text
  (names.zipIdx).forM fun (name, i) => setParameter name (String.ofList (values.getD i []))
  return if line.length < s.channels.input.length then 0 else 1

/-- Prints what names of commands stand for. -/
def describeCommands (isLong : Bool) (names : List String) : Effect Nat := do
  let s ← get
  names.foldlM (fun status name => do
    if (s.named.lookup name).isSome then
      say (keptBytes (name ++ (if isLong then " is a shell function" else "") ++ "\n"))
      return status
    else if (specialNames ++ builtinNames).contains name then
      say (keptBytes (name ++ (if isLong then " is a shell builtin" else "") ++ "\n"))
      return status
    else if programNames.contains name || filterNames.contains name then
      say (keptBytes ((if isLong then name ++ " is " else "") ++ "/usr/bin/" ++ name ++ "\n"))
      return status
    else
      if isLong then say (keptBytes (name ++ ": not found\n"))
      return 127) 0

/-- Sets an action for signals. -/
def setAction (words : List String) : Effect Nat := do
  match words with
  | [] => return 0
  | action :: signals =>
      signals.foldlM (fun status name => do
        match trapped? name with
        | some signal =>
            modify fun s =>
              let others := s.traps.filter fun t => t.1 != signal
              { s with traps := if action = "-" then others else (signal, action) :: others }
            return status
        | none =>
            complainAsShell ("trap: " ++ name ++ ": bad trap")
            return 1) 0

/-- Sets actions for signals, or takes them back. -/
def setTraps (words : List String) : Effect Nat := do
  match words with
  | [] => return 0
  | [signal] =>
      modify fun s => { s with traps := s.traps.filter fun t => some t.1 != trapped? signal }
      return 0
  | "--" :: rest => setAction rest
  | words => setAction words

/-- Drops arguments of the script. -/
def shiftArguments (arguments : List String) : Effect Nat := do
  let dropped ← countArgument "shift" arguments
  let s ← get
  if s.arguments.length < dropped then giveUp "shift: can't shift that many"
  set { s with arguments := s.arguments.drop dropped }
  return 0

/-- Turns options on and off, and sets the arguments of the script. -/
def setOptions (words : List String) : Effect Nat := do
  match readOptions {} words with
  | .error option => giveUp ("set: Illegal option " ++ option)
  | .ok (options, rest) =>
      modify fun s => s.withOptions options
      if options.ended || !rest.isEmpty then modify fun s => { s with arguments := rest }
      return 0

/-- Takes the values of parameters away, or the commands behind names. -/
def unsetNames (names : List String) : Effect Nat := do
  modify fun s =>
    if names.head? = some "-f" then
      { s with named := s.named.filter fun c => !names.contains c.1 }
    else { s with bindings := s.bindings.filter fun v => !names.contains v.1 }
  return 0

/-- Waits until all other processes have ended. -/
def waitForJobs : Effect Nat := do
  let s ← get
  let last := s.jobs.foldl (fun last job => do return max (← last) (← job.endsAt)) (some s.clock)
  match last with
  | some clock => set { s with clock }; return 0
  | none => throw .hangs

/-- Leaves loops, or repeats one of them. -/
def leaveLoops (program : String) (flow : Nat → Flow) (arguments : List String) : Effect Nat := do
  let loops ← countArgument program arguments
  if (← get).loops = 0 then return 0 else throw (flow loops)

/-- Declares parameters of a command with a name. -/
def declareLocal (names : List String) : Effect Nat := do
  if (← get).calls = 0 then giveUp "local: not in a function"
  declareAll (fun s _ => s) names

/-- Runs a command of the shell itself that runs no other command, if there is one
of that name. -/
def builtin? (program : String) (arguments : List String) : Option (Effect Nat) :=
  match program, arguments with
  | "exit", [] => some (throw .exits)
  | "return", [] => some (throw .returns)
  | "exit", code :: _ => some (leaveWith "exit" .exits code)
  | "return", code :: _ => some (leaveWith "return" .returns code)
  | "break", _ => some (leaveLoops program .leaves arguments)
  | "continue", _ => some (leaveLoops program .repeats arguments)
  | "shift", _ => some (shiftArguments arguments)
  | "set", words => some (setOptions words)
  | "unset", names => some (unsetNames names)
  | "wait", _ => some waitForJobs
  | "read", words =>
      some (readInput (words.filter fun w => !hasStart w "-") (words.contains "-r"))
  | "command", "-v" :: names => some (describeCommands false names)
  | "command", "-V" :: names => some (describeCommands true names)
  | "type", names => some (describeCommands true names)
  | "export", names =>
      some (declareAll (fun s name => { s with exported := name :: s.exported }) names)
  | "readonly", names =>
      some (declareAll (fun s name => { s with fixed := name :: s.fixed }) names)
  | "local", names => some (declareLocal names)
  | "trap", words => some (setTraps words)
  | _, _ =>
      if ["alias", "hash", "times", "ulimit", "umask", "unalias"].contains program then
        some (return 0)
      else none

end TestCensus.Shell
