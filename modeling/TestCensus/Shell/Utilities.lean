import TestCensus.Shell.Condition
import TestCensus.Shell.State

/-!
# Utilities

The programs that scripts use besides the shell itself.  Each of them is a
function from its arguments to a command that gives its status.  A program that is
not among them cannot be found.
-/

namespace TestCensus.Shell

open TestCensus.Files TestCensus.Text

/-! ## Times and numbers -/

/-- The milliseconds that a text like `0.5` or `2m` gives. -/
def milliseconds? (s : String) : Option Nat :=
  let cs := s.toList
  let unit := match cs.getLast? with
    | some 'm' => 60
    | some 'h' => 3600
    | some 'd' => 86400
    | _ => 1
  let number := if cs.getLast?.any (fun c => c = 's' || c = 'm' || c = 'h' || c = 'd')
    then cs.dropLast else cs
  let whole := number.takeWhile Char.isDigit
  match number.dropWhile Char.isDigit with
  | [] => if whole.isEmpty then none else some (decimal whole * unit * 1000)
  | '.' :: fraction =>
      if fraction.all Char.isDigit && !(whole.isEmpty && fraction.isEmpty) then
        let thousandths := (fraction ++ ['0', '0', '0']).take 3
        some ((decimal whole * 1000 + decimal thousandths) * unit)
      else none
  | _ => none

/-- Numbers from the first to the last, in steps. -/
def numbers : Nat → Int → Int → Int → List Int
  | 0, _, _, _ => []
  | n + 1, first, step, last =>
      if (0 < step && last < first) || (step < 0 && first < last) || step = 0 then []
      else first :: numbers n (first + step) step last

/-- The signals that a process does not end at. -/
def harmlessSignals : List Nat := [0, 17, 18, 23, 28]

/-- The number of a signal, by number or name. -/
def signal? (s : String) : Option Nat :=
  match integer? s.toList with
  | some n => some n.toNat
  | none =>
      let name := if hasStart s "SIG" then (s.drop 3).toString else s
      [("HUP", 1), ("INT", 2), ("QUIT", 3), ("ABRT", 6), ("KILL", 9), ("USR1", 10), ("SEGV", 11),
        ("USR2", 12), ("PIPE", 13), ("ALRM", 14), ("TERM", 15), ("CHLD", 17), ("CONT", 18)].lookup
        name

/-! ## Files -/

/-- The text of an error without its number. -/
def plainMessage (e : PathError) : String := ((e.message.splitOn " (os error").head?).getD ""

/-- The bytes of several files; a dash is the input.  The files that cannot be read
are complained about. -/
def readAll (program : String) : List String → Effect (List UInt8 × Nat)
  | [] => return ([], 0)
  | file :: rest => do
      let s ← get
      let (first, failed) ←
        if file = "-" then pure (s.channels.input, 0)
        else
          match s.tree.readBytes ⟨file⟩ with
          | .ok bytes => pure (bytes, 0)
          | .error e => do
              complain (program ++ ": " ++ file ++ ": " ++ plainMessage e)
              pure ([], 1)
      let (more, status) ← readAll program rest
      return (first ++ more, max failed status)

/-- Lines of bytes with their ends. -/
def byteLines : List UInt8 → List (List UInt8)
  | [] => []
  | b :: rest =>
      if b = 10 then [b] :: byteLines rest
      else
        match byteLines rest with
        | [] => [[b]]
        | line :: others => (b :: line) :: others

/-- The names in a directory that are not hidden, in order. -/
def listing (node : Node) : List String :=
  ((node.entries.map Prod.fst).filter fun n => !hasStart n ".").mergeSort (fun a b => a ≤ b)

/-! ## Programs -/

/-- The name of the last piece of a path. -/
def baseName (path : String) : String :=
  let bare := (Path.withoutEndSlashes ⟨path⟩).text
  match splitAtLast '/' bare.toList with
  | some (_, name) => String.ofList name
  | none => if bare.isEmpty && !path.isEmpty then "/" else bare

/-- What stands before the last piece of a path. -/
def directoryName (path : String) : String :=
  match splitAtLast '/' (Path.withoutEndSlashes ⟨path⟩).text.toList with
  | some ([], _) => "/"
  | some (before, _) => String.ofList before
  | none => "."

/-- How a program points to its help. -/
def helpHint (program : String) : String :=
  "\nTry '" ++ program ++ " --help' for more information."

/-- Lets time pass. -/
def sleepFor : List String → Effect Nat
  | [] => do complain ("sleep: missing operand" ++ helpHint "sleep"); return 1
  | times =>
      if times.contains "infinity" then throw .hangs
      else
        match times.mapM milliseconds? with
        | some ms => do
            modify fun s => { s with clock := s.clock + ms.foldl (· + ·) 0 }
            return 0
        | none => do
            complain ("sleep: invalid time interval '" ++ " ".intercalate times ++ "'" ++ helpHint "sleep")
            return 1

/-- Ends a process that is not waited for. -/
def endJob (number : Nat) : Effect Unit :=
  modify fun s =>
    let place := s.jobs.length - number
    { s with jobs := s.jobs.mapIdx fun i job =>
        if i = place then
          { job with endsAt := some (match job.endsAt with
              | some time => min time s.clock
              | none => s.clock) }
        else job }

/-- Sends a signal to processes. -/
def sendSignal (signal : Nat) : List String → Effect Nat
  | [] => return 0
  | process :: rest => do
      match integer? process.toList with
      | none => complainAsShell ("kill: Illegal number: " ++ process); return 2
      | some number =>
          if harmlessSignals.contains signal then sendSignal signal rest
          else if number = shellProcess || number = 0 then
            match (← get).traps.lookup signal with
            | none => throw (.killed signal)
            | some action =>
                if signal = 9 then throw (.killed signal)
                if !action.isEmpty then
                  modify fun s => { s with pending := s.pending ++ [action] }
                sendSignal signal rest
          else do
            let job := number.toNat - shellProcess
            if 0 < job && job ≤ (← get).jobs.length then
              endJob job
              sendSignal signal rest
            else
              complainAsShell "kill: No such process"
              return 1

/-- Sends a signal to processes, as the arguments say. -/
def killProcesses : List String → Effect Nat
  | "-s" :: name :: processes => sendSignal ((signal? name).getD 15) processes
  | option :: processes =>
      match option.toList with
      | '-' :: name => sendSignal ((signal? (String.ofList name)).getD 15) processes
      | _ => sendSignal 15 (option :: processes)
  | [] => do 
      complainAsShell ("kill: Usage: kill [-s sigspec | -signum | -sigspec] [pid | job]... or\n" ++
        "kill -l [exitstatus]")
      return 2

/-- The number of lines that arguments ask for, and the other arguments. -/
def countOption (arguments : List String) : Nat × List String :=
  match arguments with
  | "-n" :: n :: rest => (decimal n.toList, rest)
  | option :: rest =>
      match option.toList with
      | '-' :: 'n' :: ds => (decimal ds, rest)
      | '-' :: ds => if ds.isEmpty then (10, arguments) else (decimal ds, rest)
      | _ => (10, arguments)
  | [] => (10, [])

/-- Prints the beginning of a file or of the input. -/
def headOf (arguments : List String) : Effect Nat := do
  match arguments with
  | "-c" :: n :: files =>
      let (bytes, status) ← readAll "head" (if files.isEmpty then ["-"] else files)
      say (bytes.take (decimal n.toList))
      return status
  | _ =>
      let (count, files) := countOption arguments
      let (bytes, status) ← readAll "head" (if files.isEmpty then ["-"] else files)
      say ((byteLines bytes).take count).flatten
      return status

/-- Prints how many lines a file or the input has. -/
def countLines (arguments : List String) : Effect Nat := do
  let files := arguments.filter fun a => !hasStart a "-"
  let (bytes, status) ← readAll "wc" (if files.isEmpty then ["-"] else files)
  let shown := toString (bytes.countP (· == 10))
  say (keptBytes (shown ++ (if files.isEmpty then "" else " " ++ " ".intercalate files) ++ "\n"))
  return status

/-- Prints numbers, each on a line. -/
def printNumbers (arguments : List String) : Effect Nat := do
  let limit := 1000000
  let shown ← match arguments.mapM fun a => integer? a.toList with
    | some [last] => pure (numbers limit 1 1 last)
    | some [first, last] => pure (numbers limit first 1 last)
    | some [first, step, last] => pure (numbers limit first step last)
    | _ => do complain "seq: missing operand"; return 1
  say (keptBytes (String.join (shown.map fun n => toString n ++ "\n")))
  return 0

/-- Prints what is in directories. -/
def listFiles (arguments : List String) : Effect Nat := do
  let s ← get
  let path := (arguments.filter fun a => !hasStart a "-").head?.getD "."
  match s.tree.place? ⟨path⟩ with
  | .ok place =>
      let names := if place.node.isDirectory then listing place.node else [path]
      say (keptBytes (String.join (names.map (· ++ "\n"))))
      return 0
  | .error e => complain ("ls: cannot access '" ++ path ++ "': " ++ plainMessage e); return 2

/-- Prints whether a condition holds, as a status. -/
def checkCondition (program : String) (arguments : List String) : Effect Nat := do
  match conditions (← get).tree arguments with
  | .ok b => return if b then 0 else 1
  | .error what =>
      let isNumber := arguments.length = 3 && (binary? "0" (arguments.getD 1 "") "0").isSome
      complainAsShell (program ++ ": " ++
        (if isNumber then "Illegal number: " ++ what else what ++ ": unexpected operator"))
      return 2

/-- Goes to a directory. -/
def changeDirectory (path : String) : Effect Nat := do
  let s ← get
  match s.tree.place? ⟨path⟩ with
  | .ok place =>
      if place.node.isDirectory then
        let current : Path := ⟨"/" ++ "/".intercalate place.names⟩
        set { s with tree := { s.tree with current } }
        return 0
      else
        complainAsShell ("cd: can't cd to " ++ path)
        return 2
  | .error _ => complainAsShell ("cd: can't cd to " ++ path); return 2

/-- Prints arguments in a format. -/
def printFormat (format : String) (arguments : List String) : Effect Nat := do
  let p := printed format arguments
  say p.bytes
  p.problems.forM fun problem => complainAsShell ("printf: " ++ problem)
  match p.invalid with
  | some place =>
      complainAsShell ("printf: " ++ place ++ ": invalid directive")
      return 2
  | none => return if p.problems.isEmpty then 0 else 1

/-- Makes sure that files exist. -/
def touchFiles (files : List String) : Effect Nat := do
  modify fun s => { s with tree := files.foldl (fun t f =>
    if t.has ⟨f⟩ then t else (t.write ⟨f⟩ []).toOption.getD t) s.tree }
  return 0

/-- Prints a line for ever. -/
def printForever (words : List String) : Effect Nat := do
  let line := if words.isEmpty then "y" else " ".intercalate words
  say (List.replicate 20000 (keptBytes (line ++ "\n"))).flatten
  throw .hangs

/-- Runs a utility, if there is one of that name. -/
def utility? (program : String) (arguments : List String) : Option (Effect Nat) :=
  match program with
  | ":" | "true" => some (return 0)
  | "false" => some (return 1)
  | "echo" => some (do say (echoed arguments); return 0)
  | "printf" => some (do
      match arguments with
      | [] => complainAsShell "printf: usage: printf format [arg ...]"; return 2
      | "--" :: format :: rest => printFormat format rest
      | format :: rest => printFormat format rest)
  | "test" => some (checkCondition "test" arguments)
  | "[" => some (
      if arguments.getLast? = some "]" then checkCondition "[" arguments.dropLast
      else do complainAsShell "[: missing ]"; return 2)
  | "sleep" => some (sleepFor arguments)
  | "kill" => some (killProcesses arguments)
  | "cat" => some (do
      let (bytes, status) ← readAll "cat" (if arguments.isEmpty then ["-"] else arguments)
      say bytes
      return status)
  | "head" => some (headOf arguments)
  | "wc" => some (countLines arguments)
  | "seq" => some (printNumbers arguments)
  | "ls" => some (listFiles arguments)
  | "yes" => some (printForever arguments)
  | "touch" => some (touchFiles arguments)
  | "pwd" => some (do say (keptBytes ((← get).tree.current.text ++ "\n")); return 0)
  | "cd" => some (changeDirectory (arguments.head?.getD "."))
  | "basename" => some (do say (keptBytes (baseName (arguments.head?.getD "") ++ "\n")); return 0)
  | "dirname" => some (do say (keptBytes (directoryName (arguments.head?.getD "") ++ "\n")); return 0)
  | _ => none

/-- The utilities that are programs of their own. -/
def programNames : List String :=
  ["true", "false", "echo", "printf", "test", "[", "sleep", "cat", "head", "wc", "seq", "ls",
    "touch", "pwd", "basename", "dirname", "yes", "env", "sh"]

end TestCensus.Shell
