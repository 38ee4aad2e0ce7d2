import TestCensus.Shell.Builtins
import TestCensus.Shell.Redirect

/-!
# Running scripts

Running a command changes the state of a shell.  Words are expanded to fields
first.  Text that was put in without quotes is split at separators, which are
blanks unless the script says something else, and what stands between quotes is
not.

Commands run other commands to any depth, which fuel bounds, and loops are
repeated at most `loopLimit` times.  What takes more than that never ends, as far
as can be seen.
-/

namespace TestCensus.Shell

open TestCensus.Collect TestCensus.Files TestCensus.Text

/-- The number of times that a loop can be seen to be repeated. -/
def loopLimit : Nat := 100000

/-- The depth to which commands can be seen to run others. -/
def depthLimit : Nat := 1000

/-- Who runs a shell. -/
inductive Caller where
  /-- The system; a signal ends the process. -/
  | started
  /-- Another shell; it goes on when a signal ends the inner one. -/
  | shell
deriving DecidableEq

/-! ## Scripts -/

/-- The commands of a script up to a fault, and the fault if there is one. -/
def readCommands : Nat → List Char → List Command × Option Fault
  | 0, _ => ([], none)
  | _, [] => ([], none)
  | n + 1, cs =>
      match readLine (readFuel cs.length) cs with
      | .ok (command, rest) =>
          let (more, fault) := readCommands n rest
          (command :: more, fault)
      | .error fault => ([], some fault)

mutual

/-- The pieces that a part of a word gives. -/
def expandPart : Nat → Part → Effect (List Piece)
  | 0, _ => throw .hangs
  | n + 1, part => do
      match part with
      | .text q cs => return [.solid (cs.map (q, ·))]
      | .parameter q name =>
          if name = "@" && q then return [.fields (← get).arguments]
          else return [(← get).piece q (← valueOrNothing name)]
      | .adjusted q name adjustment word => expandAdjusted n q name adjustment word
      | .size q name => return [(← get).piece q (toString (← valueOrNothing name).length)]
      | .sum q word =>
          let cs := (← expandJoined n word).map Prod.snd
          let s ← get
          match sum (fun name => (s.value? name).getD "") cs with
          | .ok (a, assigned) =>
              assigned.reverse.forM fun (name, new) => setParameter name (toString new)
              return [s.piece q (toString a)]
          | .error f => giveUp (f.message (String.ofList cs))
      | .output q body =>
          let text := insertedText (← capturing n (runCommand n body))
          return [(← get).piece q text]
where
  /-- The value of a parameter, which is empty if it is not set. -/
  valueOrNothing (name : String) : Effect String := do
    let s ← get
    match s.value? name with
    | some value => return value
    | none =>
        if s.stopsAtMissing && name != "@" && name != "*" then
          giveUp (name ++ ": parameter not set")
        else return ""

/-- The pieces that an adjusted parameter gives. -/
def expandAdjusted : Nat → Bool → String → Adjustment → Word → Effect (List Piece)
  | 0, _, _, _, _ => throw .hangs
  | n + 1, q, name, adjustment, word => do
      let s ← get
      let value := s.value? name
      let found := [s.piece q (value.getD "")]
      let isMissing (ifEmpty : Bool) : Bool := value.isNone || (ifEmpty && value = some "")
      let inserted : Effect (List Piece) := do
        let pieces ← expandParts n word
        return if q then [.solid ((joined pieces).map fun m => (true, m.2))]
          else pieces.map s.loosened
      match adjustment with
      | .default ifEmpty => if isMissing ifEmpty then inserted else return found
      | .replaced ifEmpty => if isMissing ifEmpty then return [s.piece q ""] else inserted
      | .assigned ifEmpty =>
          if isMissing ifEmpty then
            let new := unmarked (← expandJoined n word)
            setParameter name new
            return [s.piece q new]
          else return found
      | .demanded ifEmpty =>
          if isMissing ifEmpty then
            let message := unmarked (← expandJoined n word)
            let standard := "parameter not set" ++ (if ifEmpty then " or null" else "")
            giveUp (name ++ ": " ++ (if word.isEmpty then standard else message))
          else return found
      | .withoutEnd longest =>
          let ms ← expandJoined n word
          return [s.piece q (String.ofList (withoutEnd longest ms (value.getD "").toList))]
      | .withoutStart longest =>
          let ms ← expandJoined n word
          return [s.piece q (String.ofList (withoutStart longest ms (value.getD "").toList))]
      | .unknown => giveUp "Bad substitution"

/-- The pieces that words give. -/
def expandParts : Nat → List Part → Effect (List Piece)
  | 0, _ => throw .hangs
  | _, [] => return []
  | n + 1, part :: rest => do
      let first ← expandPart n part
      return first ++ (← expandParts n rest)

/-- The characters that a word gives that is not split. -/
def expandJoined : Nat → Word → Effect (List Mark)
  | 0, _ => throw .hangs
  | n + 1, word => return joined (← expandParts n word)

/-- The fields that words give. -/
def expandWords : Nat → List Word → Effect (List String)
  | 0, _ => throw .hangs
  | _, [] => return []
  | n + 1, word :: rest => do
      let fields := ((← expandParts n word).foldl Fields.add {}).all
      let t := (← get).tree
      return fields.flatMap (matchingPaths t) ++ (← expandWords n rest)

/-- The channels after redirections; `none` if one of them fails. -/
def redirect : Nat → Channels → List Redirection → Effect (Option Channels)
  | 0, _, _ => throw .hangs
  | _, c, [] => return some c
  | n + 1, c, r :: rest => do
      match r with
      | .toChannel channel other =>
          match c.sink? other with
          | some sink => redirect n (c.withSink channel sink) rest
          | none =>
              complainAsShell (toString other ++ ": Bad file descriptor")
              return none
      | .closed channel => redirect n (c.closing channel) rest
      | .fromText text =>
          let input := bytesOf ((← expandJoined n text).map Prod.snd)
          redirect n { c with input } rest
      | .toFile channel keeps word =>
          let path := unmarked (← expandJoined n word)
          match openSink (← get).tree keeps path with
          | .ok (sink, tree) =>
              modify fun s => { s with tree }
              redirect n (c.withSink channel sink) rest
          | .error e =>
              complainAsShell ("cannot create " ++ path ++ ": " ++
                shellMessage "Directory nonexistent" e)
              return none
      | .fromFile word =>
          let path := unmarked (← expandJoined n word)
          if path = "/dev/null" then redirect n { c with input := [] } rest
          else
            match (← get).tree.readBytes ⟨path⟩ with
            | .ok bytes => redirect n { c with input := bytes } rest
            | .error e =>
                complainAsShell ("cannot open " ++ path ++ ": " ++ shellMessage "No such file" e)
                return none

/-- Runs a command with redirections. -/
def redirected : Nat → List Redirection → Effect Unit → Effect Unit
  | 0, _, _ => throw .hangs
  | _, [], body => body
  | n + 1, redirections, body => do
      match ← redirect n (← get).channels redirections with
      | some channels =>
          withChannels (!redirections.any Redirection.isInput) channels body
      | none => finish 2

/-- Assigns the values of words to parameters. -/
def assign : Nat → List (String × Word) → Effect Unit
  | 0, _ => throw .hangs
  | _, [] => return
  | n + 1, (name, word) :: rest => do
      setParameter name (unmarked (← expandJoined n word))
      assign n rest

/-- Runs a program with arguments and gives its status. -/
def runProgram : Nat → String → List String → Effect Nat
  | 0, _, _ => throw .hangs
  | n + 1, program, arguments => do
      let s ← get
      match if specialNames.contains program then none else s.named.lookup program with
      | some body => runNamed n body arguments
      | none => runBuiltin n program arguments

/-- Runs a command with a name on arguments. -/
def runNamed : Nat → Command → List String → Effect Nat
  | 0, _, _ => throw .hangs
  | n + 1, body, arguments => do
      let before ← get
      set { before with arguments, replaced := [], calls := before.calls + 1, loops := 0 }
      let flow ←
        try
          runCommand n body
          pure none
        catch
          | .returns => pure none
          | flow => pure (some flow)
      let s ← get
      set
        { s.replaced.foldl (fun s r => s.setTo r.1 r.2) s with
          arguments := before.arguments
          replaced := before.replaced
          calls := before.calls
          loops := before.loops }
      match flow with
      | some flow => throw flow
      | none => return (← get).status

/-- Runs a command of the shell itself, or else a program. -/
def runBuiltin : Nat → String → List String → Effect Nat
  | 0, _, _ => throw .hangs
  | n + 1, program, arguments => do
      match builtin? program arguments with
      | some body => body
      | none =>
          match program, arguments with
          | "eval", words => runText n (" ".intercalate words); return (← get).status
          | ".", file :: _ => runFile n file
          | ".", [] => return 0
          | "exec", [] => return 0
          | "exec", inner :: rest =>
              finish (← runExternal n "exec: " inner rest)
              throw .exits
          | "command", "-p" :: inner :: rest => runBuiltin n inner rest
          | "command", inner :: rest => runBuiltin n inner rest
          | _, _ => runExternal n "" program arguments

/-- Runs the script in a file as a part of the running one. -/
def runFile : Nat → String → Effect Nat
  | 0, _ => throw .hangs
  | n + 1, file => do
      match (← get).tree.readBytes ⟨file⟩ with
      | .error e => giveUp (".: cannot open " ++ file ++ ": " ++ shellMessage "No such file" e)
      | .ok bytes =>
          finish 0
          try runText n (keptText bytes)
          catch
            | .returns => pure ()
            | flow => throw flow
          return (← get).status

/-- Runs a program.  The words before its name in a complaint are given. -/
def runExternal : Nat → String → String → List String → Effect Nat
  | 0, _, _, _ => throw .hangs
  | n + 1, before, program, arguments => do
      match program, arguments with
      | "sh", rest => runShell n .shell rest
      | "env", [] => printVariables
      | "env", inner :: rest => runEnvironment n (inner :: rest)
      | _, _ =>
          match (utility? program arguments).or (filter? program arguments) with
          | some body => body
          | none =>
              let known := (programNames ++ filterNames).contains (baseName program) &&
                ["/bin", "/usr/bin"].contains (directoryName program)
              if program.toList.contains '/' && known then
                runExternal n before (baseName program) arguments
              else if program.toList.contains '/' && (← get).tree.has ⟨program⟩ then
                complainAsShell (before ++ program ++ ": Permission denied")
                return 126
              else
                complainAsShell (before ++ program ++ ": not found")
                return 127
where
  /-- Prints the parameters that programs get. -/
  printVariables : Effect Nat := do
    let s ← get
    let shown := (s.bindings.filter fun v => s.exported.contains v.1).reverse
    say (keptBytes (String.join (shown.map fun v => v.1 ++ "=" ++ v.2 ++ "\n")))
    return 0

/-- Runs a program behind the assignments of `env`. -/
def runEnvironment : Nat → List String → Effect Nat
  | 0, _ => throw .hangs
  | _, [] => return 0
  | n + 1, a :: rest => do
      match assignment? a.toList with
      | none => runExternal n "env: " a rest
      | some (name, value) =>
          let before ← get
          set { before.setValue name (String.ofList value) with
            exported := name :: before.exported }
          let status ← runEnvironment n rest
          modify fun s => { s with bindings := before.bindings, exported := before.exported }
          return status

/-- Runs a shell of its own. -/
def runShell : Nat → Caller → List String → Effect Nat
  | 0, _, _ => throw .hangs
  | n + 1, caller, words => do
      let inner (options : ShellOptions) (name : String) (arguments : List String)
          (script : String) : Effect Nat := do
        let outer ← get
        apart do
          modify fun s =>
            let fresh : State :=
              { tree := s.tree, name, arguments, exported := s.exported, clock := s.clock
                channels := s.channels, written := s.written, jobs := s.jobs
                bindings := s.bindings.filter fun v => s.exported.contains v.1 }
            fresh.withOptions options
          try
            leaving (runText n script)
            runExitTrap n
          catch
            | .killed signal =>
                if caller = .started then throw (.killed signal) else finish (128 + signal)
            | flow => throw flow
        let status := (← get).status
        modify fun s => { s with status := outer.status }
        return status
      match readOptions {} words with
      | .error option =>
          complain ("sh: 0: Illegal option " ++ option)
          return 2
      | .ok (options, rest) =>
          match options.on.contains 'c', rest with
          | true, script :: name :: arguments => inner options name arguments script
          | true, [script] => inner options "sh" [] script
          | true, [] =>
              complain "sh: 0: -c requires an argument"
              return 2
          | false, [] => inner options "sh" [] (keptText (← get).channels.input)
          | false, file :: arguments =>
              match (← get).tree.readBytes ⟨file⟩ with
              | .ok bytes => inner options file arguments (keptText bytes)
              | .error e =>
                  complain ("sh: 0: cannot open " ++ file ++ ": " ++
                    shellMessage "No such file" e)
                  return 2

/-- Runs the text of a script up to its end or up to a fault. -/
def runText : Nat → String → Effect Unit
  | 0, _ => throw .hangs
  | n + 1, script => do
      let cs := script.toList
      let before := (← get).lines
      let lines := lineEnds cs + 1
      let (commands, fault) := readCommands (cs.length + 1) cs
      modify fun s => { s with lines }
      commands.forM (runCommand n)
      match fault with
      | some f =>
          modify fun s => { s with line := lines - f.linesLeft }
          giveUp f.message
      | none => modify fun s => { s with lines := before }

/-- Runs the actions that signals asked for. -/
def runPending : Nat → Effect Unit
  | 0 => throw .hangs
  | n + 1 => do
      let s ← get
      if !s.pending.isEmpty then
        set { s with pending := [] }
        s.pending.forM (runText n)
        finish s.status

/-- Runs the action for the end of a script. -/
def runExitTrap : Nat → Effect Unit
  | 0 => throw .hangs
  | n + 1 => do
      let s ← get
      match s.traps.lookup 0 with
      | none => return
      | some action =>
          set { s with traps := s.traps.filter fun t => t.1 != 0 }
          runText n action
          finish s.status

/-- Runs a command in a shell of its own that begins as a copy. -/
def runCopy : Nat → Command → Effect Unit
  | 0, _ => throw .hangs
  | n + 1, body =>
      apart do
        modify fun s => { s with traps := [], loops := 0 }
        leaving (runCommand n body)
        runExitTrap n

/-- Runs a command. -/
def runCommand : Nat → Command → Effect Unit
  | 0, _ => throw .hangs
  | n + 1, command => do
      match command with
      | .nothing => return
      | .simple linesLeft assignments words redirections =>
          modify fun s => { s with line := s.lines - linesLeft }
          match ← expandWords n words with
          | [] =>
              redirected n redirections (do finish 0; assign n assignments)
              stopAtFailure
          | ["exec"] =>
              match ← redirect n (← get).channels redirections with
              | some channels => modify fun s => { s with channels, status := 0 }
              | none => finish 2
          | program :: arguments =>
              redirected n redirections do
                let before ← get
                assign n assignments
                modify fun s => { s with exported := assignments.map Prod.fst ++ s.exported }
                let status ← runProgram n program arguments
                finish status
                if !assignments.isEmpty then
                  modify fun s => { s with bindings := before.bindings, exported := before.exported }
              runPending n
              stopAtFailure
      | .sequence first second => runCommand n first; runCommand n second
      | .andThen first second =>
          tested (runCommand n first)
          if (← get).status = 0 then runCommand n second
      | .orElse first second =>
          tested (runCommand n first)
          if (← get).status != 0 then runCommand n second
      | .negation body =>
          tested (runCommand n body)
          finish (if (← get).status = 0 then 1 else 0)
      | .background body => runJob n body
      | .pipeline first second =>
          let start := (← get).clock
          let bytes ← feeding n (tested (runCommand n first))
          let firstEnd := (← get).clock
          modify fun s => { s with clock := start }
          withChannels false { (← get).channels with input := bytes }
            (tested (runCopy n second))
          modify fun s => { s with clock := max s.clock firstEnd }
          stopAtFailure
      | .group body redirections => redirected n redirections (runCommand n body)
      | .subshell body redirections =>
          redirected n redirections (runCopy n body)
          stopAtFailure
      | .branch condition whenTrue whenFalse =>
          tested (runCommand n condition)
          if (← get).status = 0 then runCommand n whenTrue
          else
            finish 0
            runCommand n whenFalse
      | .loop untilSuccess condition body =>
          let step : Effect Bool := do
            let before := (← get).status
            let goesOn ← loopBody (tested (runCommand n condition))
            if goesOn && ((← get).status = 0) != untilSuccess then loopBody (runCommand n body)
            else
              finish before
              return false
          finish 0
          repeatStep step loopLimit
      | .each name words body =>
          let values ← match words with
            | some ws => expandWords n ws
            | none => pure (← get).arguments
          finish 0
          runEach n name body values
      | .choice word cases =>
          let text := (← expandJoined n word).map Prod.snd
          finish 0
          runCases n text cases
      | .named name body =>
          modify fun s => { s with named := (name, body) :: s.named.filter fun c => c.1 != name }
          finish 0

/-- Runs a command once for each value of a parameter. -/
def runEach : Nat → String → Command → List String → Effect Unit
  | 0, _, _, _ => throw .hangs
  | n + 1, name, body, values =>
      let step (value : String) : Effect Bool := do
        setParameter name value
        loopBody (runCommand n body)
      stepThrough step values
where
  /-- Takes a step for each value, until one of them ends the loop. -/
  stepThrough (step : String → Effect Bool) : List String → Effect Unit
    | [] => return
    | value :: rest => do if ← step value then stepThrough step rest

/-- Runs the command of the first case with a matching pattern. -/
def runCases : Nat → List Char → List (List Word × Command) → Effect Unit
  | 0, _, _ => throw .hangs
  | _, _, [] => return
  | n + 1, text, (patterns, body) :: rest => do
      let patterns ← expandPatterns n patterns
      if patterns.any fun p => matchesPattern p text then runCommand n body
      else runCases n text rest

/-- The patterns that words give. -/
def expandPatterns : Nat → List Word → Effect (List (List Mark))
  | 0, _ => throw .hangs
  | _, [] => return []
  | n + 1, word :: rest => do
      let first ← expandJoined n word
      return first :: (← expandPatterns n rest)

/-- Runs a command that is not waited for.  It holds the sinks of its channels. -/
def runJob : Nat → Command → Effect Unit
  | 0, _ => throw .hangs
  | n + 1, body => do
      let before ← get
      let channels ← match body with
        | .simple _ _ _ redirections => redirect n before.channels redirections
        | .group _ redirections => redirect n before.channels redirections
        | .subshell _ redirections => redirect n before.channels redirections
        | _ => pure (some before.channels)
      let held := channels.getD before.channels
      let endsAt ←
        try
          withChannels false { before.channels with input := [] } (runCopy n body)
          pure (some (← get).clock)
        catch
          | .hangs => pure none
          | flow => throw flow
      modify fun s =>
        { s with
          clock := before.clock
          status := 0
          jobs := ⟨[held.output, held.errors], endsAt⟩ :: s.jobs }

end

end TestCensus.Shell
