import TestCensus.Collect.Launch
import TestCensus.Shell.Run

/-!
# Starting programs

A system starts the programs that it knows by name (`knownNames`), or by a path in
one of its program directories.  The files of a tree cannot be started, since
none of them is executable.  Before that it goes to the directory in which the
program is to run.

A program that the system starts itself is stricter than the shell's own one of
the same name: most of them refuse options that they do not know.

`launcher` is all that the command line needs of these modules.
-/

namespace TestCensus.Shell

open TestCensus.Collect TestCensus.Files TestCensus.Text

/-- The programs that refuse options that they do not know. -/
def strictPrograms : List String :=
  ["cat", "sleep", "seq", "head", "tail", "wc", "ls", "touch", "pwd", "basename", "dirname", "yes",
    "sort", "cut", "mkdir", "rm", "rmdir"]

/-- The status of a program that refuses its options. -/
def refusal (program : String) : Nat := if program = "ls" || program = "sort" then 2 else 1

/-- The programs that a system knows. -/
def knownNames : List String := programNames ++ filterNames

/-- Runs a program that the system started itself. -/
def startedProgram (program : String) (arguments : List String) : Effect Nat := do
  let unknown := arguments.find? fun a => hasStart a "--" && a != "--"
  match strictPrograms.contains program, unknown with
  | true, some option =>
      complain (program ++ ": unrecognized option '" ++ option ++ "'" ++ helpHint program)
      return refusal program
  | _, _ =>
      match program, arguments with
      | "echo", words =>
          say (echoedPlain words)
          return 0
      | "printf", format :: first :: rest =>
          say (printed format (first :: rest)).bytes
          if !format.toList.contains '%' then
            complain ("printf: warning: ignoring excess arguments, starting with '" ++ first ++ "'")
          return 0
      | "sh", words => runShell depthLimit .started words
      | _, _ => runExternal depthLimit "" program arguments

/-- The program behind the assignments of `env`. -/
def behindAssignments : List String → List String
  | [] => []
  | a :: rest => if (assignment? a.toList).isSome then behindAssignments rest else a :: rest

/-- What a process does that runs a program in a tree, and the tree after it. -/
def runProcess (t : Tree) (program : String) (arguments : List String) : Behaviour × Tree :=
  let start : State := { tree := t, name := program, arguments := [] }
  let run : Effect Unit := do
    match program, behindAssignments arguments with
    | "env", inner :: rest =>
        if knownNames.contains (baseName inner) then
          finish (← startedProgram (baseName inner) rest)
        else
          complain ("env: '" ++ inner ++ "': No such file or directory")
          finish 127
    | _, _ => finish (← startedProgram program arguments)
  match run start with
  | .ok _ s => (s.behaviour (some (.status s.status)), s.tree)
  | .error .exits s => (s.behaviour (some (.status s.status)), s.tree)
  | .error (.killed _) s => (s.behaviour (some .signal), s.tree)
  | .error .hangs s => (s.behaviour none, s.tree)
  | .error _ s => (s.behaviour (some (.status s.status)), s.tree)

/-- The name of a program that the system knows. -/
def knownProgram? (program : String) : Option String :=
  if program.toList.contains '/' then
    if ["/bin", "/usr/bin"].contains (directoryName program) &&
        knownNames.contains (baseName program) then
      some (baseName program)
    else none
  else if knownNames.contains program then some program
  else none

/-- Directories that every system has. -/
def systemDirectories : List String :=
  ["/bin", "/dev", "/etc", "/home", "/lib", "/opt", "/root", "/tmp", "/usr", "/usr/bin",
    "/usr/lib", "/var"]

/-- Why the system cannot start what a path leads to. -/
def startError (t : Tree) (program : String) : String :=
  if program.toList.contains '/' then
    match t.place? ⟨program⟩ with
    | .ok _ => PathError.denied.message
    | .error e =>
        if systemDirectories.contains (Path.withoutEndSlashes ⟨program⟩).text then
          PathError.denied.message
        else e.message
  else if program = "." || program = ".." then PathError.denied.message
  else PathError.notFound.message

/-- Starts a program in a tree: what the process does and the tree after it, or why
there is no process. -/
def start (t : Tree) (launch : Collect.Launch) : Except String (Behaviour × Tree) :=
  let texts := launch.program :: launch.directory.text :: launch.arguments
  if texts.any fun s => s.toList.contains '\x00' then
    .error "nul byte found in provided data"
  else
    match t.place? launch.directory with
    | .error e => .error e.message
    | .ok place =>
        match place.node with
        | .directory _ =>
            let inside : Tree := { t with current := ⟨"/" ++ "/".intercalate place.names⟩ }
            match knownProgram? launch.program with
            | some program =>
                let (behaviour, after) := runProcess inside program launch.arguments
                .ok (behaviour, { after with current := t.current })
            | none => .error (startError inside launch.program)
        | .closed why => .error why.message
        | _ => .error PathError.notDirectory.message

/-- The launcher of a system with the files of a tree. -/
def launcher (t : Tree) : Launcher := fun launch => (start t launch).map Prod.fst

end TestCensus.Shell
