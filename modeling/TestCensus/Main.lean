import TestCensus.Command.Run
import TestCensus.Shell.Launch

/-!
# The command line

The command runs on a picture of the file system (`Files.Tree`) that is taken
before it starts, and the report is written when it has ended.

The picture holds the current directory, the root of the project and the roots of
its test suites, with everything below them that is not hidden.  It also holds the
file with the settings, the directory of the report, and in the directories above
a root whatever ignore rules come from.  A directory that cannot be listed is closed,
and a file that cannot be read is missing.

The programs that a collector may run are those of `Shell.launcher`.
-/

namespace TestCensus.Picture

open TestCensus.Files

/-- What an action gives, or nothing if it fails. -/
def attempt? (action : IO α) : IO (Option α) := do
  match ← action.toBaseIO with
  | .ok a => return some a
  | .error _ => return none

/-- The names of what ignore rules come from. -/
def ignoreNames : List String := [".git", ".gitignore", ".ignore"]

/-- The entry of a directory belongs into the picture.  Of a repository only the
file with its ignore rules does. -/
def isPictured (directory : List String) (name : String) : Bool :=
  match directory.reverse with
  | ".git" :: _ => name = "info"
  | "info" :: ".git" :: _ => name = "exclude"
  | _ => !name.startsWith "." || ignoreNames.contains name

/-- The absolute path of the names from the root. -/
def pathOf (names : List String) : String := "/" ++ "/".intercalate names

/-- The names from the root to the end of an absolute path without dots. -/
def namesOf (path : String) : List String := (path.splitOn "/").filter (! ·.isEmpty)

/-- Why listing a directory failed. -/
def reasonOf : IO.Error → PathError
  | .permissionDenied .. => .denied
  | _ => .inputOutput

/-- What is at the end of a list of names.  A link leads to the place that it ends
at.  `inside` gives a directory. -/
def nodeWith? (inside : List String → IO Node) (names : List String) : IO (Option Node) := do
  let some target ← attempt? (IO.FS.realPath (pathOf names)) | return none
  if target.toString ≠ pathOf names then return some (.link target.toString)
  if ← target.isDir then return some (← inside names)
  return (← attempt? (IO.FS.readBinFile target)).map fun bytes => .file bytes.toList

/-- A directory with those of its entries that belong into the picture, and with
everything inside them. -/
partial def inside (names : List String) : IO Node := do
  let directory ← IO.FS.realPath (pathOf names)
  match ← directory.readDir.toBaseIO with
  | .error e => return .closed (reasonOf e)
  | .ok found =>
      .directory <$> found.toList.filterMapM fun entry => do
        if isPictured names entry.fileName then
          return (← nodeWith? inside (names ++ [entry.fileName])).map (entry.fileName, ·)
        else
          return none

/-- A tree with what is at the end of a list of names.  What the tree holds already
stays. -/
def addWith (inside : List String → IO Node) (t : Tree) (names : List String) : IO Tree := do
  if (t.root.at? names).isSome then return t
  return ((← nodeWith? inside names).map (t.put names)).getD t

/-- A tree with the directories and links on the way to a path, and with what is at
its end, but nothing inside it. -/
def addWay (t : Tree) (path : Path) : IO Tree :=
  let addEntry := addWith fun _ => pure (.directory [])
  (t.current.join path.text).beginnings.foldlM (fun t above => do
    match t.land false above with
    | .ok (.absent names) =>
        let t ← addEntry t names
        match t.root.at? names with
        | some (.link target) =>
            (Path.beginnings ⟨target⟩).foldlM (fun t above => addEntry t (namesOf above.text)) t
        | _ => return t
    | _ => return t) t

/-- A tree with everything that a path leads to, and with what ignore rules come
from above it. -/
def addAll (t : Tree) (path : Path) : IO Tree := do
  let t ← addWay t path
  let .ok place := t.place? path | return t
  if !place.node.isDirectory then return t
  let t := t.put place.names (← inside place.names)
  let above := (List.range place.names.length).map place.names.take
  (above.flatMap fun names => ignoreNames.map fun name => names ++ [name]).foldlM
    (addWith inside) t

/-- The picture for a command with arguments. -/
def take (a : Command.Arguments) (environment : Variables) : IO Tree := do
  let root : Path := ⟨a.root.getD "."⟩
  let start : Tree := { root := .directory [], current := ⟨(← IO.currentDir).toString⟩ }
  let t ← addAll (← addWay start start.current) root
  let named := [a.config.map Files.Path.mk, a.output.map fun p => Path.directory ⟨p⟩].filterMap id
  let t ← (root.join settingsFileName :: named).foldlM addWay t
  match Settings.load t root (a.config.map Files.Path.mk) environment a.overrides with
  | .error _ => return t
  | .ok settings => (settings.scan.effectiveTestDirs.map root.join).foldlM addAll t

end TestCensus.Picture

open TestCensus in
/-- Runs the command. -/
def main (arguments : List String) : IO UInt32 := do
  let read := (Command.Arguments.read arguments).toOption
  let set ← [Variables.threadsName, Variables.collectEnabledName, Variables.collectTimeoutName,
    Variables.markModuleName].mapM fun name => return (name, ← IO.getEnv name)
  let environment := Variables.ofLookup fun name => (set.lookup name).join
  let tree ← Picture.take (read.getD {}) environment
  let collectorOf (c : CollectSettings) (root : Files.Path) :=
    (Collect.Inquiry.ofSettings c root).collector (Shell.launcher tree)
  let stdout ← IO.getStdout
  let outcome := Command.run tree collectorOf environment (← stdout.isTty) arguments
  stdout.putStr outcome.output
  if !outcome.failure.isEmpty then
    (← IO.getStderr).putStrLn outcome.failure
  else if let some path := read.bind (·.output) then
    if let .ok report := outcome.tree.readBytes ⟨path⟩ then
      IO.FS.writeBinFile path ⟨report.toArray⟩
  return outcome.status.toUInt32
