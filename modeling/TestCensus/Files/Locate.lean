import TestCensus.Failure
import TestCensus.Files.NameRule
import TestCensus.Files.Walk
import TestCensus.Settings.Basic

/-!
# Locating test files

The test files of a suite are looked for below the roots of the suite, one root
after the other.  A root that does not exist is skipped and noted.  A root that is
closed ends the search: without its files no other files mean anything.  The files that
were found are put in the order of their components, and of those with the same
components the first one found is kept (`inOrder`).

A search can be cancelled.  Before each event of a walk it looks at the handle,
which `seen` stands for: the events of all walks are numbered, and `seen n` says
whether the handle is found cancelled before the event `n`.  A search that was
cancelled locates nothing.
-/

namespace TestCensus.Files

open TestCensus.Text

/-! ## Exclude lists -/

/-- The rule for an entry of an exclude list. -/
def excludeRule (entry : String) : Except ScanFailure (Option IgnoreRule) :=
  match readRule .strict ('!' :: entry.toList) with
  | .ok rule => .ok rule
  | .error problem => .error (.invalidPattern entry problem.message)

/-- The rules of an exclude list for what is below a root. -/
def excludeRules (root : Path) (exclude : List String) : Except ScanFailure IgnoreRules :=
  (exclude.mapM excludeRule).map fun rules => ⟨root, rules.filterMap id⟩

/-! ## Roots -/

/-- Why a root that exists cannot be walked, if it is a directory that is closed. -/
def closedRoot? (t : Tree) (root : Path) : Option ScanFailure :=
  match t.node? root with
  | some (.closed .denied) => some (.permissionDenied (displayed root.text))
  | some (.closed why) => some (.io (displayed root.text) why.message)
  | _ => none

/-! ## Files -/

/-- What was located. -/
structure LocatedFiles where
  /-- The test files. -/
  files : List Path
  /-- The roots that do not exist. -/
  skippedRoots : List Path
  /-- What was wrong with the ignore files above the roots, and with directories below
  them. -/
  problems : List String

namespace LocatedFiles

/-- Nothing. -/
def empty : LocatedFiles := ⟨[], [], []⟩

/-- What was located below one root and below others. -/
def append (a b : LocatedFiles) : LocatedFiles :=
  ⟨a.files ++ b.files, a.skippedRoots ++ b.skippedRoots, a.problems ++ b.problems⟩

instance : Append LocatedFiles := ⟨append⟩

@[simp] theorem append_files (a b : LocatedFiles) : (a ++ b).files = a.files ++ b.files := rfl

@[simp] theorem append_empty (a : LocatedFiles) : a ++ empty = a := by
  show append a empty = a
  simp [append, empty]

@[simp] theorem empty_append (a : LocatedFiles) : empty ++ a = a := rfl

theorem append_assoc (a b c : LocatedFiles) : a ++ b ++ c = a ++ (b ++ c) := by
  show append (append a b) c = append a (append b c)
  simp [append, List.append_assoc]

end LocatedFiles

/-- Paths in order without those that have the components of the path before. -/
def dropRepeated : List Path → List Path
  | [] => []
  | p :: rest =>
      match dropRepeated rest with
      | [] => [p]
      | q :: others => if p.same q then p :: others else p :: q :: others

/-- Paths in the order of their components, each of them once. -/
def inOrder (paths : List Path) : List Path := dropRepeated (paths.mergeSort Path.comesBefore)

/-- What was located, with the files in order. -/
def LocatedFiles.arranged (l : LocatedFiles) : LocatedFiles := { l with files := inOrder l.files }

end TestCensus.Files

namespace TestCensus.ScanSettings

open TestCensus.Files

/-- The file is a test file by its name, which has to be a text. -/
def qualifies (s : ScanSettings) (p : Path) : Bool :=
  p.fileName?.any fun name =>
    Text.isExact name && isTestFileName s.effectiveFileStart s.effectiveExtensions name

/-- How ignore files count. -/
def ignoreFilesUse (s : ScanSettings) : IgnoreFilesUse :=
  if s.respectsIgnoreFiles then .respected else .passedOver

/-- What an event of a walk adds to what was located. -/
def ofEvent (s : ScanSettings) : WalkEvent → LocatedFiles
  | .problem message => ⟨[], [], [message]⟩
  | .entry path isFile => ⟨if isFile && s.qualifies path then [path] else [], [], []⟩

/-- What the events of a walk add to what was located. -/
def ofEvents (s : ScanSettings) (events : List WalkEvent) : LocatedFiles :=
  ⟨events.flatMap fun e => (s.ofEvent e).files, [], events.flatMap fun e => (s.ofEvent e).problems⟩

/-- The rules of the exclude list at a root that exists, unless it is closed. -/
def rulesAt (s : ScanSettings) (t : Tree) (root : Path) : Except ScanFailure IgnoreRules :=
  match closedRoot? t root with
  | some failure => .error failure
  | none => excludeRules root s.exclude

/-- Locates the test files below roots, in the order in which they are found.  The
first event is the one with number `n`. -/
def locateFrom (s : ScanSettings) (t : Tree) (seen : Nat → Bool) :
    Nat → List Path → Except ScanFailure LocatedFiles
  | _, [] => .ok .empty
  | n, root :: rest =>
      if !t.has root then do
        return ⟨[], [root], []⟩ ++ (← s.locateFrom t seen n rest)
      else do
        let events := t.walk s.ignoreFilesUse (← s.rulesAt t root) root
        if (List.range events.length).any fun i => seen (n + i) then .error .cancelled
        else return s.ofEvents events ++ (← s.locateFrom t seen (n + events.length) rest)

/-- Locates the test files below roots. -/
def locate (s : ScanSettings) (t : Tree) (seen : Nat → Bool) (roots : List Path) :
    Except ScanFailure LocatedFiles := do
  let located ← s.locateFrom t seen 0 roots
  return { located with files := inOrder located.files }

/-- Locates the test files below roots in a search that nobody cancels. -/
def findFiles (s : ScanSettings) (t : Tree) (roots : List Path) :
    Except ScanFailure LocatedFiles := s.locate t (fun _ => false) roots

end TestCensus.ScanSettings
