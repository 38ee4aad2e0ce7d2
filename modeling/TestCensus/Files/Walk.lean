import TestCensus.Files.IgnoreRules
import TestCensus.Files.Tree

/-!
# Walking a directory

`Tree.walk` goes through everything below a root that is not skipped, and through
the root itself, which never is.  A root that is a link is followed; a link below
a root is an entry of its own and is not followed.  A directory that is closed is an
entry of its own too, and it is a problem that it cannot be listed.

An entry is skipped for the first of these reasons that decides.

1. A rule of the exclude list matches it.
2. The ignore files say that it is ignored, or that it is kept.
3. Its name begins with a dot.

The ignore files that count are those of the directories from the entry up to the
root of the file system.  Of the files of one kind, the nearest with a matching
rule decides, and `.ignore` files go before those of a repository.  Those of a
repository count only inside of one, and only up to the nearest directory that is
one.
-/

namespace TestCensus.Files

open TestCensus.Text

/-! ## Ignore files of a directory -/

/-- The ignore files of a directory. -/
structure DirectoryRules where
  /-- The path of the directory. -/
  directory : Path
  /-- The directory is a repository. -/
  isRepository : Bool
  /-- The rules for every walk. -/
  general : IgnoreRules
  /-- The rules that belong to a repository. -/
  shared : IgnoreRules
  /-- The rules that belong to one copy of a repository. -/
  personal : IgnoreRules

namespace Tree

/-- The ignore file at a path; without rules if there is none. -/
def ignoreFile (t : Tree) (p : Path) : IgnoreFile :=
  match t.readBytes p with
  | .ok bytes => IgnoreFile.ofBytes bytes
  | .error _ => .empty

/-- The paths of the ignore files of a directory: general, shared and personal. -/
def ignorePaths (directory : Path) : Path × Path × Path :=
  (directory.join ".ignore", directory.join ".gitignore",
    (directory.join ".git").join "info/exclude")

/-- The ignore files of a directory. -/
def directoryRules (t : Tree) (directory : Path) : DirectoryRules :=
  let (general, shared, personal) := ignorePaths directory
  let rulesAt (p : Path) : IgnoreRules := ⟨directory, (t.ignoreFile p).rules⟩
  { directory
    isRepository := t.has (directory.join ".git") || t.has (directory.join ".jj")
    general := rulesAt general
    shared := rulesAt shared
    personal := rulesAt personal }

/-- The problems of the ignore files of a directory. -/
def ignoreProblems (t : Tree) (directory : Path) : List String :=
  let (general, shared, personal) := ignorePaths directory
  [general, shared, personal].flatMap fun p => (t.ignoreFile p).shownProblems p

end Tree

/-! ## Skipping -/

/-- What a walk knows at a directory. -/
structure WalkRules where
  /-- The rules of the exclude list. -/
  excluded : IgnoreRules
  /-- The ignore files of the directories of the walk, nearest first. -/
  within : List DirectoryRules
  /-- The ignore files of the directories above the root, nearest first. -/
  above : List DirectoryRules
  /-- The root without links. -/
  canonicalRoot : Path

/-- The directories up to the first one that is a repository. -/
def upToRepository : List (DirectoryRules × List Char) → List (DirectoryRules × List Char)
  | [] => []
  | d :: rest => if d.1.isRepository then [d] else d :: upToRepository rest

namespace WalkRules

/-- The path of an entry below the root without links.  The root is cut off as
text. -/
def canonicalPath (w : WalkRules) (path : List Char) : List Char :=
  let relative :=
    match w.within.getLast? with
    | none => path
    | some d =>
        if d.directory.components = [.here] then path
        else without ['/'] (without (withoutHere d.directory.text.toList) path)
  (w.canonicalRoot.join (String.ofList relative)).text.toList

/-- The ignore files that may be about an entry, nearest first, each with the path
that is compared with its rules. -/
def files (w : WalkRules) (path : List Char) : List (DirectoryRules × List Char) :=
  let absolute := w.canonicalPath path
  w.within.map (·, path) ++ w.above.map (·, absolute)

/-- What the ignore files say of an entry. -/
def verdict? (w : WalkRules) (path : List Char) (isDirectory : Bool) : Option IgnoreVerdict :=
  let files := w.files path
  let repository :=
    if files.any (·.1.isRepository) then upToRepository files else []
  let first (rules : DirectoryRules → IgnoreRules) (ds : List (DirectoryRules × List Char)) :=
    ds.findSome? fun d => (rules d.1).verdict? d.2 isDirectory
  first DirectoryRules.general files <|> first DirectoryRules.shared repository <|>
    first DirectoryRules.personal repository

/-- The entry with the given path and name is skipped. -/
def skips (w : WalkRules) (path : Path) (name : String) (isDirectory : Bool) : Bool :=
  let cs := withoutHere path.text.toList
  if (w.excluded.verdict? cs isDirectory).isSome then true
  else
    match w.verdict? cs isDirectory with
    | some .ignored => true
    | some .kept => false
    | none => hasStart name "."

end WalkRules

/-! ## Walking -/

/-- What a walk comes across. -/
inductive WalkEvent where
  /-- The ignore files above the root have problems, or a directory cannot be listed. -/
  | problem (message : String)
  /-- An entry, or the root. -/
  | entry (path : Path) (isFile : Bool)
deriving DecidableEq

/-- How ignore files count in a walk. -/
inductive IgnoreFilesUse where
  /-- They are respected. -/
  | respected
  /-- They are passed over. -/
  | passedOver
deriving DecidableEq

/-- The rules inside of a directory. -/
def WalkRules.enter (w : WalkRules) (t : Tree) (use : IgnoreFilesUse) (directory : Path) :
    WalkRules :=
  match use with
  | .respected => { w with within := t.directoryRules directory :: w.within }
  | .passedOver => w

/-- The events of a directory that is closed. -/
def closedEvents (path : Path) (why : PathError) : List WalkEvent :=
  let shown := displayed path.text
  [.entry path false,
    .problem (shown ++ ": IO error for operation on " ++ shown ++ ": " ++ why.message)]

mutual

/-- The events of an entry, unless it is skipped. -/
def Node.walk (t : Tree) (use : IgnoreFilesUse) (w : WalkRules) (path : Path) (name : String) :
    Node → List WalkEvent
  | .directory es =>
      if w.skips path name true then []
      else .entry path false :: walkEntries t use (w.enter t use path) path es
  | .closed why => if w.skips path name true then [] else closedEvents path why
  | .file _ => if w.skips path name false then [] else [.entry path true]
  | .link _ => if w.skips path name false then [] else [.entry path false]

/-- The events of the entries of a directory. -/
def walkEntries (t : Tree) (use : IgnoreFilesUse) (w : WalkRules) (directory : Path) :
    List (String × Node) → List WalkEvent
  | [] => []
  | (name, node) :: rest =>
      node.walk t use w (directory.join name) name ++ walkEntries t use w directory rest

end

/-- The directories that hold a place, nearest first. -/
def directoriesAbove (names : List String) : List Path :=
  (List.range names.length).map fun n =>
    ⟨"/" ++ "/".intercalate (names.take (names.length - 1 - n))⟩

namespace Tree

/-- The events of a walk from a root. -/
def walk (t : Tree) (use : IgnoreFilesUse) (excluded : IgnoreRules) (root : Path) :
    List WalkEvent :=
  match t.place? root with
  | .error _ => []
  | .ok place =>
      match place.node with
      | .directory es =>
          let above :=
            match use with
            | .respected => directoriesAbove place.names
            | .passedOver => []
          let rules : WalkRules :=
            { excluded, within := [], above := above.map t.directoryRules
              canonicalRoot := ⟨"/" ++ "/".intercalate place.names⟩ }
          let problems := above.reverse.flatMap t.ignoreProblems
          (if problems.isEmpty then [] else [.problem ("\n".intercalate problems)]) ++
            .entry root false :: walkEntries t use (rules.enter t use root) root es
      | .closed why => closedEvents root why
      | _ => [.entry root true]

end Tree

end TestCensus.Files
