import TestCensus.Files.Glob
import TestCensus.Files.Path
import TestCensus.Text.Blank
import TestCensus.Text.Lines

/-!
# Ignore rules

An ignore file holds a rule on each line.  A rule says that the paths which match
its glob are ignored, or, after an exclamation mark, that they are kept.  Of the
rules of one file the last one that matches decides.

* A line that is empty or starts with `#` holds no rule, and blanks at the end of
  a line do not count, unless the last one stands behind a backslash.
* A glob without a slash, or with one at its end only, may match at any depth.  A
  slash at the beginning binds it to the directory of the file.
* A slash at the end restricts a rule to directories.

Rules are read for a directory and compared with paths relative to it, which
`IgnoreRules.relative` cuts out of the text of a path.  A line whose glob cannot
be read is passed over, and a line that is no text ends the file.
-/

namespace TestCensus.Files

open TestCensus.Text

/-! ## Rules -/

/-- What a rule says of the paths that it matches. -/
inductive IgnoreVerdict where
  /-- The path is ignored. -/
  | ignored
  /-- The path is kept. -/
  | kept
deriving DecidableEq, Repr

/-- A rule. -/
structure IgnoreRule where
  /-- The glob that paths have to match. -/
  glob : Glob
  /-- What is said of them. -/
  verdict : IgnoreVerdict
  /-- The rule is for directories only. -/
  directoriesOnly : Bool

/-- The rule is about a path. -/
def IgnoreRule.applies (r : IgnoreRule) (path : List UInt8) (isDirectory : Bool) : Bool :=
  (isDirectory || !r.directoriesOnly) && r.glob.isMatch path

/-- A glob that cannot be read. -/
structure GlobProblem where
  /-- The rule that holds the glob. -/
  rule : List Char
  /-- Why it cannot be read. -/
  error : GlobError

/-- The text of a problem. -/
def GlobProblem.message (p : GlobProblem) : String :=
  "error parsing glob '" ++ String.ofList p.rule ++ "': " ++ p.error.message

/-! ## Reading rules -/

/-- A rule without the blanks at its end. -/
def withoutEndBlanks (line : List Char) : List Char :=
  if [' ', '\\'].isPrefixOf line.reverse then line else trimEnd line

/-- A glob without the slash at its end, and whether there was one.  A backslash
before that slash goes with it. -/
def splitEndSlash (cs : List Char) : List Char × Bool :=
  match cs.reverse with
  | '/' :: '\\' :: before => (before.reverse, true)
  | '/' :: before => (before.reverse, true)
  | _ => (cs, false)

/-- A glob without slashes may match at any depth. -/
def atAnyDepth (bound : Bool) (cs : List Char) : List Char :=
  if bound || cs.contains '/' || cs = ['*', '*'] then cs else ['*', '*', '/'] ++ cs

/-- A glob for everything below a directory does not match the directory. -/
def strictlyBelow (cs : List Char) : List Char :=
  if ['*', '*', '/'].isPrefixOf cs.reverse then cs ++ ['/', '*'] else cs

/-- Reads the glob of a rule. -/
def readRuleGlob (brackets : ClassReading) (rule : List Char) (verdict : IgnoreVerdict)
    (bound : Bool) (cs : List Char) : Except GlobProblem IgnoreRule :=
  let (body, directoriesOnly) := splitEndSlash cs
  match Glob.read brackets (strictlyBelow (atAnyDepth bound body)) with
  | .ok glob => .ok ⟨glob, verdict, directoriesOnly⟩
  | .error e => .error ⟨rule, e⟩

/-- Reads a line; `none` if it holds no rule. -/
def readRule (brackets : ClassReading) (line : List Char) :
    Except GlobProblem (Option IgnoreRule) :=
  let rule := withoutEndBlanks line
  let afterMark (verdict : IgnoreVerdict) (cs : List Char) :=
    (match cs with
      | '/' :: body => readRuleGlob brackets rule verdict true body
      | body => readRuleGlob brackets rule verdict false body).map some
  match rule with
  | [] => .ok none
  | '#' :: _ => .ok none
  | '\\' :: '!' :: body => (readRuleGlob brackets rule .ignored false ('!' :: body)).map some
  | '\\' :: '#' :: body => (readRuleGlob brackets rule .ignored false ('#' :: body)).map some
  | '!' :: body => afterMark .kept body
  | body => afterMark .ignored body

/-! ## Rules of a directory -/

/-- Rules for what is below a directory. -/
structure IgnoreRules where
  /-- The path of the directory. -/
  base : Path
  /-- The rules, in the order of their lines. -/
  rules : List IgnoreRule

/-- A path without a dot and a slash at its beginning. -/
def withoutHere : List Char → List Char
  | '.' :: '/' :: rest => rest
  | cs => cs

/-- A path without a beginning, if it has that beginning. -/
def without (start cs : List Char) : List Char := (dropStart? start cs).getD cs

namespace IgnoreRules

/-- The part of a path that is compared with the rules.  The path of the directory
is cut off as text. -/
def relative (base : Path) (path : List Char) : List Char :=
  let here : Path := ⟨String.ofList (withoutHere base.text.toList)⟩
  let cs := withoutHere path
  if here.components = [.here] || !cs.contains '/' then cs
  else
    match dropStart? here.text.toList cs with
    | some rest => without ['/'] rest
    | none => cs

/-- What the last rule that is about a path says of it. -/
def verdict? (r : IgnoreRules) (path : List Char) (isDirectory : Bool) : Option IgnoreVerdict :=
  let bytes := keptBytes (String.ofList (relative r.base path))
  (r.rules.reverse.find? (·.applies bytes isDirectory)).map IgnoreRule.verdict

end IgnoreRules

/-! ## Ignore files -/

/-- A line of an ignore file that cannot be used. -/
inductive LineProblem where
  /-- The glob on the line cannot be read. -/
  | glob (line : Nat) (problem : GlobProblem)
  /-- The line is no text. -/
  | notText (line : Nat)

/-- The text of a problem. -/
def LineProblem.message : LineProblem → String
  | glob line problem => "line " ++ toString line ++ ": " ++ problem.message
  | notText line => "line " ++ toString line ++ ": stream did not contain valid UTF-8"

/-- The problem is about a glob. -/
def LineProblem.isGlob : LineProblem → Bool
  | glob _ _ => true
  | notText _ => false

/-- The content of an ignore file. -/
structure IgnoreFile where
  /-- The rules, in the order of their lines. -/
  rules : List IgnoreRule
  /-- The lines that cannot be used. -/
  problems : List LineProblem

namespace IgnoreFile

/-- A file without rules. -/
def empty : IgnoreFile := ⟨[], []⟩

/-- Reads lines, the first of which has the given number. -/
def ofLines : Nat → List (List Char) → IgnoreFile
  | _, [] => empty
  | n, line :: rest =>
      let later := ofLines (n + 1) rest
      match readRule .lenient line with
      | .ok none => later
      | .ok (some rule) => { later with rules := rule :: later.rules }
      | .error problem => { later with problems := .glob n problem :: later.problems }

/-- The lines up to the first one that is no text, and whether there is one. -/
def textLines (bytes : List UInt8) : List (List Char) × Bool :=
  let cs := decodeFrom .start bytes
  match cs.mapM id with
  | some text => (lines text, false)
  | none =>
      match splitAtLast '\n' ((cs.takeWhile Option.isSome).filterMap id) with
      | some (before, _) => (lines (before ++ ['\n']), true)
      | none => ([], true)

/-- The lines without byte order marks at the beginning of the first one. -/
def withoutMark : List (List Char) → List (List Char)
  | [] => []
  | line :: rest => line.dropWhile (· == '\uFEFF') :: rest

/-- Reads the bytes of an ignore file. -/
def ofBytes (bytes : List UInt8) : IgnoreFile :=
  let (lines, isBroken) := textLines bytes
  let file := ofLines 1 (withoutMark lines)
  if isBroken then { file with problems := file.problems ++ [.notText (lines.length + 1)] }
  else file

/-- The problems of a file, if one of them is about a glob. -/
def shownProblems (file : IgnoreFile) (path : Path) : List String :=
  if file.problems.any LineProblem.isGlob then
    file.problems.map fun p => displayed path.text ++ ": " ++ p.message
  else []

end IgnoreFile

end TestCensus.Files
