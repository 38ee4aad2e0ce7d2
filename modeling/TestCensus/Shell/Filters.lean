import TestCensus.Shell.Pattern
import TestCensus.Shell.Utilities

/-!
# Filters

A filter reads lines from files or from the input and prints some of them, or
prints them in another form.

`grep` and `sed` look for expressions.  An expression is a list of pieces, each of
which stands for one character or, with a star behind it, for any number of
characters.  It may be bound to the beginning or to the end of a line.
-/

namespace TestCensus.Shell

open TestCensus.Files TestCensus.Text

/-! ## Expressions -/

/-- A piece of an expression. -/
structure LinePiece where
  /-- The characters that the piece stands for. -/
  test : Char → Bool
  /-- The piece may be repeated, or be left out. -/
  repeats : Bool

/-- An expression for parts of lines. -/
structure LinePattern where
  /-- It has to stand at the beginning of a line. -/
  atStart : Bool
  /-- It has to stand at the end of a line. -/
  atEnd : Bool
  /-- Its pieces. -/
  pieces : List LinePiece

/-- The pieces of an expression with at most the given number of characters. -/
def linePieces : Nat → List Char → List LinePiece
  | 0, _ => []
  | _, [] => []
  | n + 1, c :: rest =>
      let (test, left) : (Char → Bool) × List Char :=
        if c = '.' then (fun _ => true, rest)
        else if c = '[' then
          match bracket? (rest.map (false, ·)) with
          | some (test, left) => (test, left.map Prod.snd)
          | none => ((· == c), rest)
        else if c = '\\' then
          match rest with
          | d :: left => ((· == d), left)
          | [] => ((· == c), [])
        else ((· == c), rest)
      match left with
      | '*' :: more => ⟨test, true⟩ :: linePieces n more
      | more => ⟨test, false⟩ :: linePieces n more

/-- Reads an expression. -/
def LinePattern.read (cs : List Char) : LinePattern :=
  let atStart := cs.head? = some '^'
  let cs := if atStart then cs.tail else cs
  let atEnd := cs.getLast? = some '$' && cs.dropLast.getLast? != some '\\'
  let cs := if atEnd then cs.dropLast else cs
  ⟨atStart, atEnd, linePieces cs.length cs⟩

/-- The expression that stands for a text. -/
def LinePattern.literal (cs : List Char) : LinePattern :=
  ⟨false, false, cs.map fun c => ⟨(· == c), false⟩⟩

/-- What can be left of a text behind pieces, longest match first. -/
def leftBehind : List LinePiece → List Char → List (List Char)
  | [], cs => [cs]
  | p :: ps, cs =>
      if p.repeats then repeated p.test (leftBehind ps) cs
      else
        match cs with
        | [] => []
        | c :: rest => if p.test c then leftBehind ps rest else []
where
  /-- What can be left behind repeated characters and what follows them. -/
  repeated (test : Char → Bool) (next : List Char → List (List Char)) :
      List Char → List (List Char)
    | [] => next []
    | c :: rest => (if test c then repeated test next rest else []) ++ next (c :: rest)

/-- What is left of a text behind an expression that stands at its beginning. -/
def LinePattern.behind? (p : LinePattern) (cs : List Char) : Option (List Char) :=
  (leftBehind p.pieces cs).find? fun rest => !p.atEnd || rest.isEmpty

/-- The expression stands somewhere in a line. -/
def LinePattern.isIn (p : LinePattern) (line : List Char) : Bool :=
  if p.atStart then (p.behind? line).isSome
  else (List.range (line.length + 1)).any fun n => (p.behind? (line.drop n)).isSome

/-- A line with another text in the place of an expression, everywhere or once.
The line has at most the given number of characters. -/
def LinePattern.replaceIn (p : LinePattern) (everywhere : Bool) (new : List Char) :
    Nat → List Char → List Char
  | 0, cs => cs
  | n + 1, cs =>
      match p.behind? cs, cs with
      | some rest, _ =>
          if rest.length < cs.length then
            new ++ (if everywhere && !p.atStart then p.replaceIn everywhere new n rest else rest)
          else if !everywhere || p.atStart then new ++ rest
          else
            match cs with
            | [] => new
            | c :: more => new ++ c :: p.replaceIn everywhere new n more
      | none, [] => []
      | none, c :: rest => if p.atStart then c :: rest else c :: p.replaceIn everywhere new n rest

/-! ## Programs -/

/-- The lines of files or of the input, and the status of reading them. -/
def readLinesOf (program : String) (files : List String) : Effect (List (List Char) × Nat) := do
  let (bytes, status) ← readAll program (if files.isEmpty then ["-"] else files)
  return (lines (keptText bytes).toList, status)

/-- Prints lines. -/
def sayLines (ls : List (List Char)) : Effect Unit :=
  say (keptBytes (String.ofList (ls.flatMap (· ++ ['\n']))))

/-- Options of one letter each, and what follows them. -/
def letterOptions : List String → List Char × List String
  | [] => ([], [])
  | a :: rest =>
      match a.toList with
      | ['-', '-'] => ([], rest)
      | '-' :: c :: cs =>
          if c = 'e' && cs.isEmpty then (['e'], rest)
          else
            let (more, left) := letterOptions rest
            (c :: cs ++ more, left)
      | _ => ([], a :: rest)

/-- Prints the lines that hold an expression. -/
def findLines (arguments : List String) : Effect Nat := do
  match letterOptions arguments with
  | (_, []) =>
      complain "Usage: grep [OPTION]... PATTERNS [FILE]...\nTry 'grep --help' for more information."
      return 2
  | (options, expression :: files) =>
      let lower (cs : List Char) := if options.contains 'i' then cs.map Char.toLower else cs
      let cs := lower expression.toList
      let p := if options.contains 'F' then LinePattern.literal cs else LinePattern.read cs
      let p := if options.contains 'x' then { p with atStart := true, atEnd := true } else p
      let (ls, status) ← readLinesOf "grep" files
      let found := ls.filter fun line => p.isIn (lower line) != options.contains 'v'
      if options.contains 'c' then sayLines [(toString found.length).toList]
      else if !options.contains 'q' then sayLines found
      return if status != 0 then 2 else if found.isEmpty then 1 else 0

/-- The pieces of a text between a mark; a backslash before the mark goes away. -/
def splitMarked (mark : Char) : List Char → List (List Char)
  | [] => [[]]
  | '\\' :: c :: rest =>
      match splitMarked mark rest with
      | first :: more => ((if c = mark then [c] else ['\\', c]) ++ first) :: more
      | [] => [['\\', c]]
  | c :: rest =>
      match splitMarked mark rest with
      | first :: more => if c = mark then [] :: first :: more else (c :: first) :: more
      | [] => [[c]]

/-- Prints lines with something else in the place of an expression. -/
def replaceInLines : List String → Effect Nat
  | "-e" :: rest => replaceInLines rest
  | command :: files => do
      match command.toList with
      | 's' :: mark :: rest =>
          match splitMarked mark rest with
          | [old, new, flags] =>
              let p := LinePattern.read old
              let (ls, status) ← readLinesOf "sed" files
              sayLines (ls.map fun line =>
                p.replaceIn (flags.contains 'g') new (line.length + 1) line)
              return status
          | _ =>
              complain "sed: -e expression #1, char 1: unterminated 's' command"
              return 1
      | _ =>
          complain "sed: -e expression #1, char 1: unknown command"
          return 1
  | [] => do
      complain "Usage: sed [OPTION]... {script-only-if-no-other-script} [input-file]..."
      return 1

/-- The characters of a set, in which a dash between two characters stands for all
between them. -/
def characterSet : List Char → List Char
  | a :: '-' :: b :: rest =>
      (List.range (b.toNat + 1 - a.toNat)).map (fun n => Char.ofNat (a.toNat + n)) ++
        characterSet rest
  | '\\' :: 'n' :: rest => '\n' :: characterSet rest
  | '\\' :: 't' :: rest => '\t' :: characterSet rest
  | '\\' :: c :: rest => c :: characterSet rest
  | c :: rest => c :: characterSet rest
  | [] => []

/-- Prints the input with other characters. -/
def replaceCharacters (arguments : List String) : Effect Nat := do
  let cs := (keptText (← get).channels.input).toList
  match letterOptions arguments with
  | (['d'], [set]) =>
      let gone := characterSet set.toList
      say (bytesOf (cs.filter fun c => !gone.contains c))
      return 0
  | ([], [first, second]) =>
      let old := characterSet first.toList
      let new := characterSet second.toList
      say (bytesOf (cs.map fun c =>
        match old.findIdx? (· == c) with
        | some i => (new[i]?.or new.getLast?).getD c
        | none => c))
      return 0
  | _ =>
      complain "tr: missing operand\nTry 'tr --help' for more information."
      return 1

/-- Prints some fields of lines. -/
def cutLines (arguments : List String) : Effect Nat := do
  let valueOf (letter : String) : Option String :=
    match arguments.find? fun a => hasStart a letter with
    | some a =>
        if a = letter then (arguments.dropWhile (· != letter))[1]?
        else some (a.drop letter.length).toString
    | none => none
  match valueOf "-f" with
  | none =>
      complain ("cut: you must specify a list of bytes, characters, or fields\n" ++
        "Try 'cut --help' for more information.")
      return 1
  | some field =>
      let mark := ((valueOf "-d").bind fun d => d.toList.head?).getD '\t'
      let number := decimal field.toList
      let (ls, status) ← readLinesOf "cut" []
      sayLines (ls.map fun line =>
        if line.contains mark then (splitOn mark line).getD (number - 1) [] else line)
      return status

/-- Prints lines in order. -/
def sortLines (arguments : List String) : Effect Nat := do
  let (options, files) := letterOptions arguments
  let (ls, status) ← readLinesOf "sort" files
  let sorted := ls.mergeSort fun a b => decide (String.ofList a ≤ String.ofList b)
  let once := if options.contains 'u' then sorted.eraseDups else sorted
  sayLines (if options.contains 'r' then once.reverse else once)
  return if status = 0 then 0 else 2

/-- Prints the last lines of a file or of the input. -/
def tailOf (arguments : List String) : Effect Nat := do
  let (count, files) := countOption arguments
  let (bytes, status) ← readAll "tail" (if files.isEmpty then ["-"] else files)
  let ls := byteLines bytes
  say (ls.drop (ls.length - count)).flatten
  return status

/-- Makes directories. -/
def makeDirectories (arguments : List String) : Effect Nat := do
  let (options, paths) := letterOptions arguments
  paths.foldlM (fun status path => do
    let s ← get
    if options.contains 'p' then
      set { s with tree := s.tree.makeDirectory ⟨path⟩ }
      return status
    else
      match s.tree.land true ⟨path⟩ with
      | .ok (.absent names) =>
          set { s with tree := s.tree.put names (.directory []) }
          return status
      | .ok (.present _) =>
          complain ("mkdir: cannot create directory '" ++ path ++ "': File exists")
          return 1
      | .error e =>
          complain ("mkdir: cannot create directory '" ++ path ++ "': " ++ plainMessage e)
          return 1) 0

/-- Removes files, and directories if that is asked for. -/
def removeFiles (arguments : List String) : Effect Nat := do
  let (options, paths) := letterOptions arguments
  paths.foldlM (fun status path => do
    let s ← get
    match s.tree.land false ⟨path⟩ with
    | .ok (.present place) =>
        if place.node.isDirectory && !options.contains 'r' then
          complain ("rm: cannot remove '" ++ path ++ "': Is a directory")
          return 1
        else
          set { s with tree := s.tree.remove ⟨path⟩ }
          return status
    | _ =>
        if options.contains 'f' then return status
        else
          complain ("rm: cannot remove '" ++ path ++ "': No such file or directory")
          return 1) 0

/-- Removes directories that are empty. -/
def removeDirectories (paths : List String) : Effect Nat :=
  paths.foldlM (fun status path => do
    let s ← get
    match s.tree.place? ⟨path⟩ with
    | .ok ⟨_, .directory []⟩ =>
        set { s with tree := s.tree.remove ⟨path⟩ }
        return status
    | .ok ⟨_, .directory _⟩ =>
        complain ("rmdir: failed to remove '" ++ path ++ "': Directory not empty")
        return 1
    | .ok _ =>
        complain ("rmdir: failed to remove '" ++ path ++ "': Not a directory")
        return 1
    | .error e =>
        complain ("rmdir: failed to remove '" ++ path ++ "': " ++ plainMessage e)
        return 1) 0

/-- Runs a filter or a program for files, if there is one of that name. -/
def filter? (program : String) (arguments : List String) : Option (Effect Nat) :=
  match program with
  | "grep" => some (findLines arguments)
  | "sed" => some (replaceInLines arguments)
  | "sort" => some (sortLines arguments)
  | "tr" => some (replaceCharacters arguments)
  | "cut" => some (cutLines arguments)
  | "tail" => some (tailOf arguments)
  | "mkdir" => some (makeDirectories arguments)
  | "rm" => some (removeFiles arguments)
  | "rmdir" => some (removeDirectories arguments)
  | _ => none

/-- The programs of this kind. -/
def filterNames : List String := ["grep", "sed", "sort", "tr", "cut", "tail", "mkdir", "rm", "rmdir"]

end TestCensus.Shell
