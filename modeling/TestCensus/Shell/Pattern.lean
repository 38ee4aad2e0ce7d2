import TestCensus.Files.Tree
import TestCensus.Text.Parts

/-!
# Patterns of a shell

A pattern is a text some characters of which were quoted.  A star that was not
quoted stands for any text, a question mark for any character, and brackets for
one of the characters in them, or after an exclamation mark for any other one.
All else stands for itself.

A word with such characters is replaced by the paths that match it, if there are
any.  A name that begins with a dot has to be asked for with a dot.
-/

namespace TestCensus.Shell

open TestCensus.Files TestCensus.Text

/-- A character, and whether it was quoted. -/
abbrev Mark := Bool × Char

/-- The text of marked characters. -/
def unmarked (ms : List Mark) : String := String.ofList (ms.map Prod.snd)

/-- A text and all that is left of it after some of its characters. -/
def restsOf : List Char → List (List Char)
  | [] => [[]]
  | c :: rest => (c :: rest) :: restsOf rest

/-! ## Brackets -/

/-- The ranges of characters in brackets, up to the closing one, and what follows.
There are at most the given number of characters. -/
def bracketRanges : Nat → Bool → List Mark → Option (List (Char × Char) × List Mark)
  | 0, _, _ => none
  | _, _, [] => none
  | n + 1, first, (quoted, c) :: rest =>
      if !quoted && c = ']' && !first then some ([], rest)
      else
        match rest with
        | (false, '-') :: (q, d) :: more =>
            if !q && d = ']' then
              (bracketRanges n false rest).map fun (ranges, left) => ((c, c) :: ranges, left)
            else (bracketRanges n false more).map fun (ranges, left) => ((c, d) :: ranges, left)
        | _ => (bracketRanges n false rest).map fun (ranges, left) => ((c, c) :: ranges, left)

/-- The test that brackets make of a character, behind the open one. -/
def bracket? (ms : List Mark) : Option ((Char → Bool) × List Mark) :=
  let (negated, inside) := match ms with
    | (false, '!') :: rest => (true, rest)
    | (false, '^') :: rest => (true, rest)
    | rest => (false, rest)
  (bracketRanges inside.length true inside).map fun (ranges, rest) =>
    (fun c => (ranges.any fun r => r.1 ≤ c && c ≤ r.2) != negated, rest)

/-! ## Matching -/

/-- A piece of a pattern. -/
inductive PatternPiece where
  /-- Any text. -/
  | star
  /-- One character that passes a test. -/
  | one (test : Char → Bool)

/-- The pieces of a pattern with at most the given number of characters. -/
def patternPieces : Nat → List Mark → List PatternPiece
  | 0, _ => []
  | _, [] => []
  | n + 1, (quoted, c) :: rest =>
      if quoted then .one (· == c) :: patternPieces n rest
      else if c = '*' then .star :: patternPieces n rest
      else if c = '?' then .one (fun _ => true) :: patternPieces n rest
      else if c = '[' then
        match bracket? rest with
        | some (test, left) => .one test :: patternPieces n left
        | none => .one (· == c) :: patternPieces n rest
      else .one (· == c) :: patternPieces n rest

/-- The text matches the pieces. -/
def matchesPieces : List PatternPiece → List Char → Bool
  | [], cs => cs.isEmpty
  | .star :: ps, cs => (restsOf cs).any (matchesPieces ps)
  | .one test :: ps, cs =>
      match cs with
      | [] => false
      | c :: rest => test c && matchesPieces ps rest

/-- The text matches the pattern. -/
def matchesPattern (ms : List Mark) (cs : List Char) : Bool :=
  matchesPieces (patternPieces ms.length ms) cs

/-- The marked characters form a pattern. -/
def isPattern (ms : List Mark) : Bool :=
  ms.any fun m => !m.1 && (m.2 = '*' || m.2 = '?' || m.2 = '[')

/-! ## Cutting -/

/-- A text without the beginning that matches a pattern, the shortest or the
longest one. -/
def withoutStart (longest : Bool) (ms : List Mark) (cs : List Char) : List Char :=
  let lengths := List.range (cs.length + 1)
  let lengths := if longest then lengths.reverse else lengths
  match lengths.find? fun n => matchesPattern ms (cs.take n) with
  | some n => cs.drop n
  | none => cs

/-- A text without the end that matches a pattern, the shortest or the longest
one. -/
def withoutEnd (longest : Bool) (ms : List Mark) (cs : List Char) : List Char :=
  let lengths := List.range (cs.length + 1)
  let lengths := if longest then lengths else lengths.reverse
  match lengths.find? fun n => matchesPattern ms (cs.drop n) with
  | some n => cs.take n
  | none => cs

/-! ## Paths -/

/-- Marked characters between slashes. -/
def segments (ms : List Mark) : List (List Mark) := ms.splitOnP fun m => m.2 = '/'

/-- The paths that go on from a path with a segment. -/
def pathsThrough (t : Tree) (segment : List Mark) (isLast : Bool) (before : String) :
    List String :=
  if !isPattern segment then
    let path := before ++ unmarked segment
    if isLast then (if t.has ⟨path⟩ then [path] else [])
    else [path ++ "/"]
  else
    let place := if before.isEmpty then "." else before
    let entries := ((t.node? ⟨place⟩).map fun n => n.entries.map Prod.fst).getD []
    let fits (entry : String) : Bool :=
      matchesPattern segment entry.toList &&
        (!hasStart entry "." || segment.head?.any fun m => m.2 = '.')
    let found := ((entries.filter fits).mergeSort fun a b => a ≤ b).map (before ++ ·)
    if isLast then found
    else (found.filter fun p => t.hasDirectory ⟨p⟩).map (· ++ "/")

/-- The paths that go on from paths with segments. -/
def pathsOf (t : Tree) : List (List Mark) → List String → List String
  | [], before => before
  | segment :: rest, before =>
      pathsOf t rest (before.flatMap (pathsThrough t segment rest.isEmpty))

/-- The paths that match a pattern, or the text of the pattern if there are none. -/
def matchingPaths (t : Tree) (ms : List Mark) : List String :=
  if !isPattern ms then [unmarked ms]
  else
    match pathsOf t (segments ms) [""] with
    | [] => [unmarked ms]
    | found => found

end TestCensus.Shell
