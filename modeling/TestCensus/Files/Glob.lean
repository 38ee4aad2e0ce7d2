import TestCensus.Text.Utf8

/-!
# Globs

A glob is a pattern for paths.  It is read into tokens, and a path matches it if
the tokens can use up the whole path.  Matching works on the bytes of a path.

* A character stands for itself, also one behind a backslash.
* `?` stands for one byte that is no slash, and `*` for any number of them.
* `**` stands for whole directories: at the beginning for any number of them, at
  the end for everything below a directory, and between two slashes for one slash
  or directories between two slashes.  Anywhere else it is as `*` twice.
* Brackets hold the characters that one byte may be.  A longer character stands
  for each of its bytes there.  After `!` or `^` they hold those that it may not
  be.
* Braces hold branches separated by commas, which are globs themselves.  Empty
  branches do not count.

A glob that is nothing but `**` matches every path.

An open bracket without a closing one is an error, or else it is a character that
stands for itself, and so is every open bracket behind it.  Which of the two, the
caller says (`ClassReading`).
-/

namespace TestCensus.Files

open TestCensus.Text

/-! ## Tokens -/

/-- A token of a glob. -/
inductive GlobToken where
  /-- These bytes. -/
  | literal (bytes : List UInt8)
  /-- One byte that is no slash. -/
  | any
  /-- Any number of bytes that are no slashes. -/
  | zeroOrMore
  /-- Any number of directories at the beginning. -/
  | leading
  /-- Everything below a directory. -/
  | trailing
  /-- A slash, or directories between two slashes. -/
  | between
  /-- One byte inside of the ranges, or outside of them. -/
  | oneOf (negated : Bool) (ranges : List (UInt8 × UInt8))
  /-- One of the branches. -/
  | branches (alternatives : List (List GlobToken))

/-- A glob. -/
abbrev Glob := List GlobToken

/-- Why a text is no glob. -/
inductive GlobError where
  /-- An open bracket is not closed. -/
  | unclosedClass
  /-- A range ends before it begins. -/
  | invalidRange (low high : Char)
  /-- An open brace is not closed. -/
  | unclosedBranches
  /-- A closing brace has no open one. -/
  | unopenedBranches
  /-- Nothing follows the last backslash. -/
  | danglingEscape
deriving DecidableEq, Repr

/-- The text of an error. -/
def GlobError.message : GlobError → String
  | unclosedClass => "unclosed character class; missing ']'"
  | invalidRange low high =>
      "invalid range; '" ++ low.toString ++ "' > '" ++ high.toString ++ "'"
  | unclosedBranches =>
      "unclosed alternate group; missing '\x7d' (maybe escape '\x7b' with '[\x7b]'?)"
  | unopenedBranches =>
      "unopened alternate group; missing '\x7b' (maybe escape '\x7d' with '[\x7d]'?)"
  | danglingEscape => "dangling '\\'"

/-- What an open bracket without a closing one is. -/
inductive ClassReading where
  /-- It is an error. -/
  | strict
  /-- It stands for itself. -/
  | lenient
deriving DecidableEq

namespace Glob

/-! ## Reading brackets -/

/-- The bytes of a character. -/
def bytesOf (c : Char) : List UInt8 := utf8 c.toString

/-- The byte ranges of a range of characters.  Only its inner ends form a range. -/
def byteRanges (range : Char × Char) : List (UInt8 × UInt8) :=
  let single (b : UInt8) := (b, b)
  let low := bytesOf range.1
  let high := bytesOf range.2
  if range.1 = range.2 then low.map single
  else
    match low.getLast?, high with
    | some l, h :: rest => low.dropLast.map single ++ (l, h) :: rest.map single
    | _, _ => []

/-- Extends the last range to a character. -/
def extendLast (c : Char) : List (Char × Char) → Except GlobError (List (Char × Char))
  | [] => .ok []
  | (low, _) :: before =>
      if c < low then .error (.invalidRange low c) else .ok ((low, c) :: before)

/-- Reads the inside of brackets up to the closing one, with the last range first;
`none` if there is none. -/
def readRanges (first inRange : Bool) (ranges : List (Char × Char)) :
    List Char → Except GlobError (Option (List (Char × Char) × List Char))
  | [] => .ok none
  | c :: rest =>
      if c = ']' && !first then
        .ok (some (if inRange then ('-', '-') :: ranges else ranges, rest))
      else if inRange then do readRanges false false (← extendLast c ranges) rest
      else if c = '-' && !first then readRanges false true ranges rest
      else readRanges false false ((c, c) :: ranges) rest

/-- Reads what follows an open bracket up to the closing one. -/
def readClass (cs : List Char) : Except GlobError (Option (GlobToken × List Char)) := do
  let negated := cs.head? = some '!' || cs.head? = some '^'
  match ← readRanges true false [] (if negated then cs.tail else cs) with
  | none => return none
  | some (ranges, rest) => return some (.oneOf negated (ranges.reverse.flatMap byteRanges), rest)

/-! ## Reading globs -/

/-- Braces that are open. -/
structure OpenBranches where
  /-- The tokens before the braces, last first. -/
  before : List GlobToken
  /-- The branches that are complete, last first. -/
  complete : List (List GlobToken)

/-- What was read of a glob. -/
structure Reading where
  /-- The tokens of the branch that is being read, last first. -/
  tokens : List GlobToken
  /-- The braces that are open, innermost first. -/
  opened : List OpenBranches
  /-- Brackets stand for themselves from here on. -/
  plainBrackets : Bool
  /-- The character before. -/
  previous : Option Char

namespace Reading

/-- Adds a token, after which `c` is the character before. -/
def push (s : Reading) (token : GlobToken) (c : Char) : Reading :=
  { s with tokens := token :: s.tokens, previous := some c }

/-- Adds a character that stands for itself. -/
def pushChar (s : Reading) (c : Char) : Reading := s.push (.literal (bytesOf c)) c

/-- Two stars that stand for one. -/
def pushStars (s : Reading) : Reading := (s.push .zeroOrMore '*').push .zeroOrMore '*'

/-- Opens braces. -/
def openBraces (s : Reading) : Reading :=
  { s with tokens := [], opened := ⟨s.tokens, []⟩ :: s.opened, previous := some '{' }

/-- Closes the innermost braces. -/
def closeBraces (s : Reading) : Except GlobError Reading :=
  match s.opened with
  | [] => .error .unopenedBranches
  | b :: outer =>
      .ok { s with
        tokens := .branches ((s.tokens.reverse :: b.complete).reverse) :: b.before
        opened := outer
        previous := some '}' }

/-- A comma begins another branch inside of braces. -/
def comma (s : Reading) : Reading :=
  match s.opened with
  | [] => s.pushChar ','
  | b :: outer =>
      { s with
        tokens := []
        opened := ⟨b.before, s.tokens.reverse :: b.complete⟩ :: outer
        previous := some ',' }

/-- Two stars that stand for directories replace the slash before them.  After
stars that already reach as far, they add nothing. -/
def directories (s : Reading) (token : GlobToken) (c : Char) : Reading :=
  match s.tokens with
  | .leading :: _ => { s with previous := some c }
  | .trailing :: _ => { s with previous := some c }
  | _ :: before => { s with tokens := token :: before, previous := some c }
  | [] => { s with tokens := [token], previous := some c }

/-- Two stars before the rest of a glob. -/
def doubleStar (s : Reading) (rest : List Char) : Reading × List Char :=
  if s.tokens.isEmpty then
    match rest with
    | [] => (s.push .leading '*', [])
    | '/' :: more => (s.push .leading '/', more)
    | more => (s.pushStars, more)
  else
    let atBranch := !s.opened.isEmpty && (s.previous = some ',' || s.previous = some '{')
    if s.previous = some '/' || atBranch then
      match rest with
      | [] => (s.directories .trailing '*', [])
      | c :: more =>
          if c = '/' then (s.directories .between '/', more)
          else if (c = ',' || c = '}') && !s.opened.isEmpty then
            (s.directories .trailing '*', c :: more)
          else (s.pushStars, c :: more)
    else (s.pushStars, rest)

/-- The tokens of a glob that was read to its end. -/
def finish (s : Reading) : Except GlobError Glob :=
  if s.opened.isEmpty then .ok s.tokens.reverse else .error .unclosedBranches

end Reading

/-- Reads the rest of a glob, which has at most the given number of characters. -/
def readRest (brackets : ClassReading) : Nat → Reading → List Char → Except GlobError Reading
  | 0, s, _ => .ok s
  | _, s, [] => .ok s
  | n + 1, s, c :: rest => do
      match c with
      | '?' => readRest brackets n (s.push .any c) rest
      | '*' =>
          match rest with
          | '*' :: more =>
              let (s, more) := s.doubleStar more
              readRest brackets n s more
          | _ => readRest brackets n (s.push .zeroOrMore c) rest
      | '[' =>
          if s.plainBrackets then readRest brackets n (s.pushChar c) rest
          else
            match ← readClass rest with
            | some (token, more) => readRest brackets n (s.push token ']') more
            | none =>
                match brackets with
                | .strict => .error .unclosedClass
                | .lenient =>
                    readRest brackets n { s.pushChar c with plainBrackets := true } rest
      | '{' => readRest brackets n s.openBraces rest
      | '}' => readRest brackets n (← s.closeBraces) rest
      | ',' => readRest brackets n s.comma rest
      | '\\' =>
          match rest with
          | [] => .error .danglingEscape
          | d :: more => readRest brackets n (s.pushChar d) more
      | _ => readRest brackets n (s.pushChar c) rest

/-- Reads a glob. -/
def read (brackets : ClassReading) (cs : List Char) : Except GlobError Glob := do
  (← readRest brackets cs.length ⟨[], [], false, none⟩ cs).finish

end Glob

/-! ## Matching -/

/-- The byte of a slash. -/
def slashByte : UInt8 := 0x2f

/-- What can remain of a path after any number of bytes that are no slashes. -/
def afterName : List UInt8 → List (List UInt8)
  | [] => [[]]
  | b :: rest => (b :: rest) :: (if b = slashByte then [] else afterName rest)

/-- What can remain of a path after any number of bytes. -/
def afterAnything : List UInt8 → List (List UInt8)
  | [] => [[]]
  | b :: rest => (b :: rest) :: afterAnything rest

/-- What can remain of a path after one of its slashes. -/
def afterSlashes : List UInt8 → List (List UInt8)
  | [] => []
  | b :: rest => if b = slashByte then rest :: afterSlashes rest else afterSlashes rest

/-- The byte is in one of the ranges. -/
def inByteRanges (ranges : List (UInt8 × UInt8)) (b : UInt8) : Bool :=
  ranges.any fun r => r.1 ≤ b && b ≤ r.2

mutual

/-- The token can never stand for anything, since it has only empty branches. -/
def GlobToken.isVacuous : GlobToken → Bool
  | .branches bs => areVacuousBranches bs
  | _ => false

/-- All tokens are vacuous. -/
def areVacuous : List GlobToken → Bool
  | [] => true
  | t :: rest => t.isVacuous && areVacuous rest

/-- All branches are vacuous. -/
def areVacuousBranches : List (List GlobToken) → Bool
  | [] => true
  | b :: rest => areVacuous b && areVacuousBranches rest

end

mutual

/-- What can remain of a path after a token. -/
def GlobToken.leaves : GlobToken → List UInt8 → List (List UInt8)
  | .literal bytes, cs => if bytes.isPrefixOf cs then [cs.drop bytes.length] else []
  | .any, [] => []
  | .any, b :: rest => if b = slashByte then [] else [rest]
  | .zeroOrMore, cs => afterName cs
  | .leading, cs => cs :: afterSlashes cs
  | .trailing, [] => []
  | .trailing, b :: rest => if b = slashByte then afterAnything rest else []
  | .between, [] => []
  | .between, b :: rest => if b = slashByte then rest :: afterSlashes rest else []
  | .oneOf _ _, [] => []
  | .oneOf negated ranges, b :: rest =>
      if inByteRanges ranges b != negated then [rest] else []
  | .branches bs, cs => if areVacuousBranches bs then [cs] else leavesOfBranches bs cs

/-- What can remain after tokens of what could remain before them. -/
def leavesOfTokens : List GlobToken → List (List UInt8) → List (List UInt8)
  | [], before => before
  | t :: rest, before => leavesOfTokens rest (before.flatMap t.leaves).eraseDups

/-- What can remain of a path after one of the branches that are not vacuous. -/
def leavesOfBranches : List (List GlobToken) → List UInt8 → List (List UInt8)
  | [], _ => []
  | b :: rest, cs =>
      (if areVacuous b then [] else leavesOfTokens b [cs]) ++ leavesOfBranches rest cs

end

/-- The glob is nothing but two stars. -/
def Glob.isEverything : Glob → Bool
  | [.leading] => true
  | _ => false

/-- The glob matches the bytes of a path. -/
def Glob.isMatch (glob : Glob) (path : List UInt8) : Bool :=
  glob.isEverything || (leavesOfTokens glob [path]).any List.isEmpty

end TestCensus.Files
