import TestCensus.Shell.Pattern
import TestCensus.Shell.State
import TestCensus.Text.Blank

/-!
# Fields

Words are expanded to fields.  What was put in without quotes is split at
separators, which are blanks unless a script says something else.  Blanks go
together with each other; any other separator stands for itself, and two of them
have an empty field between them.

What a word gives is a list of pieces (`Piece`), and `Fields.add` puts one piece
behind another.
-/

namespace TestCensus.Shell

open TestCensus.Text

/-- What a part of a word gives. -/
inductive Piece where
  /-- Characters that are kept together. -/
  | solid (ms : List Mark)
  /-- Characters that are split at separators. -/
  | loose (separators cs : List Char)
  /-- Fields of their own. -/
  | fields (texts : List String)

/-- Fields that are complete, last first, and the one that is not. -/
structure Fields where
  /-- The fields that are complete. -/
  complete : List (List Mark) := []
  /-- The field that is not, if one was begun. -/
  current : Option (List Mark) := none
  /-- A blank stands before what comes next. -/
  afterBlank : Bool := false

namespace Fields

/-- Ends the field that was begun. -/
def close (f : Fields) : Fields :=
  match f.current with
  | some ms => { f with complete := ms :: f.complete, current := none }
  | none => f

/-- Adds characters to the field that was begun, or begins one. -/
def extend (f : Fields) (ms : List Mark) : Fields :=
  { f with current := some (f.current.getD [] ++ ms), afterBlank := false }

/-- Ends a field at a separator.  Blanks go together with each other and with one
other separator. -/
def separate (f : Fields) (c : Char) : Fields :=
  let isBlank := c = ' ' || c = '\t' || c = '\n'
  match f.current with
  | some _ => { f.close with afterBlank := isBlank }
  | none =>
      if isBlank then f
      else if f.afterBlank then { f with afterBlank := false }
      else { f with complete := [] :: f.complete }

/-- Adds characters that are split at separators. -/
def extendLoose (f : Fields) (separators cs : List Char) : Fields :=
  cs.foldl (fun f c => if separators.contains c then f.separate c else f.extend [(false, c)]) f

/-- Adds fields; the first one goes on with the field that was begun. -/
def extendFields (f : Fields) : List String → Fields
  | [] => f
  | [last] => f.extend (last.toList.map (true, ·))
  | first :: rest => (f.extend (first.toList.map (true, ·))).close.extendFields rest

/-- Adds a piece. -/
def add (f : Fields) : Piece → Fields
  | .solid ms => f.extend ms
  | .loose separators cs => f.extendLoose separators cs
  | .fields texts => f.extendFields texts

/-- All fields. -/
def all (f : Fields) : List (List Mark) := f.close.complete.reverse

end Fields

/-- The characters of pieces that are not split. -/
def joined (pieces : List Piece) : List Mark :=
  pieces.flatMap fun
    | .solid ms => ms
    | .loose _ cs => cs.map (false, ·)
    | .fields texts => (" ".intercalate texts).toList.map (true, ·)

/-- The piece for a value. -/
def State.piece (s : State) (isQuoted : Bool) (value : String) : Piece :=
  if isQuoted then .solid (value.toList.map (true, ·)) else .loose s.separators value.toList

/-- The piece of a word that stands in the place of a value without quotes. -/
def State.loosened (s : State) : Piece → Piece
  | .solid ms =>
      if ms.isEmpty || ms.any Prod.fst then .solid ms else .loose s.separators (ms.map Prod.snd)
  | piece => piece

/-- Lines and words that are read at once: the first ones, and the last one with
all that is left. -/
def splitInto (separators : List Char) : Nat → List Char → List (List Char)
  | 0, _ => []
  | 1, cs => [cs]
  | n + 1, cs =>
      let isSeparator (c : Char) := separators.contains c
      let rest := cs.dropWhile fun c => !isSeparator c
      let rest := match rest with
        | c :: more => if isBlank c then rest.dropWhile fun c => isSeparator c && isBlank c else more
        | [] => []
      cs.takeWhile (fun c => !isSeparator c) :: splitInto separators n rest

/-- The output of a command as it is put in, without the line ends at its end. -/
def insertedText (bytes : List UInt8) : String :=
  keptText (bytes.reverse.dropWhile (· == 10)).reverse

end TestCensus.Shell
