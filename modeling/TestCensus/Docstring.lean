import TestCensus.Text.Lines
import TestCensus.Text.Blank
import TestCensus.Text.Parts

/-!
# Docstrings

A docstring is written as one string literal or as several adjacent ones.
`literalValue?` takes the content of one literal, with its escapes as written;
a bytes or formatted literal has none.  `clean` then removes the indentation
that the docstring has only because it stands in indented code.

* Each tab counts as eight spaces.
* The first line loses all its leading blank characters.
* Every other line loses the smallest indentation that a line after the first
  has, blank lines not counted.
* A blank line becomes empty, and empty lines at both ends are dropped.
-/

namespace TestCensus.Docstring

open TestCensus.Text

/-! ## The content of a literal -/

/-- The character opens a string literal. -/
def isQuote (c : Char) : Bool := c == '"' || c == '\''

/-- The delimiters of string literals, the longer ones first. -/
def delimiters : List (List Char) :=
  [['"', '"', '"'], ['\'', '\'', '\''], ['"'], ['\'']]

/-- The letters before the opening quote are those of a text literal: at most
two, raw or explicitly text. -/
def isTextMark (letters : List Char) : Bool :=
  letters.length ≤ 2 && letters.all ("rRuU".toList.contains ·)

/-- What stands between two occurrences of a delimiter that do not overlap. -/
def between? (delimiter body : List Char) : Option (List Char) :=
  if 2 * delimiter.length ≤ body.length && startsWith delimiter body &&
      startsWith delimiter.reverse body.reverse then
    some ((body.drop delimiter.length).take (body.length - 2 * delimiter.length))
  else
    none

/-- The content of a string literal, as written.  Bytes and formatted literals
have none. -/
def literalValue? (raw : List Char) : Option (List Char) :=
  let letters := raw.takeWhile (!isQuote ·)
  let body := raw.dropWhile (!isQuote ·)
  if isTextMark letters then delimiters.findSome? (between? · body) else none

/-! ## Indentation -/

/-- A text in which each tab is eight spaces. -/
def expandTabs : List Char → List Char
  | [] => []
  | c :: rest => (if c = '\t' then List.replicate 8 ' ' else [c]) ++ expandTabs rest

/-- The smallest indentation of the lines that are not blank. -/
def margin (rest : List (List Char)) : Nat :=
  (((rest.filter (!isBlankText ·)).map indentation).min?).getD 0

/-- A line after the first, without the margin.  A blank line becomes empty. -/
def cutMargin (m : Nat) (line : List Char) : List Char :=
  if isBlankText line then [] else line.drop m

/-- A list of lines without the empty ones at both ends. -/
def trimLines (ls : List (List Char)) : List (List Char) :=
  ((ls.dropWhile List.isEmpty).reverse.dropWhile List.isEmpty).reverse

/-- The lines of a docstring without the indentation of the code around it. -/
def cleanLines : List (List Char) → List (List Char)
  | [] => []
  | first :: rest => trimLines (trimStart first :: rest.map (cutMargin (margin rest)))

/-- A docstring without the indentation of the code around it. -/
def clean (doc : List Char) : List Char := joinLines (cleanLines (lines (expandTabs doc)))

/-- The docstring that adjacent literals write, if each of them is a text
literal. -/
def ofLiterals? (literals : List (List Char)) : Option (List Char) :=
  (literals.mapM literalValue?).map fun contents => clean contents.flatten

end TestCensus.Docstring
