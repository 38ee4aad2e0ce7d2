import TestCensus.Docstring

/-!
# Docstrings on display

Tools that display documentation remove the indentation of a docstring by a
convention of their own.

* A tab is filled up with spaces to the next tab stop, of which there is one every
  eight columns.  Columns are counted from the last line feed or carriage return.
* A line ends at a line feed and at nothing else.
* The first line loses all its leading blanks.  Of the other lines each loses as many
  characters as the smallest indentation of those that are not blank has, and a blank
  line is no exception.
* Empty lines at both ends are dropped.

Tools do not agree on which characters are blanks, so `space` says it.
-/

namespace TestCensus.Docstring

open TestCensus.Text

/-! ## Tab stops -/

/-- The first tab stop behind a column. -/
def nextStop (column : Nat) : Nat := (column / 8 + 1) * 8

/-- The column behind a character that stands at a column. -/
def columnAfter (column : Nat) (c : Char) : Nat :=
  if c = '\t' then nextStop column
  else if c = '\n' ∨ c = '\r' then 0
  else column + 1

/-- The column behind a text that begins at a column. -/
def columnBehind (column : Nat) (cs : List Char) : Nat := cs.foldl columnAfter column

/-- A text that begins at a column, with its tabs filled up. -/
def fillTabs (column : Nat) : List Char → List Char
  | [] => []
  | c :: rest =>
      (if c = '\t' then List.replicate (nextStop column - column) ' ' else [c]) ++
        fillTabs (columnAfter column c) rest

/-! ## The convention -/

/-- The smallest indentation of the lines that are not blank. -/
def displayMargin (space : Char → Bool) (rest : List (List Char)) : Nat :=
  (((rest.filter (!·.all space)).map fun line => (line.takeWhile space).length).min?).getD 0

/-- The lines of a docstring on display. -/
def displayLines (space : Char → Bool) : List (List Char) → List (List Char)
  | [] => []
  | first :: rest =>
      trimLines (first.dropWhile space :: rest.map (List.drop (displayMargin space rest)))

/-- A docstring on display. -/
def display (space : Char → Bool) (doc : List Char) : List Char :=
  joinLines (displayLines space (splitOn '\n' (fillTabs 0 doc)))

/-- The blanks of tools that count the separators among the control characters. -/
def isBlankOrSeparator (c : Char) : Bool := isBlank c || (28 ≤ c.toNat && c.toNat ≤ 31)

/-- The blanks of tools that count the space only. -/
def isSpace (c : Char) : Bool := c == ' '

end TestCensus.Docstring
