import TestCensus.Toml.Value

/-!
# The space between TOML tokens

Spaces and tabs separate the tokens of a line.  A line ends at a line feed, which
a carriage return may precede, and a comment may stand before its end.  Inside
the brackets of an array, line ends and comments are space too.
-/

namespace TestCensus.Toml

/-- A space or a tab. -/
def isSpace (c : Char) : Bool := c = ' ' || c = '\t'

/-- A character that may stand in a comment or, for itself, in a text: a tab, or a
character that is no control character. -/
def isPlain (c : Char) : Bool := c = '\t' || (0x20 ≤ c.toNat && c.toNat ≠ 0x7f)

/-- A text without the spaces at its beginning. -/
def skipSpaces (cs : List Char) : List Char := cs.dropWhile isSpace

/-- What follows a line end, if the text begins with one. -/
def lineEnd? : List Char → Option (List Char)
  | '\n' :: rest => some rest
  | '\r' :: '\n' :: rest => some rest
  | _ => none

/-- A text without the comment at its beginning, if there is one. -/
def skipComment : List Char → List Char
  | '#' :: rest => rest.dropWhile isPlain
  | cs => cs

/-- What follows the end of a line, if only space and a comment stand before it.
The end of the text ends its last line. -/
def closeLine? (cs : List Char) : Option (List Char) :=
  match skipComment (skipSpaces cs) with
  | [] => some []
  | rest => lineEnd? rest

mutual

/-- A text without the space, line ends and comments at its beginning. -/
def skipFillers : List Char → List Char
  | [] => []
  | '\r' :: '\n' :: rest => skipFillers rest
  | c :: rest =>
      if isSpace c || c = '\n' then skipFillers rest
      else if c = '#' then skipFillersInComment rest
      else c :: rest

/-- The same from within a comment. -/
def skipFillersInComment : List Char → List Char
  | [] => []
  | '\r' :: '\n' :: rest => skipFillers rest
  | c :: rest =>
      if c = '\n' then skipFillers rest
      else if isPlain c then skipFillersInComment rest
      else c :: rest

end

end TestCensus.Toml
