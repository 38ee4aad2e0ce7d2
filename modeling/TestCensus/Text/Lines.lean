/-!
# Lines of a text

A text is read line by line.  A line ends at a line feed, and a carriage return
directly before that line feed belongs to the end of the line.  The end of the
text ends the last line, unless that line is empty.  So a text that ends in a
line feed has no empty last line, and a carriage return anywhere else is an
ordinary character.

`joinLines` writes lines one after the other with line feeds between them.
-/

namespace TestCensus.Text

/-- The lines of a text, without their line ends. -/
def lines : List Char → List (List Char)
  | [] => []
  | '\n' :: rest => [] :: lines rest
  | '\r' :: '\n' :: rest => [] :: lines rest
  | c :: rest =>
      match lines rest with
      | [] => [[c]]
      | line :: others => (c :: line) :: others

/-- Lines written one after the other with a line feed between two neighbours. -/
def joinLines : List (List Char) → List Char
  | [] => []
  | [line] => line
  | line :: others => line ++ '\n' :: joinLines others

@[simp] theorem lines_nil : lines [] = [] := rfl

@[simp] theorem lines_lineFeed (rest : List Char) : lines ('\n' :: rest) = [] :: lines rest := by
  simp [lines]

@[simp] theorem joinLines_nil : joinLines [] = [] := rfl

@[simp] theorem joinLines_singleton (line : List Char) : joinLines [line] = line := rfl

end TestCensus.Text
