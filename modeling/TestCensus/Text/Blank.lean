/-!
# Blank characters

`isBlank` is the property White_Space of the Unicode standard: the control
characters from tab to carriage return, the space, the next-line control, the
no-break space and the spaces and separators of the general punctuation and
ideographic blocks.  A text is trimmed by cutting blank characters at its ends,
and it is blank when nothing else is in it.
-/

namespace TestCensus.Text

/-- The property White_Space. -/
def isBlank (c : Char) : Bool :=
  let n := c.toNat
  (9 ≤ n && n ≤ 13) || n == 0x20 || n == 0x85 || n == 0xA0 || n == 0x1680 ||
    (0x2000 ≤ n && n ≤ 0x200A) || n == 0x2028 || n == 0x2029 || n == 0x202F ||
    n == 0x205F || n == 0x3000

/-- A text without its leading blank characters. -/
def trimStart (cs : List Char) : List Char := cs.dropWhile isBlank

/-- A text without its trailing blank characters. -/
def trimEnd (cs : List Char) : List Char := (cs.reverse.dropWhile isBlank).reverse

/-- A text without its leading and trailing blank characters. -/
def trim (cs : List Char) : List Char := trimEnd (trimStart cs)

/-- A text in which every character is blank. -/
def isBlankText (cs : List Char) : Bool := cs.all isBlank

/-- A string without its leading and trailing blank characters. -/
def trimmed (s : String) : String := String.ofList (trim s.toList)

/-- The number of blank characters a text starts with. -/
def indentation (cs : List Char) : Nat := (cs.takeWhile isBlank).length

theorem indentation_le_length (cs : List Char) : indentation cs ≤ cs.length := by
  unfold indentation
  exact List.IsPrefix.length_le (List.takeWhile_prefix _)

end TestCensus.Text
