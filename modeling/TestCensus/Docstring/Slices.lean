import TestCensus.Docstring
import TestCensus.Text.Slice

/-!
# The content of a literal by byte offsets

`literalValue?` takes a literal apart character by character.  A program that
holds the literal in bytes cuts it at offsets: at the first quote, and behind the
delimiter and before it.  `slicedValue?` does so.  Its answer is `none` if one of
the cuts gives no slice, and otherwise the content, if there is one.
-/

namespace TestCensus.Docstring

open TestCensus.Text

/-- The offset of the first quote. -/
def quoteOffset? : List Char → Option Nat
  | [] => none
  | c :: rest => if isQuote c then some 0 else (quoteOffset? rest).map (c.utf8Size + ·)

/-- The letter may stand before the opening quote of a literal. -/
def isLetter (c : Char) : Bool := ['r', 'R', 'u', 'U', 'b', 'B', 'f', 'F'].contains c

/-- The letter makes a literal bytes or formatted. -/
def isOtherMark (c : Char) : Bool := ['b', 'B', 'f', 'F'].contains c

/-- What stands between two occurrences of the first delimiter that fits. -/
def sliceBetween? (body : List Char) : List (List Char) → Option (Option (List Char))
  | [] => some none
  | delimiter :: others =>
      let n := byteCount delimiter
      if 2 * n ≤ byteCount body && startsWith delimiter body &&
          startsWith delimiter.reverse body.reverse then
        (slice? n (byteCount body - n) body).map some
      else
        sliceBetween? body others

/-- The content of a string literal, cut out by byte offsets. -/
def slicedValue? (raw : List Char) : Option (Option (List Char)) :=
  match quoteOffset? raw with
  | none => some none
  | some n => do
      let letters ← slice? 0 n raw
      if 2 < byteCount letters || !letters.all isLetter then return none
      if letters.any isOtherMark then return none
      let body ← slice? n (byteCount raw) raw
      sliceBetween? body delimiters

end TestCensus.Docstring
