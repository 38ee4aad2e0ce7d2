/-!
# Texts on a terminal

A terminal takes a text as marks: characters, which it shows, and sequences, which
set a style.  A sequence is the escape character, an opening bracket, one or more
digits and the letter `m`.  An escape character that begins no sequence is a character
like any other.

`withoutStyles` is what is left of a text when its sequences are deleted, and
`styles` are the digits of these sequences in their order.
-/

namespace TestCensus.Report

/-- The escape character. -/
def escape : Char := '\x1b'

/-- What a terminal takes from a text at once. -/
inductive Mark where
  /-- A character to show. -/
  | shown (c : Char)
  /-- A sequence that sets the style of the digits. -/
  | style (digits : List Char)
deriving DecidableEq, Repr

/-- The character, if there is one to show. -/
def Mark.shown? : Mark → Option Char
  | shown c => some c
  | style _ => none

/-- The digits, if a style is set. -/
def Mark.style? : Mark → Option (List Char)
  | shown _ => none
  | style digits => some digits

/-- The digits of the sequence that the text begins with, if it begins with one. -/
def sequence? : List Char → Option (List Char)
  | first :: second :: rest =>
      let digits := rest.takeWhile Char.isDigit
      if first = escape && second = '[' && !digits.isEmpty &&
          (rest.drop digits.length).head? == some 'm' then some digits
      else none
  | _ => none

/-- The marks of a text behind its first `passed` characters. -/
def marksFrom : Nat → List Char → List Mark
  | _, [] => []
  | passed + 1, _ :: rest => marksFrom passed rest
  | 0, c :: rest =>
      match sequence? (c :: rest) with
      | some digits => .style digits :: marksFrom (digits.length + 2) rest
      | none => .shown c :: marksFrom 0 rest

/-- The marks of a text. -/
def marks (s : String) : List Mark := marksFrom 0 s.toList

/-- A text without its sequences. -/
def withoutStyles (s : String) : String := String.ofList ((marks s).filterMap Mark.shown?)

/-- The digits of the sequences of a text. -/
def styles (s : String) : List (List Char) := (marks s).filterMap Mark.style?

example : marks "a\x1b[31mb\x1b[" =
    [.shown 'a', .style ['3', '1'], .shown 'b', .shown '\x1b', .shown '['] := by decide +kernel

end TestCensus.Report
