import TestCensus.Json.Value
import TestCensus.Number.Binary64

/-!
# Writing JSON

A value is written over several lines.  The elements of a list and the members of
an object stand on lines of their own, two spaces deeper than their brackets, and
an empty list or object stands on one line.

In a text, a quote and a backslash get a backslash before them.  Five control
characters have letters of their own and the others are written with four
hexadecimal digits.  All other characters stand for themselves.
-/

namespace TestCensus.Json

/-- A code point below 256 in four hexadecimal digits. -/
def fourDigits (n : Nat) : List Char :=
  ['0', '0', Nat.digitChar (n / 16), Nat.digitChar (n % 16)]

/-- A character as it stands in a written text. -/
def escapedChar (c : Char) : List Char :=
  if c = '"' || c = '\\' then ['\\', c]
  else if c = '\n' then ['\\', 'n']
  else if c = '\r' then ['\\', 'r']
  else if c = '\t' then ['\\', 't']
  else if c = '\x08' then ['\\', 'b']
  else if c = '\x0c' then ['\\', 'f']
  else if c.toNat < 0x20 then ['\\', 'u'] ++ fourDigits c.toNat
  else [c]

/-- A text between quotes. -/
def writtenText (s : String) : List Char := '"' :: s.toList.flatMap escapedChar ++ ['"']

/-- A line end and the spaces before the next line. -/
def newLine (depth : Nat) : List Char := '\n' :: List.replicate (2 * depth) ' '

mutual

/-- A value as written, at a depth of nesting. -/
def written (depth : Nat) : Value → List Char
  | .null => "null".toList
  | .bool true => "true".toList
  | .bool false => "false".toList
  | .nat n => (toString n).toList
  | .tenths n => (Number.tenthsText n).toList
  | .text s => writtenText s
  | .array [] => ['[', ']']
  | .array (v :: rest) =>
      '[' :: newLine (depth + 1) ++ written (depth + 1) v ++ writtenItems (depth + 1) rest ++
        newLine depth ++ [']']
  | .object [] => ['{', '}']
  | .object ((name, v) :: rest) =>
      '{' :: newLine (depth + 1) ++ writtenText name ++ [':', ' '] ++ written (depth + 1) v ++
        writtenMembers (depth + 1) rest ++ newLine depth ++ ['}']

/-- The elements of a list behind the first one. -/
def writtenItems (depth : Nat) : List Value → List Char
  | [] => []
  | v :: rest => ',' :: newLine depth ++ written depth v ++ writtenItems depth rest

/-- The members of an object behind the first one. -/
def writtenMembers (depth : Nat) : List (String × Value) → List Char
  | [] => []
  | (name, v) :: rest =>
      ',' :: newLine depth ++ writtenText name ++ [':', ' '] ++ written depth v ++
        writtenMembers depth rest

end

/-- A value as written on its own. -/
def Value.render (v : Value) : String := String.ofList (written 0 v)

end TestCensus.Json
