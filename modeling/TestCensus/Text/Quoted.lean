import TestCensus.Text.EscapedRanges
import TestCensus.Text.Name

/-!
# Quoted texts

A message that has to show a text exactly shows it between double quotes.  A
quote and a backslash get a backslash before them, four control characters have
letters of their own, and every other character that would not be visible as
itself is shown by its code point in hexadecimal digits between braces.
-/

namespace TestCensus.Text

/-- A number in small hexadecimal digits. -/
def hexadecimal (n : Nat) : List Char := Nat.toDigits 16 n

/-- The character is shown by its code point. -/
def isShownByCode (c : Char) : Bool :=
  if c.toNat < 0x80 then c.toNat < 0x20 || c.toNat == 0x7f
  else inRanges escapedRanges c.toNat

/-- A character as it stands between the quotes. -/
def quotedChar (c : Char) : List Char :=
  if c = '"' || c = '\\' then ['\\', c]
  else if c = '\n' then ['\\', 'n']
  else if c = '\r' then ['\\', 'r']
  else if c = '\t' then ['\\', 't']
  else if c = '\x00' then ['\\', '0']
  else if isShownByCode c then ['\\', 'u', '{'] ++ hexadecimal c.toNat ++ ['}']
  else [c]

/-- A text between quotes. -/
def quoted (s : String) : String :=
  String.ofList ('"' :: s.toList.flatMap quotedChar ++ ['"'])

end TestCensus.Text
