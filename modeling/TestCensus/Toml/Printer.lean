import TestCensus.Toml.Text

/-!
# Writing TOML

A table of settings is written with one line per entry.  A list of one element or
none stands on the line of its entry.  The elements of a longer list stand on
lines of their own, four spaces deep, with a comma behind each.

The form of a text is the first of the following that can hold it (`Form.of`):
between double quotes without escapes, between single quotes, between three double
quotes without escapes, between three single quotes, and finally with escapes,
between three double quotes if there is a line end in it, and between one
otherwise.
-/

namespace TestCensus.Toml

/-- The longest run of a character in a text, where `run` is the length of the run
before it. -/
def longestRun (c : Char) (run : Nat) : List Char → Nat
  | [] => run
  | x :: rest =>
      if x = c then longestRun c (run + 1) rest else max run (longestRun c 0 rest)

/-- A control character that has to be escaped in every form. -/
def isControl (c : Char) : Bool :=
  (c.toNat < 0x20 && c ≠ '\t' && c ≠ '\n') || c.toNat = 0x7f

/-- A character that has to be escaped between double quotes. -/
def isEscaping (c : Char) : Bool := c = '\\' || c = '\t'

/-- A form of a written text. -/
structure Form where
  /-- The kind of quote. -/
  quote : Char
  /-- The text stands between three quotes. -/
  isLong : Bool
deriving DecidableEq, Repr

/-- The form in which a text is written. -/
def Form.of (cs : List Char) : Form :=
  let controls := cs.any isControl
  let escaping := cs.any isEscaping
  let multiline := cs.contains '\n'
  let doubles := longestRun '"' 0 cs
  let singles := longestRun '\'' 0 cs
  if !controls && !escaping && doubles = 0 && !multiline then ⟨'"', false⟩
  else if !controls && singles = 0 && !multiline then ⟨'\'', false⟩
  else if !controls && !escaping && doubles ≤ 2 then ⟨'"', true⟩
  else if !controls && singles ≤ 2 then ⟨'\'', true⟩
  else ⟨'"', multiline⟩

/-- A number below 65536 in four hexadecimal digits. -/
def fourHexDigits (n : Nat) : List Char :=
  [n / 4096, n / 256 % 16, n / 16 % 16, n % 16].map fun d => (Nat.digitChar d).toUpper

/-- A character as it stands between double quotes, one or three of them.  In the
long form, `quotes` double quotes stand directly before it. -/
def writtenChar (isLong : Bool) (quotes : Nat) (c : Char) : List Char :=
  if c = '"' then
    if isLong && quotes < 2 then ['"'] else ['\\', '"']
  else if c = '\\' then ['\\', '\\']
  else if c = '\x08' then ['\\', 'b']
  else if c = '\t' then ['\\', 't']
  else if c = '\n' then if isLong then ['\n'] else ['\\', 'n']
  else if c = '\x0c' then ['\\', 'f']
  else if c = '\r' then ['\\', 'r']
  else if isControl c then ['\\', 'u'] ++ fourHexDigits c.toNat
  else [c]

/-- The number of double quotes that stand for themselves before what follows a
character. -/
def quotesAfter (isLong : Bool) (quotes : Nat) (c : Char) : Nat :=
  if c = '"' && isLong && quotes < 2 then quotes + 1 else 0

/-- A text as it stands between double quotes. -/
def writtenBody (isLong : Bool) : Nat → List Char → List Char
  | _, [] => []
  | quotes, c :: rest =>
      writtenChar isLong quotes c ++ writtenBody isLong (quotesAfter isLong quotes c) rest

/-- A text as written. -/
def writtenText (cs : List Char) : List Char :=
  let form := Form.of cs
  let quotes := List.replicate (if form.isLong then 3 else 1) form.quote
  let first := if form.isLong && cs.contains '\n' then ['\n'] else []
  let body := if form.quote = '"' then writtenBody form.isLong 0 cs else cs
  quotes ++ first ++ body ++ quotes

/-- A list of texts as written. -/
def writtenList : List String → List Char
  | [] => ['[', ']']
  | [s] => '[' :: writtenText s.toList ++ [']']
  | ss =>
      '[' :: ss.flatMap (fun s => "\n    ".toList ++ writtenText s.toList ++ [',']) ++
        ['\n', ']']

/-- An entry with its value as written. -/
def writtenEntry (name : String) (v : List Char) : List Char :=
  name.toList ++ " = ".toList ++ v ++ ['\n']

/-- A header with the entries behind it. -/
def writtenSection (name : String) (entries : List (List Char)) : List Char :=
  '[' :: name.toList ++ [']', '\n'] ++ entries.flatten

end TestCensus.Toml
