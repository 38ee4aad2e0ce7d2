import TestCensus.Toml.Space

/-!
# TOML texts

A text stands between quotes of one of four kinds.

* A *basic* text stands between double quotes on one line.  A backslash begins an
  escape: a letter for a control character, a quote, a backslash, or four or eight
  hexadecimal digits of a code point.
* A *literal* text stands between single quotes on one line and has no escapes.
* The long forms stand between three quotes and may have line ends.  A line end
  directly behind the opening quotes does not count, and every other one counts as
  a line feed.  One or two further quotes may stand before the closing ones.  In
  the basic form a backslash at the end of a line joins the line with the next one
  that is not blank, without the space between them.

Control characters other than the tab never stand for themselves.
-/

namespace TestCensus.Toml

/-- The value of a hexadecimal digit. -/
def hexValue? (c : Char) : Option Nat :=
  if '0' ≤ c && c ≤ '9' then some (c.toNat - '0'.toNat)
  else if 'a' ≤ c && c ≤ 'f' then some (c.toNat - 'a'.toNat + 10)
  else if 'A' ≤ c && c ≤ 'F' then some (c.toNat - 'A'.toNat + 10)
  else none

/-- The number that hexadecimal digits write, going on from `n`. -/
def hexNumber? (n : Nat) : List Char → Option Nat
  | [] => some n
  | c :: rest => do hexNumber? (16 * n + (← hexValue? c)) rest

/-- The character whose code point hexadecimal digits write. -/
def codePoint? (digits : List Char) : Option Char := do
  let n ← hexNumber? 0 digits
  if n.isValidChar then some (Char.ofNat n) else none

/-- The character that a letter stands for behind a backslash. -/
def escaped? : Char → Option Char
  | 'b' => some '\x08'
  | 't' => some '\t'
  | 'n' => some '\n'
  | 'f' => some '\x0c'
  | 'r' => some '\r'
  | '"' => some '"'
  | '\\' => some '\\'
  | _ => none

/-- Puts a character before a text that was read. -/
def prepend (c : Char) (read : Option (List Char × List Char)) : Option (List Char × List Char) :=
  read.map fun (s, rest) => (c :: s, rest)

@[simp] theorem prepend_some (c : Char) (cs rest : List Char) :
    prepend c (some (cs, rest)) = some (c :: cs, rest) := rfl

/-- The rest of a basic text, behind its opening quote. -/
def basicText : Reader (List Char)
  | [] => none
  | '"' :: rest => some ([], rest)
  | '\\' :: 'u' :: a :: b :: c :: d :: rest =>
      (codePoint? [a, b, c, d]).bind fun x => prepend x (basicText rest)
  | '\\' :: 'U' :: a :: b :: c :: d :: e :: f :: g :: h :: rest =>
      (codePoint? [a, b, c, d, e, f, g, h]).bind fun x => prepend x (basicText rest)
  | '\\' :: x :: rest => (escaped? x).bind fun x => prepend x (basicText rest)
  | c :: rest => if isPlain c && c ≠ '\\' then prepend c (basicText rest) else none

theorem basicText_letter {c x : Char} (h : escaped? x = some c) (rest : List Char) :
    basicText ('\\' :: x :: rest) = prepend c (basicText rest) := by
  rw [basicText, h]
  · rfl
  · rintro a b c d rest' rfl
    cases h
  · rintro a b c d e f g h' rest' rfl
    cases h

/-- The rest of a literal text, behind its opening quote. -/
def literalText : Reader (List Char)
  | [] => none
  | '\'' :: rest => some ([], rest)
  | c :: rest => if isPlain c then prepend c (literalText rest) else none

/-- What follows three closing quotes: up to two more of them belong to the
text. -/
def furtherQuotes (quote : Char) : List Char → List Char × List Char
  | a :: b :: rest =>
      if a = quote then
        if b = quote then ([quote, quote], rest) else ([quote], b :: rest)
      else ([], a :: b :: rest)
  | [a] => if a = quote then ([quote], []) else ([], [a])
  | [] => ([], [])

/-- Only space stands before the end of the line. -/
def isLineRest (cs : List Char) : Bool := (lineEnd? (skipSpaces cs)).isSome

theorem isLineRest_letter {c x : Char} (h : escaped? x = some c) (rest : List Char) :
    isLineRest (x :: rest) = false := by
  unfold escaped? at h
  split at h
  case h_8 => cases h
  all_goals rfl

/-- The rest of a long basic text.  While `joining`, space and line ends are
skipped. -/
def longBasicText (joining : Bool) : Reader (List Char)
  | [] => none
  | '"' :: '"' :: '"' :: rest => some (furtherQuotes '"' rest)
  | '\\' :: 'u' :: a :: b :: c :: d :: rest =>
      (codePoint? [a, b, c, d]).bind fun x => prepend x (longBasicText false rest)
  | '\\' :: 'U' :: a :: b :: c :: d :: e :: f :: g :: h :: rest =>
      (codePoint? [a, b, c, d, e, f, g, h]).bind fun x => prepend x (longBasicText false rest)
  | '\\' :: x :: rest =>
      if isLineRest (x :: rest) then longBasicText true (x :: rest)
      else (escaped? x).bind fun x => prepend x (longBasicText false rest)
  | '\r' :: '\n' :: rest =>
      if joining then longBasicText true rest else prepend '\n' (longBasicText false rest)
  | c :: rest =>
      if joining && (isSpace c || c = '\n') then longBasicText true rest
      else if (isPlain c && c ≠ '\\') || c = '\n' then prepend c (longBasicText false rest)
      else none

theorem longBasicText_letter {c x : Char} (h : escaped? x = some c) (rest : List Char) :
    longBasicText false ('\\' :: x :: rest) = prepend c (longBasicText false rest) := by
  rw [longBasicText, isLineRest_letter h, h]
  · rfl
  · rintro a b c d rest' rfl
    cases h
  · rintro a b c d e f g h' rest' rfl
    cases h

/-- A character that stands for itself, unless it is the first of three quotes. -/
theorem longBasicText_self {c : Char} {rest : List Char}
    (hself : isPlain c = true ∧ c ≠ '\\' ∨ c = '\n')
    (hclosing : c = '"' → ∀ rest', rest ≠ '"' :: '"' :: rest') :
    longBasicText false (c :: rest) = prepend c (longBasicText false rest) := by
  have hbackslash : c ≠ '\\' := by
    rintro rfl
    exact absurd hself (by decide)
  have hreturn : c ≠ '\r' := by
    rintro rfl
    exact absurd hself (by decide)
  have htaken : (isPlain c && decide (c ≠ '\\') || decide (c = '\n')) = true := by
    simpa using hself
  rw [longBasicText, Bool.false_and, if_neg Bool.false_ne_true, htaken, if_pos rfl]
  · exact fun rest' hc => hclosing hc rest'
  · exact fun _ _ _ _ _ hc => absurd hc hbackslash
  · exact fun _ _ _ _ _ _ _ _ _ hc => absurd hc hbackslash
  · exact fun _ _ hc => absurd hc hbackslash
  · exact fun _ hc => absurd hc hreturn

/-- The rest of a long literal text. -/
def longLiteralText : Reader (List Char)
  | [] => none
  | '\'' :: '\'' :: '\'' :: rest => some (furtherQuotes '\'' rest)
  | '\r' :: '\n' :: rest => prepend '\n' (longLiteralText rest)
  | c :: rest => if isPlain c || c = '\n' then prepend c (longLiteralText rest) else none

theorem longLiteralText_self {c : Char} {rest : List Char}
    (hself : isPlain c = true ∨ c = '\n')
    (hclosing : c = '\'' → ∀ rest', rest ≠ '\'' :: '\'' :: rest') :
    longLiteralText (c :: rest) = prepend c (longLiteralText rest) := by
  have hreturn : c ≠ '\r' := by
    rintro rfl
    exact absurd hself (by decide)
  have htaken : (isPlain c || decide (c = '\n')) = true := by simpa using hself
  rw [longLiteralText, htaken, if_pos rfl]
  · exact fun rest' hc => hclosing hc rest'
  · exact fun _ hc => absurd hc hreturn

/-- A text without the line end at its beginning, if there is one. -/
def skipLineEnd (cs : List Char) : List Char := (lineEnd? cs).getD cs

/-- A text on one line, between quotes of either kind. -/
def shortText : Reader (List Char)
  | '"' :: rest => basicText rest
  | '\'' :: rest => literalText rest
  | _ => none

/-- A text between quotes of any kind. -/
def quotedText : Reader (List Char)
  | '"' :: '"' :: '"' :: rest => longBasicText false (skipLineEnd rest)
  | '\'' :: '\'' :: '\'' :: rest => longLiteralText (skipLineEnd rest)
  | cs => shortText cs

end TestCensus.Toml
