/-!
# Reading JSON

`read` reads a JSON text.  A value may stand between spaces, tabs
and line ends, and arrays and objects may be nested as deep as the text goes.

* A *text* stands between quotes.  A backslash begins an escape: a letter for a
  control character, a quote, a slash, a backslash, or the four hexadecimal digits of a
  code unit.  Two code units that stand for one character have to follow each other.
  Control characters never stand for themselves.
* A *number* has an optional sign, digits without a leading zero, and a fraction and an
  exponent if they are there.  It is kept as its digits with the power of ten that they
  are multiplied by.
* The elements of an array and the members of an object are separated by commas, with
  none behind the last one.
-/

namespace TestCensus.Json

/-- What a JSON text says. -/
inductive Datum where
  /-- The value `null`. -/
  | null
  /-- A truth value. -/
  | bool (b : Bool)
  /-- The number `digits * 10 ^ exponent`, or its negative. -/
  | number (isNegative : Bool) (digits : Nat) (exponent : Int)
  /-- A text. -/
  | text (s : String)
  /-- A list of values. -/
  | array (items : List Datum)
  /-- Values with names, in the order of the text. -/
  | object (members : List (String × Datum))

/-- A reader takes something off the beginning of a text and leaves the rest. -/
abbrev Reader (α : Type) := List Char → Option (α × List Char)

/-- A character between two tokens. -/
def isSpace (c : Char) : Bool := c = ' ' || c = '\t' || c = '\n' || c = '\r'

/-- A text without the space at its beginning. -/
def skipSpace (cs : List Char) : List Char := cs.dropWhile isSpace

theorem skipSpace_of_not_space {c : Char} (h : isSpace c = false) (rest : List Char) :
    skipSpace (c :: rest) = c :: rest := by
  rw [skipSpace, List.dropWhile_cons_of_neg (by simp [h])]

/-! ## Texts -/

/-- The value of a hexadecimal digit, in either case. -/
def hexDigit? (c : Char) : Option Nat :=
  (List.range 16).find? fun n => c = Nat.digitChar n || c = (Nat.digitChar n).toUpper

/-- The code unit of four hexadecimal digits. -/
def codeUnit? (digits : List Char) : Option Nat :=
  digits.foldlM (fun n c => (hexDigit? c).map (16 * n + ·)) 0

/-- The first one of two code units for a character. -/
def isLeading (unit : Nat) : Bool := 0xD800 ≤ unit && unit < 0xDC00

/-- The second one of two code units for a character. -/
def isTrailing (unit : Nat) : Bool := 0xDC00 ≤ unit && unit < 0xE000

/-- The character that a letter stands for behind a backslash. -/
def escaped? : Char → Option Char
  | '"' => some '"'
  | '\\' => some '\\'
  | '/' => some '/'
  | 'b' => some '\x08'
  | 'f' => some '\x0c'
  | 'n' => some '\n'
  | 'r' => some '\r'
  | 't' => some '\t'
  | _ => none

/-- Puts a character before a text that was read. -/
def prepend (c : Char) (read : Option (List Char × List Char)) : Option (List Char × List Char) :=
  read.map fun (s, rest) => (c :: s, rest)

@[simp] theorem prepend_some (c : Char) (cs rest : List Char) :
    prepend c (some (cs, rest)) = some (c :: cs, rest) := rfl

/-- The rest of a text, behind its opening quote. -/
def textRest : Reader (List Char)
  | [] => none
  | '"' :: rest => some ([], rest)
  | '\\' :: 'u' :: a :: b :: c :: d :: rest =>
      (codeUnit? [a, b, c, d]).bind fun unit =>
        if isLeading unit then
          match rest with
          | '\\' :: 'u' :: e :: f :: g :: h :: rest =>
              (codeUnit? [e, f, g, h]).bind fun next =>
                if isTrailing next then
                  prepend (Char.ofNat (0x10000 + (unit - 0xD800) * 0x400 + (next - 0xDC00)))
                    (textRest rest)
                else none
          | _ => none
        else if isTrailing unit then none
        else prepend (Char.ofNat unit) (textRest rest)
  | '\\' :: x :: rest => (escaped? x).bind fun c => prepend c (textRest rest)
  | c :: rest => if c.toNat < 0x20 || c = '\\' then none else prepend c (textRest rest)

theorem textRest_letter {c x : Char} (h : escaped? x = some c) (rest : List Char) :
    textRest ('\\' :: x :: rest) = prepend c (textRest rest) := by
  rw [textRest, h]
  · rfl
  · rintro a b c d rest' rfl
    cases h

theorem textRest_plain {c : Char} (hquote : c ≠ '"') (hbackslash : c ≠ '\\')
    (hcontrol : ¬c.toNat < 0x20) (rest : List Char) :
    textRest (c :: rest) = prepend c (textRest rest) := by
  rw [textRest, if_neg]
  · simpa using ⟨Nat.not_lt.1 hcontrol, hbackslash⟩
  · exact hquote
  · exact fun _ _ _ _ _ hc => absurd hc hbackslash
  · exact fun _ _ hc => absurd hc hbackslash

/-- A text with its quotes. -/
def text : Reader String
  | '"' :: rest => (textRest rest).map fun (s, rest) => (String.ofList s, rest)
  | _ => none

/-! ## Numbers -/

/-- One or more decimal digits. -/
def digits (cs : List Char) : Option (List Char × List Char) :=
  let ds := cs.takeWhile Char.isDigit
  if ds.isEmpty then none else some (ds, cs.dropWhile Char.isDigit)

/-- The digits before a fraction and an exponent, without a leading zero. -/
def wholeDigits (cs : List Char) : Option (List Char × List Char) :=
  (digits cs).filter fun (ds, _) => ds = ['0'] || ds.head? ≠ some '0'

/-- The digits of a fraction, if there is one. -/
def fraction : Reader (List Char)
  | '.' :: rest => digits rest
  | cs => some ([], cs)

/-- An exponent, which is zero if it is not there. -/
def exponent (cs : List Char) : Option (Int × List Char) :=
  match cs with
  | c :: rest =>
      if c = 'e' || c = 'E' then
        match rest with
        | '-' :: rest =>
            (digits rest).map fun (ds, rest) => (-(Nat.ofDigitChars 10 ds 0 : Int), rest)
        | '+' :: rest => (digits rest).map fun (ds, rest) => (Nat.ofDigitChars 10 ds 0, rest)
        | rest => (digits rest).map fun (ds, rest) => (Nat.ofDigitChars 10 ds 0, rest)
      else some (0, cs)
  | [] => some (0, [])

/-- A number behind its sign. -/
def unsigned (isNegative : Bool) (cs : List Char) : Option (Datum × List Char) := do
  let (whole, cs) ← wholeDigits cs
  let (part, cs) ← fraction cs
  let (e, cs) ← exponent cs
  return (.number isNegative (Nat.ofDigitChars 10 (whole ++ part) 0) (e - part.length), cs)

/-- A number with an optional sign. -/
def number : Reader Datum
  | '-' :: rest => unsigned true rest
  | cs => unsigned false cs

/-! ## Values -/

/-- One or more items up to a closing bracket, with commas between them. -/
def items (close : Char) (item : Reader α) : Nat → Reader (List α)
  | 0, _ => none
  | n + 1, cs => do
      let (a, rest) ← item cs
      match skipSpace rest with
      | [] => none
      | c :: rest =>
          if c = close then return ([a], rest)
          else if c = ',' then do
            let (as, rest) ← items close item n rest
            return (a :: as, rest)
          else none

theorem items_last {close : Char} {item : Reader α} {a : α} {cs rest rest' : List Char} (n : Nat)
    (hitem : item cs = some (a, rest')) (hclose : skipSpace rest' = close :: rest) :
    items close item (n + 1) cs = some ([a], rest) := by
  rw [items, hitem]
  simp only [Option.bind_eq_bind, Option.bind_some, hclose, if_true]
  rfl

theorem items_next {close : Char} {item : Reader α} {a : α} {as : List α}
    {cs rest rest' more : List Char} {n : Nat} (hcomma : close ≠ ',')
    (hitem : item cs = some (a, rest')) (hnext : skipSpace rest' = ',' :: more)
    (hmore : items close item n more = some (as, rest)) :
    items close item (n + 1) cs = some (a :: as, rest) := by
  rw [items, hitem]
  simp only [Option.bind_eq_bind, Option.bind_some, hnext, if_neg hcomma.symm, if_true, hmore]
  rfl

/-- Any number of items up to a closing bracket. -/
def bracketed (close : Char) (item : Reader α) (cs : List Char) : Option (List α × List Char) :=
  match skipSpace cs with
  | [] => none
  | c :: rest =>
      if c = close then some ([], rest) else items close item (rest.length + 1) (c :: rest)

/-- A member of an object: its name and its value. -/
def member (value : Reader Datum) (cs : List Char) : Option ((String × Datum) × List Char) := do
  let (name, rest) ← text (skipSpace cs)
  match skipSpace rest with
  | ':' :: rest => do
      let (v, rest) ← value rest
      return ((name, v), rest)
  | _ => none

/-- A value in which fewer than `depth` values stand around the innermost one. -/
def value : Nat → Reader Datum
  | 0, _ => none
  | depth + 1, cs =>
      match skipSpace cs with
      | '"' :: rest => (text ('"' :: rest)).map fun (s, rest) => (.text s, rest)
      | '[' :: rest => (bracketed ']' (value depth) rest).map fun (vs, rest) => (.array vs, rest)
      | '{' :: rest =>
          (bracketed '}' (member (value depth)) rest).map fun (ms, rest) => (.object ms, rest)
      | 't' :: 'r' :: 'u' :: 'e' :: rest => some (.bool true, rest)
      | 'f' :: 'a' :: 'l' :: 's' :: 'e' :: rest => some (.bool false, rest)
      | 'n' :: 'u' :: 'l' :: 'l' :: rest => some (.null, rest)
      | cs => number cs

/-- Space before a value does not count. -/
theorem value_congr {cs ds : List Char} (h : skipSpace cs = skipSpace ds) (depth : Nat) :
    value depth cs = value depth ds := by
  cases depth with
  | zero => rfl
  | succ depth => rw [value, value, h]

/-- What a text says, if it is a JSON text. -/
def read (cs : List Char) : Option Datum := do
  let (v, rest) ← value (cs.length + 1) cs
  if (skipSpace rest).isEmpty then return v else none

end TestCensus.Json
