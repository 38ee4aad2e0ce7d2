/-!
# The inside of string literals

A literal opens with letters that set its manner and a delimiter of one or three
quotes.  Behind the delimiter stands content up to the same delimiter, and in a
formatted literal also replacement fields in braces.

`Content.read` reads content up to the point where something else begins.  A
backslash protects what it escapes.  In a raw literal it stands for itself and
protects a quote, a backslash and a line end behind it.  In a formatted literal a
doubled brace is content.

A literal between single quotes ends on its line.  The exception is a line feed
with no content between it and the delimiter or the escape before it: it counts
as content.
-/

namespace TestCensus.Source

/-- How a literal is delimited and read. -/
structure Delimiter where
  /-- The quote character. -/
  quote : Char
  /-- Three quotes delimit the literal. -/
  triple : Bool
  /-- A backslash stands for itself. -/
  raw : Bool
  /-- The literal writes bytes. -/
  bytes : Bool
  /-- Braces enclose replacement fields. -/
  formatted : Bool
deriving DecidableEq, Repr, Inhabited

namespace Delimiter

/-- The characters that close the literal. -/
def closing (d : Delimiter) : List Char :=
  if d.triple then [d.quote, d.quote, d.quote] else [d.quote]

/-- The letters that may stand before the opening quote. -/
def mannerLetters : List Char := ['f', 'F', 'r', 'R', 'b', 'B', 'u', 'U']

/-- The opening of a literal at the beginning of a text: its letters and quotes
as written, how it is read, and the text behind. -/
def open? (cs : List Char) : Option (List Char × Delimiter × List Char) :=
  let letters := cs.takeWhile (mannerLetters.contains ·)
  let raw := letters.any fun c => c == 'r' || c == 'R'
  let bytes := letters.any fun c => c == 'b' || c == 'B'
  let formatted := letters.any fun c => c == 'f' || c == 'F'
  match cs.dropWhile (mannerLetters.contains ·) with
  | q :: rest =>
      if q = '"' || q = '\'' then
        match rest with
        | q₁ :: q₂ :: rest' =>
            if q₁ = q && q₂ = q then
              some (letters ++ [q, q, q], ⟨q, true, raw, bytes, formatted⟩, rest')
            else some (letters ++ [q], ⟨q, false, raw, bytes, formatted⟩, rest)
        | _ => some (letters ++ [q], ⟨q, false, raw, bytes, formatted⟩, rest)
      else if q = '`' then some (letters ++ [q], ⟨q, false, raw, bytes, formatted⟩, rest)
      else none
  | [] => none

/-- The opening of a literal is taken from the front of the text. -/
theorem open?_eq_some {cs text rest : List Char} {d : Delimiter}
    (h : open? cs = some (text, d, rest)) : text ++ rest = cs := by
  have hcs := List.takeWhile_append_dropWhile (p := (mannerLetters.contains ·)) (l := cs)
  unfold open? at h
  dsimp only at h
  split at h
  · rename_i q after hq
    rw [hq] at hcs
    split at h
    · split at h
      · split at h
        · rename_i hsame
          simp only [Bool.and_eq_true, decide_eq_true_eq] at hsame
          obtain ⟨rfl, rfl⟩ := hsame
          cases h
          simpa using hcs
        · cases h
          simpa using hcs
      · cases h
        simpa using hcs
    · split at h
      · cases h
        simpa using hcs
      · cases h
  · cases h

end Delimiter

/-! ## Escapes -/

/-- The character is a hexadecimal digit. -/
def isHexDigit (c : Char) : Bool :=
  c.isDigit || ('a' ≤ c && c ≤ 'f') || ('A' ≤ c && c ≤ 'F')

/-- The text starts with `n` hexadecimal digits. -/
def startsWithHex (n : Nat) (cs : List Char) : Bool :=
  (cs.take n).length == n && (cs.take n).all isHexDigit

/-- How many characters behind a backslash belong to its escape. -/
def escapeLength : List Char → Nat
  | [] => 0
  | c :: rest =>
      if c = 'u' then if startsWithHex 4 rest then 5 else 0
      else if c = 'U' then if startsWithHex 8 rest then 9 else 0
      else if c = 'x' then if startsWithHex 2 rest then 3 else 0
      else if c.isDigit then 1 + ((rest.take 2).takeWhile Char.isDigit).length
      else if c = '\n' then 1
      else if c = '\r' then if rest.head? = some '\n' then 2 else 0
      else if c = 'N' then
        match rest with
        | '{' :: inner =>
            let name := inner.takeWhile (· != '}')
            if name.isEmpty || name.length == inner.length then 0 else name.length + 3
        | _ => 0
      else if ['\'', '"', 'a', 'b', 'f', 'r', 'n', 't', 'v', '\\'].contains c then 1
      else 0

/-- How many characters behind a backslash a raw literal takes with it. -/
def rawEscapeLength (quote : Char) (cs : List Char) : Nat :=
  let first := match cs with
    | c :: _ => if c = quote || c = '\\' then 1 else 0
    | [] => 0
  let lineEnd := match cs.drop first with
    | '\r' :: '\n' :: _ => 2
    | '\r' :: _ => 1
    | '\n' :: _ => 1
    | _ => 0
  first + lineEnd

/-! ## Content -/

/-- What stands behind a run of content. -/
inductive Content.Stop where
  /-- The closing delimiter. -/
  | close
  /-- The opening brace of a replacement field. -/
  | field
  /-- Nothing that may stand there. -/
  | broken
deriving DecidableEq, Repr

/-- The text that stops content. -/
def Content.Stop.text (d : Delimiter) : Content.Stop → List Char
  | .close => d.closing
  | .field => ['{']
  | .broken => []

/-- Reads content.  `taken` is what was read, last character first, `filled` says
that content has been read since the last escape, and the next `skip` characters
are content whatever they are. -/
def Content.read (d : Delimiter) (taken : List Char) (filled : Bool) (skip : Nat) :
    List Char → List Char × Content.Stop × List Char
  | [] => (taken.reverse, .broken, [])
  | c :: rest =>
      if 0 < skip then Content.read d (c :: taken) filled (skip - 1) rest
      else if d.formatted && (c = '{' || c = '}') then
        if rest.head? = some c then Content.read d (c :: taken) false 1 rest
        else if c = '{' then (taken.reverse, .field, c :: rest)
        else (taken.reverse, .broken, c :: rest)
      else if c = '\\' then
        if d.raw then Content.read d (c :: taken) filled (rawEscapeLength d.quote rest) rest
        else if d.bytes && (rest.head?.any fun n => n == 'N' || n == 'u' || n == 'U') then
          Content.read d (c :: taken) true 2 rest
        else Content.read d (c :: taken) false (escapeLength rest) rest
      else if c = d.quote then
        if d.triple then
          match rest with
          | q₁ :: q₂ :: _ =>
              if q₁ = c && q₂ = c then (taken.reverse, .close, c :: rest)
              else Content.read d (c :: taken) false 0 rest
          | _ => Content.read d (c :: taken) false 0 rest
        else (taken.reverse, .close, c :: rest)
      else if c = '\n' && filled && !d.triple then (taken.reverse, .broken, c :: rest)
      else if c = '\x00' then (taken.reverse, .broken, c :: rest)
      else Content.read d (c :: taken) true 0 rest

/-- Content is taken from the front of the text. -/
theorem Content.read_append {d : Delimiter} {taken : List Char} {filled : Bool} {skip : Nat}
    {cs content rest : List Char} {stop : Content.Stop}
    (h : Content.read d taken filled skip cs = (content, stop, rest)) :
    content ++ rest = taken.reverse ++ cs := by
  fun_induction Content.read d taken filled skip cs <;> simp_all

/-- Content ends in front of the text that stops it. -/
theorem Content.read_stop (d : Delimiter) (taken : List Char) (filled : Bool) (skip : Nat)
    (cs : List Char) :
    (Content.read d taken filled skip cs).2.1.text d <+:
      (Content.read d taken filled skip cs).2.2 := by
  fun_induction Content.read d taken filled skip cs <;>
    simp_all [Content.Stop.text, Delimiter.closing]

end TestCensus.Source
