import TestCensus.Source.Token
import TestCensus.Source.Numeral
import TestCensus.Source.Literal
import TestCensus.Text.Name
import TestCensus.Text.Parts

/-!
# Reading tokens

`tokens` reads a whole source.  Reading is a walk over the characters with a
stack of frames that says what surrounds the place that is read: nothing, the
content of a literal, a replacement field in a literal, or the format
specification of a field.  In the open and in a replacement field a token is the
longest one that fits; an operator is the longest entry of `operators`.

At its outermost level a replacement field treats three characters differently.
A closing brace ends the field.  A colon starts the format specification, unless
it belongs to an anonymous function or to an assignment expression.  An
exclamation mark before a small letter is a conversion.

Lines do not count in a replacement field up to the first literal that is nested in
it, and not in such a literal if it is formatted.  Behind a nested literal they count
again, also in the further fields of the literal around it.

A character that starts no token, and a literal that is not closed, give the
token `unknown`, and reading stops there.
-/

namespace TestCensus.Source

open TestCensus.Text

/-! ## Operators -/

/-- The operators of three, of two and of one character. -/
def operators : List (List Char) :=
  ["**=", "//=", ">>=", "<<=", "...", "**", "//", "<<", ">>", "<=", ">=", "==", "!=", "<>",
    "->", ":=", "+=", "-=", "*=", "/=", "%=", "&=", "|=", "^=", "@=", "+", "-", "*", "/", "%",
    "@", "&", "|", "^", "~", "<", ">", "(", ")", "[", "]", "\x7b", "\x7d", ",", ":", ".", ";",
    "="].map String.toList

/-- The longest operator a text starts with, and the text behind it. -/
def operator? (cs : List Char) : Option (List Char × List Char) :=
  operators.findSome? fun o => (dropStart? o cs).map fun rest => (o, rest)

theorem operator?_eq_some {cs text rest : List Char} (h : operator? cs = some (text, rest)) :
    text ++ rest = cs := by
  obtain ⟨o, -, ho⟩ := List.exists_of_findSome?_eq_some h
  obtain ⟨rest', hdrop, he⟩ := Option.map_eq_some_iff.1 ho
  cases he
  exact (dropStart?_eq_some hdrop).symm

/-! ## Frames -/

/-- What surrounds the place that is read. -/
inductive Frame where
  /-- The content of a literal. -/
  | content (d : Delimiter)
  /-- A replacement field, with the number of open brackets in it and of anonymous
  functions whose colon is still to come. -/
  | field (depth : Nat) (functions : Nat)
  /-- The format specification of a replacement field. -/
  | spec
deriving DecidableEq, Repr

/-- The state of the reader. -/
structure Reader where
  /-- The frames, innermost first. -/
  frames : List Frame
  /-- The place that is read. -/
  place : Position
  /-- The tokens read, last first. -/
  found : List Token
  /-- The number of tokens read. -/
  count : Nat

namespace Reader

/-- The state before a source is read. -/
def start : Reader := ⟨[], ⟨0, 0⟩, [], 0⟩

/-- Adds a token behind a gap, and moves behind it. -/
def emit (r : Reader) (gap : Gap) (kind : TokenKind) (text : List Char) : Reader :=
  let start := r.place.behind gap.text.toList
  { r with
    found := ⟨kind, String.ofList text, gap, start, r.count⟩ :: r.found,
    count := r.count + 1,
    place := start.behind text }

/-- Replaces the innermost frame. -/
def swap (r : Reader) (f : Frame) : Reader := { r with frames := f :: r.frames.tail }

/-- Enters a frame. -/
def push (r : Reader) (f : Frame) : Reader := { r with frames := f :: r.frames }

/-- Leaves the innermost frame. -/
def pop (r : Reader) : Reader := { r with frames := r.frames.tail }

/-- The tokens read, with the last one first if it ends the source. -/
def tokens (r : Reader) (gap : Gap) : List Token := (r.emit gap .finish []).found.reverse

/-- The words behind which a name may be bound by an assignment expression. -/
def bindingWords : List String := ["not", "and", "or", "if", "else", "as"]

/-- The last token is a name that an assignment expression may bind. -/
def endsInBindable (r : Reader) : Bool :=
  match r.found with
  | t :: before :: _ =>
      t.kind == .word &&
        (before.kind == .fieldOpen || before.isOperator "," ||
          (before.kind == .word && bindingWords.contains before.text))
  | _ => false

/-- How reading goes on: with a new state and text, or not at all. -/
abbrev Next := Reader × Option (List Char)

/-- Reads on in the content of a literal. -/
def inContent (r : Reader) (d : Delimiter) (cs : List Char) : Next :=
  let (content, stop, rest) := Content.read d [] false 0 cs
  let r := if content.isEmpty then r else r.emit .touching .stringText content
  match stop with
  | .close => (r.pop.emit .touching .stringClose d.closing, some (rest.drop d.closing.length))
  | .field => ((r.emit .touching .fieldOpen ['{']).push (.field 0 0), some (rest.drop 1))
  | .broken => (r.emit .touching .unknown (rest.take 1), none)

/-- The character belongs to a line end, which is layout in a format specification. -/
def isLineEnd (c : Char) : Bool := c == '\n' || c == '\r'

/-- The character is text of a format specification. -/
def isSpecText (c : Char) : Bool := c != '{' && c != '}' && !isLineEnd c

/-- Reads on in a format specification. -/
def inSpec (r : Reader) (cs : List Char) : Next :=
  let gap : Gap := ⟨String.ofList (cs.takeWhile isLineEnd), [], false, 0⟩
  match cs.dropWhile isLineEnd with
  | [] => (r.emit gap .unknown [], none)
  | c :: rest =>
      if c = '{' then ((r.emit gap .fieldOpen [c]).push (.field 0 0), some rest)
      else if c = '}' then (r.pop.emit gap .fieldClose [c], some rest)
      else
        (r.emit gap .specText ((c :: rest).takeWhile isSpecText),
          some ((c :: rest).dropWhile isSpecText))

/-- Counts a bracket that opens in a replacement field. -/
def opening (r : Reader) : Reader :=
  match r.frames with
  | .field depth functions :: _ => r.swap (.field (depth + 1) functions)
  | _ => r

/-- Counts a bracket that closes in a replacement field. -/
def closing (r : Reader) : Reader :=
  match r.frames with
  | .field depth functions :: _ => r.swap (.field (depth - 1) functions)
  | _ => r

/-- Counts an anonymous function that starts at the outermost level of a field. -/
def word (r : Reader) (text : List Char) : Reader :=
  match r.frames with
  | .field 0 functions :: _ =>
      if text = "lambda".toList then r.swap (.field 0 (functions + 1)) else r
  | _ => r

/-- The token at the start of a text that is treated differently at the outermost
level of a replacement field. -/
def outermost? (r : Reader) (gap : Gap) (cs : List Char) : Option Next :=
  match r.frames, cs with
  | .field 0 _ :: _, '}' :: rest => some (r.pop.emit gap .fieldClose ['}'], some rest)
  | .field 0 functions :: _, ':' :: rest =>
      match functions with
      | n + 1 => some ((r.swap (.field 0 n)).emit gap .operator [':'], some rest)
      | 0 =>
          if rest.head? = some '=' && r.endsInBindable then none
          else some ((r.swap .spec).emit gap .specOpen [':'], some rest)
  | .field 0 _ :: _, '!' :: c :: rest =>
      if 'a' ≤ c && c ≤ 'z' then some (r.emit gap .conversion ['!', c], some rest) else none
  | _, _ => none

/-- Reads the token at the start of a text, behind a gap. -/
def atToken (r : Reader) (gap : Gap) (cs : List Char) : Next :=
  match r.outermost? gap cs with
  | some next => next
  | none =>
  match Delimiter.open? cs with
  | some (text, d, rest) => ((r.emit gap .stringOpen text).push (.content d), some rest)
  | none =>
  match name? cs with
  | some (text, rest) => ((r.word text).emit gap .word text, some rest)
  | none =>
  match numeral? cs with
  | some (text, rest) => (r.emit gap .number text, some rest)
  | none =>
  match operator? cs with
  | some (text, rest) =>
      let counted :=
        if text = ['('] || text = ['['] || text = ['{'] then r.opening
        else if text = [')'] || text = [']'] || text = ['}'] then r.closing
        else r
      (counted.emit gap .operator text, some rest)
  | none => (r.emit gap .unknown (cs.take 1), none)

/-- The quotes that were read last open a formatted literal. -/
def opensFormatted (r : Reader) : Bool :=
  match r.found.find? fun t => t.kind == .stringOpen || t.kind == .stringClose with
  | some t => t.kind == .stringOpen && t.text.toList.any fun c => c == 'f' || c == 'F'
  | none => false

/-- What the layout before the next token means at the place that is read. -/
def layout (r : Reader) (gap : Gap) : Gap :=
  match r.frames with
  | .field _ _ :: _ => if r.opensFormatted then gap.joined else gap
  | _ => gap

/-- Reads one step on. -/
def step (r : Reader) (cs : List Char) : Next :=
  match r.frames with
  | .content d :: _ => r.inContent d cs
  | .spec :: _ => r.inSpec cs
  | _ =>
      match gapOf cs with
      | (gap, []) => (r.emit gap .finish [], none)
      | (gap, c :: rest) => r.atToken (r.layout gap) (c :: rest)

theorem layout_of_open {r : Reader} (h : r.frames = []) (gap : Gap) : r.layout gap = gap := by
  rw [layout, h]

@[simp] theorem layout_text (r : Reader) (gap : Gap) : (r.layout gap).text = gap.text := by
  unfold layout
  split
  · split <;> rfl
  · rfl

/-- Reads at most `n` steps. -/
def run : Nat → Reader → List Char → Reader
  | 0, r, _ => r
  | n + 1, r, cs =>
      match r.step cs with
      | (r, some rest) => run n r rest
      | (r, none) => r

end Reader

/-- The tokens of a source.  Every step takes at least one character, so their
number bounds the steps. -/
def tokens (source : List Char) : List Token :=
  let r := Reader.start.run (source.length + 1) source
  match r.found with
  | t :: _ => if t.kind = .finish then r.found.reverse else r.tokens .touching
  | [] => r.tokens .touching

end TestCensus.Source
