import TestCensus.Source.Layout

/-!
# Tokens

A token is a piece of the source together with the layout before it and the
place where it starts.  A name and a reserved word are the same kind of token,
since a word is reserved only where the grammar has a use for it.  A string
literal is written with several tokens: its opening, its content, the fields in
it and its closing.  The last token of a source is the finish, which holds the
layout at the end.
-/

namespace TestCensus.Source

/-- A place in a source: its line and the bytes before it on that line, both
counted from zero. -/
structure Position where
  /-- The line, counted by line feeds. -/
  line : Nat
  /-- The bytes before the place on its line. -/
  column : Nat
deriving DecidableEq, Repr, Inhabited

/-- The place behind a character. -/
def Position.after (p : Position) (c : Char) : Position :=
  if c = '\n' then ⟨p.line + 1, 0⟩ else ⟨p.line, p.column + c.utf8Size⟩

/-- The place behind a text. -/
def Position.behind (p : Position) (cs : List Char) : Position := cs.foldl Position.after p

/-- What a token is. -/
inductive TokenKind where
  /-- A name or a reserved word. -/
  | word
  /-- A numeral. -/
  | number
  /-- An operator, a bracket or a separator. -/
  | operator
  /-- The letters and quotes that open a literal. -/
  | stringOpen
  /-- Content of a literal. -/
  | stringText
  /-- The quotes that close a literal. -/
  | stringClose
  /-- The brace that opens a replacement field. -/
  | fieldOpen
  /-- The brace that closes a replacement field. -/
  | fieldClose
  /-- The mark of a conversion in a replacement field. -/
  | conversion
  /-- The colon before a format specification. -/
  | specOpen
  /-- Text of a format specification. -/
  | specText
  /-- A character that starts no token, or a literal that is not closed. -/
  | unknown
  /-- The end of the source. -/
  | finish
deriving DecidableEq, Repr, Inhabited

/-- A token of a source. -/
structure Token where
  /-- What the token is. -/
  kind : TokenKind
  /-- The token as written. -/
  text : String
  /-- The layout before the token. -/
  gap : Gap
  /-- Where the token starts. -/
  start : Position
  /-- How many tokens stand before it. -/
  index : Nat
deriving DecidableEq, Repr, Inhabited

namespace Token

/-- The token is the given operator. -/
def isOperator (t : Token) (text : String) : Bool := t.kind == .operator && t.text == text

/-- The token is the given word. -/
def isWord (t : Token) (text : String) : Bool := t.kind == .word && t.text == text

/-- The token is none. -/
def isUnknown (t : Token) : Bool := t.kind == .unknown

/-- The first star of a double star. -/
def firstStar (t : Token) : Token := { t with text := "*" }

/-- The second star of a double star, which touches the first. -/
def secondStar (t : Token) : Token := { t with text := "*", gap := .touching }

/-- The token as written, with the layout before it. -/
def written (t : Token) : String := t.gap.text ++ t.text

/-- The source text from a token up to the token of the given index, without the
layout before it. -/
def textUpTo (stop : Nat) : List Token → String
  | [] => ""
  | t :: rest =>
      t.text ++ String.join ((rest.takeWhile (·.index < stop)).map written)

end Token

end TestCensus.Source
