/-!
# Layout between tokens

Blank space, comments and escaped line ends may stand before any token.  They
are kept as a `Gap`, which says three things about the token behind it.

* Does the token start a new line?  A line feed ends a line unless a backslash
  stands before it, and the end of the source ends a line too.
* How deep is that line indented?  A space counts one and a tab eight.  A
  carriage return and a form feed start the count again, and an escaped line end
  leaves it as it is, so an escaped line continues its own indentation.
* Which fillers stand there?  A comment and an escaped line end are named parts
  of the tree, and blank space is not.

A zero-width space, a byte order mark and a vertical tab are blank too, but the
line structure is not read past them: until the next comment they hide the line
ends and the indentation.
-/

namespace TestCensus.Source

/-- A named part of the layout. -/
inductive Filler where
  /-- From a hash to the end of its line. -/
  | comment (text : String)
  /-- A backslash with the line end that it escapes. -/
  | continuation (text : String)
deriving DecidableEq, Repr, Inhabited

/-- The filler is a comment. -/
def Filler.isComment : Filler → Bool
  | .comment _ => true
  | .continuation _ => false

/-- The layout before a token. -/
structure Gap where
  /-- The layout as written. -/
  text : String
  /-- The comments and escaped line ends, in order. -/
  fillers : List Filler
  /-- A line ended here. -/
  endsLine : Bool
  /-- The indentation of the line that the token stands on. -/
  indent : Nat
deriving DecidableEq, Repr, Inhabited

/-- The empty layout between two tokens that touch. -/
def Gap.touching : Gap := ⟨"", [], false, 0⟩

/-- The same layout where lines do not count. -/
def Gap.joined (g : Gap) : Gap := { g with endsLine := false, indent := 0 }

/-- What has been read of a gap. -/
structure Gap.Reading where
  /-- The characters read, last first. -/
  taken : List Char
  /-- The fillers read, last first. -/
  fillers : List Filler
  /-- The comment that is being read, last character first. -/
  comment : Option (List Char)
  /-- A line ended. -/
  endsLine : Bool
  /-- The indentation of the current line. -/
  indent : Nat
  /-- The line structure is hidden until the next comment. -/
  hidden : Bool

namespace Gap.Reading

/-- Nothing read yet. -/
def start : Gap.Reading := ⟨[], [], none, false, 0, false⟩

/-- One more character that changes nothing else. -/
def take (g : Gap.Reading) (c : Char) : Gap.Reading := { g with taken := c :: g.taken }

/-- A line ended. -/
def endLine (g : Gap.Reading) : Gap.Reading :=
  if g.hidden then g else { g with endsLine := true, indent := 0 }

/-- The line is indented by `n` more columns. -/
def deepen (g : Gap.Reading) (n : Nat) : Gap.Reading :=
  if g.hidden then g else { g with indent := g.indent + n }

/-- The count of the indentation starts again. -/
def restart (g : Gap.Reading) : Gap.Reading := if g.hidden then g else { g with indent := 0 }

/-- A comment that was being read is complete. -/
def closeComment (g : Gap.Reading) : Gap.Reading :=
  match g.comment with
  | none => g
  | some text =>
      { g with
        fillers := .comment (String.ofList text.reverse) :: g.fillers, comment := none,
        hidden := false }

/-- An escaped line end, as written. -/
def continued (g : Gap.Reading) (text : List Char) : Gap.Reading :=
  { g with
    taken := text.reverse ++ g.taken,
    fillers := .continuation (String.ofList text) :: g.fillers }

/-- The gap that was read. -/
def gap (g : Gap.Reading) : Gap :=
  ⟨String.ofList g.taken.reverse, g.fillers.reverse, g.endsLine, g.indent⟩

end Gap.Reading

/-- The character is blank and hides the line structure. -/
def hidesLayout (c : Char) : Bool :=
  c == '\x0b' || c == '\ufeff' || c == '\u2060' || c == '\u200b'

/-- Reads layout as far as it goes. -/
def Gap.read (g : Gap.Reading) : List Char → Gap.Reading × List Char
  | [] => (g.closeComment.endLine, [])
  | c :: rest =>
      match g.comment with
      | some text =>
          if c = '\n' then Gap.read (g.closeComment.endLine.take c) rest
          else Gap.read ({ g with comment := some (c :: text) }.take c) rest
      | none =>
          if c = '\n' then Gap.read (g.endLine.take c) rest
          else if c = ' ' then Gap.read ((g.deepen 1).take c) rest
          else if c = '\t' then Gap.read ((g.deepen 8).take c) rest
          else if c = '\r' || c = '\x0c' then Gap.read (g.restart.take c) rest
          else if c = '#' then Gap.read ({ g with comment := some [c] }.take c) rest
          else if hidesLayout c then Gap.read ({ g with hidden := true }.take c) rest
          else if c = '\\' then
            match rest with
            | [] => ((g.continued [c]).endLine, [])
            | '\n' :: rest' => Gap.read (g.continued [c, '\n']) rest'
            | '\r' :: '\n' :: rest' => Gap.read (g.continued [c, '\r', '\n']) rest'
            | _ => (g, c :: rest)
          else (g, c :: rest)

/-- The layout at the beginning of a text, and the text behind it. -/
def gapOf (cs : List Char) : Gap × List Char :=
  let (g, rest) := Gap.read .start cs
  (g.gap, rest)

/-- The fillers of the gap before a string literal where an operand is expected.
The escaped line ends directly before the literal are blank space there. -/
def Gap.fillersBeforeString (g : Gap) : List Filler :=
  (g.fillers.reverse.dropWhile (!·.isComment)).reverse

/-! ## What reading layout keeps -/

namespace Gap.Reading

@[simp] theorem take_taken (g : Gap.Reading) (c : Char) : (g.take c).taken = c :: g.taken := rfl

@[simp] theorem endLine_taken (g : Gap.Reading) : g.endLine.taken = g.taken := by
  unfold endLine
  split <;> rfl

@[simp] theorem deepen_taken (g : Gap.Reading) (n : Nat) : (g.deepen n).taken = g.taken := by
  unfold deepen
  split <;> rfl

@[simp] theorem restart_taken (g : Gap.Reading) : g.restart.taken = g.taken := by
  unfold restart
  split <;> rfl

@[simp] theorem closeComment_taken (g : Gap.Reading) : g.closeComment.taken = g.taken := by
  unfold closeComment
  split <;> rfl

@[simp] theorem continued_taken (g : Gap.Reading) (text : List Char) :
    (g.continued text).taken = text.reverse ++ g.taken := rfl

end Gap.Reading

/-- Reading layout takes characters from the front and keeps all of them. -/
theorem Gap.read_append (g : Gap.Reading) (cs : List Char) :
    (Gap.read g cs).1.taken.reverse ++ (Gap.read g cs).2 = g.taken.reverse ++ cs := by
  fun_induction Gap.read g cs <;> simp_all

/-- A gap is taken from the front of the text. -/
theorem gapOf_eq {cs rest : List Char} {g : Gap} (h : gapOf cs = (g, rest)) :
    g.text.toList ++ rest = cs := by
  have hread := Gap.read_append .start cs
  simp only [gapOf, Prod.mk.injEq] at h
  obtain ⟨rfl, rfl⟩ := h
  simpa [Gap.Reading.gap, Gap.Reading.start] using hread

end TestCensus.Source
