import Mathlib.Data.List.Forall2
import TestCensus.Proofs.Source.Returns

/-!
# Layout with carriage returns before the line feeds

Layout is read alike in a text and in the text with carriage returns (`gapOf_returned`): it ends
at the same character, ends a line in both or in neither, and gives the same indentation.  A
carriage return starts the count of the indentation again, and the line feed behind it does so
anyway.  Comments take in the carriage return at their end, and escaped line ends keep it.
-/

namespace TestCensus.Source

/-- The texts are related by carriage returns. -/
def ReturnedText (a b : String) : Prop := Returned a.toList b.toList

theorem Returned.text {cs ds : List Char} (h : Returned cs ds) :
    ReturnedText (String.ofList cs) (String.ofList ds) := by
  rwa [ReturnedText, String.toList_ofList, String.toList_ofList]

/-- The fillers are the same but for carriage returns, whatever the texts of comments. -/
inductive Filler.Returned : Filler → Filler → Prop where
  /-- Comments. -/
  | comment (a b : String) : Filler.Returned (.comment a) (.comment b)
  /-- Escaped line ends. -/
  | continuation {a b : String} : ReturnedText a b →
      Filler.Returned (.continuation a) (.continuation b)

/-- The layouts are the same but for carriage returns. -/
structure Gap.Returned (g g' : Gap) : Prop where
  /-- The text. -/
  text : ReturnedText g.text g'.text
  /-- The fillers. -/
  fillers : List.Forall₂ Filler.Returned g.fillers g'.fillers
  /-- A line ends in both or in none. -/
  endsLine : g'.endsLine = g.endsLine
  /-- The indentation is the same. -/
  indent : g'.indent = g.indent

theorem Gap.touching_returned : Gap.touching.Returned Gap.touching := ⟨.nil, .nil, rfl, rfl⟩

namespace Gap.Reading

/-- What has been read of the layouts is the same but for carriage returns. -/
structure Returned (g g' : Gap.Reading) : Prop where
  /-- The characters read. -/
  taken : Source.Returned g.taken.reverse g'.taken.reverse
  /-- The fillers read. -/
  fillers : List.Forall₂ Filler.Returned g.fillers g'.fillers
  /-- A comment is being read in both or in none. -/
  comment : g'.comment.isSome = g.comment.isSome
  /-- A line ended in both or in none. -/
  endsLine : g'.endsLine = g.endsLine
  /-- The indentation is the same. -/
  indent : g'.indent = g.indent
  /-- The line structure is hidden in both or in none. -/
  hidden : g'.hidden = g.hidden

namespace Returned

variable {g g' : Gap.Reading} (h : g.Returned g')

include h

theorem take {c : Char} (hc : c ≠ '\n') (hc' : c ≠ '\r') : (g.take c).Returned (g'.take c) :=
  { h with taken := h.taken.concat hc hc' }

theorem take_lineFeed : (g.take '\n').Returned ((g'.take '\r').take '\n') :=
  { h with taken := h.taken.concat_lineFeed }

theorem endLine : g.endLine.Returned g'.endLine := by
  unfold Gap.Reading.endLine
  rw [h.hidden]
  split
  · exact h
  · exact { h with endsLine := rfl, indent := rfl, hidden := rfl }

theorem deepen (n : Nat) : (g.deepen n).Returned (g'.deepen n) := by
  unfold Gap.Reading.deepen
  rw [h.hidden]
  split
  · exact h
  · exact { h with indent := congrArg (· + n) h.indent, hidden := rfl }

theorem restart : g.restart.Returned g'.restart := by
  unfold Gap.Reading.restart
  rw [h.hidden]
  split
  · exact h
  · exact { h with indent := rfl, hidden := rfl }

theorem closeComment : g.closeComment.Returned g'.closeComment := by
  unfold Gap.Reading.closeComment
  have hcomment := h.comment
  cases hg : g.comment with
  | none =>
      rw [hg, Option.isSome_none, Option.isSome_eq_false_iff, Option.isNone_iff_eq_none] at hcomment
      rw [hcomment]
      exact h
  | some text =>
      rw [hg, Option.isSome_some] at hcomment
      obtain ⟨text', hg'⟩ := Option.isSome_iff_exists.1 hcomment
      rw [hg']
      exact { h with fillers := .cons (.comment _ _) h.fillers, comment := rfl, hidden := rfl }

theorem continued {text text' : List Char} (htext : Source.Returned text text') :
    (g.continued text).Returned (g'.continued text') where
  taken := by simpa [Gap.Reading.continued] using h.taken.append htext
  fillers := .cons (.continuation htext.text) h.fillers
  comment := h.comment
  endsLine := h.endsLine
  indent := h.indent
  hidden := h.hidden

theorem comment_eq_none (hg : g.comment = none) : g'.comment = none := by
  rw [← Option.isNone_iff_eq_none, ← Option.not_isSome, h.comment, hg]
  rfl

theorem exists_comment {text : List Char} (hg : g.comment = some text) :
    ∃ text', g'.comment = some text' :=
  Option.isSome_iff_exists.1 (by rw [h.comment, hg]; rfl)

theorem gap : g.gap.Returned g'.gap where
  text := h.taken.text
  fillers := List.forall₂_reverse_iff.2 h.fillers
  endsLine := h.endsLine
  indent := h.indent

end Returned

theorem start_returned : Gap.Reading.start.Returned Gap.Reading.start :=
  ⟨.nil, .nil, rfl, rfl, rfl, rfl⟩

@[simp] theorem closeComment_take (g : Gap.Reading) (c : Char) :
    (g.take c).closeComment = g.closeComment.take c := by
  unfold closeComment take
  rcases g with ⟨_, _, _ | _, _, _, _⟩ <;> rfl

@[simp] theorem endLine_take (g : Gap.Reading) (c : Char) :
    (g.take c).endLine = g.endLine.take c := by
  unfold endLine take
  rcases g with ⟨_, _, _, _, _, _ | _⟩ <;> rfl

@[simp] theorem endLine_restart (g : Gap.Reading) : g.restart.endLine = g.endLine := by
  unfold endLine restart
  rcases g with ⟨_, _, _, _, _, _ | _⟩ <;> rfl

end Gap.Reading

theorem Gap.read_comment {g : Gap.Reading} {text : List Char} (hg : g.comment = some text)
    (c : Char) (rest : List Char) :
    Gap.read g (c :: rest) =
      if c = '\n' then Gap.read (g.closeComment.endLine.take c) rest
      else Gap.read ({ g with comment := some (c :: text) }.take c) rest := by
  rw [Gap.read.eq_def]
  dsimp only
  rw [hg]

theorem Gap.read_open {g : Gap.Reading} (hg : g.comment = none) (c : Char) (rest : List Char) :
    Gap.read g (c :: rest) =
      if c = '\n' then Gap.read (g.endLine.take c) rest
      else if c = ' ' then Gap.read ((g.deepen 1).take c) rest
      else if c = '\t' then Gap.read ((g.deepen 8).take c) rest
      else if c = '\r' || c = '\x0c' then Gap.read (g.restart.take c) rest
      else if c = '#' then Gap.read ({ g with comment := some [c] }.take c) rest
      else if hidesLayout c then Gap.read ({ g with hidden := true }.take c) rest
      else if c = '\\' then
        match rest with
        | [] => ((g.continued [c]).endLine, [])
        | '\n' :: rest' => Gap.read (g.continued [c, '\n']) rest'
        | '\r' :: '\n' :: rest' => Gap.read (g.continued [c, '\r', '\n']) rest'
        | _ => (g, c :: rest)
      else (g, c :: rest) := by
  cases g
  cases hg
  exact Gap.read.eq_def _ _

/-- A carriage return before a line feed changes nothing but the text. -/
theorem Gap.read_lineEnd {g : Gap.Reading} (hg : g.comment = none) (rest : List Char) :
    Gap.read g ('\r' :: '\n' :: rest) = Gap.read ((g.endLine.take '\r').take '\n') rest := by
  have hrestart : (g.restart.take '\r').comment = none := by
    unfold Gap.Reading.restart
    split <;> exact hg
  rw [Gap.read_open hg, if_neg (by decide), if_neg (by decide), if_neg (by decide),
    if_pos (by decide), Gap.read_open hrestart, if_pos rfl, Gap.Reading.endLine_take,
    Gap.Reading.endLine_restart]

/-- A backslash escapes a line end, and nothing else outside of literals. -/
theorem Gap.read_backslash {g : Gap.Reading} (hg : g.comment = none) (rest : List Char) :
    Gap.read g ('\\' :: rest) =
      match rest with
      | [] => ((g.continued ['\\']).endLine, [])
      | '\n' :: rest' => Gap.read (g.continued ['\\', '\n']) rest'
      | '\r' :: '\n' :: rest' => Gap.read (g.continued ['\\', '\r', '\n']) rest'
      | _ => (g, '\\' :: rest) := by
  rw [Gap.read_open hg, if_neg (by decide), if_neg (by decide), if_neg (by decide),
    if_neg (by decide), if_neg (by decide), if_neg (by decide), if_pos rfl]

/-- What has been read of the layout when one more character of it has, outside of comments, line
ends and escapes.  None if the layout ends before the character. -/
def Gap.Reading.pass? (g : Gap.Reading) (c : Char) : Option Gap.Reading :=
  if c = ' ' then some ((g.deepen 1).take c)
  else if c = '\t' then some ((g.deepen 8).take c)
  else if c = '\r' || c = '\x0c' then some (g.restart.take c)
  else if c = '#' then some ({ g with comment := some [c] }.take c)
  else if hidesLayout c then some ({ g with hidden := true }.take c)
  else none

theorem Gap.read_pass {g : Gap.Reading} (hg : g.comment = none) {c : Char} (hc : c ≠ '\n')
    (hescape : c ≠ '\\') (rest : List Char) :
    Gap.read g (c :: rest) = (g.pass? c).elim (g, c :: rest) (Gap.read · rest) := by
  rw [Gap.read_open hg, if_neg hc, if_neg hescape, Gap.Reading.pass?]
  split_ifs <;> rfl

theorem Gap.Reading.Returned.pass? {g g' : Gap.Reading} (h : g.Returned g') {c : Char}
    (hc : c ≠ '\n') (hc' : c ≠ '\r') :
    Option.Rel Gap.Reading.Returned (g.pass? c) (g'.pass? c) := by
  have hcomment : Gap.Reading.Returned { g with comment := some [c] }
      { g' with comment := some [c] } := { h with comment := rfl }
  have hhidden : Gap.Reading.Returned { g with hidden := true } { g' with hidden := true } :=
    { h with hidden := rfl }
  unfold Gap.Reading.pass?
  split_ifs
  · exact .some ((h.deepen 1).take hc hc')
  · exact .some ((h.deepen 8).take hc hc')
  · exact .some (h.restart.take hc hc')
  · exact .some (hcomment.take hc hc')
  · exact .some (hhidden.take hc hc')
  · exact .none

/-- Layout was read alike, up to the same place in both texts. -/
structure Gap.Alike (p q : Gap.Reading × List Char) : Prop where
  /-- What has been read. -/
  reading : p.1.Returned q.1
  /-- The text behind it. -/
  rest : Source.Returned p.2 q.2

/-- Layout is read alike in both texts, whatever has been read before them.  An escaped line end is
read at once, so the second part says the same for what stands behind a backslash. -/
structure Gap.ReadsAlike (cs ds : List Char) : Prop where
  /-- The texts as they are. -/
  plain : ∀ ⦃g g' : Gap.Reading⦄, g.Returned g' → Gap.Alike (Gap.read g cs) (Gap.read g' ds)
  /-- The texts behind a backslash that stands in no comment. -/
  escaped : ∀ ⦃g g' : Gap.Reading⦄, g.Returned g' → g.comment = none →
    Gap.Alike (Gap.read g ('\\' :: cs)) (Gap.read g' ('\\' :: ds))

section

variable {cs ds : List Char} {g g' : Gap.Reading}

/-- At the ends of the texts, a backslash is layout as well. -/
theorem Gap.readsAlike_nil : Gap.ReadsAlike [] [] where
  plain g g' hg := by
    rw [Gap.read, Gap.read]
    exact ⟨hg.closeComment.endLine, .nil⟩
  escaped g g' hg hcomment := by
    have htext : Source.Returned ['\\'] ['\\'] := Source.Returned.nil.char (by decide) (by decide)
    rw [Gap.read_backslash hcomment, Gap.read_backslash (hg.comment_eq_none hcomment)]
    exact ⟨(hg.continued htext).endLine, .nil⟩

theorem Gap.ReadsAlike.alike_lineFeed (ih : Gap.ReadsAlike cs ds) (hg : g.Returned g') :
    Gap.Alike (Gap.read g ('\n' :: cs)) (Gap.read g' ('\r' :: '\n' :: ds)) := by
  cases hcomment : g.comment with
  | none =>
      rw [Gap.read_open hcomment, if_pos rfl, Gap.read_lineEnd (hg.comment_eq_none hcomment)]
      exact ih.plain hg.endLine.take_lineFeed
  | some text =>
      -- the carriage return is one more character of the comment
      obtain ⟨text', hcomment'⟩ := hg.exists_comment hcomment
      have hmore : g.Returned { g' with comment := some ('\r' :: text') } :=
        { hg with comment := by rw [hcomment]; rfl }
      rw [Gap.read_comment hcomment, if_pos rfl, Gap.read_comment hcomment', if_neg (by decide),
        Gap.read_comment rfl, if_pos rfl, Gap.Reading.closeComment_take, Gap.Reading.endLine_take]
      exact ih.plain hmore.closeComment.endLine.take_lineFeed

theorem Gap.ReadsAlike.lineFeed (ih : Gap.ReadsAlike cs ds) :
    Gap.ReadsAlike ('\n' :: cs) ('\r' :: '\n' :: ds) where
  plain g g' hg := ih.alike_lineFeed hg
  escaped g g' hg hcomment := by
    have htext : Source.Returned ['\\', '\n'] ['\\', '\r', '\n'] :=
      Source.Returned.nil.lineFeed.char (by decide) (by decide)
    rw [Gap.read_backslash hcomment, Gap.read_backslash (hg.comment_eq_none hcomment)]
    exact ih.plain (hg.continued htext)

variable {c : Char} (hc : c ≠ '\n') (hc' : c ≠ '\r')

include hc hc'

theorem Gap.ReadsAlike.alike_comment (ih : Gap.ReadsAlike cs ds) (hg : g.Returned g')
    {text : List Char} (hcomment : g.comment = some text) :
    Gap.Alike (Gap.read g (c :: cs)) (Gap.read g' (c :: ds)) := by
  obtain ⟨text', hcomment'⟩ := hg.exists_comment hcomment
  have hmore : Gap.Reading.Returned { g with comment := some (c :: text) }
      { g' with comment := some (c :: text') } := { hg with comment := rfl }
  rw [Gap.read_comment hcomment, if_neg hc, Gap.read_comment hcomment', if_neg hc]
  exact ih.plain (hmore.take hc hc')

theorem Gap.ReadsAlike.alike_pass (ih : Gap.ReadsAlike cs ds) (h : Source.Returned cs ds)
    (hg : g.Returned g') (hcomment : g.comment = none) (hescape : c ≠ '\\') :
    Gap.Alike (Gap.read g (c :: cs)) (Gap.read g' (c :: ds)) := by
  rw [Gap.read_pass hcomment hc hescape, Gap.read_pass (hg.comment_eq_none hcomment) hc hescape]
  have hpass := hg.pass? hc hc'
  generalize g.pass? c = p at hpass
  generalize g'.pass? c = p' at hpass
  cases hpass with
  | some hnext => exact ih.plain hnext
  | none => exact ⟨hg, h.char hc hc'⟩

/-- In front of any other character, a backslash ends the layout. -/
theorem Gap.read_backslash_char (hcomment : g.comment = none) (rest : List Char) :
    Gap.read g ('\\' :: c :: rest) = (g, '\\' :: c :: rest) := by
  rw [Gap.read_backslash hcomment]
  split
  · contradiction
  · exact absurd (List.cons.inj ‹_›).1 hc
  · exact absurd (List.cons.inj ‹_›).1 hc'
  · rfl

theorem Gap.ReadsAlike.char (ih : Gap.ReadsAlike cs ds) (h : Source.Returned cs ds) :
    Gap.ReadsAlike (c :: cs) (c :: ds) where
  plain g g' hg := by
    cases hcomment : g.comment with
    | some text => exact ih.alike_comment hc hc' hg hcomment
    | none =>
        by_cases hescape : c = '\\'
        · subst hescape
          exact ih.escaped hg hcomment
        · exact ih.alike_pass hc hc' h hg hcomment hescape
  escaped g g' hg hcomment := by
    rw [Gap.read_backslash_char hc hc' hcomment,
      Gap.read_backslash_char hc hc' (hg.comment_eq_none hcomment)]
    exact ⟨hg, (h.char hc hc').char (by decide) (by decide)⟩

end

theorem Gap.readsAlike {cs ds : List Char} (h : Source.Returned cs ds) : Gap.ReadsAlike cs ds := by
  induction h with
  | nil => exact Gap.readsAlike_nil
  | lineFeed _ ih => exact ih.lineFeed
  | char hc hc' h ih => exact ih.char hc hc' h

theorem gapOf_returned {cs ds : List Char} (h : Returned cs ds) :
    (gapOf cs).1.Returned (gapOf ds).1 ∧ Returned (gapOf cs).2 (gapOf ds).2 := by
  have hread := (Gap.readsAlike h).plain Gap.Reading.start_returned
  exact ⟨hread.reading.gap, hread.rest⟩

end TestCensus.Source
