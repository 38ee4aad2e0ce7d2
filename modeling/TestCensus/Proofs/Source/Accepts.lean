import TestCensus.Source.Statement
import TestCensus.Proofs.Source.Lexemes

/-!
# What a reader accepts

`Parse.Accepts` states the success of a reader: on all tokens with the given lexemes it
has an answer as wanted, and the tokens that it leaves have the lexemes that are left.
Columns and the numbers of tokens do not matter.

Readers are put together, and so are these statements.  There is one rule for each way
of putting readers together.

* `Accepts.pure` for an answer.
* `Accepts.bind` for two readers, the second one for any answer of the first, and
  `Accepts.next` where the answer of the first one is known.
* `Accepts.pos` and `Accepts.neg` for the two sides of a choice.

The readers of single tokens come first.  Most of them answer with what can be read off
the next lexeme.  Where the reader behind them looks at the token itself, `Accepts.head`,
`Accepts.take` and `Accepts.nextOperand?` put a token with that lexeme in its place.
-/

namespace TestCensus.Source

/-! ## Rules -/

namespace Parse

/-- On tokens with the lexemes `ls` the reader has an answer as wanted, and leaves tokens
with the lexemes `ls'`. -/
def Accepts (p : Parse α) (ls : List Lexeme) (wanted : α → Prop) (ls' : List Lexeme) : Prop :=
  ∀ ts : List Token, ts.map Token.lexeme = ls →
    ∃ a rest, p.run ts = .ok (a, rest) ∧ wanted a ∧ rest.map Token.lexeme = ls'

variable {p q : Parse α} {f : α → Parse β} {ls mid ls' : List Lexeme} {wanted : α → Prop}
  {wanted' : β → Prop}

theorem Accepts.pure {a : α} (h : wanted a) : (pure a : Parse α).Accepts ls wanted ls :=
  fun ts hts => ⟨a, ts, rfl, h, hts⟩

theorem Accepts.bind (hp : p.Accepts ls wanted mid)
    (hf : ∀ a, wanted a → (f a).Accepts mid wanted' ls') : (p >>= f).Accepts ls wanted' ls' := by
  intro ts hts
  obtain ⟨a, ts', hrun, ha, hts'⟩ := hp ts hts
  obtain ⟨b, rest, hrun', hb, hrest⟩ := hf a ha ts' hts'
  exact ⟨b, rest, run_bind_eq_ok.2 ⟨a, ts', hrun, hrun'⟩, hb, hrest⟩

/-- The answer of the first reader is known. -/
theorem Accepts.next {a : α} (hp : p.Accepts ls (· = a) mid)
    (hf : (f a).Accepts mid wanted' ls') : (p >>= f).Accepts ls wanted' ls' :=
  hp.bind fun _ ha => ha ▸ hf

theorem Accepts.mono {wanted' : α → Prop} (hp : p.Accepts ls wanted ls')
    (h : ∀ a, wanted a → wanted' a) : p.Accepts ls wanted' ls' := by
  intro ts hts
  obtain ⟨a, rest, hrun, ha, hrest⟩ := hp ts hts
  exact ⟨a, rest, hrun, h a ha, hrest⟩

theorem Accepts.pos {c : Prop} [Decidable c] (hc : c) (hp : p.Accepts ls wanted ls') :
    (if c then p else q).Accepts ls wanted ls' := by rwa [if_pos hc]

theorem Accepts.neg {c : Prop} [Decidable c] (hc : ¬c) (hq : q.Accepts ls wanted ls') :
    (if c then p else q).Accepts ls wanted ls' := by rwa [if_neg hc]

/-- The next token is known. -/
theorem Accepts.of_cons {l : Lexeme}
    (h : ∀ t ts, t.lexeme = l → ts.map Token.lexeme = ls →
      ∃ a rest, p.run (t :: ts) = .ok (a, rest) ∧ wanted a ∧ rest.map Token.lexeme = ls') :
    p.Accepts (l :: ls) wanted ls' := by
  intro ts hts
  cases ts with
  | nil => cases hts
  | cons t ts =>
      obtain ⟨ht, hts⟩ := List.cons.inj hts
      exact h t ts ht hts

/-- What is accepted in a statement is accepted. -/
theorem Accepts.asStatement (h : p.Accepts ls wanted ls') :
    p.asStatement.Accepts ls wanted ls' := by
  intro ts hts
  obtain ⟨a, rest, hrun, ha, hrest⟩ := h ts hts
  refine ⟨a, rest, ?_, ha, hrest⟩
  unfold Parse.asStatement
  simp only [hrun]

end Parse

open Parse

/-! ## Single tokens -/

namespace Lexeme

/-- The lexeme is the given operator. -/
def isOperator (l : Lexeme) (text : String) : Bool := l.kind == .operator && l.text == text

/-- The lexeme is the given word. -/
def isWord (l : Lexeme) (text : String) : Bool := l.kind == .word && l.text == text

/-- The token with the lexeme, the place and the number. -/
def token (l : Lexeme) (start : Position) (index : Nat) : Token :=
  ⟨l.kind, l.text, l.gap, start, index⟩

theorem exists_token {t : Token} {l : Lexeme} (h : t.lexeme = l) :
    ∃ start index, t = l.token start index := by
  subst h
  exact ⟨t.start, t.index, rfl⟩

end Lexeme

/-- The construct does not go on to the lexeme. -/
def Bounds.stopsAt (b : Bounds) (l : Lexeme) : Bool :=
  l.gap.endsLine && (b.lineEnds || (!b.closes && l.gap.indent < b.indent))

section

variable {b : Bounds} {l m : Lexeme} {ls : List Lexeme} {text : String}

theorem head_accepts : head.Accepts (l :: ls) (·.lexeme = l) (l :: ls) :=
  .of_cons fun t ts ht hts => ⟨t, t :: ts, rfl, ht, by rw [List.map_cons, ht, hts]⟩

theorem ahead_accepts (ls : List Lexeme) :
    ahead.Accepts ls (·.map Token.lexeme = ls) ls := fun ts hts => ⟨ts, ts, rfl, hts, hts⟩

theorem take_accepts : take.Accepts (l :: m :: ls) (·.lexeme = l) (m :: ls) :=
  .of_cons fun t ts ht hts => by
    cases ts with
    | nil => cases hts
    | cons u ts => exact ⟨t, u :: ts, rfl, ht, hts⟩

theorem second_accepts :
    second.Accepts (l :: ls) (fun u => u.map Token.lexeme = ls.head?) (l :: ls) :=
  .of_cons fun t ts ht hts => by
    refine ⟨ts.head?, t :: ts, ?_, ?_, by rw [List.map_cons, ht, hts]⟩
    · cases ts <;> rfl
    · rw [← hts, List.head?_map]

theorem textSince_accepts (before : List Token) :
    (textSince before).Accepts (l :: ls) (fun _ => True) (l :: ls) :=
  .bind head_accepts fun _ _ => .pure trivial

theorem atLineEnd_accepts : atLineEnd.Accepts (l :: ls) (· = l.gap.endsLine) (l :: ls) :=
  .bind head_accepts fun _ ht => .pure (by rw [← ht]; rfl)

theorem fillers_accepts (operand : Bool) (h : l.gap.fillers = []) :
    (fillers operand).Accepts (l :: ls) (· = []) (l :: ls) := by
  refine .bind head_accepts fun t ht => .pure ?_
  have hgap : t.gap.fillers = [] := by rw [← h, ← ht]; rfl
  simp [Gap.fillersBeforeString, hgap]

theorem fillerParts_accepts (operand : Bool) (h : l.gap.fillers = []) :
    (fillerParts operand).Accepts (l :: ls) (· = []) (l :: ls) :=
  .next (fillers_accepts operand h) (.pure rfl)

theorem next?_accepts (h : b.stopsAt l = false) :
    (next? b).Accepts (l :: ls) (fun u => ∃ t, u = some t ∧ t.lexeme = l) (l :: ls) := by
  refine .bind head_accepts fun t ht => .neg ?_ (.pure ⟨t, rfl, ht⟩)
  rw [← ht] at h
  exact Bool.eq_false_iff.1 h

theorem next?_stops (h : b.stopsAt l = true) :
    (next? b).Accepts (l :: ls) (· = none) (l :: ls) := by
  refine .bind head_accepts fun t ht => .pos ?_ (.pure rfl)
  rw [← ht] at h
  exact h

/-- An operand goes on to a token that does not start a line. -/
theorem nextOperand?_accepts (h : l.gap.endsLine = false) :
    (nextOperand? b).Accepts (l :: ls) (fun u => ∃ t, u = some t ∧ t.lexeme = l) (l :: ls) := by
  refine .bind head_accepts fun t ht => .neg ?_ (.pure ⟨t, rfl, ht⟩)
  rw [← ht] at h
  have hgap : t.gap.endsLine = false := h
  simp [hgap]

variable {wanted : α → Prop} {ls' : List Lexeme}

theorem Parse.Accepts.head {f : Token → Parse α}
    (h : ∀ start index, (f (l.token start index)).Accepts (l :: ls) wanted ls') :
    (Parse.head >>= f).Accepts (l :: ls) wanted ls' := by
  refine .bind head_accepts fun t ht => ?_
  obtain ⟨start, index, rfl⟩ := Lexeme.exists_token ht
  exact h start index

theorem Parse.Accepts.take {f : Token → Parse α}
    (h : ∀ start index, (f (l.token start index)).Accepts (m :: ls) wanted ls') :
    (Parse.take >>= f).Accepts (l :: m :: ls) wanted ls' := by
  refine .bind take_accepts fun t ht => ?_
  obtain ⟨start, index, rfl⟩ := Lexeme.exists_token ht
  exact h start index

theorem Parse.Accepts.nextOperand? {f : Option Token → Parse α} (hl : l.gap.endsLine = false)
    (h : ∀ start index, (f (some (l.token start index))).Accepts (l :: ls) wanted ls') :
    (Source.nextOperand? b >>= f).Accepts (l :: ls) wanted ls' := by
  refine .bind (nextOperand?_accepts hl) ?_
  rintro _ ⟨t, rfl, ht⟩
  obtain ⟨start, index, rfl⟩ := Lexeme.exists_token ht
  exact h start index

theorem atOperator_accepts (b : Bounds) (text : String) :
    (atOperator b text).Accepts (l :: ls) (· = (!b.stopsAt l && l.isOperator text)) (l :: ls) := by
  cases h : b.stopsAt l with
  | true => exact .next (next?_stops h) (.pure rfl)
  | false =>
      refine .bind (next?_accepts h) ?_
      rintro _ ⟨t, rfl, rfl⟩
      exact .pure rfl

theorem atWord_accepts (b : Bounds) (text : String) :
    (atWord b text).Accepts (l :: ls) (· = (!b.stopsAt l && l.isWord text)) (l :: ls) := by
  cases h : b.stopsAt l with
  | true => exact .next (next?_stops h) (.pure rfl)
  | false =>
      refine .bind (next?_accepts h) ?_
      rintro _ ⟨t, rfl, rfl⟩
      exact .pure rfl

theorem skipOperator_accepts (hb : b.stopsAt l = false) (hl : l.isOperator text = true) :
    (skipOperator b text).Accepts (l :: m :: ls) (· = true) (m :: ls) := by
  refine .next (atOperator_accepts b text) (.pos (by simp [hb, hl]) ?_)
  exact .bind take_accepts fun _ _ => .pure rfl

theorem skipOperator_skips (h : (!b.stopsAt l && l.isOperator text) = false) :
    (skipOperator b text).Accepts (l :: ls) (· = false) (l :: ls) :=
  .next (atOperator_accepts b text) (.neg (by simp [h]) (.pure rfl))

theorem skipWord_skips (h : (!b.stopsAt l && l.isWord text) = false) :
    (skipWord b text).Accepts (l :: ls) (· = false) (l :: ls) :=
  .next (atWord_accepts b text) (.neg (by simp [h]) (.pure rfl))

theorem expect_accepts (hb : b.stopsAt l = false) (hl : l.isOperator text = true) :
    (expect b text).Accepts (l :: m :: ls) (·.lexeme = l) (m :: ls) := by
  refine .bind (next?_accepts hb) ?_
  rintro _ ⟨t, rfl, rfl⟩
  exact .pos hl take_accepts

theorem expectWord_accepts (hb : b.stopsAt l = false) (hl : l.kind = .word) :
    (expectWord b).Accepts (l :: m :: ls) (·.lexeme = l) (m :: ls) := by
  refine .bind (next?_accepts hb) ?_
  rintro _ ⟨t, rfl, rfl⟩
  exact .pos hl take_accepts

end

end TestCensus.Source
