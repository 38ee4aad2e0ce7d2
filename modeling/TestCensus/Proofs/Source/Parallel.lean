import Mathlib.Data.List.Forall2
import Mathlib.Data.Option.Basic
import TestCensus.Proofs.Source.Rewriting
import TestCensus.Proofs.Source.StatementPlaces

/-!
# Parallel readings

Two lists of tokens are parallel if their tokens agree in everything that the grammar looks
at: kinds, the texts of words and operators, the line structure and the fillers.  They may
differ in columns, in the texts of comments and, in a way given by two rewritings of texts, in
the texts of literals and of the layout.

`Parse.Parallel` says of two readers that they do the same on parallel tokens: both fail, or
both give answers that are related and leave parallel tokens.  A reader of the grammar is
parallel to itself, where trees are related if they are equal once their texts are rewritten.
The rules are these.

* `Parallel.pure` for an answer, `Parallel.stop` and `Parallel.fail` for a reader that has none.
* `Parallel.bind` for two readers one after the other, `Parallel.skip` if the answer of the
  first does not matter, and `Parallel.ask` if it has one answer.
* `Parallel.branch` for a choice that does not depend on the tokens, or `Parallel.ite` if what
  is known in it matters, and `Parallel.choose` for one by a reader.

What a choice depends on is the same for parallel tokens (`Token.Parallel.isOperator` and the
lemmas with it), so the rules go through every reader along its text.
-/

namespace TestCensus.Source

/-- A way to rewrite texts, piece by piece. -/
structure Rewriting where
  /-- The rewritten text. -/
  apply : String → String
  /-- Pieces are rewritten one by one. -/
  append : ∀ a b, apply (a ++ b) = apply a ++ apply b
  /-- A star stays, since a double star is split into two of them. -/
  star : apply "*" = "*"

theorem Rewriting.empty (f : Rewriting) : f.apply "" = "" := by
  have h := congrArg String.length (f.append "" "")
  rw [String.append_empty, String.length_append] at h
  exact String.length_eq_zero_iff.1 (by omega)

variable {f g : Rewriting}

/-! ## Parallel tokens -/

/-- The tokens agree in what the grammar looks at, and in their texts once the rewritings have
been applied. -/
structure Token.Parallel (f g : Rewriting) (t u : Token) : Prop where
  /-- The kinds are the same. -/
  kind : u.kind = t.kind
  /-- The rewritten texts are the same. -/
  text : f.apply t.text = g.apply u.text
  /-- Outside of literals, so are the texts. -/
  verbatim : t.kind ≠ .stringText → u.text = t.text
  /-- The rewritten layouts are the same. -/
  layout : f.apply t.gap.text = g.apply u.gap.text
  /-- There is layout before both tokens or before none. -/
  touches : (u.gap.text == "") = (t.gap.text == "")
  /-- The fillers are the same but for their texts. -/
  fillers : t.gap.fillers.map (·.rewritten f.apply) = u.gap.fillers.map (·.rewritten g.apply)
  /-- A line ends before both tokens or before none. -/
  endsLine : u.gap.endsLine = t.gap.endsLine
  /-- The lines are indented the same. -/
  indent : u.gap.indent = t.gap.indent
  /-- The tokens stand on the same line. -/
  line : u.start.line = t.start.line
  /-- As many tokens stand before them. -/
  index : u.index = t.index

/-- The lists are parallel, token by token. -/
abbrev ParallelTokens (f g : Rewriting) : List Token → List Token → Prop :=
  List.Forall₂ (Token.Parallel f g)

namespace Token.Parallel

variable {t u : Token} (h : t.Parallel f g u)

include h

theorem text_of_kind {kind : TokenKind} (hkind : t.kind = kind) (hne : kind ≠ .stringText) :
    u.text = t.text := h.verbatim (hkind ▸ hne)

/-- The text of a token of one kind is tested alike. -/
theorem kind_and (kind : TokenKind) (hne : kind ≠ .stringText) (test : String → Bool) :
    (u.kind == kind && test u.text) = (t.kind == kind && test t.text) := by
  rw [h.kind]
  cases hkind : t.kind == kind with
  | false => rfl
  | true => rw [h.text_of_kind (eq_of_beq hkind) hne]

theorem kind_and_decide (kind : TokenKind) (hne : kind ≠ .stringText) (test : String → Bool) :
    (decide (u.kind = kind) && test u.text) = (decide (t.kind = kind) && test t.text) :=
  h.kind_and kind hne test

theorem isOperator (text : String) : u.isOperator text = t.isOperator text :=
  h.kind_and .operator nofun (· == text)

theorem isWord (text : String) : u.isWord text = t.isWord text :=
  h.kind_and .word nofun (· == text)

theorem isQuoted : u.isQuoted = t.isQuoted := by
  unfold Token.isQuoted
  rw [h.kind]
  cases hkind : t.kind == .stringOpen with
  | false => rfl
  | true => rw [h.text_of_kind (eq_of_beq hkind) nofun]

theorem startsOperand : u.startsOperand = t.startsOperand := by
  unfold Token.startsOperand
  rw [h.kind_and .operator nofun fun text => operandStarts.contains text, h.kind]

theorem awaits : Source.awaits u = Source.awaits t := by
  unfold Source.awaits
  rw [h.startsOperand, h.kind_and .word nofun fun text => joiningWords.contains text]

theorem firstStar : t.firstStar.Parallel f g u.firstStar :=
  { h with text := f.star.trans g.star.symm, verbatim := fun _ => rfl }

theorem secondStar : t.secondStar.Parallel f g u.secondStar :=
  { h with
    text := f.star.trans g.star.symm, verbatim := fun _ => rfl,
    layout := f.empty.trans g.empty.symm, touches := rfl, fillers := rfl, endsLine := rfl,
    indent := rfl }

theorem written : f.apply t.written = g.apply u.written := by
  rw [Token.written, Token.written, f.append, g.append, h.layout, h.text]

end Token.Parallel

/-- The finish that stands for an empty list of tokens. -/
theorem parallel_finish :
    Token.Parallel f g ⟨.finish, "", .touching, ⟨0, 0⟩, 0⟩ ⟨.finish, "", .touching, ⟨0, 0⟩, 0⟩ where
  kind := rfl
  text := f.empty.trans g.empty.symm
  verbatim _ := rfl
  layout := f.empty.trans g.empty.symm
  touches := rfl
  fillers := rfl
  endsLine := rfl
  indent := rfl
  line := rfl
  index := rfl

/-- The texts of parallel tokens are the same once they are rewritten. -/
theorem textUpTo_parallel {ts us : List Token} (h : ParallelTokens f g ts us) (stop : Nat) :
    f.apply (Token.textUpTo stop ts) = g.apply (Token.textUpTo stop us) := by
  have hjoin : ∀ {ts us : List Token}, ParallelTokens f g ts us →
      f.apply (String.join ((ts.takeWhile (·.index < stop)).map Token.written)) =
        g.apply (String.join ((us.takeWhile (·.index < stop)).map Token.written)) := by
    intro ts us h
    induction h with
    | nil => exact f.empty.trans g.empty.symm
    | @cons t u ts us htu _ ih =>
        rw [List.takeWhile_cons, List.takeWhile_cons, htu.index]
        split
        · rw [List.map_cons, List.map_cons, String.join_cons, String.join_cons, f.append, g.append,
            htu.written, ih]
        · exact f.empty.trans g.empty.symm
  cases h with
  | nil => exact f.empty.trans g.empty.symm
  | cons htu hrest => rw [Token.textUpTo, Token.textUpTo, f.append, g.append, htu.text, hjoin hrest]

/-- The texts are related by the rewritings. -/
def SameText (f g : Rewriting) (a b : String) : Prop := f.apply a = g.apply b

/-! ## Parallel readers -/

/-- Two readings end alike: both fail, or both give related answers and leave parallel
tokens. -/
inductive Parse.Outcome (f g : Rewriting) {α β : Type} (R : α → β → Prop) :
    Except Damage (α × List Token) → Except Damage (β × List Token) → Prop where
  /-- Both have an answer. -/
  | ok {a : α} {b : β} {rest rest' : List Token} : R a b → ParallelTokens f g rest rest' →
      Outcome f g R (.ok (a, rest)) (.ok (b, rest'))
  /-- Both fail. -/
  | error (d e : Damage) : Outcome f g R (.error d) (.error e)

/-- On parallel tokens the readers do the same. -/
structure Parse.Parallel (f g : Rewriting) {α β : Type} (R : α → β → Prop) (p : Parse α)
    (q : Parse β) : Prop where
  /-- They end alike. -/
  outcome : ∀ {ts us : List Token}, ParallelTokens f g ts us →
    Parse.Outcome f g R (p.run ts) (q.run us)

namespace Parse

variable {α β γ δ : Type} {R : α → β → Prop} {S : γ → δ → Prop}

/-- A reader of two steps, after a first step that ends alike. -/
theorem Outcome.bind {p : Parse α} {q : Parse β} {k : α → Parse γ} {l : β → Parse δ}
    {ts us : List Token} (h : Outcome f g R (p.run ts) (q.run us))
    (hnext : ∀ {a b rest rest'}, p.run ts = .ok (a, rest) → R a b → ParallelTokens f g rest rest' →
      Outcome f g S ((k a).run rest) ((l b).run rest')) :
    Outcome f g S ((p >>= k).run ts) ((q >>= l).run us) := by
  show Outcome f g S ((Parse.bind p k).run ts) ((Parse.bind q l).run us)
  unfold Parse.bind
  dsimp only
  generalize hp : p.run ts = r at h hnext
  generalize q.run us = r' at h
  cases h with
  | ok hab hrest => exact hnext rfl hab hrest
  | error d e => exact .error d e

theorem Parallel.bind {p : Parse α} {q : Parse β} {k : α → Parse γ} {l : β → Parse δ}
    (h : Parallel f g R p q) (hnext : ∀ a b, R a b → Parallel f g S (k a) (l b)) :
    Parallel f g S (p >>= k) (q >>= l) :=
  ⟨fun hts => (h.outcome hts).bind fun _ hab hrest => (hnext _ _ hab).outcome hrest⟩

theorem Parallel.pure {a : α} {b : β} (h : R a b) :
    Parallel f g R (pure a : Parse α) (pure b : Parse β) :=
  ⟨fun hts => .ok h hts⟩

theorem Parallel.fail (d e : Damage) :
    Parallel f g R (Parse.fail d : Parse α) (Parse.fail e : Parse β) :=
  ⟨fun _ => .error d e⟩

theorem Parallel.stop : Parallel f g R (Parse.stop : Parse α) (Parse.stop : Parse β) := by
  refine ⟨fun hts => ?_⟩
  cases hts with
  | nil => exact .error _ _
  | cons _ _ => exact .error _ _

theorem Parallel.ite {c : Prop} [Decidable c] {p p' : Parse α} {q q' : Parse β}
    (h : c → Parallel f g R p q) (h' : ¬c → Parallel f g R p' q') :
    Parallel f g R (if c then p else p') (if c then q else q') := by
  split
  · exact h ‹_›
  · exact h' ‹_›

theorem Parallel.branch {c : Prop} [Decidable c] {p p' : Parse α} {q q' : Parse β}
    (h : Parallel f g R p q) (h' : Parallel f g R p' q') :
    Parallel f g R (if c then p else p') (if c then q else q') := .ite (fun _ => h) fun _ => h'

/-- A second reader, after a first one whose answer does not matter. -/
theorem Parallel.skip {p : Parse α} {q : Parse β} {p' : Parse γ} {q' : Parse δ}
    (h : Parallel f g R p q) (h' : Parallel f g S p' q') :
    Parallel f g S (p >>= fun _ => p') (q >>= fun _ => q') := h.bind fun _ _ _ => h'

/-- A second reader, after a first one that has one answer. -/
theorem Parallel.ask {p q : Parse α} {k : α → Parse γ} {l : α → Parse δ}
    (h : Parallel f g Eq p q) (hnext : ∀ a, Parallel f g S (k a) (l a)) :
    Parallel f g S (p >>= k) (q >>= l) := h.bind fun a _ hab => hab ▸ hnext a

/-- A choice by the answer of a first reader. -/
theorem Parallel.choose {p q : Parse Bool} {p₁ p₂ : Parse γ} {q₁ q₂ : Parse δ}
    (h : Parallel f g Eq p q) (h₁ : Parallel f g S p₁ q₁) (h₂ : Parallel f g S p₂ q₂) :
    Parallel f g S (p >>= fun c => if c = true then p₁ else p₂)
      (q >>= fun c => if c = true then q₁ else q₂) := h.ask fun _ => .ite (fun _ => h₁) fun _ => h₂

/-- Related answers may be related otherwise too. -/
theorem Parallel.mono {R' : α → β → Prop} {p : Parse α} {q : Parse β} (h : Parallel f g R p q)
    (hR : ∀ a b, R a b → R' a b) : Parallel f g R' p q := by
  refine ⟨fun {ts us} hts => ?_⟩
  have houtcome := h.outcome hts
  generalize p.run ts = r at houtcome
  generalize q.run us = r' at houtcome
  cases houtcome with
  | ok hab hrest => exact .ok (hR _ _ hab) hrest
  | error d e => exact .error d e

/-- What the first reader tells about its answers is known of both. -/
theorem Parallel.and {p : Parse α} {q : Parse β} {P : α → Prop} (h : Parallel f g R p q)
    (hp : ∀ {ts a rest}, p.run ts = .ok (a, rest) → P a) :
    Parallel f g (fun a b => R a b ∧ P a) p q := by
  refine ⟨fun {ts us} hts => ?_⟩
  have houtcome := h.outcome hts
  generalize hrun : p.run ts = r at houtcome
  generalize q.run us = r' at houtcome
  cases houtcome with
  | ok hab hrest => exact .ok ⟨hab, hp hrun⟩ hrest
  | error d e => exact .error d e

theorem Parallel.either {p p' : Parse α} {q q' : Parse β} (h : Parallel f g R p q)
    (h' : Parallel f g R p' q') : Parallel f g R (Parse.either p p') (Parse.either q q') := by
  refine ⟨fun {ts us} hts => ?_⟩
  have houtcome := h.outcome hts
  unfold Parse.either
  dsimp only
  generalize p.run ts = r at houtcome
  generalize q.run us = r' at houtcome
  cases houtcome with
  | ok hab hrest => exact .ok hab hrest
  | error d e => exact h'.outcome hts

theorem Parallel.asStatement {p : Parse α} {q : Parse β} (h : Parallel f g R p q) :
    Parallel f g R p.asStatement q.asStatement := by
  refine ⟨fun {ts us} hts => ?_⟩
  have houtcome := h.outcome hts
  unfold Parse.asStatement
  dsimp only
  generalize p.run ts = r at houtcome
  generalize q.run us = r' at houtcome
  cases houtcome with
  | ok hab hrest => exact .ok hab hrest
  | error d e =>
      cases hts with
      | nil => exact .error _ _
      | cons _ _ => exact .error _ _

/-! ## Tokens -/

theorem ahead_parallel : Parallel f g (ParallelTokens f g) ahead ahead :=
  ⟨fun hts => .ok hts hts⟩

theorem head_parallel : Parallel f g (Token.Parallel f g) head head := by
  refine ⟨fun hts => ?_⟩
  cases hts with
  | nil => exact .ok parallel_finish .nil
  | cons htu hrest => exact .ok htu (.cons htu hrest)

theorem second_parallel : Parallel f g (Option.Rel (Token.Parallel f g)) second second := by
  refine ⟨fun hts => ?_⟩
  cases hts with
  | nil => exact .ok .none .nil
  | cons htu hrest =>
      cases hrest with
      | nil => exact .ok .none (.cons htu .nil)
      | cons htu' hrest => exact .ok (.some htu') (.cons htu (.cons htu' hrest))

theorem take_parallel : Parallel f g (Token.Parallel f g) take take := by
  refine ⟨fun hts => ?_⟩
  cases hts with
  | nil => exact .error _ _
  | cons htu hrest =>
      cases hrest with
      | nil => exact .error _ _
      | cons htu' hrest => exact .ok htu (.cons htu' hrest)

theorem splitStars_parallel : Parallel f g Eq splitStars splitStars := by
  refine ⟨fun hts => ?_⟩
  cases hts with
  | nil => exact .ok rfl .nil
  | @cons t u ts us htu hrest =>
      show Outcome f g Eq
        (if t.isOperator "**" then .ok ((), t.firstStar :: t.secondStar :: ts)
          else .ok ((), t :: ts))
        (if u.isOperator "**" then .ok ((), u.firstStar :: u.secondStar :: us)
          else .ok ((), u :: us))
      rw [htu.isOperator]
      split
      · exact .ok rfl (.cons htu.firstStar (.cons htu.secondStar hrest))
      · exact .ok rfl (.cons htu hrest)

theorem textSince_parallel {before before' : List Token} (h : ParallelTokens f g before before') :
    Parallel f g (SameText f g) (textSince before) (textSince before') :=
  head_parallel.bind fun t u htu => .pure <| by
    rw [SameText, htu.index]
    exact textUpTo_parallel h _

end Parse

open Parse

/-- What is asked of a token that may be there has one answer. -/
theorem any_parallel {t? u? : Option Token} (h : Option.Rel (Token.Parallel f g) t? u?)
    {test : Token → Bool} (htest : ∀ t u, Token.Parallel f g t u → test u = test t) :
    u?.any test = t?.any test := by
  cases h with
  | none => rfl
  | some htu => exact htest _ _ htu

/-! ## Readers of single tokens -/

section

variable (b : Bounds) (text : String)

theorem next?_parallel : Parallel f g (Option.Rel (Token.Parallel f g)) (next? b) (next? b) := by
  refine head_parallel.bind fun t u htu => ?_
  rw [htu.endsLine, htu.indent]
  exact .branch (.pure .none) (.pure (.some htu))

theorem nextOperand?_parallel :
    Parallel f g (Option.Rel (Token.Parallel f g)) (nextOperand? b) (nextOperand? b) := by
  refine head_parallel.bind fun t u htu => ?_
  rw [htu.endsLine, htu.indent, htu.isQuoted]
  exact .branch (.pure .none) (.pure (.some htu))

theorem expect_parallel : Parallel f g (Token.Parallel f g) (expect b text) (expect b text) := by
  refine (next?_parallel b).bind fun t? u? h => ?_
  cases h with
  | none => exact .stop
  | some htu =>
      dsimp only
      rw [htu.isOperator]
      exact .branch take_parallel .stop

theorem asks_parallel {p : Parse (Option Token)}
    (h : Parallel f g (Option.Rel (Token.Parallel f g)) p p) {test : Token → Bool}
    (htest : ∀ t u, Token.Parallel f g t u → test u = test t) :
    Parallel f g Eq (do return (← p).any test) (do return (← p).any test) :=
  h.bind fun _ _ hrel => .pure (any_parallel hrel htest).symm

theorem atOperator_parallel : Parallel f g Eq (atOperator b text) (atOperator b text) :=
  asks_parallel (next?_parallel b) fun _ _ htu => htu.isOperator text

theorem atWord_parallel : Parallel f g Eq (atWord b text) (atWord b text) :=
  asks_parallel (next?_parallel b) fun _ _ htu => htu.isWord text

theorem skipOperator_parallel : Parallel f g Eq (skipOperator b text) (skipOperator b text) :=
  .choose (atOperator_parallel b text) (take_parallel.skip (.pure rfl)) (.pure rfl)

theorem skipWord_parallel : Parallel f g Eq (skipWord b text) (skipWord b text) :=
  .choose (atWord_parallel b text) (take_parallel.skip (.pure rfl)) (.pure rfl)

theorem expectThe_parallel :
    Parallel f g (Token.Parallel f g) (expectThe b text) (expectThe b text) :=
  .choose (atWord_parallel b text) take_parallel .stop

/-- A word that is taken is the same in both readings. -/
theorem expectWord_parallel :
    Parallel f g (fun t u => u.text = t.text) (expectWord b) (expectWord b) := by
  have htokens : Parallel f g (Token.Parallel f g) (expectWord b) (expectWord b) := by
    refine (next?_parallel b).bind fun t? u? h => ?_
    cases h with
    | none => exact .stop
    | some htu =>
        dsimp only
        rw [htu.kind]
        exact .branch take_parallel .stop
  exact (htokens.and fun hrun => (run_expectWord hrun).2).mono fun t u h =>
    h.1.text_of_kind h.2 nofun

end

/-- The fillers are related by the rewritings. -/
def SameFillers (f g : Rewriting) (xs ys : List Filler) : Prop :=
  xs.map (·.rewritten f.apply) = ys.map (·.rewritten g.apply)

theorem fillersBeforeString_parallel {t u : Token} (h : t.Parallel f g u) :
    SameFillers f g t.gap.fillersBeforeString u.gap.fillersBeforeString := by
  have hmap : ∀ (r : Rewriting) (xs : List Filler),
      ((xs.reverse.dropWhile (!·.isComment)).reverse).map (·.rewritten r.apply) =
        (((xs.map (·.rewritten r.apply)).reverse.dropWhile (!·.isComment)).reverse) := by
    intro r xs
    rw [← List.map_reverse, List.dropWhile_map, List.map_reverse]
    simp [Function.comp_def]
  rw [SameFillers, Gap.fillersBeforeString, Gap.fillersBeforeString, hmap, hmap, h.fillers]

theorem fillers_parallel (operand : Bool) :
    Parallel f g (SameFillers f g) (fillers operand) (fillers operand) := by
  refine head_parallel.bind fun t u htu => .pure ?_
  rw [htu.kind]
  split
  · exact fillersBeforeString_parallel htu
  · exact htu.fillers

/-- The parts are related by the rewritings. -/
def SameParts (f g : Rewriting) (ps qs : List Part) : Prop :=
  rewrittenParts f.apply ps = rewrittenParts g.apply qs

theorem fillerParts_parallel (operand : Bool) :
    Parallel f g (SameParts f g) (fillerParts operand) (fillerParts operand) :=
  (fillers_parallel operand).bind fun xs ys h => .pure <| by
    rw [SameParts, rewrittenParts_fillers, rewrittenParts_fillers, h]

end TestCensus.Source
