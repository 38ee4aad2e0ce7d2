import TestCensus.Proofs.Source.Literals
import TestCensus.Source.Decorations

/-!
# Reading calls

What is attached to an operand is read from left to right.  There is one rule for each
kind of attachment that names and calls have, in front of whatever follows it.

* `attachments_members` for members.  A path keeps its segments (`Expr.dotted?`), and
  these are all that a decoration keeps of it (`decoration_of_dotted`).
* `attachments_call` for arguments, which are taken one by one: `argumentsRest_next` is
  the step and `argumentsRest_ends` the end.

`decorator_accepts` is the rule for decorators, whose expression is ended by the line.
-/

namespace TestCensus.Source

open Parse

variable {k : Inner} {b : Bounds} {l m : Lexeme} {ls ls' mid : List Lexeme}

/-! ## Paths -/

@[simp] theorem wordLexeme_isOperator (gap : Gap) (line : Nat) (text other : String) :
    (wordLexeme gap line text).isOperator other = false := rfl

@[simp] theorem wordLexeme_isWord (gap : Gap) (line : Nat) (text other : String) :
    (wordLexeme gap line text).isWord other = (text == other) := rfl

theorem begins_word {gap : Gap} (hgap : gap.endsLine = false) (line : Nat) {text : String}
    (htext : text ∉ ["not", "lambda", "await"]) (hnext : m.isOperator ":=" = false) :
    (wordLexeme gap line text).Begins (m :: ls) where
  sameLine := hgap
  noSign h := by cases h
  noWord _ := htext
  noBinding _ := hnext

/-- A word that is no value is a name. -/
theorem atom_name {gap : Gap} (hgap : gap.endsLine = false) (line n : Nat) {text : String}
    (htext : text ∉ constantWords) :
    (atom k n b).Accepts (wordLexeme gap line text :: m :: ls) (· = .name text) (m :: ls) := by
  refine .nextOperand? hgap fun _ _ => .bind take_accepts fun _ _ => .pure ?_
  exact if_neg fun h => htext (List.contains_iff_mem.1 h)

/-- The lexemes of members, each behind a dot. -/
def memberLexemes (line : Nat) (members : List String) : List Lexeme :=
  members.flatMap fun member => [operatorLexeme line ".", wordLexeme .touching line member]

theorem memberLexemes_cons (line : Nat) (member : String) (members : List String) :
    memberLexemes line (member :: members) ++ ls =
      operatorLexeme line "." :: wordLexeme .touching line member ::
        (memberLexemes line members ++ ls) := rfl

/-- Members make a path longer. -/
theorem attachments_members {wanted : Expr → Prop} (line : Nat) (start : List Token) (n : Nat)
    (members : List String) {segments : List String} {e : Expr} (he : e.dotted? = some segments)
    (h : ∀ e', e'.dotted? = some (segments ++ members) →
      (attachments k b start n e').Accepts (m :: ls) wanted ls') :
    (attachments k b start (n + members.length) e).Accepts
      (memberLexemes line members ++ m :: ls) wanted ls' := by
  induction members generalizing segments e with
  | nil => exact h e (by rw [he, List.append_nil])
  | cons member members ih =>
      rw [memberLexemes_cons]
      refine .next (skipOperator_accepts rfl (by simp)) (.pos rfl ?_)
      obtain ⟨next, rest, hrest⟩ :
          ∃ next rest, memberLexemes line members ++ m :: ls = next :: rest :=
        List.exists_cons_of_ne_nil (by simp)
      rw [hrest]
      refine .bind (expectWord_accepts rfl rfl) fun t ht => ?_
      obtain ⟨place, index, rfl⟩ := Lexeme.exists_token ht
      refine .bind (textSince_accepts start) fun whole _ => ?_
      rw [← hrest]
      have hmember : (Expr.attribute e member whole).dotted? = some (segments ++ [member]) := by
        simp [Expr.dotted?, he]
      refine ih hmember fun e' he' => h e' ?_
      rw [he', List.append_assoc]
      rfl

/-- A path of more than one segment is a dotted decoration. -/
theorem decoration_of_dotted {e : Expr} {first second : String} {segments : List String}
    (he : e.dotted? = some (first :: second :: segments)) :
    e.decoration = .dotted (first :: second :: segments) := by
  fun_cases Expr.dotted? e with
  | case1 id => simp [Expr.dotted?] at he
  | case2 object member text =>
      rw [Expr.dotted?, Option.map_eq_some_iff] at he
      obtain ⟨inner, hinner, heq⟩ := he
      rw [Expr.decoration, hinner, ← heq]
  | case3 e hname hmember => simp [Expr.dotted?] at he

/-! ## Arguments -/

@[simp] theorem bracket_stopsAt (indent : Nat) (l : Lexeme) :
    (Bounds.bracket indent).stopsAt l = false := by
  simp [Bounds.stopsAt, Bounds.bracket]

/-- A positional argument starts with the lexeme, in front of others. -/
structure Lexeme.BeginsArgument (l : Lexeme) : Prop where
  /-- Nothing stands before the argument. -/
  noFiller : l.gap.fillers = []
  /-- The argument has no name. -/
  noWord : l.kind ≠ .word
  /-- It is not unpacked, and it is one. -/
  noOperator : ∀ text ∈ [")", ",", "*", "**"], l.isOperator text = false

section

variable {wanted : Expr → Prop} {wanted' : List ArgumentPart → Prop} {indent line n : Nat}
  {parts : List ArgumentPart}

theorem atKeyword_accepts (hl : l.BeginsArgument) :
    (atKeyword (.bracket indent)).Accepts (l :: ls) (· = false) (l :: ls) := by
  refine .bind (next?_accepts (bracket_stopsAt indent l)) ?_
  rintro _ ⟨t, rfl, rfl⟩
  have hword : t.kind ≠ .word := hl.noWord
  exact .neg (by simp [hword]) (.pure rfl)

theorem argument_positional (hl : l.BeginsArgument)
    (h : (k.expr (.bracket indent)).Accepts (l :: ls) wanted ls') :
    (argument k (.bracket indent)).Accepts (l :: ls) (fun a => ∃ e, a = .positional e ∧ wanted e)
      ls' := by
  refine .next (atOperator_accepts _ "*") (.next (atOperator_accepts _ "**") (.neg ?_ ?_))
  · simp [hl.noOperator]
  refine .next (atKeyword_accepts hl) (.neg Bool.false_ne_true ?_)
  exact .bind h fun e he => .pure ⟨e, rfl, he⟩

/-- The bracket behind the arguments ends them. -/
theorem argumentsRest_ends :
    (argumentsRest k (.bracket indent) (n + 1) parts).Accepts (operatorLexeme line ")" :: m :: ls)
      (· = parts) (m :: ls) := by
  refine .next (fillers_accepts false rfl) ?_
  refine .next (skipOperator_accepts rfl (by simp)) (.pos rfl (.pure ?_))
  simp

/-- One more argument stands behind a comma. -/
theorem argumentsRest_next (hl : l.BeginsArgument)
    (hexpr : (k.expr (.bracket indent)).Accepts (l :: ls) wanted mid)
    (hrest : ∀ e, wanted e →
      (argumentsRest k (.bracket indent) n (parts ++ [.positional e])).Accepts mid wanted' ls') :
    (argumentsRest k (.bracket indent) (n + 1) parts).Accepts (operatorLexeme line "," :: l :: ls)
      wanted' ls' := by
  refine .next (fillers_accepts false rfl) ?_
  refine .next (skipOperator_skips (by simp)) (.neg Bool.false_ne_true ?_)
  refine .bind (expect_accepts rfl (by simp)) fun _ _ => ?_
  refine .next (fillers_accepts true hl.noFiller) ?_
  refine .next (skipOperator_skips (by simp [hl.noOperator])) (.neg Bool.false_ne_true ?_)
  refine .bind (argument_positional hl hexpr) ?_
  rintro _ ⟨e, rfl, he⟩
  simpa using hrest e he

/-- The first argument of a call that has more. -/
theorem arguments_accepts (hl : l.BeginsArgument)
    (hexpr : (k.expr (.bracket indent)).Accepts (l :: ls) wanted (m :: mid))
    (hm : m.closes (.bracket indent) = true)
    (hrest : ∀ e, wanted e →
      (argumentsRest k (.bracket indent) n [.positional e]).Accepts (m :: mid) wanted' ls') :
    (arguments k n indent).Accepts (operatorLexeme line "(" :: l :: ls) wanted' ls' := by
  refine .bind take_accepts fun _ _ => .next (fillers_accepts true hl.noFiller) ?_
  refine .next (skipOperator_skips (by simp [hl.noOperator])) (.neg Bool.false_ne_true ?_)
  refine .next (skipOperator_skips (by simp [hl.noOperator])) (.neg Bool.false_ne_true ?_)
  refine .bind (argument_positional hl hexpr) ?_
  rintro _ ⟨e, rfl, he⟩
  exact .next (atLoop_closed hm) (.neg Bool.false_ne_true (hrest e he))

/-- Arguments turn what stands before them into a call. -/
theorem attachments_call {wanted : Expr → Prop} (start : List Token) (n : Nat) {e : Expr}
    (harguments : (arguments k n b.indent).Accepts (operatorLexeme line "(" :: l :: ls) wanted' mid)
    (hrest : ∀ parts, wanted' parts →
      (attachments k b start n (.call e parts)).Accepts mid wanted ls') :
    (attachments k b start (n + 1) e).Accepts (operatorLexeme line "(" :: l :: ls) wanted ls' := by
  refine .next (skipOperator_skips (by simp)) (.neg Bool.false_ne_true ?_)
  refine .next (atOperator_accepts b "(") (.pos (by simp) ?_)
  exact .bind harguments hrest

end

/-! ## Decorators -/

/-- A decorator is an expression behind a sign, up to the end of the line. -/
theorem decorator_accepts {o : Outer} {indent line : Nat} {gap : Gap} {wanted : Expr → Prop}
    (hl : l.gap.fillers = []) (hm : m.gap.endsLine = true)
    (h : (o.inner.expr (Bounds.line indent).behind).Accepts (l :: ls) wanted (m :: ls')) :
    (decorator o indent).Accepts (⟨.operator, "@", gap, line⟩ :: l :: ls)
      (fun d => ∃ e, d = [.item e] ∧ wanted e) (m :: ls') := by
  refine .bind take_accepts fun _ _ => .next (fillerParts_accepts true hl) ?_
  refine .bind h fun e he => .next atLineEnd_accepts (.pos hm (.pure ⟨e, rfl, he⟩))

end TestCensus.Source
