import TestCensus.Proofs.Source.Calls

/-!
# Reading statements

A statement on one line is ended by the line (`line_accepts`), and there is one rule for
each way a block goes on: `blockRest_next` for one more statement and `blockRest_ends`
for its end.  Decorators are taken one by one in front of a function
(`decorated_next`), which is read with its name, without parameters and with a body on
lines of its own (`plainFunction_accepts`).
-/

namespace TestCensus.Source

open Parse

variable {o : Outer} {k : Inner} {l m : Lexeme} {ls ls' mid : List Lexeme}
  {indent line n : Nat} {gap : Gap}

/-! ## Lines -/

theorem smallStatement_pass :
    (smallStatement k n indent).Accepts (wordLexeme gap line "pass" :: m :: ls) (· = .simple)
      (m :: ls) :=
  .head fun _ _ => .pos rfl (.bind take_accepts fun _ _ => .pure rfl)

theorem dottedRest_skips {b : Bounds} (h : (!b.stopsAt l && l.isOperator ".") = false) :
    (dottedRest b n).Accepts (l :: ls) (fun _ => True) (l :: ls) := by
  cases n with
  | zero => exact .pure trivial
  | succ n => exact .next (skipOperator_skips h) (.neg Bool.false_ne_true (.pure trivial))

/-- A module is imported under its own name, up to the end of the line. -/
theorem smallStatement_import {module : Lexeme} (hkind : module.kind = .word)
    (hgap : module.gap.endsLine = false) (hm : m.gap.endsLine = true)
    (hdot : m.isOperator "." = false) (has : m.isWord "as" = false) :
    (smallStatement k n indent).Accepts (wordLexeme gap line "import" :: module :: m :: ls)
      (· = .simple) (m :: ls) := by
  refine .head fun _ _ => .pos rfl (.bind take_accepts fun _ _ => ?_)
  have hname : (importedName n (Bounds.header indent)).Accepts (module :: m :: ls) (fun _ => True)
      (m :: ls) := by
    refine .bind (expectWord_accepts (by simp [Bounds.stopsAt, hgap]) hkind) fun _ _ => ?_
    refine .bind (dottedRest_skips (by simp [hdot])) fun _ _ => ?_
    exact .next (skipWord_skips (by simp [has])) (.neg Bool.false_ne_true (.pure trivial))
  have hstop : (Bounds.line indent).stopsAt m = true := by simp [Bounds.stopsAt, Bounds.line, hm]
  have hrest : (importedRest n (Bounds.line indent) n).Accepts (m :: ls) (fun _ => True)
      (m :: ls) := by
    cases n with
    | zero => exact .pure trivial
    | succ n =>
        exact .next (skipOperator_skips (by simp [hstop])) (.neg Bool.false_ne_true (.pure trivial))
  exact .bind hname fun _ _ => .bind hrest fun _ _ => .pure rfl

/-- A line with one statement. -/
theorem line_accepts {s : SmallStatement} (hn : 0 < n) (hl : l.gap.fillers = [])
    (hm : m.gap.endsLine = true)
    (h : (smallStatement k n indent).Accepts (l :: ls) (· = s) (m :: ls')) :
    (Source.line k n indent).Accepts (l :: ls) (· = [.small s]) (m :: ls') := by
  obtain ⟨n, rfl⟩ : ∃ r, n = r + 1 := ⟨n - 1, by omega⟩
  refine .next (fillers_accepts true hl) (.next h ?_)
  exact .next atLineEnd_accepts (.pos hm (.pure rfl))

/-! ## Functions -/

theorem typeParameters_skips {b : Bounds} (h : (!b.stopsAt l && l.isOperator "[") = false) :
    (typeParameters k n b).Accepts (l :: ls) (fun _ => True) (l :: ls) :=
  .next (skipOperator_skips h) (.neg Bool.false_ne_true (.pure trivial))

theorem functionSignature_accepts (hm : m.isOperator "->" = false) :
    (functionSignature o indent).Accepts
      (operatorLexeme line "(" :: operatorLexeme line ")" :: m :: ls) (fun _ => True)
      (m :: ls) := by
  refine .bind (typeParameters_skips (by simp)) fun _ _ => ?_
  refine .bind (expect_accepts rfl (by simp)) fun _ _ => .head fun _ _ => ?_
  refine .neg Bool.false_ne_true ?_
  refine .next (skipOperator_accepts rfl (by simp)) (.neg Bool.false_ne_true ?_)
  exact .next (skipOperator_skips (by simp [hm])) (.neg Bool.false_ne_true (.pure trivial))

/-- The block behind a colon stands on lines of its own. -/
theorem colonSuite_accepts {wanted : List Statement → Prop} (hl : l.gap.endsLine = true)
    (hindent : indent < l.gap.indent)
    (h : (o.block l.gap.indent).Accepts (l :: ls) wanted ls') :
    (colonSuite o indent).Accepts (operatorLexeme line ":" :: l :: ls) wanted ls' := by
  refine .bind (expect_accepts rfl (by simp)) fun _ _ => .head fun _ _ => ?_
  exact .pos hl (.pos hindent h)

/-- The lexemes of the head of a function without parameters. -/
def functionLexemes (gap : Gap) (line : Nat) (name : String) : List Lexeme :=
  [wordLexeme gap line "def", wordLexeme .space line name, operatorLexeme line "(",
    operatorLexeme line ")", operatorLexeme line ":"]

theorem plainFunction_accepts {wanted : List Statement → Prop} {ds : List Decorator}
    {name : String} (hl : l.gap.endsLine = true) (hindent : indent < l.gap.indent)
    (h : (o.block l.gap.indent).Accepts (l :: ls) wanted ls') :
    (plainFunction o indent ds).Accepts (functionLexemes gap line name ++ l :: ls)
      (fun s => ∃ body, s = .function ds ⟨name, false, line + 1⟩ body ∧ wanted body) ls' := by
  refine .bind take_accepts fun first hfirst => ?_
  refine .bind (expectWord_accepts rfl rfl) fun t ht => ?_
  refine .bind (functionSignature_accepts (by simp)) fun _ _ => ?_
  refine .bind (colonSuite_accepts hl hindent h) fun body hbody => .pure ⟨body, ?_, hbody⟩
  have hline : first.start.line = line := congrArg Lexeme.line hfirst
  have hname : t.text = name := congrArg Lexeme.text ht
  rw [hline, hname]

variable {ds : List Decorator} {wanted : Decorator → Prop} {wanted' : Statement → Prop}

/-- One more decorator. -/
theorem decorated_next (hindent : indent ≤ gap.indent)
    (h : (decorator o indent).Accepts (⟨.operator, "@", gap, line⟩ :: ls) wanted mid)
    (hrest : ∀ d, wanted d → (decorated o indent n (ds ++ [d])).Accepts mid wanted' ls') :
    (decorated o indent (n + 1) ds).Accepts (⟨.operator, "@", gap, line⟩ :: ls) wanted' ls' := by
  refine .head fun _ _ => .neg (fun hstop => ?_) (.pos rfl (.bind h hrest))
  rw [Bool.and_eq_true, decide_eq_true_iff] at hstop
  exact Nat.not_lt.2 hindent hstop.2

/-- The function behind the decorators. -/
theorem decorated_ends (hindent : indent ≤ gap.indent)
    (h : (plainFunction o indent ds).Accepts (wordLexeme gap line "def" :: ls) wanted' ls') :
    (decorated o indent (n + 1) ds).Accepts (wordLexeme gap line "def" :: ls) wanted' ls' := by
  refine .head fun _ _ => .neg (fun hstop => ?_) (.neg Bool.false_ne_true (.pos rfl h))
  rw [Bool.and_eq_true, decide_eq_true_iff] at hstop
  exact Nat.not_lt.2 hindent hstop.2

/-! ## Blocks -/

/-- The words that start compound statements. -/
def compoundWords : List String :=
  ["if", "while", "for", "try", "with", "def", "class", "async", "match"]

/-- No compound statement starts with another word. -/
theorem compoundStatement?_none {text : String} (h : text ∉ compoundWords) :
    (compoundStatement? o indent).Accepts (wordLexeme gap line text :: ls) (· = none)
      (wordLexeme gap line text :: ls) := by
  simp only [compoundWords, List.mem_cons, List.not_mem_nil, or_false, not_or] at h
  refine .head fun _ _ => .neg Bool.false_ne_true (.pos rfl ?_)
  dsimp only [Lexeme.token, wordLexeme]
  -- The branch of a compound word would make it the word that is read.
  split
  all_goals first
    | exact .pure rfl
    | simp_all

theorem compoundStatement?_decorated
    (h : (decorated o indent o.rounds []).Accepts (⟨.operator, "@", gap, line⟩ :: ls) wanted' ls') :
    (compoundStatement? o indent).Accepts (⟨.operator, "@", gap, line⟩ :: ls)
      (fun s => ∃ s', s = some s' ∧ wanted' s') ls' := by
  exact .head fun _ _ => .pos rfl (.bind h fun s hs => .pure ⟨s, rfl, hs⟩)

theorem compoundStatement?_function
    (h : (plainFunction o indent []).Accepts (wordLexeme gap line "def" :: ls) wanted' ls') :
    (compoundStatement? o indent).Accepts (wordLexeme gap line "def" :: ls)
      (fun s => ∃ s', s = some s' ∧ wanted' s') ls' := by
  refine .head fun _ _ => .neg Bool.false_ne_true (.pos rfl ?_)
  exact .bind h fun s hs => .pure ⟨s, rfl, hs⟩

theorem statementLine_compound (hl : l.gap.fillers = [])
    (h : (compoundStatement? o indent).Accepts (l :: ls) (fun s => ∃ s', s = some s' ∧ wanted' s')
      ls') :
    (statementLine o indent).Accepts (l :: ls) (fun ss => ∃ s, ss = [s] ∧ wanted' s) ls' := by
  refine .asStatement (.next (fillers_accepts true hl) (.bind h ?_))
  rintro _ ⟨s, rfl, hs⟩
  exact .pure ⟨s, rfl, hs⟩

/-- A line with one statement, whose first word starts no compound statement. -/
theorem statementLine_small {s : SmallStatement} {text : String} (hrounds : 0 < o.rounds)
    (hgap : gap.fillers = []) (hm : m.gap.endsLine = true) (htext : text ∉ compoundWords)
    (h : (smallStatement o.inner o.rounds indent).Accepts (wordLexeme gap line text :: ls) (· = s)
      (m :: ls')) :
    (statementLine o indent).Accepts (wordLexeme gap line text :: ls) (· = [.small s])
      (m :: ls') := by
  refine .asStatement (.next (fillers_accepts true hgap) ?_)
  exact .next (compoundStatement?_none htext) (line_accepts hrounds hgap hm h)

/-- One more statement of a block. -/
theorem blockRest_next {wanted wanted' : List Statement → Prop} {lines : List (List Statement)}
    (hl : l.kind ≠ .finish) (hindent : l.gap.endsLine = true → indent ≤ l.gap.indent)
    (h : (statementLine o indent).Accepts (l :: ls) wanted mid)
    (hrest : ∀ found, wanted found →
      (blockRest o indent n (found :: lines)).Accepts mid wanted' ls') :
    (blockRest o indent (n + 1) lines).Accepts (l :: ls) wanted' ls' := by
  refine .head fun _ _ => .neg (fun hstop => ?_) (.bind h hrest)
  rw [Bool.or_eq_true, Bool.and_eq_true, decide_eq_true_iff, decide_eq_true_iff] at hstop
  rcases hstop with hkind | ⟨hends, hless⟩
  · exact hl hkind
  · exact Nat.not_lt.2 (hindent hends) hless

/-- The end of the source ends a block. -/
theorem blockRest_ends {lines : List (List Statement)} (hl : l.kind = .finish) :
    (blockRest o indent (n + 1) lines).Accepts (l :: ls) (· = lines.reverse.flatten) (l :: ls) := by
  refine .head fun _ _ => .pos ?_ (.pure rfl)
  simp [Lexeme.token, hl]

end TestCensus.Source
