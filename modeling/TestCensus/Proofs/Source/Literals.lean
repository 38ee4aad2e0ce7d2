import TestCensus.Proofs.Source.Accepts

/-!
# Reading literals

An operand that nothing is attached to is an expression of its own if what follows
closes it (`exprStep_accepts`).  So a number, a string literal between double quotes and
a list of numbers are read as what they are.
-/

namespace TestCensus.Source

open Parse

variable {k : Inner} {b : Bounds} {l m : Lexeme} {ls ls' mid : List Lexeme}
  {wanted wanted' : Expr → Prop}

/-! ## The end of an operand -/

/-- The operators behind a complete expression between brackets. -/
def closers : List String := [",", ")", "]"]

/-- Nothing is attached to an operand in front of the lexeme, and no chain goes on. -/
def Lexeme.closes (l : Lexeme) (b : Bounds) : Bool :=
  b.stopsAt l || (l.kind == .operator && closers.contains l.text)

theorem Lexeme.closes_cases (h : l.closes b = true) :
    b.stopsAt l = true ∨ b.stopsAt l = false ∧ l.kind = .operator ∧ l.text ∈ closers := by
  cases hstop : b.stopsAt l with
  | true => exact .inl rfl
  | false => simpa [closes, hstop] using h

theorem Lexeme.closes_not_operator (h : l.closes b = true) (text : String)
    (htext : text ∉ closers) : (!b.stopsAt l && l.isOperator text) = false := by
  rcases closes_cases h with hstop | ⟨hstop, hkind, hmem⟩
  · rw [hstop]
    rfl
  · have hne : l.text ≠ text := fun heq => htext (heq ▸ hmem)
    simp [isOperator, hne]

theorem Lexeme.closes_not_word (h : l.closes b = true) (text : String) :
    (!b.stopsAt l && l.isWord text) = false := by
  rcases closes_cases h with hstop | ⟨hstop, hkind, -⟩
  · rw [hstop]
    rfl
  · simp [isWord, hkind]

theorem attachments_ends (h : l.closes b = true) (start : List Token) (n : Nat) (e : Expr) :
    (attachments k b start n e).Accepts (l :: ls) (· = e) (l :: ls) := by
  cases n with
  | zero => exact .pure rfl
  | succ n =>
      refine .next (skipOperator_skips (l.closes_not_operator h "." (by decide))) ?_
      refine .neg Bool.false_ne_true ?_
      refine .next (atOperator_accepts b "(") (.neg ?_ ?_)
      · simp [l.closes_not_operator h "(" (by decide)]
      refine .next (atOperator_accepts b "[") (.neg ?_ (.pure rfl))
      simp [l.closes_not_operator h "[" (by decide)]

theorem chainRest_ends (h : l.closes b = true) (n : Nat) (more : Bool) :
    (chainRest k b n more).Accepts (l :: ls) (· = more) (l :: ls) := by
  cases n with
  | zero => exact .pure rfl
  | succ n =>
      rcases Lexeme.closes_cases h with hstop | ⟨hstop, hkind, hmem⟩
      · exact .next (next?_stops hstop) (.pure rfl)
      refine .bind (next?_accepts hstop) ?_
      rintro _ ⟨t, rfl, rfl⟩
      have hoperator : t.kind = .operator := hkind
      have hnone : ∀ text ∈ closers, text ∉ operandOperators := by decide
      have hclose : t.text ∉ operandOperators := hnone _ hmem
      have hword : ∀ text, t.isWord text = false := fun text => by simp [Token.isWord, hoperator]
      refine .neg (by simp [hclose]) (.neg (by simp [hword]) (.neg (by simp [hword])
        (.neg (by simp [hword]) ?_)))
      refine .bind second_accepts fun u _ => .neg (by simp [hword]) (.neg (by simp [hword]) ?_)
      exact .pure rfl

/-! ## The beginning of an operand -/

/-- An operand starts with the lexeme, in front of the others, and nothing stands before
it. -/
structure Lexeme.Begins (l : Lexeme) (ls : List Lexeme) : Prop where
  /-- The operand does not start a line. -/
  sameLine : l.gap.endsLine = false
  /-- It is no sign and no star. -/
  noSign : l.kind = .operator → l.text ∉ "*" :: signs
  /-- It is no word that stands before an operand. -/
  noWord : l.kind = .word → l.text ∉ ["not", "lambda", "await"]
  /-- It is no name that is bound. -/
  noBinding : l.kind = .word → ls.head?.any (·.isOperator ":=") = false

theorem operand_accepts (hl : l.Begins ls) {n : Nat}
    (h : (attachedStep n k b).Accepts (l :: ls) wanted ls') :
    (operand k (n + 1) b true).Accepts (l :: ls) (fun e => ∃ e', e = some e' ∧ wanted e') ls' := by
  refine .bind (nextOperand?_accepts hl.sameLine) ?_
  rintro _ ⟨t, rfl, rfl⟩
  have hsign : ¬(decide (t.kind = .operator) && signs.contains t.text) = true := by
    rw [Bool.and_eq_true, decide_eq_true_iff, List.contains_iff_mem]
    exact fun ⟨hkind, hmem⟩ => hl.noSign hkind (.tail _ hmem)
  have hword : ∀ text ∈ ["not", "lambda", "await"], t.isWord text = false := by
    intro text htext
    rw [Token.isWord, Bool.and_eq_false_iff, beq_eq_false_iff_ne, beq_eq_false_iff_ne]
    by_cases hkind : t.kind = .word
    · exact .inr fun heq => hl.noWord hkind (show t.text ∈ _ from heq ▸ htext)
    · exact .inl hkind
  refine .neg hsign (.neg ?_ (.neg ?_ ?_))
  · simp [hword "not" (by decide)]
  · simp [hword "lambda" (by decide)]
  refine .bind second_accepts fun u hu => .neg ?_ ?_
  · intro h
    simp only [Bool.and_eq_true, decide_eq_true_iff] at h
    obtain ⟨⟨⟨-, hkind⟩, -⟩, hbinding⟩ := h
    have hnone := hl.noBinding hkind
    rw [← hu, Option.any_map] at hnone
    exact Bool.false_ne_true (hnone.symm.trans hbinding)
  refine .bind second_accepts fun v _ => .neg ?_ ?_
  · simp [hword "await" (by decide)]
  exact .bind h fun e he => .pure ⟨e, rfl, he⟩

/-- An operand that is closed is an expression. -/
theorem exprStep_accepts (hl : l.Begins ls) {n : Nat}
    (h : (attachedStep n k b).Accepts (l :: ls) wanted (m :: ls')) (hm : m.closes b = true) :
    (exprStep (n + 1) k b).Accepts (l :: ls) wanted (m :: ls') := by
  refine .bind (ahead_accepts _) fun start _ => .bind (operand_accepts hl h) ?_
  rintro _ ⟨e, rfl, he⟩
  exact .next (chainRest_ends hm _ false) (.pure he)

theorem attachedStep_accepts (hl : l.Begins ls) {n : Nat}
    (hatom : (atom k n b).Accepts (l :: ls) wanted mid)
    (hattachments : ∀ start e, wanted e → (attachments k b start n e).Accepts mid wanted' ls') :
    (attachedStep n k b).Accepts (l :: ls) wanted' ls' := by
  refine .bind (ahead_accepts _) fun start _ => .bind (nextOperand?_accepts hl.sameLine) ?_
  rintro _ ⟨t, rfl, rfl⟩
  refine .neg ?_ (.bind hatom (hattachments start))
  rw [Token.isOperator, Bool.and_eq_true, beq_iff_eq, beq_iff_eq]
  rintro ⟨hkind, hstar⟩
  exact hl.noSign hkind (show t.text ∈ _ from hstar ▸ .head _)

/-- A closed operand with nothing attached to it is an expression. -/
theorem atom_closed (hl : l.Begins ls) {n : Nat}
    (h : (atom k n b).Accepts (l :: ls) wanted (m :: ls')) (hm : m.closes b = true) :
    (exprStep (n + 1) k b).Accepts (l :: ls) wanted (m :: ls') :=
  exprStep_accepts hl (attachedStep_accepts hl h fun start e he =>
    (attachments_ends hm start n e).mono fun _ ha => ha ▸ he) hm

/-- What closes an operand starts no loop of a comprehension. -/
theorem atLoop_closed (h : l.closes b = true) :
    (atLoop b).Accepts (l :: ls) (· = false) (l :: ls) := by
  refine .next (atWord_accepts b "for") (.neg (by simp [l.closes_not_word h]) ?_)
  exact .next (atWord_accepts b "async") (.neg (by simp [l.closes_not_word h]) (.pure rfl))

/-! ## Numbers -/

@[simp] theorem numberLexeme_isOperator (gap : Gap) (line n : Nat) (text : String) :
    (numberLexeme gap line n).isOperator text = false := rfl

@[simp] theorem numberLexeme_isWord (gap : Gap) (line n : Nat) (text : String) :
    (numberLexeme gap line n).isWord text = false := rfl

/-- The expression that a number is. -/
def numberExpr (n : Nat) : Expr := .other (toString n)

theorem begins_number {gap : Gap} (hgap : gap.endsLine = false) (line v : Nat) :
    (numberLexeme gap line v).Begins ls :=
  ⟨hgap, nofun, nofun, nofun⟩

theorem number_accepts {gap : Gap} (hgap : gap.endsLine = false) (line v n : Nat)
    (hm : m.closes b = true) :
    ((readers (n + 2)).expr b).Accepts (numberLexeme gap line v :: m :: ls) (· = numberExpr v)
      (m :: ls) := by
  refine atom_closed (begins_number hgap line v) ?_ hm
  exact .nextOperand? hgap fun _ _ => .bind take_accepts fun _ _ => .pure rfl

theorem element_number {gap : Gap} (hgap : gap.endsLine = false) (line v n i : Nat)
    (hm : m.closes b = true) :
    (element (readers (n + 2)) i b).Accepts (numberLexeme gap line v :: m :: ls)
      (· = numberExpr v) (m :: ls) := by
  refine .next (atOperator_accepts b "**") (.neg (by simp) ?_)
  refine .next (atOperator_accepts b "*") (.neg (by simp) ?_)
  refine .next (atWord_accepts b "yield") (.neg (by simp) ?_)
  exact number_accepts hgap line v n hm

/-! ## Lists of numbers -/

@[simp] theorem operatorLexeme_isOperator (line : Nat) (text other : String) :
    (operatorLexeme line text).isOperator other = (text == other) := rfl

/-- Nothing stops in front of a token that touches what stands before it. -/
@[simp] theorem stopsAt_operator (line : Nat) (text : String) :
    b.stopsAt (operatorLexeme line text) = false := rfl

theorem closes_operator (line : Nat) {text : String} (h : text ∈ closers) :
    (operatorLexeme line text).closes b = true := by
  rw [Lexeme.closes, stopsAt_operator, Bool.false_or]
  exact List.contains_iff_mem.2 h

/-- The lexemes of the further numbers of a list, each behind a comma. -/
def furtherLexemes (line : Nat) (vs : List Nat) : List Lexeme :=
  vs.flatMap fun v => [operatorLexeme line ",", numberLexeme .space line v]

/-- The lexemes of the numbers of a list. -/
def numbersLexemes (line : Nat) : List Nat → List Lexeme
  | [] => []
  | v :: vs => numberLexeme .touching line v :: furtherLexemes line vs

/-- The parts of a list of numbers. -/
def numberParts (vs : List Nat) : List Part := vs.map fun v => .item (numberExpr v)

theorem furtherLexemes_cons (line v : Nat) (vs : List Nat) :
    furtherLexemes line (v :: vs) ++ ls =
      operatorLexeme line "," :: numberLexeme .space line v :: (furtherLexemes line vs ++ ls) := rfl

/-- A comma or the bracket stands behind a number of a list. -/
theorem exists_closer (line : Nat) (vs : List Nat) (ls : List Lexeme) :
    ∃ close rest, furtherLexemes line vs ++ operatorLexeme line "]" :: ls = close :: rest ∧
      close.closes b = true := by
  cases vs with
  | nil => exact ⟨_, _, rfl, closes_operator line (by decide)⟩
  | cons v vs => exact ⟨_, _, rfl, closes_operator line (by decide)⟩

theorem elementsRest_numbers (line : Nat) {vs : List Nat} {i : Nat} (hi : vs.length < i) (n : Nat)
    (parts : List Part) (comma : Bool) :
    (elementsRest (readers (n + 2)) b "]" i parts comma).Accepts
      (furtherLexemes line vs ++ operatorLexeme line "]" :: m :: ls)
      (·.1 = parts ++ numberParts vs) (m :: ls) := by
  induction vs generalizing i parts comma with
  | nil =>
      obtain ⟨i, rfl⟩ : ∃ j, i = j + 1 := ⟨i - 1, by omega⟩
      refine .next (fillerParts_accepts false rfl) ?_
      refine .next (skipOperator_accepts rfl rfl) (.pos rfl (.pure ?_))
      simp [numberParts]
  | cons v vs ih =>
      obtain ⟨i, rfl⟩ : ∃ j, i = j + 1 := ⟨i - 1, by omega⟩
      obtain ⟨close, rest, hrest, hclose⟩ := exists_closer (b := b) line vs (m :: ls)
      rw [furtherLexemes_cons, hrest]
      refine .next (fillerParts_accepts false rfl) ?_
      refine .next (skipOperator_skips (by simp)) (.neg Bool.false_ne_true ?_)
      refine .bind (expect_accepts rfl (by simp)) fun _ _ => ?_
      refine .next (fillerParts_accepts true rfl) ?_
      refine .next (skipOperator_skips (by simp)) (.neg Bool.false_ne_true ?_)
      refine .next (element_number rfl line v n i hclose) ?_
      rw [← hrest]
      refine (ih (by simpa using hi) _ true).mono fun r hr => ?_
      simp [hr, numberParts]

/-- A list of numbers is read as one. -/
theorem squareBrackets_numbers (gap : Gap) (line : Nat) {vs : List Nat} {i : Nat}
    (hi : vs.length ≤ i) (n indent : Nat) :
    (squareBrackets (readers (n + 2)) i indent).Accepts
      (⟨.operator, "[", gap, line⟩ :: numbersLexemes line vs ++ operatorLexeme line "]" :: m :: ls)
      (fun e => ∃ text, e = .list (numberParts vs) text) (m :: ls) := by
  refine .bind (ahead_accepts _) fun start _ => ?_
  cases vs with
  | nil =>
      refine .bind take_accepts fun _ _ => .next (fillerParts_accepts true rfl) ?_
      refine .next (skipOperator_accepts rfl (by simp)) (.pos rfl ?_)
      exact .bind (textSince_accepts _) fun text _ => .pure ⟨text, rfl⟩
  | cons v vs =>
      obtain ⟨close, rest, hrest, hclose⟩ :=
        exists_closer (b := .bracket indent) line vs (m :: ls)
      rw [numbersLexemes, List.cons_append, List.cons_append, hrest]
      refine .bind take_accepts fun _ _ => .next (fillerParts_accepts true rfl) ?_
      refine .next (skipOperator_skips (by simp)) (.neg Bool.false_ne_true ?_)
      refine .next (element_number rfl line v n i hclose) ?_
      refine .next (atLoop_closed hclose) (.neg Bool.false_ne_true ?_)
      rw [← hrest]
      refine .bind (elementsRest_numbers line hi n _ false) ?_
      rintro ⟨parts, comma⟩ hparts
      refine .bind (textSince_accepts _) fun text _ => .pure ⟨text, ?_⟩
      have hall : parts = numberParts (v :: vs) := hparts
      rw [hall]

theorem begins_bracket {gap : Gap} (hgap : gap.endsLine = false) (line : Nat) :
    Lexeme.Begins ⟨.operator, "[", gap, line⟩ ls where
  sameLine := hgap
  noSign _ := by simp [signs]
  noWord h := by cases h
  noBinding h := by cases h

/-- A list of numbers is an expression. -/
theorem numbers_accepts {gap : Gap} (hgap : gap.endsLine = false) (line : Nat) {vs : List Nat}
    {n : Nat} (hn : vs.length ≤ n) (hm : m.closes b = true) :
    ((readers (n + 4)).expr b).Accepts
      (⟨.operator, "[", gap, line⟩ :: numbersLexemes line vs ++ operatorLexeme line "]" :: m :: ls)
      (fun e => ∃ text, e = .list (numberParts vs) text) (m :: ls) := by
  have hrounds : vs.length ≤ n + 2 := Nat.le_succ_of_le (Nat.le_succ_of_le hn)
  refine atom_closed (begins_bracket hgap line) (.nextOperand? hgap fun _ _ => ?_) hm
  exact squareBrackets_numbers gap line hrounds (n + 1) b.indent

/-! ## Texts of lists -/

section

variable {line : Nat} {rest : List Char}

/-- The further numbers of a list, each behind a comma and a blank. -/
def furtherChars (vs : List Nat) : List Char :=
  vs.flatMap fun v => [','] ++ ([' '] ++ (toString v).toList)

theorem furtherChars_cons (v : Nat) (vs : List Nat) :
    furtherChars (v :: vs) = [','] ++ (([' '] ++ (toString v).toList) ++ furtherChars vs) := rfl

/-- A comma or the bracket stands behind a number of a list. -/
theorem exists_separator (vs : List Nat) (rest : List Char) :
    ∃ c rest', furtherChars vs ++ ']' :: rest = c :: rest' ∧ (c = ',' ∨ c = ']') := by
  cases vs with
  | nil => exact ⟨_, _, rfl, .inr rfl⟩
  | cons v vs => exact ⟨_, _, rfl, .inl rfl⟩

theorem Gives.further (vs : List Nat) :
    Gives line (furtherChars vs) (']' :: rest) (furtherLexemes line vs) line := by
  induction vs with
  | nil => exact .nil
  | cons v vs ih =>
      have hspace : ∀ b ∈ [' '], b = '\n' ∨ b = ' ' := by simp
      have hnumber : Gives line ([' '] ++ (toString v).toList) (furtherChars vs ++ ']' :: rest)
          [numberLexeme .space line v] line := by
        obtain ⟨c, rest', hrest, hc⟩ := exists_separator vs rest
        rw [hrest]
        exact .numeral hspace v hc
      exact (Gives.touchingSymbol (c := ',') (by simp [symbols])).append (hnumber.append ih)

/-- The numbers of a list between commas. -/
def numbersChars (vs : List Nat) : List Char :=
  [',', ' '].intercalate (vs.map fun v => (toString v).toList)

theorem numbersChars_cons (v : Nat) (vs : List Nat) :
    numbersChars (v :: vs) = (toString v).toList ++ furtherChars vs := by
  induction vs generalizing v with
  | nil => simp [numbersChars, furtherChars]
  | cons w vs ih =>
      have htail := ih w
      rw [numbersChars, List.map_cons] at htail
      rw [numbersChars, List.map_cons, List.map_cons, List.intercalate_cons_cons, htail,
        furtherChars_cons]
      simp

theorem Gives.numbers (vs : List Nat) :
    Gives line (numbersChars vs) (']' :: rest) (numbersLexemes line vs) line := by
  cases vs with
  | nil => exact .nil
  | cons v vs =>
      have hnumber : Gives line (toString v).toList (furtherChars vs ++ ']' :: rest)
          [numberLexeme .touching line v] line := by
        obtain ⟨c, rest', hrest, hc⟩ := exists_separator vs rest
        rw [hrest]
        exact .numeral (List.forall_mem_nil _) v hc
      rw [numbersChars_cons]
      exact .append hnumber (.further vs)

end

theorem length_furtherLexemes (line : Nat) (vs : List Nat) :
    vs.length ≤ (furtherLexemes line vs).length := by
  induction vs with
  | nil => exact Nat.le_refl 0
  | cons v vs ih =>
      rw [← List.append_nil (furtherLexemes line (v :: vs)), furtherLexemes_cons]
      simp
      omega

theorem length_numbersLexemes (line : Nat) (vs : List Nat) :
    vs.length ≤ (numbersLexemes line vs).length := by
  cases vs with
  | nil => exact Nat.le_refl 0
  | cons v vs => exact Nat.succ_le_succ (length_furtherLexemes line vs)

/-! ## String literals -/

theorem begins_literal (gap : Gap) (hgap : gap.endsLine = false) (line : Nat) (text : String) :
    Lexeme.Begins ⟨.stringOpen, text, gap, line⟩ ls where
  sameLine := hgap
  noSign h := by cases h
  noWord h := by cases h
  noBinding h := by cases h

/-- The content of a literal and its end are taken. -/
theorem literalRest_accepts (line : Nat) (body : String) (n indent : Nat) :
    (literalRest k indent (n + 2)).Accepts ((literalLexemes line body).tail ++ m :: ls)
      (fun _ => True) (m :: ls) :=
  .take fun _ _ => .take fun _ _ => .pure trivial

theorem oneLiteral_accepts (line : Nat) (body : String) (n indent : Nat) :
    (oneLiteral k (n + 2) indent).Accepts (literalLexemes line body ++ m :: ls) (fun _ => True)
      (m :: ls) := by
  refine .bind (ahead_accepts _) fun before _ => .bind take_accepts fun _ _ => ?_
  exact .bind (literalRest_accepts line body n indent) fun _ _ => textSince_accepts before

/-- No further literal follows a literal that is closed. -/
theorem adjacentLiterals_ends (hm : m.closes b = true) (n : Nat) (pieces : List String) :
    (adjacentLiterals k b n pieces).Accepts (m :: ls) (· = pieces) (m :: ls) := by
  cases n with
  | zero => exact .pure rfl
  | succ n =>
      rcases Lexeme.closes_cases hm with hstop | ⟨hstop, hkind, -⟩
      · exact .next (next?_stops hstop) (.neg Bool.false_ne_true (.pure rfl))
      refine .bind (next?_accepts hstop) ?_
      rintro _ ⟨t, rfl, rfl⟩
      have hoperator : t.kind = .operator := hkind
      exact .neg (by simp [hoperator]) (.pure rfl)

/-- A literal between double quotes is an expression. -/
theorem literal_accepts (line : Nat) (body : String) (n : Nat) (hm : m.closes b = true) :
    ((readers (n + 4)).expr b).Accepts (literalLexemes line body ++ m :: ls)
      (fun e => ∃ text, e = .literal text) (m :: ls) := by
  refine atom_closed (begins_literal .touching rfl line _) (.nextOperand? rfl fun _ _ => ?_) hm
  refine .bind (ahead_accepts _) fun before _ => ?_
  refine .bind (oneLiteral_accepts line body n b.indent) fun piece _ => ?_
  exact .next (adjacentLiterals_ends hm _ [piece]) (.pure ⟨piece, rfl⟩)

end TestCensus.Source
