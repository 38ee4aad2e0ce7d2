import TestCensus.Proofs.Source.Parallel
import TestCensus.Source.CasePattern

/-!
# Parallel readings of expressions

The readers of expressions and of case patterns are parallel to themselves.  There is one
lemma for each reader, in the order of the readers.  `Inner.Parallel` is what they need of the
readers of smaller constructs, and `readers_parallel` ties the knot.
-/

namespace TestCensus.Source

open Parse

variable {f g : Rewriting}

/-! ## Related trees -/

/-- The expressions are related by the rewritings. -/
def SameExpr (f g : Rewriting) (e e' : Expr) : Prop := e.rewritten f.apply = e'.rewritten g.apply

/-- The parts of calls are related by the rewritings. -/
def SameArguments (f g : Rewriting) (ps qs : List ArgumentPart) : Prop :=
  rewrittenArguments f.apply ps = rewrittenArguments g.apply qs

/-- The rows are related by the rewritings, and both or none have a comma. -/
def SameRow (f g : Rewriting) (r r' : List Part × Bool) : Prop :=
  SameParts f g r.1 r'.1 ∧ r.2 = r'.2

/-- The texts are related by the rewritings, one by one. -/
def SameTexts (f g : Rewriting) (as bs : List String) : Prop := as.map f.apply = bs.map g.apply

/-- The arguments are related by the rewritings. -/
def SameArgument (f g : Rewriting) (a a' : ArgumentPart) : Prop := SameArguments f g [a] [a']

section

variable {e e' : Expr} {a b : String} {ps ps' qs qs' : List Part}
  {as as' bs bs' : List ArgumentPart}

theorem SameText.other (h : SameText f g a b) : SameExpr f g (.other a) (.other b) :=
  congrArg Expr.other h

theorem SameExpr.isTarget (h : SameExpr f g e e') : e'.isTarget = e.isTarget := by
  rw [← isTarget_rewritten g.apply, ← h, isTarget_rewritten]

theorem SameExpr.isBindable (h : SameExpr f g e e') : e'.isBindable = e.isBindable := by
  rw [← isBindable_rewritten g.apply, ← h, isBindable_rewritten]

theorem SameExpr.starred (h : SameExpr f g e e') (htext : SameText f g a b) :
    SameExpr f g (e.starred a) (e'.starred b) := by
  rw [SameExpr, starred_rewritten, starred_rewritten, h, htext]

theorem SameExpr.unpacked? (h : SameExpr f g e e') :
    Option.Rel (SameExpr f g) e.unpacked? e'.unpacked? := by
  have hsame : e.unpacked?.map (·.rewritten f.apply) = e'.unpacked?.map (·.rewritten g.apply) := by
    rw [← unpacked?_rewritten, ← unpacked?_rewritten, h]
  cases hleft : e.unpacked? <;> cases hright : e'.unpacked? <;> rw [hleft, hright] at hsame
  case none.none => exact .none
  case some.some => exact .some (Option.some.inj hsame)
  all_goals cases hsame

theorem SameExpr.isSplat (h : SameExpr f g e e') : e'.isSplat = e.isSplat := by
  rw [← isSplat_rewritten g.apply, ← h, isSplat_rewritten]

theorem SameParts.areTargets (h : SameParts f g ps qs) : areTargets qs = areTargets ps := by
  rw [← areTargets_rewritten g.apply, ← h, areTargets_rewritten]

theorem SameParts.nil : SameParts f g [] [] := rfl

theorem SameParts.append (h : SameParts f g ps qs) (h' : SameParts f g ps' qs') :
    SameParts f g (ps ++ ps') (qs ++ qs') := by
  rw [SameParts, rewrittenParts_append, rewrittenParts_append, h, h']

theorem SameExpr.item (h : SameExpr f g e e') : SameParts f g [.item e] [.item e'] :=
  congrArg (fun x => [Part.item x]) h

theorem SameArguments.append (h : SameArguments f g as bs) (h' : SameArguments f g as' bs') :
    SameArguments f g (as ++ as') (bs ++ bs') := by
  rw [SameArguments, rewrittenArguments_append, rewrittenArguments_append, h, h']

theorem SameFillers.arguments {xs ys : List Filler} (h : SameFillers f g xs ys) :
    SameArguments f g (xs.map .filler) (ys.map .filler) := by
  rw [SameArguments, rewrittenArguments_fillers, rewrittenArguments_fillers, h]

end

/-- The readers of smaller constructs are parallel to themselves. -/
structure Inner.Parallel (f g : Rewriting) (k : Inner) : Prop where
  /-- The reader of expressions. -/
  expr : ∀ b, Parse.Parallel f g (SameExpr f g) (k.expr b) (k.expr b)
  /-- The reader of operands with what is attached. -/
  attached : ∀ b, Parse.Parallel f g (SameExpr f g) (k.attached b) (k.attached b)

/-- An expression of which only the text is kept. -/
theorem otherSince_parallel {before before' : List Token} (h : ParallelTokens f g before before') :
    Parse.Parallel f g (SameExpr f g) (do return .other (← textSince before))
      (do return .other (← textSince before')) :=
  (textSince_parallel h).bind fun _ _ htext => .pure htext.other

section Readers

variable {k : Inner} (hk : k.Parallel f g) (n : Nat) (b : Bounds) (indent : Nat)

/-! ## Rows of expressions -/

theorem atOperand_parallel (stops : List String) :
    Parse.Parallel f g Eq (atOperand b stops) (atOperand b stops) :=
  asks_parallel (next?_parallel b) fun _ _ htu => by
    rw [htu.startsOperand, htu.kind_and .word nofun fun text => stops.contains text]

include hk

theorem rowRest_parallel (stops : List String) {parts parts' : List Part} (comma : Bool)
    (h : SameParts f g parts parts') :
    Parse.Parallel f g (SameRow f g) (rowRest k b stops n parts comma)
      (rowRest k b stops n parts' comma) := by
  induction n generalizing parts parts' comma with
  | zero => exact .pure ⟨h, rfl⟩
  | succ n ih =>
      refine .choose (atOperator_parallel b ",") ?_ (.pure ⟨h, rfl⟩)
      refine (fillerParts_parallel false).bind fun before before' hbefore => take_parallel.skip ?_
      refine .choose (atOperand_parallel b stops) ?_ (.pure ⟨h.append hbefore, rfl⟩)
      refine (fillerParts_parallel true).bind fun between between' hbetween => ?_
      refine (hk.expr _).bind fun e e' he => ?_
      exact ih true (((h.append hbefore).append hbetween).append he.item)

theorem row_parallel (stops : List String) :
    Parse.Parallel f g (SameRow f g) (row k n b stops) (row k n b stops) :=
  (hk.expr b).bind fun _ _ he => rowRest_parallel hk n b stops false he.item

theorem yieldExpr_parallel :
    Parse.Parallel f g (SameExpr f g) (yieldExpr k n b) (yieldExpr k n b) := by
  refine ahead_parallel.bind fun before before' hbefore => take_parallel.skip ?_
  have hend := otherSince_parallel hbefore
  refine .choose (skipWord_parallel b "from") ((hk.expr _).skip hend) ?_
  exact .choose (atOperand_parallel b []) ((row_parallel hk n _ []).skip hend) hend

/-! ## String literals -/

omit hk in
theorem specRest_parallel {field : Parse Unit} (h : Parse.Parallel f g Eq field field) :
    Parse.Parallel f g Eq (specRest field n) (specRest field n) := by
  induction n with
  | zero => exact .stop
  | succ n ih =>
      refine take_parallel.bind fun t u htu => ?_
      rw [htu.kind]
      split
      · exact ih
      · exact h.skip ih
      · exact .pure rfl
      · exact .stop

theorem field_parallel : Parse.Parallel f g Eq (field k indent n) (field k indent n) := by
  induction n with
  | zero => exact .stop
  | succ n ih =>
      refine .choose (atWord_parallel _ "yield") ((yieldExpr_parallel hk n _).skip ?tail)
        ((row_parallel hk n _ []).skip ?tail)
      refine (skipOperator_parallel _ "=").skip (head_parallel.bind fun t u htu => ?_)
      rw [htu.kind]
      refine .branch (take_parallel.skip ?close) ?close
      refine take_parallel.bind fun t u htu => ?_
      rw [htu.kind]
      split
      · exact .pure rfl
      · exact specRest_parallel n ih
      · exact .stop

theorem literalRest_parallel :
    Parse.Parallel f g Eq (literalRest k indent n) (literalRest k indent n) := by
  induction n with
  | zero => exact .stop
  | succ n ih =>
      refine take_parallel.bind fun t u htu => ?_
      rw [htu.kind]
      split
      · exact ih
      · exact (field_parallel hk n indent).skip ih
      · exact .pure rfl
      · exact .stop

theorem oneLiteral_parallel :
    Parse.Parallel f g (SameText f g) (oneLiteral k n indent) (oneLiteral k n indent) :=
  ahead_parallel.bind fun _ _ hbefore =>
    take_parallel.skip ((literalRest_parallel hk n indent).skip (textSince_parallel hbefore))

theorem adjacentLiterals_parallel {pieces pieces' : List String}
    (h : SameTexts f g pieces pieces') :
    Parse.Parallel f g (SameTexts f g) (adjacentLiterals k b n pieces)
      (adjacentLiterals k b n pieces') := by
  induction n generalizing pieces pieces' with
  | zero => exact .pure h
  | succ n ih =>
      refine (next?_parallel b).bind fun t? u? htu => ?_
      rw [any_parallel htu fun t u h => by rw [h.kind]]
      refine .branch ?_ (.pure h)
      refine (oneLiteral_parallel hk n _).bind fun piece piece' hpiece => ih ?_
      rw [SameTexts, List.map_append, List.map_append, h, List.map_singleton, List.map_singleton,
        hpiece]

theorem literalExpr_parallel :
    Parse.Parallel f g (SameExpr f g) (literalExpr k n b) (literalExpr k n b) := by
  refine ahead_parallel.bind fun before before' hbefore => ?_
  refine (oneLiteral_parallel hk n _).bind fun piece piece' hpiece => ?_
  have hpieces : SameTexts f g [piece] [piece'] := congrArg (fun x => [x]) hpiece
  refine (adjacentLiterals_parallel hk n b hpieces).bind fun pieces pieces' h => ?_
  have hmany : Parse.Parallel f g (SameExpr f g)
      (do return .literals pieces (← textSince before))
      (do return .literals pieces' (← textSince before')) :=
    (textSince_parallel hbefore).bind fun a b htext => .pure (congrArg₂ Expr.literals h htext)
  have hlength : pieces.length = pieces'.length := by simpa using congrArg List.length h
  by_cases hone : pieces.length = 1
  · obtain ⟨a, rfl⟩ := List.length_eq_one_iff.1 hone
    obtain ⟨b, rfl⟩ := List.length_eq_one_iff.1 (hlength ▸ hone)
    exact .pure (congrArg Expr.literal (List.cons.inj h).1)
  · split
    · exact absurd rfl hone
    · split
      · exact absurd hlength hone
      · exact hmany

/-! ## Targets and comprehensions -/

theorem target_parallel : Parse.Parallel f g (SameExpr f g) (target k b) (target k b) := by
  refine (hk.attached b).bind fun e e' he => ?_
  rw [he.isTarget]
  exact .branch (.pure he) .stop

theorem targetsRest_parallel (last : String) :
    Parse.Parallel f g Eq (targetsRest k b last n) (targetsRest k b last n) := by
  induction n with
  | zero => exact .pure rfl
  | succ n ih =>
      refine .choose (skipOperator_parallel b ",") ?_ (.pure rfl)
      exact .choose (atOperand_parallel b [last]) ((target_parallel hk _).skip ih) (.pure rfl)

theorem loopTargets_parallel : Parse.Parallel f g Eq (loopTargets k n b) (loopTargets k n b) :=
  (target_parallel hk b).skip (targetsRest_parallel hk n b "in")

omit hk in
theorem atLoop_parallel : Parse.Parallel f g Eq (atLoop b) (atLoop b) := by
  refine .choose (atWord_parallel b "for") (.pure rfl) ?_
  refine .choose (atWord_parallel b "async") ?_ (.pure rfl)
  exact asks_parallel second_parallel fun _ _ htu => htu.isWord "for"

theorem clauses_parallel : Parse.Parallel f g Eq (clauses k b n) (clauses k b n) := by
  induction n with
  | zero => exact .pure rfl
  | succ n ih =>
      refine .choose (atLoop_parallel b) ?_ ?_
      · refine (skipWord_parallel b "async").skip ((expectThe_parallel b "for").skip ?_)
        refine (loopTargets_parallel hk n _).skip ((expectThe_parallel _ "in").skip ?_)
        exact (row_parallel hk n _ clauseWords).skip ih
      · exact .choose (skipWord_parallel b "if") ((hk.expr _).skip ih) (.pure rfl)

/-! ## Brackets -/

theorem element_parallel : Parse.Parallel f g (SameExpr f g) (element k n b) (element k n b) := by
  refine .choose (atOperator_parallel b "**") (splitStars_parallel.skip ?tail) ?tail
  refine .choose (atOperator_parallel b "*") ?_ ?_
  · refine ahead_parallel.bind fun before before' hbefore => take_parallel.skip ?_
    refine (hk.expr _).bind fun e e' he => (textSince_parallel hbefore).bind fun a b htext => ?_
    rw [he.isBindable]
    exact .pure (congrArg (Expr.splat _) htext)
  · exact .choose (atWord_parallel b "yield") (yieldExpr_parallel hk n b) (hk.expr b)

theorem elementsRest_parallel (close : String) {parts parts' : List Part} (comma : Bool)
    (h : SameParts f g parts parts') :
    Parse.Parallel f g (SameRow f g) (elementsRest k b close n parts comma)
      (elementsRest k b close n parts' comma) := by
  induction n generalizing parts parts' comma with
  | zero => exact .stop
  | succ n ih =>
      refine (fillerParts_parallel false).bind fun before before' hbefore => ?_
      refine .choose (skipOperator_parallel b close) (.pure ⟨h.append hbefore, rfl⟩) ?_
      refine (expect_parallel b ",").skip ?_
      refine (fillerParts_parallel true).bind fun between between' hbetween => ?_
      have hparts := (h.append hbefore).append hbetween
      refine .choose (skipOperator_parallel b close) (.pure ⟨hparts, rfl⟩) ?_
      exact (element_parallel hk n b).bind fun e e' he => ih true (hparts.append he.item)

theorem roundBrackets_parallel :
    Parse.Parallel f g (SameExpr f g) (roundBrackets k n indent) (roundBrackets k n indent) := by
  refine ahead_parallel.bind fun start start' hstart => take_parallel.skip ?_
  refine (fillerParts_parallel true).bind fun before before' hbefore => ?_
  refine .choose (skipOperator_parallel _ ")") ?_ ?_
  · exact (textSince_parallel hstart).bind fun a b htext =>
      .pure (congrArg₂ Expr.tuple hbefore htext)
  refine (element_parallel hk n _).bind fun e e' he => .choose (atLoop_parallel _) ?_ ?_
  · exact (clauses_parallel hk n _).skip ((expect_parallel _ ")").skip (otherSince_parallel hstart))
  refine (elementsRest_parallel hk n _ ")" false (hbefore.append he.item)).bind ?_
  rintro ⟨parts, comma⟩ ⟨parts', comma'⟩ ⟨hparts, hcomma⟩
  obtain rfl : comma = comma' := hcomma
  refine (textSince_parallel hstart).bind fun a b htext => ?_
  cases comma with
  | true => exact .pure (congrArg₂ Expr.tuple hparts htext)
  | false => exact .pure (congrArg₂ Expr.parens hparts htext)

theorem squareBrackets_parallel :
    Parse.Parallel f g (SameExpr f g) (squareBrackets k n indent) (squareBrackets k n indent) := by
  refine ahead_parallel.bind fun start start' hstart => take_parallel.skip ?_
  refine (fillerParts_parallel true).bind fun before before' hbefore => ?_
  refine .choose (skipOperator_parallel _ "]") ?_ ?_
  · exact (textSince_parallel hstart).bind fun a b htext =>
      .pure (congrArg₂ Expr.list hbefore htext)
  refine (element_parallel hk n _).bind fun e e' he => .choose (atLoop_parallel _) ?_ ?_
  · exact (clauses_parallel hk n _).skip ((expect_parallel _ "]").skip (otherSince_parallel hstart))
  refine (elementsRest_parallel hk n _ "]" false (hbefore.append he.item)).bind fun r r' hr => ?_
  exact (textSince_parallel hstart).bind fun a b htext => .pure (congrArg₂ Expr.list hr.1 htext)

theorem entry_parallel : Parse.Parallel f g Eq (entry k b) (entry k b) := by
  refine .choose (skipOperator_parallel b "**") ((hk.expr _).skip (.pure rfl)) ?_
  exact (hk.expr b).skip ((expect_parallel _ ":").skip ((hk.expr _).skip (.pure rfl)))

theorem entriesRest_parallel : Parse.Parallel f g Eq (entriesRest k b n) (entriesRest k b n) := by
  induction n with
  | zero => exact .stop
  | succ n ih =>
      refine .choose (skipOperator_parallel b "\x7d") (.pure rfl) ((expect_parallel b ",").skip ?_)
      exact .choose (skipOperator_parallel b "\x7d") (.pure rfl) ((entry_parallel hk b).skip ih)

theorem braces_parallel :
    Parse.Parallel f g (SameExpr f g) (braces k n indent) (braces k n indent) := by
  refine ahead_parallel.bind fun start start' hstart => take_parallel.skip ?_
  have hend := otherSince_parallel hstart
  have hclauses := (clauses_parallel hk n (Bounds.bracket indent)).skip
    ((expect_parallel (Bounds.bracket indent) "\x7d").skip hend)
  refine .choose (skipOperator_parallel _ "\x7d") hend ?_
  refine .choose (skipOperator_parallel _ ",") ((expect_parallel _ "\x7d").skip hend) ?_
  refine .choose (atOperator_parallel _ "**") ?_ ?_
  · exact (entry_parallel hk _).skip ((entriesRest_parallel hk n _).skip hend)
  refine (element_parallel hk n _).bind fun e e' he => ?_
  refine (atOperator_parallel _ ":").ask fun colon => ?_
  rw [he.isSplat]
  refine .branch ?_ ?_
  · refine take_parallel.skip ((hk.expr _).skip ?_)
    exact .choose (atLoop_parallel _) hclauses ((entriesRest_parallel hk n _).skip hend)
  · refine .choose (atLoop_parallel _) hclauses ?_
    exact (elementsRest_parallel hk n _ "\x7d" false he.item).skip hend

/-! ## What is attached to an operand -/

omit hk in
theorem atKeyword_parallel : Parse.Parallel f g Eq (atKeyword b) (atKeyword b) := by
  refine (next?_parallel b).bind fun t? u? h => ?_
  cases h with
  | none => exact .pure rfl
  | some htu =>
      dsimp only
      rw [htu.kind_and .word nofun fun text => !valueWords.contains text]
      exact .branch (asks_parallel second_parallel fun _ _ htu => htu.isOperator "=") (.pure rfl)

omit hk in
/-- Where an argument known by its name is next, a word is. -/
theorem run_atKeyword {ts rest : List Token} (h : (atKeyword b).run ts = .ok (true, rest)) :
    ∃ t, t.kind = .word ∧ (t.kind = .finish ∨ ∃ more, rest = t :: more) := by
  obtain ⟨found, mid, hnext, hbehind⟩ := run_bind_eq_ok.1 h
  obtain ⟨rfl, hseen⟩ := run_next? hnext
  split at hbehind
  · rename_i t
    split at hbehind
    · rename_i hword
      obtain ⟨next, mid', hsecond, hfound⟩ := run_bind_eq_ok.1 hbehind
      obtain ⟨rfl, -⟩ := run_second hsecond
      obtain ⟨-, rfl⟩ := Prod.mk.inj (Except.ok.inj hfound)
      exact ⟨t, eq_of_beq (Bool.and_eq_true_iff.1 hword).1, hseen t rfl⟩
    · cases hbehind
  · cases hbehind

theorem argument_parallel :
    Parse.Parallel f g (SameArgument f g) (argument k b) (argument k b) := by
  refine (atOperator_parallel b "*").ask fun star =>
    (atOperator_parallel b "**").ask fun stars => ?_
  refine .branch (take_parallel.skip ((hk.expr _).skip (.pure rfl))) ⟨fun hts => ?_⟩
  refine ((atKeyword_parallel b).outcome hts).bind
    fun {keyword keyword' rest rest'} hrun h hrest => ?_
  cases h
  cases keyword with
  | false =>
      refine Parse.Parallel.outcome ((hk.expr b).bind fun e e' he => .pure ?_) hrest
      exact congrArg (fun e => [ArgumentPart.positional e]) he
  | true =>
      obtain ⟨t, hword, hseen⟩ := run_atKeyword b hrun
      refine (take_parallel.outcome hrest).bind fun {name name' _ _} htake hname hrest => ?_
      obtain rfl := seen_eq_taken hseen (by simp [hword]) (run_take htake)
      have hname : name'.text = t.text := hname.text_of_kind hword nofun
      refine Parse.Parallel.outcome
        (take_parallel.skip ((hk.expr _).bind fun e e' he => .pure ?_)) hrest
      rw [hname]
      exact congrArg (fun e => [ArgumentPart.keyword t.text e]) he

theorem argumentsRest_parallel {parts parts' : List ArgumentPart}
    (h : SameArguments f g parts parts') :
    Parse.Parallel f g (SameArguments f g) (argumentsRest k b n parts)
      (argumentsRest k b n parts') := by
  induction n generalizing parts parts' with
  | zero => exact .stop
  | succ n ih =>
      refine (fillers_parallel false).bind fun before before' hbefore => ?_
      have hbefore := h.append hbefore.arguments
      refine .choose (skipOperator_parallel b ")") (.pure hbefore) ((expect_parallel b ",").skip ?_)
      refine (fillers_parallel true).bind fun between between' hbetween => ?_
      have hbetween := hbefore.append hbetween.arguments
      refine .choose (skipOperator_parallel b ")") (.pure hbetween) ?_
      exact (argument_parallel hk b).bind fun a a' ha => ih (hbetween.append ha)

theorem arguments_parallel :
    Parse.Parallel f g (SameArguments f g) (arguments k n indent) (arguments k n indent) := by
  refine take_parallel.skip ((fillers_parallel true).bind fun before before' hbefore => ?_)
  have hbefore := hbefore.arguments
  refine .choose (skipOperator_parallel _ ")") (.pure hbefore) ?_
  refine .choose (skipOperator_parallel _ ",") ((expect_parallel _ ")").skip (.pure hbefore)) ?_
  refine (argument_parallel hk _).bind fun a a' ha => .choose (atLoop_parallel _) ?_ ?_
  · exact (clauses_parallel hk n _).skip ((expect_parallel _ ")").skip (.pure rfl))
  · exact argumentsRest_parallel hk n _ (hbefore.append ha)

theorem slice_parallel : Parse.Parallel f g Eq (slice k b) (slice k b) := by
  have hbehind : Parse.Parallel f g Eq (k.expr b.behind >>= fun _ => pure PUnit.unit)
      (k.expr b.behind >>= fun _ => pure PUnit.unit) := (hk.expr _).skip (.pure rfl)
  refine (atOperator_parallel b ":").ask fun colon => .branch ((hk.expr b).skip ?tail) ?tail
  refine .choose (skipOperator_parallel b ":") ?_ (.pure rfl)
  refine .choose (atOperand_parallel b []) ((hk.expr _).skip ?third) ?third
  refine .choose (skipOperator_parallel b ":") ?_ (.pure rfl)
  exact .choose (atOperand_parallel b []) hbehind (.pure rfl)

theorem slicesRest_parallel : Parse.Parallel f g Eq (slicesRest k b n) (slicesRest k b n) := by
  induction n with
  | zero => exact .stop
  | succ n ih =>
      refine .choose (skipOperator_parallel b "]") (.pure rfl) ((expect_parallel b ",").skip ?_)
      exact .choose (skipOperator_parallel b "]") (.pure rfl) ((slice_parallel hk b).skip ih)

theorem attachments_parallel {start start' : List Token} (hstart : ParallelTokens f g start start')
    {e e' : Expr} (h : SameExpr f g e e') :
    Parse.Parallel f g (SameExpr f g) (attachments k b start n e)
      (attachments k b start' n e') := by
  induction n generalizing e e' with
  | zero => exact .pure h
  | succ n ih =>
      refine .choose (skipOperator_parallel b ".") ?_ (.choose (atOperator_parallel b "(") ?_
        (.choose (atOperator_parallel b "[") ?_ (.pure h)))
      · refine (expectWord_parallel _).bind fun t u htext => ?_
        refine (textSince_parallel hstart).bind fun a a' ha => ih ?_
        rw [htext, SameExpr, Expr.rewritten, Expr.rewritten, h, ha]
      · exact (arguments_parallel hk n _).bind fun as as' has => ih (congrArg₂ Expr.call h has)
      · refine take_parallel.skip
          ((slice_parallel hk _).skip ((slicesRest_parallel hk n _).skip ?_))
        exact (textSince_parallel hstart).bind fun a a' ha => ih (congrArg Expr.subscript ha)

theorem atom_parallel : Parse.Parallel f g (SameExpr f g) (atom k n b) (atom k n b) := by
  refine (nextOperand?_parallel b).bind fun t? u? h => ?_
  cases h with
  | none => exact .stop
  | @some t u htu =>
      dsimp only
      rw [htu.kind]
      have hsame : u.text = t.text → SameExpr f g (.other t.text) (.other t.text) := fun htext =>
        SameText.other (htu.text.trans (congrArg g.apply htext))
      split
      · rename_i hkind
        have htext := htu.text_of_kind hkind nofun
        refine take_parallel.skip (.pure ?_)
        rw [htext]
        split
        · exact hsame htext
        · rfl
      · rename_i hkind
        have htext := htu.text_of_kind hkind nofun
        rw [htext]
        exact take_parallel.skip (.pure (hsame htext))
      · exact literalExpr_parallel hk n b
      · rename_i hkind
        have htext := htu.text_of_kind hkind nofun
        rw [htext]
        refine .branch (roundBrackets_parallel hk n _) (.branch (squareBrackets_parallel hk n _)
          (.branch (braces_parallel hk n _) (.branch ?_ .stop)))
        exact take_parallel.skip (.pure (hsame htext))
      · exact .stop

theorem attachedStep_parallel :
    Parse.Parallel f g (SameExpr f g) (attachedStep n k b) (attachedStep n k b) := by
  refine ahead_parallel.bind fun start start' hstart => ?_
  refine (nextOperand?_parallel b).bind fun t? u? h => ?_
  cases h with
  | none => exact .stop
  | some htu =>
      dsimp only
      rw [htu.isOperator]
      refine .branch ?_ ?_
      · refine take_parallel.skip ((atom_parallel hk n _).bind fun first first' hfirst => ?_)
        refine (textSince_parallel hstart).bind fun a a' ha => ?_
        refine (attachments_parallel hk n _ hstart (hfirst.starred ha)).bind fun e e' he => ?_
        have hunpacked := he.unpacked?
        generalize e.unpacked? = left at hunpacked
        generalize e'.unpacked? = right at hunpacked
        cases hunpacked with
        | none => exact .stop
        | some hsame => exact .pure hsame
      · exact (atom_parallel hk n b).bind fun e e' he => attachments_parallel hk n b hstart he

/-! ## Parameters and types -/

/-- A nested expression of which nothing is kept. -/
theorem nested_parallel :
    Parse.Parallel f g Eq (do let _ ← k.expr b) (do let _ ← k.expr b) :=
  (hk.expr b).skip (.pure rfl)

theorem typeExpr_parallel (constrained : Bool) :
    Parse.Parallel f g Eq (typeExpr k b constrained) (typeExpr k b constrained) := by
  refine .choose (skipOperator_parallel b "**") ((expectWord_parallel _).skip ?tail)
    ((hk.expr b).skip ?tail)
  refine .branch ?_ (.pure rfl)
  exact .choose (skipOperator_parallel b ":") (nested_parallel hk _) (.pure rfl)

theorem typeParametersRest_parallel :
    Parse.Parallel f g Eq (typeParametersRest k b n) (typeParametersRest k b n) := by
  induction n with
  | zero => exact .stop
  | succ n ih =>
      refine .choose (skipOperator_parallel b "]") (.pure rfl) ((expect_parallel b ",").skip ?_)
      exact .choose (skipOperator_parallel b "]") (.pure rfl)
        ((typeExpr_parallel hk b true).skip ih)

theorem typeParameters_parallel :
    Parse.Parallel f g Eq (typeParameters k n b) (typeParameters k n b) :=
  .choose (skipOperator_parallel b "[")
    ((typeExpr_parallel hk _ true).skip (typeParametersRest_parallel hk n _)) (.pure rfl)

omit hk in
theorem atOneOf_parallel (texts : List String) :
    Parse.Parallel f g Eq (atOneOf b texts) (atOneOf b texts) :=
  asks_parallel (next?_parallel b) fun _ _ htu =>
    htu.kind_and .operator nofun fun text => texts.contains text

theorem parameterType_parallel (typed : Bool) :
    Parse.Parallel f g Eq (parameterType k b typed) (parameterType k b typed) :=
  .branch (.choose (skipOperator_parallel b ":") (typeExpr_parallel hk _ false) (.pure rfl))
    (.pure rfl)

theorem parameter_parallel (typed : Bool) :
    Parse.Parallel f g Eq (parameter k b typed) (parameter k b typed) := by
  have hdefault : Parse.Parallel f g Eq
      (do if ← skipOperator b "=" then let _ ← k.expr b.behind)
      (do if ← skipOperator b "=" then let _ ← k.expr b.behind) :=
    .choose (skipOperator_parallel b "=") (nested_parallel hk _) (.pure rfl)
  have htyped := (target_parallel hk b.behind).skip (parameterType_parallel hk b typed)
  refine .choose (skipOperator_parallel b "*") ?_ (.choose (skipOperator_parallel b "**") htyped ?_)
  · refine (atOneOf_parallel b _).ask fun bare => .branch htyped (.pure rfl)
  refine .choose (skipOperator_parallel b "/") (.pure rfl)
    (.choose (atOperator_parallel b "(") ?_ ?_)
  · exact (target_parallel hk b).skip hdefault
  · exact (expectWord_parallel b).skip ((parameterType_parallel hk b typed).skip hdefault)

theorem parametersRest_parallel (typed : Bool) (close : String) :
    Parse.Parallel f g Eq (parametersRest k b typed close n)
      (parametersRest k b typed close n) := by
  induction n with
  | zero => exact .stop
  | succ n ih =>
      refine .choose (skipOperator_parallel b close) (.pure rfl) ((expect_parallel b ",").skip ?_)
      exact .choose (skipOperator_parallel b close) (.pure rfl)
        ((parameter_parallel hk b typed).skip ih)

theorem functionParameters_parallel :
    Parse.Parallel f g Eq (functionParameters k n b) (functionParameters k n b) :=
  .choose (skipOperator_parallel b ":") (.pure rfl)
    ((parameter_parallel hk b false).skip (parametersRest_parallel hk n b false ":"))

/-! ## Chains of operands -/

/-- Operands are related if both are an expression or none is. -/
def SameOperand (f g : Rewriting) : Option Expr → Option Expr → Prop := Option.Rel (SameExpr f g)

theorem operand_parallel (free : Bool) :
    Parse.Parallel f g (SameOperand f g) (operand k n b free) (operand k n b free) := by
  induction n generalizing b free with
  | zero => exact .stop
  | succ n ih =>
      refine (nextOperand?_parallel b).bind fun t? u? h => ?_
      cases h with
      | none => exact .stop
      | @some t u htu =>
          dsimp only
          simp only [htu.isWord,
            htu.kind_and_decide .operator nofun fun text => signs.contains text,
            Bool.and_assoc free,
            htu.kind_and_decide .word nofun fun text => !constantWords.contains text]
          have hbehind : ∀ free, Parse.Parallel f g (SameOperand f g)
              (do let _ ← operand k n b.behind free; return none)
              (do let _ ← operand k n b.behind free; return none) :=
            fun free => (ih _ free).skip (.pure .none)
          refine .branch (take_parallel.skip (hbehind false)) ?_
          refine .branch (take_parallel.skip (hbehind true)) ?_
          refine .branch
            (take_parallel.skip ((functionParameters_parallel hk n _).skip (hbehind true))) ?_
          refine second_parallel.bind fun t? u? hnext => ?_
          rw [any_parallel hnext fun _ _ htu => htu.isOperator ":="]
          refine .branch (take_parallel.skip (take_parallel.skip (hbehind true))) ?_
          refine second_parallel.bind fun t? u? hnext => ?_
          rw [any_parallel hnext fun _ _ htu => htu.awaits]
          refine .branch (take_parallel.skip ?_) ?_
          · refine .choose (atOperand_parallel _ []) (hbehind false) ?_
            refine ahead_parallel.bind fun start start' hstart => ?_
            have hname : SameExpr f g (.name "await") (.name "await") := rfl
            exact (attachments_parallel hk n b hstart hname).bind fun e e' he => .pure (.some he)
          · exact (attachedStep_parallel hk n b).bind fun e e' he => .pure (.some he)

theorem chainRest_parallel (more : Bool) :
    Parse.Parallel f g Eq (chainRest k b n more) (chainRest k b n more) := by
  induction n generalizing more with
  | zero => exact .pure rfl
  | succ n ih =>
      refine (next?_parallel b).bind fun t? u? h => ?_
      cases h with
      | none => exact .pure rfl
      | @some t u htu =>
          dsimp only
          simp only [htu.isWord,
            htu.kind_and_decide .operator nofun fun text => operandOperators.contains text]
          have hmore : ∀ free, Parse.Parallel f g Eq
              (do let _ ← operand k n b.behind free; chainRest k b n true)
              (do let _ ← operand k n b.behind free; chainRest k b n true) :=
            fun free => (operand_parallel hk n _ free).skip (ih true)
          refine .branch (take_parallel.skip (hmore false)) ?_
          refine .branch (take_parallel.skip (hmore true)) ?_
          refine .branch (take_parallel.skip (hmore false)) ?_
          refine .branch (take_parallel.skip ((skipWord_parallel _ "not").skip (hmore false))) ?_
          refine second_parallel.bind fun t? u? hnext => ?_
          rw [any_parallel hnext fun _ _ htu => htu.isWord "in"]
          refine .branch (take_parallel.skip (take_parallel.skip (hmore false)))
            (.branch ?_ (.pure rfl))
          refine take_parallel.skip
            ((hk.expr _).skip ((expectThe_parallel _ "else").skip (hmore true)))

theorem exprStep_parallel :
    Parse.Parallel f g (SameExpr f g) (exprStep n k b) (exprStep n k b) := by
  refine ahead_parallel.bind fun start start' hstart => ?_
  refine (operand_parallel hk n b true).bind fun e? e?' he => ?_
  refine (chainRest_parallel hk n b false).ask fun more => ?_
  have hother := otherSince_parallel hstart
  cases he with
  | none => exact hother
  | some he =>
      cases more with
      | true => exact hother
      | false => exact .pure he

end Readers

/-- The readers for every depth of nesting are parallel to themselves. -/
theorem readers_parallel (n : Nat) : (readers n).Parallel f g := by
  induction n with
  | zero => exact ⟨fun _ => .stop, fun _ => .stop⟩
  | succ n ih => exact ⟨exprStep_parallel ih n, attachedStep_parallel ih n⟩

/-! ## Case patterns -/

theorem dottedRest_parallel (n : Nat) (b : Bounds) :
    Parse.Parallel f g Eq (dottedRest b n) (dottedRest b n) := by
  induction n with
  | zero => exact .pure rfl
  | succ n ih =>
      exact .choose (skipOperator_parallel b ".") ((expectWord_parallel _).skip ih) (.pure rfl)

theorem numberPattern_parallel (b : Bounds) :
    Parse.Parallel f g Eq (numberPattern b) (numberPattern b) := by
  have hnumber : Parse.Parallel f g Eq
      (do if (← head).kind = .number then let _ ← take else stop)
      (do if (← head).kind = .number then let _ ← take else stop) := by
    refine head_parallel.bind fun t u htu => ?_
    rw [htu.kind]
    exact .branch (take_parallel.skip (.pure rfl)) .stop
  refine head_parallel.bind fun t u htu => ?_
  rw [htu.kind]
  refine .branch (take_parallel.skip ?_) .stop
  refine (atOperator_parallel b "+").ask fun plus => (atOperator_parallel b "-").ask fun minus => ?_
  exact .branch (take_parallel.skip hnumber) (.pure rfl)

theorem patternsUpTo_parallel {one : Bounds → Parse Unit}
    (hone : ∀ b, Parse.Parallel f g Eq (one b) (one b)) (n : Nat) (b : Bounds) (close : String) :
    Parse.Parallel f g Eq (patternsUpTo one b close n) (patternsUpTo one b close n) := by
  induction n with
  | zero => exact .stop
  | succ n ih =>
      refine .choose (skipOperator_parallel b close) (.pure rfl) ((hone b).skip ?_)
      exact .choose (skipOperator_parallel b close) (.pure rfl) ((expect_parallel b ",").skip ih)

theorem joinedPatterns_parallel {single : Bounds → Parse Unit}
    (hsingle : ∀ b, Parse.Parallel f g Eq (single b) (single b)) (n : Nat) (b : Bounds) :
    Parse.Parallel f g Eq (joinedPatterns single b n) (joinedPatterns single b n) := by
  induction n with
  | zero => exact .pure rfl
  | succ n ih =>
      exact .choose (skipOperator_parallel b "|") ((hsingle _).skip ih) (.pure rfl)

theorem singlePattern_parallel {k : Inner} (hk : k.Parallel f g) (n : Nat)
    {inner value : Bounds → Parse Unit} (hinner : ∀ b, Parse.Parallel f g Eq (inner b) (inner b))
    (hvalue : ∀ b, Parse.Parallel f g Eq (value b) (value b)) (b : Bounds) :
    Parse.Parallel f g Eq (singlePattern k n inner value b) (singlePattern k n inner value b) := by
  refine head_parallel.bind fun t u htu => ?_
  dsimp only
  rw [htu.kind]
  split
  · exact (literalExpr_parallel hk n b).skip (.pure rfl)
  · exact numberPattern_parallel b
  · refine take_parallel.skip ((dottedRest_parallel n b).skip ?_)
    exact .choose (skipOperator_parallel b "(") (patternsUpTo_parallel hinner n _ _) (.pure rfl)
  · rename_i hkind
    rw [htu.text_of_kind hkind nofun]
    refine take_parallel.skip (.branch ((expectWord_parallel _).skip (.pure rfl)) ?_)
    refine .branch (numberPattern_parallel b) (.branch (patternsUpTo_parallel hinner n _ _) ?_)
    refine .branch (patternsUpTo_parallel hinner n _ _) (.branch ?_ .stop)
    refine patternsUpTo_parallel (fun b => ?_) n _ _
    refine .choose (skipOperator_parallel b "**") ((expectWord_parallel _).skip (.pure rfl)) ?_
    exact (hvalue b).skip ((expect_parallel _ ":").skip (hinner b))
  · exact .stop

theorem casePattern_parallel {k : Inner} (hk : k.Parallel f g) (n depth : Nat) (named : Bool)
    (b : Bounds) :
    Parse.Parallel f g Eq (casePattern k n depth named b) (casePattern k n depth named b) := by
  induction depth generalizing named b with
  | zero => exact .stop
  | succ depth ih =>
      refine head_parallel.bind fun t u htu => second_parallel.bind fun t? u? hnext => ?_
      rw [htu.kind, any_parallel hnext fun _ _ htu => htu.isOperator "="]
      refine .branch (take_parallel.skip (take_parallel.skip (ih false _))) ?_
      have hsingle := singlePattern_parallel hk n (ih true) (ih false)
      refine (hsingle b).skip ((joinedPatterns_parallel hsingle n b).skip (.branch ?_ (.pure rfl)))
      exact .choose (skipWord_parallel b "as") ((expectWord_parallel _).skip (.pure rfl))
        (.pure rfl)

end TestCensus.Source
