import TestCensus.Proofs.Source.ParallelExpressions
import TestCensus.Source.Statement

/-!
# Parallel readings of statements

The readers of statements are parallel to themselves, one lemma for each in the order of the
readers, and blocks by induction on the depth of nesting.  So two sources whose tokens are
parallel have trees that are equal but for the texts in them (`parse_parallel`).
-/

namespace TestCensus.Source

open Parse

variable {f g : Rewriting}

/-! ## Related trees -/

/-- The values are related by the rewritings. -/
def SameAssigned (f g : Rewriting) (a b : Assigned) : Prop :=
  a.rewritten f.apply = b.rewritten g.apply

/-- The statements on one line are related by the rewritings. -/
def SameSmall (f g : Rewriting) (s s' : SmallStatement) : Prop :=
  s.rewritten f.apply = s'.rewritten g.apply

/-- The statements are related by the rewritings. -/
def SameStatement (f g : Rewriting) (s s' : Statement) : Prop :=
  s.rewritten f.apply = s'.rewritten g.apply

/-- The blocks are related by the rewritings. -/
def SameBlock (f g : Rewriting) (block block' : List Statement) : Prop :=
  rewrittenBlock f.apply block = rewrittenBlock g.apply block'

/-- The lists of blocks are related by the rewritings. -/
def SameBlocks (f g : Rewriting) (blocks blocks' : List (List Statement)) : Prop :=
  rewrittenBlocks f.apply blocks = rewrittenBlocks g.apply blocks'

/-- The decorators are related by the rewritings. -/
def SameDecorators (f g : Rewriting) (ds ds' : List Decorator) : Prop :=
  ds.map (rewrittenParts f.apply) = ds'.map (rewrittenParts g.apply)

section

variable {s s' : Statement} {found found' more more' : List Statement}
  {bs bs' cs cs' : List (List Statement)}

theorem SameStatement.block (h : SameStatement f g s s') : SameBlock f g [s] [s'] :=
  congrArg (fun s => [s]) h

theorem SameSmall.block {s s' : SmallStatement} (h : SameSmall f g s s') :
    SameBlock f g [.small s] [.small s'] := congrArg (fun s => [Statement.small s]) h

theorem SameFillers.block {xs ys : List Filler} (h : SameFillers f g xs ys) :
    SameBlock f g (xs.map .filler) (ys.map .filler) := by
  rw [SameBlock, rewrittenBlock_fillers, rewrittenBlock_fillers, h]

theorem SameBlock.append (h : SameBlock f g found found') (h' : SameBlock f g more more') :
    SameBlock f g (found ++ more) (found' ++ more') := by
  rw [SameBlock, rewrittenBlock_append, rewrittenBlock_append, h, h']

theorem SameBlock.blocks (h : SameBlock f g found found') : SameBlocks f g [found] [found'] :=
  congrArg (fun found => [found]) h

theorem SameBlocks.append (h : SameBlocks f g bs bs') (h' : SameBlocks f g cs cs') :
    SameBlocks f g (bs ++ cs) (bs' ++ cs') := by
  rw [SameBlocks, rewrittenBlocks_append, rewrittenBlocks_append, h, h']

theorem SameBlocks.compound (kind : CompoundKind) (h : SameBlocks f g bs bs') :
    SameStatement f g (.compound kind bs) (.compound kind bs') :=
  congrArg (Statement.compound kind) h

theorem SameBlocks.nil : SameBlocks f g [] [] := rfl

theorem SameBlocks.isEmpty (h : SameBlocks f g bs bs') : bs'.isEmpty = bs.isEmpty := by
  rw [SameBlocks, rewrittenBlocks_eq_map, rewrittenBlocks_eq_map] at h
  rw [← List.isEmpty_map, ← h, List.isEmpty_map]

theorem SameDecorators.nil : SameDecorators f g [] [] := rfl

theorem SameDecorators.isEmpty {ds ds' : List Decorator} (h : SameDecorators f g ds ds') :
    ds'.isEmpty = ds.isEmpty := by
  rw [← List.isEmpty_map, ← h, List.isEmpty_map]

theorem SameDecorators.concat {ds ds' : List Decorator} {d d' : Decorator}
    (h : SameDecorators f g ds ds') (hd : SameParts f g d d') :
    SameDecorators f g (ds ++ [d]) (ds' ++ [d']) := by
  rw [SameDecorators, List.map_append, List.map_append, h, List.map_singleton, List.map_singleton,
    hd]

/-- Lines that were read last first are related as one block. -/
theorem SameBlocks.lines (h : SameBlocks f g bs bs') :
    SameBlock f g bs.reverse.flatten bs'.reverse.flatten := by
  have hflat : ∀ (r : Rewriting) (bs : List (List Statement)),
      rewrittenBlock r.apply bs.reverse.flatten =
        (rewrittenBlocks r.apply bs).reverse.flatten := by
    intro r blocks
    rw [rewrittenBlocks_eq_map, ← List.map_reverse]
    rw [rewrittenBlock_eq_map, List.map_flatten]
    exact congrArg List.flatten (List.map_congr_left fun bs _ => (rewrittenBlock_eq_map _ _).symm)
  rw [SameBlock, hflat, hflat, h]

end

/-! ## Lines -/

section Lines

variable {k : Inner} (hk : k.Parallel f g) (n : Nat) (b : Bounds) (indent : Nat)

theorem atLineEnd_parallel : Parse.Parallel f g Eq atLineEnd atLineEnd :=
  head_parallel.bind fun _ _ htu => .pure htu.endsLine.symm

theorem ended_parallel {α : Type} {R : α → α → Prop} {p : Parse α} (h : Parse.Parallel f g R p p) :
    Parse.Parallel f g R (ended b p) (ended b p) := by
  refine h.bind fun a a' ha => atLineEnd_parallel.ask fun ends => ?_
  exact (atOperator_parallel b ";").ask fun colon => .branch (.pure ha) .stop

theorem namesRest_parallel : Parse.Parallel f g Eq (namesRest b n) (namesRest b n) := by
  induction n with
  | zero => exact .pure rfl
  | succ n ih =>
      exact .choose (skipOperator_parallel b ",") ((expectWord_parallel _).skip ih) (.pure rfl)

theorem importedName_parallel : Parse.Parallel f g Eq (importedName n b) (importedName n b) := by
  refine (expectWord_parallel b).skip ((dottedRest_parallel n b).skip ?_)
  exact .choose (skipWord_parallel b "as") ((expectWord_parallel _).skip (.pure rfl)) (.pure rfl)

theorem importedRest_parallel (m : Nat) :
    Parse.Parallel f g Eq (importedRest n b m) (importedRest n b m) := by
  induction m with
  | zero => exact .pure rfl
  | succ m ih =>
      refine .choose (skipOperator_parallel b ",") ?_ (.pure rfl)
      refine (next?_parallel b).bind fun t? u? h => ?_
      rw [any_parallel h fun t u htu => by rw [htu.kind]]
      exact .branch ((importedName_parallel n b).skip ih) (.pure rfl)

theorem importDots_parallel (found : Bool) :
    Parse.Parallel f g Eq (importDots b n found) (importDots b n found) := by
  induction n generalizing found with
  | zero => exact .pure rfl
  | succ n ih =>
      refine (atOperator_parallel b ".").ask fun dot =>
        (atOperator_parallel b "...").ask fun dots => ?_
      exact .branch (take_parallel.skip (ih true)) (.pure rfl)

theorem fromImport_parallel :
    Parse.Parallel f g Eq (fromImport n indent) (fromImport n indent) := by
  have hnames : ∀ b, Parse.Parallel f g Eq
      (do importedName n b; importedRest n b n) (do importedName n b; importedRest n b n) :=
    fun b => (importedName_parallel n b).skip (importedRest_parallel n b n)
  refine (importDots_parallel n _ false).ask fun relative =>
    (atWord_parallel _ _).ask fun future => ?_
  refine (atWord_parallel _ "import").ask fun here => .branch ?_ ?tail
  · exact (expectWord_parallel _).skip ((dottedRest_parallel n _).skip ?tail)
  refine (expectThe_parallel _ "import").skip (.choose (skipOperator_parallel _ "(") ?_ ?_)
  · refine (importedName_parallel n _).skip ((importedRest_parallel n _ n).skip ?_)
    exact (expect_parallel _ ")").skip (.pure rfl)
  refine (atOperator_parallel _ "*").ask fun star => .branch (take_parallel.skip (.pure rfl)) ?_
  exact (importedName_parallel n _).skip (importedRest_parallel n _ n)

/-! ## Simple statements -/

include hk

omit hk in
theorem rewrittenParts_eq_single {f : String → String} {parts : List Part} {x : Expr}
    (h : rewrittenParts f parts = [.item x]) : ∃ e, parts = [.item e] ∧ e.rewritten f = x := by
  match parts with
  | [.item e] => exact ⟨e, rfl, by simpa [rewrittenParts] using h⟩
  | .filler _ :: _ | .item _ :: .filler _ :: _ | .item _ :: .item _ :: _ =>
      simp [rewrittenParts] at h

omit hk in
/-- Related parts are one expression each, or neither are. -/
theorem SameParts.single_or {parts parts' : List Part} (h : SameParts f g parts parts') :
    (∃ e e', parts = [.item e] ∧ parts' = [.item e'] ∧ SameExpr f g e e') ∨
      (∀ e, parts ≠ [.item e]) ∧ ∀ e, parts' ≠ [.item e] := by
  by_cases hone : ∃ e, parts = [.item e]
  · obtain ⟨e, rfl⟩ := hone
    obtain ⟨e', rfl, he⟩ := rewrittenParts_eq_single h.symm
    exact Or.inl ⟨e, e', rfl, rfl, he.symm⟩
  · refine Or.inr ⟨fun e he => hone ⟨e, he⟩, ?_⟩
    rintro e' rfl
    obtain ⟨e, he, -⟩ := rewrittenParts_eq_single h
    exact hone ⟨e, he⟩

theorem assigned_parallel (m : Nat) :
    Parse.Parallel f g (SameAssigned f g) (assigned k n b m) (assigned k n b m) := by
  induction m with
  | zero => exact .stop
  | succ m ih =>
      refine .choose (atWord_parallel _ "yield") ((yieldExpr_parallel hk n b).skip (.pure rfl)) ?_
      refine (row_parallel hk n _ []).bind ?_
      rintro ⟨parts, comma⟩ ⟨parts', comma'⟩ ⟨hparts, hcomma⟩
      obtain rfl : comma = comma' := hcomma
      dsimp only
      rw [hparts.areTargets]
      have hmore : Parse.Parallel f g (SameAssigned f g)
          (do let _ ← assigned k n b m; return .other)
          (do let _ ← assigned k n b m; return .other) :=
        ih.skip (.pure rfl)
      refine (atOperator_parallel b "=").ask fun equals =>
        (atOneOf_parallel b _).ask fun augments => ?_
      refine .branch (.branch (take_parallel.skip hmore) .stop) ?_
      refine .choose (atOperator_parallel b ":") (.branch (take_parallel.skip ?_) .stop) ?_
      · refine (typeExpr_parallel hk _ false).skip ?_
        exact .choose (skipOperator_parallel b "=") hmore (.pure rfl)
      obtain ⟨e, e', rfl, rfl, he⟩ | ⟨hparts₁, hparts₂⟩ := hparts.single_or
      · cases comma with
        | true => exact .pure (congrArg Assigned.row hparts)
        | false => exact .pure (congrArg Assigned.single he)
      · split
        · exact absurd rfl (hparts₁ _)
        · split
          · exact absurd rfl (hparts₂ _)
          · exact .pure (congrArg Assigned.row hparts)

omit hk in
theorem assignedName?_rewritten (f : String → String) (comma : Bool) (parts : List Part) :
    assignedName? (rewrittenParts f parts) comma = assignedName? parts comma := by
  cases parts with
  | nil => rfl
  | cons p rest =>
      cases rest with
      | nil =>
          cases p with
          | filler _ => rfl
          | item e => cases e <;> rfl
      | cons q rest => cases p <;> cases q <;> simp [rewrittenParts, assignedName?]

omit hk in
theorem SameParts.assignedName? {parts parts' : List Part} (h : SameParts f g parts parts')
    (comma : Bool) : assignedName? parts' comma = assignedName? parts comma := by
  rw [← assignedName?_rewritten g.apply, ← h, assignedName?_rewritten]

theorem exprStatement_parallel :
    Parse.Parallel f g (SameSmall f g) (exprStatement k n b) (exprStatement k n b) := by
  refine head_parallel.bind fun t u htu => ?_
  rw [htu.isWord]
  refine .branch ((yieldExpr_parallel hk n b).bind fun e e' he => .pure ?_) ?_
  · exact congrArg (SmallStatement.expressions · false) he.item
  refine (row_parallel hk n b []).bind ?_
  rintro ⟨parts, comma⟩ ⟨parts', comma'⟩ ⟨hparts, hcomma⟩
  obtain rfl : comma = comma' := hcomma
  dsimp only
  rw [hparts.areTargets, hparts.assignedName?]
  have hvalue : Parse.Parallel f g (SameSmall f g)
      (do return .assignment (assignedName? parts comma) (some (← assigned k n b n)))
      (do return .assignment (assignedName? parts comma) (some (← assigned k n b n))) :=
    (assigned_parallel hk n b n).bind fun a a' ha =>
      .pure (congrArg (SmallStatement.assignment _ ∘ some) ha)
  refine .choose (atOperator_parallel b "=") (.branch (take_parallel.skip hvalue) .stop) ?_
  refine .choose (atOperator_parallel b ":") (.branch (take_parallel.skip ?_) .stop) ?_
  · refine (typeExpr_parallel hk _ false).skip ?_
    exact .choose (skipOperator_parallel b "=") hvalue (.pure rfl)
  refine .choose (atOneOf_parallel b _) (.branch (take_parallel.skip ?_) .stop) ?_
  · exact (assigned_parallel hk n b n).skip (.pure rfl)
  · exact .pure (congrArg (SmallStatement.expressions · comma) hparts)

theorem expressionsRest_parallel :
    Parse.Parallel f g Eq (expressionsRest k b n) (expressionsRest k b n) := by
  induction n with
  | zero => exact .pure rfl
  | succ n ih => exact .choose (skipOperator_parallel b ",") ((hk.expr _).skip ih) (.pure rfl)

theorem printed_parallel : Parse.Parallel f g Eq (printed k n b) (printed k n b) := by
  refine .choose (skipOperator_parallel b ">>") ?_ ((row_parallel hk n b []).skip (.pure rfl))
  exact (hk.expr _).skip ((rowRest_parallel hk n b [] false .nil).skip (.pure rfl))

theorem executed_parallel : Parse.Parallel f g Eq (executed k n b) (executed k n b) := by
  have hscope : Parse.Parallel f g Eq
      (do if ← skipWord b "in" then let _ ← k.expr b.behind; expressionsRest k b n)
      (do if ← skipWord b "in" then let _ ← k.expr b.behind; expressionsRest k b n) :=
    .choose (skipWord_parallel b "in") ((hk.expr _).skip (expressionsRest_parallel hk n b))
      (.pure rfl)
  refine (next?_parallel b).bind fun t? u? h => ?_
  cases h with
  | none => exact Parallel.skip (R := Eq) .stop hscope
  | some htu =>
      dsimp only
      rw [htu.kind]
      exact .branch ((oneLiteral_parallel hk n _).skip hscope) ((expectWord_parallel b).skip hscope)

theorem typeDeclared_parallel :
    Parse.Parallel f g Eq (typeDeclared k n b) (typeDeclared k n b) := by
  have hequals : Parse.Parallel f g Eq (do let _ ← expect b "=") (do let _ ← expect b "=") :=
    (expect_parallel b "=").skip (.pure rfl)
  have hnamed := (expectWord_parallel b).skip ((typeParameters_parallel hk n b).skip hequals)
  have htyped := (typeExpr_parallel hk b false).skip hequals
  exact (Parse.Parallel.either hnamed htyped).skip (typeExpr_parallel hk _ false)

theorem optionalRow_parallel (stops : List String) :
    Parse.Parallel f g Eq (optionalRow k n b stops) (optionalRow k n b stops) :=
  .choose (atOperand_parallel b stops) ((row_parallel hk n b stops).skip (.pure rfl)) (.pure rfl)

theorem smallStatement_parallel :
    Parse.Parallel f g (SameSmall f g) (smallStatement k n indent) (smallStatement k n indent) := by
  have helse : ∀ {p : Parse Unit}, Parse.Parallel f g Eq p p → Parse.Parallel f g (SameSmall f g)
      (either (ended (Bounds.line indent) (exprStatement k n (Bounds.line indent))) (do
        let _ ← take
        p
        return SmallStatement.simple))
      (either (ended (Bounds.line indent) (exprStatement k n (Bounds.line indent))) (do
        let _ ← take
        p
        return SmallStatement.simple)) := fun hp =>
    .either (ended_parallel _ (exprStatement_parallel hk n _))
      (take_parallel.skip (hp.skip (.pure rfl)))
  have hsimple : ∀ {α : Type} {R : α → α → Prop} {p : Parse α} {q : Parse Unit},
      Parse.Parallel f g R p p → Parse.Parallel f g Eq q q → Parse.Parallel f g (SameSmall f g)
        (do let _ ← take; let _ ← p; q; return SmallStatement.simple)
        (do let _ ← take; let _ ← p; q; return SmallStatement.simple) :=
    fun hp hq => take_parallel.skip (hp.skip (hq.skip (.pure rfl)))
  refine head_parallel.bind fun t u htu => ?_
  dsimp only
  rw [htu.kind]
  refine .ite (fun hword => ?_) fun _ => exprStatement_parallel hk n _
  rw [htu.text_of_kind hword nofun]
  split
  · exact hsimple (importedName_parallel n _) (importedRest_parallel n _ n)
  · exact take_parallel.skip ((fromImport_parallel n indent).skip (.pure rfl))
  · exact hsimple (hk.expr _) (expressionsRest_parallel hk n _)
  · exact take_parallel.skip ((optionalRow_parallel hk n _ []).skip (.pure rfl))
  · exact take_parallel.skip ((row_parallel hk n _ []).skip (.pure rfl))
  · refine take_parallel.skip ((optionalRow_parallel hk n _ ["from"]).skip ?_)
    exact .choose (skipWord_parallel _ "from") ((hk.expr _).skip (.pure rfl)) (.pure rfl)
  · exact take_parallel.skip (.pure rfl)
  · exact take_parallel.skip (.pure rfl)
  · exact take_parallel.skip (.pure rfl)
  · exact hsimple (expectWord_parallel _) (namesRest_parallel n _)
  · exact hsimple (expectWord_parallel _) (namesRest_parallel n _)
  · exact helse (printed_parallel hk n _)
  · exact helse (executed_parallel hk n _)
  · exact helse (typeDeclared_parallel hk n _)
  · exact exprStatement_parallel hk n _

theorem lineRest_parallel (m : Nat) {found found' : List Statement}
    (h : SameBlock f g found found') :
    Parse.Parallel f g (SameBlock f g) (lineRest k n indent m found)
      (lineRest k n indent m found') := by
  induction m generalizing found found' with
  | zero => exact .stop
  | succ m ih =>
      refine .choose atLineEnd_parallel (.pure h) (.choose (skipOperator_parallel _ ";") ?_ .stop)
      refine .choose atLineEnd_parallel (.pure h) ?_
      refine (fillers_parallel true).bind fun before before' hbefore => ?_
      exact (smallStatement_parallel hk n indent).bind fun s s' hs =>
        ih ((h.append hbefore.block).append hs.block)

theorem line_parallel :
    Parse.Parallel f g (SameBlock f g) (line k n indent) (line k n indent) := by
  refine (fillers_parallel true).bind fun before before' hbefore => ?_
  exact (smallStatement_parallel hk n indent).bind fun s s' hs =>
    lineRest_parallel hk n indent n (hbefore.block.append hs.block)

end Lines

/-! ## Compound statements -/

/-- The readers that compound statements need are parallel to themselves. -/
structure Outer.Parallel (f g : Rewriting) (o : Outer) : Prop where
  /-- The readers of expressions. -/
  inner : o.inner.Parallel f g
  /-- The reader of blocks. -/
  block : ∀ indent, Parse.Parallel f g (SameBlock f g) (o.block indent) (o.block indent)

section Compound

variable {o : Outer} (ho : o.Parallel f g) (n indent : Nat)

theorem atClause_parallel (word : String) :
    Parse.Parallel f g Eq (atClause indent word) (atClause indent word) :=
  head_parallel.bind fun _ _ htu => .pure <| by rw [htu.isWord, htu.endsLine, htu.indent]

include ho

theorem suite_parallel : Parse.Parallel f g (SameBlock f g) (suite o indent) (suite o indent) := by
  refine head_parallel.bind fun t u htu => ?_
  rw [htu.endsLine, htu.indent]
  exact .branch (.branch (ho.block _) (.pure rfl)) (line_parallel ho.inner _ indent)

theorem colonSuite_parallel :
    Parse.Parallel f g (SameBlock f g) (colonSuite o indent) (colonSuite o indent) :=
  (expect_parallel _ ":").skip (suite_parallel ho indent)

theorem wordClause_parallel (word : String) :
    Parse.Parallel f g (SameBlocks f g) (wordClause o indent word) (wordClause o indent word) := by
  refine .choose (atClause_parallel indent word) (take_parallel.skip ?_) (.pure rfl)
  exact (colonSuite_parallel ho indent).bind fun block block' h => .pure h.blocks

theorem conditionsRest_parallel {blocks blocks' : List (List Statement)}
    (h : SameBlocks f g blocks blocks') :
    Parse.Parallel f g (SameBlocks f g) (conditionsRest o indent n blocks)
      (conditionsRest o indent n blocks') := by
  induction n generalizing blocks blocks' with
  | zero => exact .stop
  | succ n ih =>
      refine .choose (atClause_parallel indent "elif") ?_ ?_
      · refine take_parallel.skip ((ho.inner.expr _).skip ?_)
        exact (colonSuite_parallel ho indent).bind fun _ _ hblock => ih (h.append hblock.blocks)
      · exact (wordClause_parallel ho indent "else").bind fun _ _ helse => .pure (h.append helse)

theorem handlerHead_parallel (groups : Bool) :
    Parse.Parallel f g Eq (handlerHead o indent groups) (handlerHead o indent groups) := by
  refine take_parallel.skip (.branch (take_parallel.skip ?tail) ?tail)
  refine (atOperator_parallel _ ":").ask fun colon => .branch ((ho.inner.expr _).skip ?_)
    (.branch .stop (.pure rfl))
  refine (atOperator_parallel _ ",").ask fun comma => ?_
  exact .branch (take_parallel.skip ((ho.inner.expr _).skip (.pure rfl))) (.pure rfl)

omit ho in
/-- Whether a star touches the first word of a handler is the same in both readings. -/
theorem starred_parallel {t? u? : Option Token} (h : Option.Rel (Token.Parallel f g) t? u?) :
    u?.any (fun t => t.isOperator "*" && t.gap.text == "") =
      t?.any (fun t => t.isOperator "*" && t.gap.text == "") :=
  any_parallel h fun _ _ htu => by rw [htu.isOperator, htu.touches]

theorem handlersRest_parallel (groups : Bool) {blocks blocks' : List (List Statement)}
    (h : SameBlocks f g blocks blocks') :
    Parse.Parallel f g (SameBlocks f g) (handlersRest o indent groups n blocks)
      (handlersRest o indent groups n blocks') := by
  induction n generalizing blocks blocks' with
  | zero => exact .stop
  | succ n ih =>
      refine second_parallel.bind fun t? u? hsecond => ?_
      dsimp only
      rw [starred_parallel hsecond]
      refine (atClause_parallel indent "except").ask fun clause => .branch ?_ (.pure h)
      refine (handlerHead_parallel ho indent groups).skip ?_
      exact (colonSuite_parallel ho indent).bind fun _ _ hblock => ih (h.append hblock.blocks)

theorem guardedBlock_parallel :
    Parse.Parallel f g (SameStatement f g) (guardedBlock o indent) (guardedBlock o indent) := by
  refine (colonSuite_parallel ho indent).bind fun body body' hbody => ?_
  refine second_parallel.bind fun t? u? hsecond => ?_
  dsimp only
  rw [starred_parallel hsecond]
  refine (handlersRest_parallel ho _ indent _ .nil).bind fun handlers handlers' hhandlers => ?_
  rw [hhandlers.isEmpty]
  refine .branch (.choose (atClause_parallel indent "finally") ?_ .stop) ?_
  · exact (wordClause_parallel ho indent "finally").bind fun _ _ hfinally =>
      .pure ((hbody.blocks.append hfinally).compound _)
  · refine (wordClause_parallel ho indent "else").bind fun _ _ helse => ?_
    refine (wordClause_parallel ho indent "finally").bind fun _ _ hfinally => .pure ?_
    exact (((hbody.blocks.append hhandlers).append helse).append hfinally).compound _

theorem forLoop_parallel :
    Parse.Parallel f g (SameStatement f g) (forLoop o indent) (forLoop o indent) := by
  refine (loopTargets_parallel ho.inner _ _).skip ((expectThe_parallel _ "in").skip ?_)
  refine (row_parallel ho.inner _ _ []).skip ?_
  refine (colonSuite_parallel ho indent).bind fun body body' hbody => ?_
  exact (wordClause_parallel ho indent "else").bind fun _ _ helse =>
    .pure ((hbody.blocks.append helse).compound _)

theorem managedBlock_parallel :
    Parse.Parallel f g (SameStatement f g) (managedBlock o indent) (managedBlock o indent) :=
  (row_parallel ho.inner _ _ []).skip <| (colonSuite_parallel ho indent).bind fun _ _ hbody =>
    .pure (hbody.blocks.compound _)

theorem functionSignature_parallel :
    Parse.Parallel f g Eq (functionSignature o indent) (functionSignature o indent) := by
  have hvalue : Parse.Parallel f g Eq
      (do if ← skipOperator (Bounds.header indent) "->" then
            typeExpr o.inner (Bounds.header indent).behind false)
      (do if ← skipOperator (Bounds.header indent) "->" then
            typeExpr o.inner (Bounds.header indent).behind false) :=
    .choose (skipOperator_parallel _ "->") (typeExpr_parallel ho.inner _ false) (.pure rfl)
  have hmissing : ∀ {p : Parse Unit}, Parse.Parallel f g Eq p p → Parse.Parallel f g Eq
      (do
        if (← head).isOperator ":" then
          fail (.missing (← head).start)
        p)
      (do
        if (← head).isOperator ":" then
          fail (.missing (← head).start)
        p) := by
    intro p hp
    refine head_parallel.bind fun t u htu => ?_
    rw [htu.isOperator]
    refine .branch (head_parallel.bind fun t u _ => ?_) hp
    exact Parallel.skip (R := Eq) (.fail _ _) hp
  refine (typeParameters_parallel ho.inner _ _).skip ((expect_parallel _ "(").skip ?_)
  refine hmissing ?_
  refine (skipOperator_parallel _ ")").ask fun closed => .branch ?_ hvalue
  refine (parameter_parallel ho.inner _ true).skip ?_
  refine hmissing ?_
  exact (parametersRest_parallel ho.inner _ _ true ")").skip hvalue

theorem functionDefinition_parallel {decorators decorators' : List Decorator}
    (h : SameDecorators f g decorators decorators') (isAsync : Bool) {start start' : Position}
    (hline : start'.line = start.line) :
    Parse.Parallel f g (SameStatement f g) (functionDefinition o indent decorators isAsync start)
      (functionDefinition o indent decorators' isAsync start') := by
  refine (expectWord_parallel _).bind fun name name' hname => ?_
  refine (functionSignature_parallel ho indent).skip ?_
  refine (colonSuite_parallel ho indent).bind fun body body' hbody => .pure ?_
  rw [SameStatement, Statement.rewritten, Statement.rewritten, h, hname, hline, hbody]

theorem plainFunction_parallel {decorators decorators' : List Decorator}
    (h : SameDecorators f g decorators decorators') :
    Parse.Parallel f g (SameStatement f g) (plainFunction o indent decorators)
      (plainFunction o indent decorators') :=
  take_parallel.bind fun _ _ htu => functionDefinition_parallel ho indent h false htu.line

theorem coroutine_parallel {decorators decorators' : List Decorator}
    (h : SameDecorators f g decorators decorators') :
    Parse.Parallel f g (SameStatement f g) (coroutine o indent decorators)
      (coroutine o indent decorators') :=
  take_parallel.bind fun _ _ htu =>
    (expectThe_parallel _ "def").skip (functionDefinition_parallel ho indent h true htu.line)

theorem classSignature_parallel :
    Parse.Parallel f g Eq (classSignature o indent) (classSignature o indent) := by
  refine (typeParameters_parallel ho.inner _ _).skip ?_
  exact .choose (atOperator_parallel _ "(") ((arguments_parallel ho.inner _ _).skip (.pure rfl))
    (.pure rfl)

theorem classDefinition_parallel {decorators decorators' : List Decorator}
    (h : SameDecorators f g decorators decorators') :
    Parse.Parallel f g (SameStatement f g) (classDefinition o indent decorators)
      (classDefinition o indent decorators') := by
  refine (expectWord_parallel _).bind fun name name' hname => ?_
  refine (classSignature_parallel ho indent).skip ?_
  refine (colonSuite_parallel ho indent).bind fun body body' hbody => .pure ?_
  rw [SameStatement, Statement.rewritten, Statement.rewritten, h, hname, hbody]

omit ho in
theorem patternsRest_parallel {pattern : Bounds → Parse Unit} (h : Bounds)
    (hpattern : Parse.Parallel f g Eq (pattern h) (pattern h)) :
    Parse.Parallel f g Eq (patternsRest pattern h n) (patternsRest pattern h n) := by
  induction n with
  | zero => exact .pure rfl
  | succ n ih =>
      refine .choose (skipOperator_parallel h ",") ?_ (.pure rfl)
      refine (atOperator_parallel h ":").ask fun colon =>
        (atWord_parallel h "if").ask fun guard => ?_
      exact .branch (hpattern.skip ih) (.pure rfl)

theorem caseHead_parallel :
    Parse.Parallel f g Eq (caseHead o indent n) (caseHead o indent n) := by
  have hpattern := casePattern_parallel ho.inner o.rounds o.rounds true (Bounds.header indent)
  refine (expectThe_parallel _ "case").skip (hpattern.skip ?_)
  refine (patternsRest_parallel n _ hpattern).skip ?_
  exact .choose (skipWord_parallel _ "if") ((ho.inner.expr _).skip (.pure rfl)) (.pure rfl)

theorem casesRest_parallel {blocks blocks' : List (List Statement)}
    (h : SameBlocks f g blocks blocks') :
    Parse.Parallel f g (SameBlocks f g) (casesRest o indent n blocks)
      (casesRest o indent n blocks') := by
  induction n generalizing blocks blocks' with
  | zero => exact .stop
  | succ n ih =>
      refine head_parallel.bind fun t u htu => ?_
      rw [htu.kind, htu.endsLine, htu.indent]
      refine .branch (.pure h) ((caseHead_parallel ho n indent).skip ?_)
      exact (colonSuite_parallel ho indent).bind fun _ _ hblock => ih (h.append hblock.blocks)

theorem matchHeader_parallel :
    Parse.Parallel f g Eq (matchHeader o indent) (matchHeader o indent) := by
  refine take_parallel.skip ((row_parallel ho.inner _ _ []).skip ((expect_parallel _ ":").skip ?_))
  exact atLineEnd_parallel.ask fun ends => .branch .stop (.pure rfl)

theorem matchBody_parallel :
    Parse.Parallel f g (SameStatement f g) (matchBody o indent) (matchBody o indent) := by
  refine head_parallel.bind fun t u htu => ?_
  rw [htu.indent]
  refine .branch ?_ (.pure rfl)
  exact (casesRest_parallel ho _ _ .nil).bind fun _ _ h => .pure (h.compound _)

theorem decorator_parallel :
    Parse.Parallel f g (SameParts f g) (decorator o indent) (decorator o indent) := by
  refine take_parallel.skip ((fillerParts_parallel true).bind fun before before' hbefore => ?_)
  refine (ho.inner.expr _).bind fun e e' he => ?_
  exact .choose atLineEnd_parallel (.pure (hbefore.append he.item)) .stop

theorem decorated_parallel {decorators decorators' : List Decorator}
    (h : SameDecorators f g decorators decorators') :
    Parse.Parallel f g (SameStatement f g) (decorated o indent n decorators)
      (decorated o indent n decorators') := by
  induction n generalizing decorators decorators' with
  | zero => exact .stop
  | succ n ih =>
      refine head_parallel.bind fun t u htu => ?_
      simp only [h.isEmpty, htu.indent, htu.isOperator, htu.isWord]
      refine .branch .stop (.branch ?_ (.branch (plainFunction_parallel ho indent h)
        (.branch ?_ (.branch (coroutine_parallel ho indent h) .stop))))
      · exact (decorator_parallel ho indent).bind fun d d' hd => ih (h.concat hd)
      · exact take_parallel.skip (classDefinition_parallel ho indent h)

omit ho in
/-- Statements that may be there are related if both are there and related, or none is. -/
theorem some_parallel {p q : Parse Statement} (h : Parse.Parallel f g (SameStatement f g) p q) :
    Parse.Parallel f g (Option.Rel (SameStatement f g)) (do return some (← p))
      (do return some (← q)) := h.bind fun _ _ hs => .pure (.some hs)

theorem compoundStatement?_parallel :
    Parse.Parallel f g (Option.Rel (SameStatement f g)) (compoundStatement? o indent)
      (compoundStatement? o indent) := by
  refine head_parallel.bind fun t u htu => ?_
  dsimp only
  rw [htu.isOperator, htu.kind]
  refine .branch ?_ (.ite (fun hword => ?_) fun _ => .pure .none)
  · exact some_parallel (decorated_parallel ho _ indent .nil)
  rw [htu.text_of_kind hword nofun]
  split
  · refine take_parallel.skip ((ho.inner.expr _).skip ?_)
    refine (colonSuite_parallel ho indent).bind fun body body' hbody => ?_
    exact (conditionsRest_parallel ho _ indent hbody.blocks).bind fun _ _ h =>
      .pure (.some (h.compound _))
  · refine take_parallel.skip ((ho.inner.expr _).skip ?_)
    refine (colonSuite_parallel ho indent).bind fun body body' hbody => ?_
    exact (wordClause_parallel ho indent "else").bind fun _ _ helse =>
      .pure (.some ((hbody.blocks.append helse).compound _))
  · exact take_parallel.skip (some_parallel (forLoop_parallel ho indent))
  · exact take_parallel.skip (some_parallel (guardedBlock_parallel ho indent))
  · exact take_parallel.skip (some_parallel (managedBlock_parallel ho indent))
  · exact some_parallel (plainFunction_parallel ho indent .nil)
  · exact take_parallel.skip (some_parallel (classDefinition_parallel ho indent .nil))
  · refine second_parallel.bind fun t? u? h => ?_
    cases h with
    | none => exact .pure .none
    | some htu =>
        simp only [htu.endsLine, htu.isWord]
        refine .branch (.pure .none) (.branch ?_ (.branch ?_ (.branch ?_ (.pure .none))))
        · exact some_parallel (coroutine_parallel ho indent .nil)
        · exact take_parallel.skip (take_parallel.skip (some_parallel (forLoop_parallel ho indent)))
        · exact take_parallel.skip
            (take_parallel.skip (some_parallel (managedBlock_parallel ho indent)))
  · have hmatch : Parse.Parallel f g Eq
        (either (do matchHeader o indent; return true) (return false))
        (either (do matchHeader o indent; return true) (return false)) :=
      .either ((matchHeader_parallel ho indent).skip (.pure rfl)) (.pure rfl)
    exact .choose hmatch (some_parallel (matchBody_parallel ho indent)) (.pure .none)
  · exact .pure .none

theorem statementLine_parallel :
    Parse.Parallel f g (SameBlock f g) (statementLine o indent) (statementLine o indent) := by
  refine Parse.Parallel.asStatement ((fillers_parallel true).bind fun before before' hbefore => ?_)
  refine (compoundStatement?_parallel ho indent).bind fun s? s?' h => ?_
  cases h with
  | none => exact line_parallel ho.inner _ indent
  | some hs => exact .pure (hbefore.block.append hs.block)

theorem blockRest_parallel {lines lines' : List (List Statement)}
    (h : SameBlocks f g lines lines') :
    Parse.Parallel f g (SameBlock f g) (blockRest o indent n lines)
      (blockRest o indent n lines') := by
  induction n generalizing lines lines' with
  | zero => exact .stop
  | succ n ih =>
      refine head_parallel.bind fun t u htu => ?_
      rw [htu.kind, htu.endsLine, htu.indent]
      refine .branch (.pure h.lines) ?_
      exact (statementLine_parallel ho indent).bind fun found found' hfound =>
        ih (hfound.blocks.append h)

end Compound

theorem blocks_parallel {k : Inner} (hk : k.Parallel f g) (n depth indent : Nat) :
    Parse.Parallel f g (SameBlock f g) (blocks k n depth indent) (blocks k n depth indent) := by
  induction depth generalizing indent with
  | zero => exact .stop
  | succ depth ih => exact blockRest_parallel ⟨hk, ih⟩ n indent rfl

/-! ## Sources -/

/-- A source is read if every token is one and the statements are read from them. -/
theorem toOption_parse (source : List Char) :
    (parse source).toOption =
      if (tokens source).any Token.isUnknown then none
      else
        let n := (tokens source).length + 1
        ((blocks (readers n) n n 0).run (tokens source)).toOption.map Prod.fst := by
  unfold parse
  dsimp only
  have hfind : ((tokens source).find? Token.isUnknown).isSome =
      (tokens source).any Token.isUnknown :=
    List.isSome_find?
  rw [← hfind]
  generalize (tokens source).find? Token.isUnknown = found
  generalize Parse.run _ (tokens source) = r
  cases r <;> cases found <;> rfl

theorem any_isUnknown_parallel {ts us : List Token} (h : ParallelTokens f g ts us) :
    us.any Token.isUnknown = ts.any Token.isUnknown := by
  induction h with
  | nil => rfl
  | cons htu _ ih =>
      rw [List.any_cons, List.any_cons, ih, Token.isUnknown, htu.kind, Token.isUnknown]

/-- Two sources with parallel tokens are both damaged, or both have trees that are related by
the rewritings. -/
theorem parse_parallel {source source' : List Char}
    (h : ParallelTokens f g (tokens source) (tokens source')) :
    Option.Rel (SameBlock f g) (parse source).toOption (parse source').toOption := by
  rw [toOption_parse, toOption_parse, any_isUnknown_parallel h, ← h.length_eq]
  split
  · exact .none
  have houtcome := (blocks_parallel (readers_parallel ((tokens source).length + 1))
    ((tokens source).length + 1) ((tokens source).length + 1) 0).outcome h
  dsimp only
  generalize Parse.run _ (tokens source) = r at houtcome ⊢
  generalize Parse.run _ (tokens source') = r' at houtcome ⊢
  cases houtcome with
  | ok hblock _ => exact .some hblock
  | error _ _ => exact .none

end TestCensus.Source
