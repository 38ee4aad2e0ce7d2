import TestCensus.Proofs.Source.WholeLiterals

/-!
# Literals in the statements of a source

The literals in the rows of expressions of a source are whole (`readSource_whole`), those of
function bodies included.  The proofs follow the readers of statements: a reader passes on
the statements that it read and adds some.
-/

namespace TestCensus.Source

open Parse

variable {k : Inner} {b : Bounds}

/-! ## Small statements -/

/-- The readers of what is nested answer whole literals. -/
def Inner.Ensures (k : Inner) : Prop := ∀ b, (k.expr b).Ensures Expr.Whole

/-- The parts are whole. -/
def WholeParts (parts : List Part) : Prop := ∀ p ∈ parts, p.Whole

theorem WholeParts.append {ps qs : List Part} (hp : WholeParts ps) (hq : WholeParts qs) :
    WholeParts (ps ++ qs) := List.forall_mem_append.2 ⟨hp, hq⟩

theorem wholeParts_item {e : Expr} (he : e.Whole) : WholeParts [.item e] :=
  List.forall_mem_singleton.2 he

theorem fillerParts_ensures (operand : Bool) : (fillerParts operand).Ensures WholeParts :=
  .skip fun fs => .pure fun p hp => by
    obtain ⟨f, -, rfl⟩ := List.mem_map.1 hp
    trivial

theorem rowRest_ensures (hk : k.Ensures) (stops : List String) (n : Nat) {parts : List Part}
    (hparts : WholeParts parts) (comma : Bool) :
    (rowRest k b stops n parts comma).Ensures fun r => WholeParts r.1 := by
  induction n generalizing parts comma with
  | zero => exact .pure hparts
  | succ n ih =>
      refine .skip fun _ => .ite (fun _ => ?_) fun _ => .pure hparts
      refine .bind (fillerParts_ensures _) fun before hbefore => .skip fun _ => .skip fun _ => ?_
      refine .ite (fun _ => ?_) fun _ => .pure (hparts.append hbefore)
      refine .bind (fillerParts_ensures _) fun between hbetween => .bind (hk _) fun e he => ?_
      exact ih (((hparts.append hbefore).append hbetween).append (wholeParts_item he)) true

theorem row_ensures (hk : k.Ensures) (n : Nat) (stops : List String) :
    (row k n b stops).Ensures fun r => WholeParts r.1 :=
  .bind (hk b) fun _ he => rowRest_ensures hk stops n (wholeParts_item he) false

theorem yieldExpr_ensures (n : Nat) : (yieldExpr k n b).Ensures Expr.Whole := by
  refine .skip fun before => .skip fun _ => .skip fun _ => .ite (fun _ => ?_) fun _ => ?_
  · exact .skip fun _ => .skip fun _ => .pure trivial
  · refine .skip fun _ => .ite (fun _ => ?_) fun _ => .skip fun _ => .pure trivial
    exact .skip fun _ => .skip fun _ => .pure trivial

theorem exprStatement_ensures (hk : k.Ensures) (n : Nat) :
    (exprStatement k n b).Ensures SmallStatement.Whole := by
  refine .skip fun t => .ite (fun _ => ?_) fun _ => ?_
  · exact .bind (yieldExpr_ensures n) fun e he => .pure (wholeParts_item he)
  refine .bind (row_ensures hk n []) ?_
  rintro ⟨parts, comma⟩ hparts
  refine .skip fun _ => .ite (fun _ => .ite (fun _ => ?_) fun _ => .stop) fun _ => ?_
  · exact .skip fun _ => .skip fun _ => .pure trivial
  refine .skip fun _ => .ite (fun _ => .ite (fun _ => ?_) fun _ => .stop) fun _ => ?_
  · refine .skip fun _ => .skip fun _ => .skip fun _ => .ite (fun _ => ?_) fun _ => .pure trivial
    exact .skip fun _ => .pure trivial
  refine .skip fun _ => .ite (fun _ => .ite (fun _ => ?_) fun _ => .stop) fun _ => .pure hparts
  exact .skip fun _ => .skip fun _ => .pure trivial

theorem smallStatement_ensures (hk : k.Ensures) (n indent : Nat) :
    (smallStatement k n indent).Ensures SmallStatement.Whole := by
  have hexpr : ∀ b, (exprStatement k n b).Ensures SmallStatement.Whole := fun _ =>
    exprStatement_ensures hk n
  have horElse : ∀ b (p : Parse Unit),
      (either (ended b (exprStatement k n b)) (do
        let _ ← take
        p
        return SmallStatement.simple)).Ensures SmallStatement.Whole := fun b p =>
    .either (.bind (hexpr b) fun s hs => .skip fun _ => .skip fun _ =>
      .ite (fun _ => .pure hs) fun _ => .stop) (.skip fun _ => .skip fun _ => .pure trivial)
  refine .skip fun t => .ite (fun _ => ?_) fun _ => hexpr _
  split
  · exact .skip fun _ => .skip fun _ => .skip fun _ => .pure trivial
  · exact .skip fun _ => .skip fun _ => .pure trivial
  · exact .skip fun _ => .skip fun _ => .skip fun _ => .pure trivial
  · exact .skip fun _ => .skip fun _ => .pure trivial
  · exact .skip fun _ => .skip fun _ => .pure trivial
  · refine .skip fun _ => .skip fun _ => .skip fun _ => .ite (fun _ => ?_) fun _ => .pure trivial
    exact .skip fun _ => .pure trivial
  · exact .skip fun _ => .pure trivial
  · exact .skip fun _ => .pure trivial
  · exact .skip fun _ => .pure trivial
  · exact .skip fun _ => .skip fun _ => .skip fun _ => .pure trivial
  · exact .skip fun _ => .skip fun _ => .skip fun _ => .pure trivial
  · exact horElse _ _
  · exact horElse _ _
  · exact horElse _ _
  · exact hexpr _

/-! ## Lines -/

theorem wholeBlock_small {s : SmallStatement} (h : s.Whole) : WholeBlock [.small s] := ⟨h, trivial⟩

theorem lineRest_ensures (hk : k.Ensures) (n indent m : Nat) {found : List Statement}
    (hfound : WholeBlock found) : (lineRest k n indent m found).Ensures WholeBlock := by
  induction m generalizing found with
  | zero => exact .stop
  | succ m ih =>
      refine .skip fun _ => .ite (fun _ => .pure hfound) fun _ => ?_
      refine .skip fun _ => .ite (fun _ => ?_) fun _ => .stop
      refine .skip fun _ => .ite (fun _ => .pure hfound) fun _ => .skip fun fs => ?_
      refine .bind (smallStatement_ensures hk n indent) fun s hs => ih ?_
      exact (hfound.append (wholeBlock_fillers fs)).append (wholeBlock_small hs)

theorem line_ensures (hk : k.Ensures) (n indent : Nat) :
    (line k n indent).Ensures WholeBlock :=
  .skip fun fs => .bind (smallStatement_ensures hk n indent) fun _ hs =>
    lineRest_ensures hk n indent n ((wholeBlock_fillers fs).append (wholeBlock_small hs))

/-! ## Compound statements -/

/-- The readers of what is nested answer whole literals, in expressions and in blocks. -/
structure Outer.Ensures (o : Outer) : Prop where
  /-- In expressions. -/
  inner : o.inner.Ensures
  /-- In blocks. -/
  block : ∀ indent, (o.block indent).Ensures WholeBlock

variable {o : Outer}

theorem colonSuite_ensures (ho : o.Ensures) (indent : Nat) :
    (colonSuite o indent).Ensures WholeBlock := by
  refine .skip fun _ => .skip fun t => .ite (fun _ => ?_) fun _ => line_ensures ho.inner _ indent
  exact .ite (fun _ => ho.block _) fun _ => .pure trivial

theorem wordClause_ensures (ho : o.Ensures) (indent : Nat) (word : String) :
    (wordClause o indent word).Ensures WholeBlocks := by
  refine .skip fun _ => .ite (fun _ => .skip fun _ => ?_) fun _ => .pure trivial
  exact .bind (colonSuite_ensures ho indent) fun _ h => .pure ⟨h, trivial⟩

theorem conditionsRest_ensures (ho : o.Ensures) (indent n : Nat) {blocks : List (List Statement)}
    (hblocks : WholeBlocks blocks) : (conditionsRest o indent n blocks).Ensures WholeBlocks := by
  induction n generalizing blocks with
  | zero => exact .stop
  | succ n ih =>
      refine .skip fun _ => .ite (fun _ => .skip fun _ => .skip fun _ => ?_) fun _ => ?_
      · refine .bind (colonSuite_ensures ho indent) fun block hblock => ih ?_
        exact hblocks.append ⟨hblock, trivial⟩
      · exact .bind (wordClause_ensures ho indent _) fun last hlast => .pure (hblocks.append hlast)

theorem handlersRest_ensures (ho : o.Ensures) (indent : Nat) (groups : Bool) (n : Nat)
    {blocks : List (List Statement)} (hblocks : WholeBlocks blocks) :
    (handlersRest o indent groups n blocks).Ensures WholeBlocks := by
  induction n generalizing blocks with
  | zero => exact .stop
  | succ n ih =>
      refine .skip fun _ => .skip fun _ => .ite (fun _ => .skip fun _ => ?_) fun _ => .pure hblocks
      refine .bind (colonSuite_ensures ho indent) fun block hblock => ih ?_
      exact hblocks.append ⟨hblock, trivial⟩

theorem guardedBlock_ensures (ho : o.Ensures) (indent : Nat) :
    (guardedBlock o indent).Ensures Statement.Whole := by
  refine .bind (colonSuite_ensures ho indent) fun body hbody => .skip fun _ => ?_
  have hfirst : WholeBlocks [body] := ⟨hbody, trivial⟩
  refine .bind (handlersRest_ensures ho indent _ _ trivial) fun handlers hhandlers => ?_
  refine .ite (fun _ => .skip fun _ => .ite (fun _ => ?_) fun _ => .stop) fun _ => ?_
  · exact .bind (wordClause_ensures ho indent _) fun last hlast => .pure (hfirst.append hlast)
  · refine .bind (wordClause_ensures ho indent _) fun otherwise hotherwise => ?_
    refine .bind (wordClause_ensures ho indent _) fun last hlast => .pure ?_
    exact ((hfirst.append hhandlers).append hotherwise).append hlast

theorem forLoop_ensures (ho : o.Ensures) (indent : Nat) :
    (forLoop o indent).Ensures Statement.Whole := by
  refine .skip fun _ => .skip fun _ => .skip fun _ => ?_
  refine .bind (colonSuite_ensures ho indent) fun body hbody => ?_
  refine .bind (wordClause_ensures ho indent _) fun last hlast => .pure ?_
  exact WholeBlocks.append ⟨hbody, trivial⟩ hlast

theorem managedBlock_ensures (ho : o.Ensures) (indent : Nat) :
    (managedBlock o indent).Ensures Statement.Whole :=
  .skip fun _ => .bind (colonSuite_ensures ho indent) fun _ h => .pure ⟨h, trivial⟩

theorem casesRest_ensures (ho : o.Ensures) (indent n : Nat) {blocks : List (List Statement)}
    (hblocks : WholeBlocks blocks) : (casesRest o indent n blocks).Ensures WholeBlocks := by
  induction n generalizing blocks with
  | zero => exact .stop
  | succ n ih =>
      refine .skip fun _ => .ite (fun _ => .pure hblocks) fun _ => .skip fun _ => ?_
      refine .bind (colonSuite_ensures ho indent) fun block hblock => ih ?_
      exact hblocks.append ⟨hblock, trivial⟩

theorem matchBody_ensures (ho : o.Ensures) (indent : Nat) :
    (matchBody o indent).Ensures Statement.Whole := by
  refine .skip fun _ => .ite (fun _ => ?_) fun _ => .pure trivial
  exact .bind (casesRest_ensures ho _ _ trivial) fun blocks hblocks => .pure hblocks

/-! ## Definitions -/

theorem functionDefinition_ensures (ho : o.Ensures) (indent : Nat) (decorators : List Decorator)
    (isAsync : Bool) (start : Position) :
    (functionDefinition o indent decorators isAsync start).Ensures Statement.Whole :=
  .skip fun _ => .skip fun _ => .bind (colonSuite_ensures ho indent) fun _ h => .pure h

theorem plainFunction_ensures (ho : o.Ensures) (indent : Nat) (decorators : List Decorator) :
    (plainFunction o indent decorators).Ensures Statement.Whole :=
  .skip fun _ => functionDefinition_ensures ho indent decorators _ _

theorem coroutine_ensures (ho : o.Ensures) (indent : Nat) (decorators : List Decorator) :
    (coroutine o indent decorators).Ensures Statement.Whole :=
  .skip fun _ => .skip fun _ => functionDefinition_ensures ho indent decorators _ _

theorem classDefinition_ensures (ho : o.Ensures) (indent : Nat) (decorators : List Decorator) :
    (classDefinition o indent decorators).Ensures Statement.Whole :=
  .skip fun _ => .skip fun _ => .bind (colonSuite_ensures ho indent) fun _ h => .pure h

theorem decorated_ensures (ho : o.Ensures) (indent n : Nat) (decorators : List Decorator) :
    (decorated o indent n decorators).Ensures Statement.Whole := by
  induction n generalizing decorators with
  | zero => exact .stop
  | succ n ih =>
      refine .skip fun _ => .ite (fun _ => .stop) fun _ => .ite (fun _ => ?_) fun _ => ?_
      · exact .skip fun _ => ih _
      refine .ite (fun _ => plainFunction_ensures ho indent decorators) fun _ => ?_
      refine .ite (fun _ => .skip fun _ => classDefinition_ensures ho indent decorators) fun _ => ?_
      exact .ite (fun _ => coroutine_ensures ho indent decorators) fun _ => .stop

/-! ## Blocks -/

/-- The statement, if there is one, is whole. -/
def WholeStatement (found : Option Statement) : Prop := ∀ s ∈ found, s.Whole

/-- An answer that is a statement, as an answer that may be one. -/
theorem Parse.Ensures.some {p : Parse Statement} (h : p.Ensures Statement.Whole) :
    (do return Option.some (← p)).Ensures WholeStatement :=
  .bind h fun _ hs => .pure fun _ he => Option.some.inj he ▸ hs

theorem compoundStatement?_ensures (ho : o.Ensures) (indent : Nat) :
    (compoundStatement? o indent).Ensures WholeStatement := by
  refine .skip fun t => .ite (fun _ => .some (decorated_ensures ho indent _ [])) fun _ => ?_
  refine .ite (fun _ => ?_) fun _ => .pure nofun
  split
  · refine .skip fun _ => .skip fun _ => .bind (colonSuite_ensures ho indent) fun body hbody => ?_
    refine .bind (conditionsRest_ensures ho indent _ ⟨hbody, trivial⟩) fun blocks hblocks => ?_
    exact .pure fun _ h => Option.some.inj h ▸ hblocks
  · refine .skip fun _ => .skip fun _ => .bind (colonSuite_ensures ho indent) fun body hbody => ?_
    refine .bind (wordClause_ensures ho indent _) fun last hlast => .pure fun _ h => ?_
    exact Option.some.inj h ▸ WholeBlocks.append ⟨hbody, trivial⟩ hlast
  · exact .skip fun _ => .some (forLoop_ensures ho indent)
  · exact .skip fun _ => .some (guardedBlock_ensures ho indent)
  · exact .skip fun _ => .some (managedBlock_ensures ho indent)
  · exact .some (plainFunction_ensures ho indent [])
  · exact .skip fun _ => .some (classDefinition_ensures ho indent [])
  · refine .skip fun u => ?_
    split
    · refine .ite (fun _ => .pure nofun) fun _ => .ite (fun _ => ?_) fun _ => ?_
      · exact .some (coroutine_ensures ho indent [])
      refine .ite (fun _ => ?_) fun _ => .ite (fun _ => ?_) fun _ => .pure nofun
      · exact .skip fun _ => .skip fun _ => .some (forLoop_ensures ho indent)
      · exact .skip fun _ => .skip fun _ => .some (managedBlock_ensures ho indent)
    · exact .pure nofun
  · refine .skip fun _ => .ite (fun _ => ?_) fun _ => .pure nofun
    exact .some (matchBody_ensures ho indent)
  · exact .pure nofun

theorem statementLine_ensures (ho : o.Ensures) (indent : Nat) :
    (statementLine o indent).Ensures WholeBlock := by
  refine .asStatement (.skip fun fs => .bind (compoundStatement?_ensures ho indent) fun s hs => ?_)
  split
  · exact .pure ((wholeBlock_fillers fs).append ⟨hs _ rfl, trivial⟩)
  · exact line_ensures ho.inner _ indent

/-- The lines are given last first. -/
theorem blockRest_ensures (ho : o.Ensures) (indent n : Nat) {lines : List (List Statement)}
    (hlines : WholeBlocks lines) : (blockRest o indent n lines).Ensures WholeBlock := by
  induction n generalizing lines with
  | zero => exact .stop
  | succ n ih =>
      refine .skip fun _ => .ite (fun _ => .pure ?_) fun _ => ?_
      · refine wholeBlock_iff.2 fun s hs => ?_
        obtain ⟨line, hline, hs⟩ := List.mem_flatten.1 hs
        exact wholeBlock_iff.1 (wholeBlocks_iff.1 hlines line (List.mem_reverse.1 hline)) s hs
      · exact .bind (statementLine_ensures ho indent) fun _ hfound => ih ⟨hfound, hlines⟩

/-- Blocks of any depth. -/
theorem blocks_ensures (hk : k.Ensures) (n depth indent : Nat) :
    (blocks k n depth indent).Ensures WholeBlock := by
  induction depth generalizing indent with
  | zero => exact .stop
  | succ depth ih => exact blockRest_ensures ⟨hk, ih⟩ indent n trivial

/-- The literals in the rows of expressions of a source are whole. -/
theorem readSource_whole {source : String} {statements : List Statement}
    (h : readSource source = .ok statements) : WholeBlock statements := by
  have hblocks := blocks_ensures (readers_ensures ((tokens source.toList).length + 1))
    ((tokens source.toList).length + 1) ((tokens source.toList).length + 1) 0
  unfold readSource at h
  split at h
  · rename_i hparse
    cases h
    unfold parse at hparse
    dsimp only at hparse
    split at hparse
    · cases hparse
    · rename_i hrun
      split at hparse
      · cases hparse
      · cases hparse
        exact hblocks _ _ _ (tokens_marked _) hrun
  · cases h

end TestCensus.Source
