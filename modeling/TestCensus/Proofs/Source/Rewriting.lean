import TestCensus.Source.Tree

/-!
# Trees with other texts

A tree keeps source text: of literals, of the layout, and of whatever is not looked into.
`rewritten f` is the tree in which each of these texts went through `f`, and in which the
texts of comments are left out, which nothing depends on.  Names stay as they are.

Whether an expression may be assigned to does not depend on texts (`isTarget_rewritten`).
-/

namespace TestCensus.Source

/-- The filler with another text.  A comment has none. -/
def Filler.rewritten (f : String → String) : Filler → Filler
  | .comment _ => .comment ""
  | .continuation text => .continuation (f text)

mutual

/-- The expression with other texts. -/
def Expr.rewritten (f : String → String) : Expr → Expr
  | .name id => .name id
  | .attribute object member text => .attribute (object.rewritten f) member (f text)
  | .call callee arguments => .call (callee.rewritten f) (rewrittenArguments f arguments)
  | .parens parts text => .parens (rewrittenParts f parts) (f text)
  | .list parts text => .list (rewrittenParts f parts) (f text)
  | .tuple parts text => .tuple (rewrittenParts f parts) (f text)
  | .literal text => .literal (f text)
  | .literals pieces text => .literals (pieces.map f) (f text)
  | .subscript text => .subscript (f text)
  | .splat bindable text => .splat bindable (f text)
  | .other text => .other (f text)

/-- Parts between brackets with other texts. -/
def rewrittenParts (f : String → String) : List Part → List Part
  | [] => []
  | .filler x :: rest => .filler (x.rewritten f) :: rewrittenParts f rest
  | .item e :: rest => .item (e.rewritten f) :: rewrittenParts f rest

/-- Parts of a call with other texts. -/
def rewrittenArguments (f : String → String) : List ArgumentPart → List ArgumentPart
  | [] => []
  | .filler x :: rest => .filler (x.rewritten f) :: rewrittenArguments f rest
  | .positional e :: rest => .positional (e.rewritten f) :: rewrittenArguments f rest
  | .keyword name e :: rest => .keyword name (e.rewritten f) :: rewrittenArguments f rest
  | .splat :: rest => .splat :: rewrittenArguments f rest
  | .generator :: rest => .generator :: rewrittenArguments f rest

end

/-- The value of an assignment with other texts. -/
def Assigned.rewritten (f : String → String) : Assigned → Assigned
  | .single e => .single (e.rewritten f)
  | .row parts => .row (rewrittenParts f parts)
  | .other => .other

/-- The statement on one line with other texts. -/
def SmallStatement.rewritten (f : String → String) : SmallStatement → SmallStatement
  | .expressions parts comma => .expressions (rewrittenParts f parts) comma
  | .assignment target value => .assignment target (value.map (Assigned.rewritten f))
  | .simple => .simple

mutual

/-- The statement with other texts. -/
def Statement.rewritten (f : String → String) : Statement → Statement
  | .filler x => .filler (x.rewritten f)
  | .small s => .small (s.rewritten f)
  | .function decorators head body =>
      .function (decorators.map (rewrittenParts f)) head (rewrittenBlock f body)
  | .classDef decorators name body =>
      .classDef (decorators.map (rewrittenParts f)) name (rewrittenBlock f body)
  | .compound kind blocks => .compound kind (rewrittenBlocks f blocks)

/-- The statements of a block with other texts. -/
def rewrittenBlock (f : String → String) : List Statement → List Statement
  | [] => []
  | s :: rest => s.rewritten f :: rewrittenBlock f rest

/-- Several blocks with other texts. -/
def rewrittenBlocks (f : String → String) : List (List Statement) → List (List Statement)
  | [] => []
  | block :: rest => rewrittenBlock f block :: rewrittenBlocks f rest

end

variable (f : String → String)

@[simp] theorem isComment_rewritten (x : Filler) : (x.rewritten f).isComment = x.isComment := by
  cases x <;> rfl

/-! ## Lists -/

@[simp] theorem rewrittenParts_append (parts parts' : List Part) :
    rewrittenParts f (parts ++ parts') = rewrittenParts f parts ++ rewrittenParts f parts' := by
  induction parts with
  | nil => rfl
  | cons p parts ih => cases p <;> simp [rewrittenParts, ih]

@[simp] theorem rewrittenParts_fillers (fs : List Filler) :
    rewrittenParts f (fs.map .filler) = (fs.map (·.rewritten f)).map .filler := by
  induction fs with
  | nil => rfl
  | cons x fs ih => simp [rewrittenParts, ih]

@[simp] theorem rewrittenArguments_append (parts parts' : List ArgumentPart) :
    rewrittenArguments f (parts ++ parts') =
      rewrittenArguments f parts ++ rewrittenArguments f parts' := by
  induction parts with
  | nil => rfl
  | cons p parts ih => cases p <;> simp [rewrittenArguments, ih]

@[simp] theorem rewrittenArguments_fillers (fs : List Filler) :
    rewrittenArguments f (fs.map .filler) = (fs.map (·.rewritten f)).map .filler := by
  induction fs with
  | nil => rfl
  | cons x fs ih => simp [rewrittenArguments, ih]

theorem rewrittenBlock_eq_map (block : List Statement) :
    rewrittenBlock f block = block.map (·.rewritten f) := by
  induction block with
  | nil => rfl
  | cons s block ih => rw [rewrittenBlock, ih, List.map_cons]

theorem rewrittenBlocks_eq_map (blocks : List (List Statement)) :
    rewrittenBlocks f blocks = blocks.map (rewrittenBlock f) := by
  induction blocks with
  | nil => rfl
  | cons block blocks ih => rw [rewrittenBlocks, ih, List.map_cons]

@[simp] theorem rewrittenBlock_append (block block' : List Statement) :
    rewrittenBlock f (block ++ block') = rewrittenBlock f block ++ rewrittenBlock f block' := by
  simp only [rewrittenBlock_eq_map, List.map_append]

@[simp] theorem rewrittenBlock_fillers (fs : List Filler) :
    rewrittenBlock f (fs.map .filler) = (fs.map (·.rewritten f)).map .filler := by
  simp only [rewrittenBlock_eq_map, List.map_map]
  rfl

@[simp] theorem rewrittenBlocks_append (blocks blocks' : List (List Statement)) :
    rewrittenBlocks f (blocks ++ blocks') =
      rewrittenBlocks f blocks ++ rewrittenBlocks f blocks' := by
  simp only [rewrittenBlocks_eq_map, List.map_append]

/-! ## Targets -/

theorem isBindable_rewritten (e : Expr) : (e.rewritten f).isBindable = e.isBindable := by
  cases e <;> rfl

theorem starred_rewritten (e : Expr) (text : String) :
    (e.starred text).rewritten f = (e.rewritten f).starred (f text) := by
  cases e <;> rfl

theorem unpacked?_rewritten : (e : Expr) →
    (e.rewritten f).unpacked? = e.unpacked?.map (·.rewritten f)
  | .name _ | .attribute _ _ _ | .parens _ _ | .list _ _ | .tuple _ _ | .literal _ | .literals _ _
  | .subscript _ | .splat _ _ | .other _ => rfl
  | .call callee _ => by
      rw [Expr.rewritten, Expr.unpacked?, Expr.unpacked?, unpacked?_rewritten callee,
        Option.map_map, Option.map_map]
      rfl

theorem isSplat_rewritten (e : Expr) : (e.rewritten f).isSplat = e.isSplat := by
  cases e <;> rfl

mutual

/-- Texts do not matter to whether an expression may be assigned to. -/
theorem isTarget_rewritten : (e : Expr) → (e.rewritten f).isTarget = e.isTarget
  | .name _ | .attribute _ _ _ | .call _ _ | .literal _ | .literals _ _ | .subscript _
  | .splat _ _ | .other _ => rfl
  | .parens parts _ | .list parts _ | .tuple parts _ => areTargets_rewritten parts

theorem areTargets_rewritten : (parts : List Part) →
    areTargets (rewrittenParts f parts) = areTargets parts
  | [] => rfl
  | .filler _ :: rest => areTargets_rewritten rest
  | .item e :: rest => by
      rw [rewrittenParts, areTargets, areTargets, isTarget_rewritten e, areTargets_rewritten rest]

end

end TestCensus.Source
