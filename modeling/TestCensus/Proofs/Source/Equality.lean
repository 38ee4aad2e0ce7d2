import Mathlib.Control.Monad.Basic
import TestCensus.Source.Reading

/-!
# Equality of syntax trees

Two trees can be compared.  `Expr.same` and `Statement.same` walk through both trees at once,
with a function for each list that a tree is made of.  They hold of a tree and itself, and of
no other trees, so equality of trees is decidable, and so is which tree a source is read as.
-/

namespace TestCensus.Source

/-! ## Expressions -/

mutual

/-- The expressions are the same. -/
def Expr.same : Expr → Expr → Bool
  | .name id, .name id' => id = id'
  | .attribute object member text, .attribute object' member' text' =>
      object.same object' && member = member' && text = text'
  | .call callee parts, .call callee' parts' => callee.same callee' && sameArguments parts parts'
  | .parens parts text, .parens parts' text' => sameParts parts parts' && text = text'
  | .list parts text, .list parts' text' => sameParts parts parts' && text = text'
  | .tuple parts text, .tuple parts' text' => sameParts parts parts' && text = text'
  | .literal text, .literal text' => text = text'
  | .literals pieces text, .literals pieces' text' => pieces = pieces' && text = text'
  | .subscript text, .subscript text' => text = text'
  | .splat bindable text, .splat bindable' text' => bindable = bindable' && text = text'
  | .other text, .other text' => text = text'
  | _, _ => false

/-- The parts are the same. -/
def sameParts : List Part → List Part → Bool
  | [], [] => true
  | .filler f :: parts, .filler f' :: parts' => f = f' && sameParts parts parts'
  | .item e :: parts, .item e' :: parts' => e.same e' && sameParts parts parts'
  | _, _ => false

/-- The arguments are the same. -/
def sameArguments : List ArgumentPart → List ArgumentPart → Bool
  | [], [] => true
  | .filler f :: parts, .filler f' :: parts' => f = f' && sameArguments parts parts'
  | .positional e :: parts, .positional e' :: parts' => e.same e' && sameArguments parts parts'
  | .keyword name e :: parts, .keyword name' e' :: parts' =>
      name = name' && e.same e' && sameArguments parts parts'
  | .splat :: parts, .splat :: parts' => sameArguments parts parts'
  | .generator :: parts, .generator :: parts' => sameArguments parts parts'
  | _, _ => false

end

mutual

theorem Expr.same_iff : ∀ {e e' : Expr}, e.same e' = true ↔ e = e'
  | .name _, e' | .literal _, e' | .literals _ _, e' | .subscript _, e' | .splat _ _, e'
  | .other _, e' => by cases e' <;> simp [Expr.same]
  | .attribute object _ _, e' => by cases e' <;> simp [Expr.same, object.same_iff, and_assoc]
  | .call callee parts, e' => by
      cases e' <;> simp [Expr.same, callee.same_iff, sameArguments_iff parts]
  | .parens parts _, e' | .list parts _, e' | .tuple parts _, e' => by
      cases e' <;> simp [Expr.same, sameParts_iff parts]

theorem sameParts_iff : ∀ (parts : List Part) {parts' : List Part},
    sameParts parts parts' = true ↔ parts = parts'
  | [], parts' => by cases parts' <;> simp [sameParts]
  | _ :: _, [] => by simp [sameParts]
  | .filler _ :: parts, p' :: _ => by cases p' <;> simp [sameParts, sameParts_iff parts]
  | .item e :: parts, p' :: _ => by
      cases p' <;> simp [sameParts, e.same_iff, sameParts_iff parts]

theorem sameArguments_iff : ∀ (parts : List ArgumentPart) {parts' : List ArgumentPart},
    sameArguments parts parts' = true ↔ parts = parts'
  | [], parts' => by cases parts' <;> simp [sameArguments]
  | _ :: _, [] => by simp [sameArguments]
  | .filler _ :: parts, p' :: _ | .splat :: parts, p' :: _ | .generator :: parts, p' :: _ => by
      cases p' <;> simp [sameArguments, sameArguments_iff parts]
  | .positional e :: parts, p' :: _ | .keyword _ e :: parts, p' :: _ => by
      cases p' <;> simp [sameArguments, e.same_iff, sameArguments_iff parts, and_assoc]

end

instance : DecidableEq Expr := fun _ _ => decidable_of_iff _ Expr.same_iff

instance : DecidableEq Part := fun p q =>
  decidable_of_iff (sameParts [p] [q] = true) (by simp [sameParts_iff])

deriving instance DecidableEq for Assigned, SmallStatement

/-! ## Statements -/

mutual

/-- The statements are the same. -/
def Statement.same : Statement → Statement → Bool
  | .filler f, .filler f' => f = f'
  | .small s, .small s' => s = s'
  | .function decorators head body, .function decorators' head' body' =>
      decorators = decorators' && head = head' && sameBlock body body'
  | .classDef decorators name body, .classDef decorators' name' body' =>
      decorators = decorators' && name = name' && sameBlock body body'
  | .compound kind blocks, .compound kind' blocks' => kind = kind' && sameBlocks blocks blocks'
  | _, _ => false

/-- The blocks are the same. -/
def sameBlock : List Statement → List Statement → Bool
  | [], [] => true
  | s :: block, s' :: block' => s.same s' && sameBlock block block'
  | _, _ => false

/-- The lists of blocks are the same. -/
def sameBlocks : List (List Statement) → List (List Statement) → Bool
  | [], [] => true
  | block :: blocks, block' :: blocks' => sameBlock block block' && sameBlocks blocks blocks'
  | _, _ => false

end

mutual

theorem Statement.same_iff : ∀ {s s' : Statement}, s.same s' = true ↔ s = s'
  | .filler _, s' | .small _, s' => by cases s' <;> simp [Statement.same]
  | .function _ _ body, s' | .classDef _ _ body, s' => by
      cases s' <;> simp [Statement.same, sameBlock_iff body, and_assoc]
  | .compound _ blocks, s' => by cases s' <;> simp [Statement.same, sameBlocks_iff blocks]

theorem sameBlock_iff : ∀ (block : List Statement) {block' : List Statement},
    sameBlock block block' = true ↔ block = block'
  | [], block' => by cases block' <;> simp [sameBlock]
  | s :: block, block' => by
      cases block' <;> simp [sameBlock, s.same_iff, sameBlock_iff block]

theorem sameBlocks_iff : ∀ (blocks : List (List Statement)) {blocks' : List (List Statement)},
    sameBlocks blocks blocks' = true ↔ blocks = blocks'
  | [], blocks' => by cases blocks' <;> simp [sameBlocks]
  | block :: blocks, blocks' => by
      cases blocks' <;> simp [sameBlocks, sameBlock_iff block, sameBlocks_iff blocks]

end

instance : DecidableEq Statement := fun _ _ => decidable_of_iff _ Statement.same_iff

instance : DecidableEq (Except SyntaxFailure (List Statement)) := inferInstance

end TestCensus.Source
