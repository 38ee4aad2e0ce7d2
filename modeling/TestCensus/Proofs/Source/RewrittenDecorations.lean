import TestCensus.Proofs.Decoration.Outline
import TestCensus.Proofs.Source.Rewriting
import TestCensus.Source.Decorations

/-!
# What a tree with other texts says about a test

Texts of a tree reach a test in two ways.  A decoration keeps the text of what is not looked
into, so the decorations of a rewritten tree are those of the tree with their texts rewritten
(`decorations_rewritten`, `blockDecorations_rewritten`).  A docstring is made of the texts of
literals (`docstring?_rewritten`).

Comments lose their texts when a tree is rewritten.  Decorations are taken from solid parts
only, so no text of a comment is among theirs.
-/

namespace TestCensus.Source

variable (f : String → String)

/-! ## Solid parts -/

@[simp] theorem solid_rewritten (parts : List Part) :
    solid (rewrittenParts f parts) = rewrittenParts f (solid parts) := by
  induction parts with
  | nil => rfl
  | cons p parts ih =>
      cases p with
      | filler x =>
          cases x with
          | comment text => exact ih
          | continuation text => exact congrArg (Part.filler (.continuation (f text)) :: ·) ih
      | item e => exact congrArg (Part.item (e.rewritten f) :: ·) ih

@[simp] theorem isEmpty_rewrittenParts (parts : List Part) :
    (rewrittenParts f parts).isEmpty = parts.isEmpty := by
  rcases parts with _ | ⟨_ | _, _⟩ <;> rfl

@[simp] theorem length_rewrittenParts (parts : List Part) :
    (rewrittenParts f parts).length = parts.length := by
  induction parts with
  | nil => rfl
  | cons p parts ih => cases p <;> exact congrArg (· + 1) ih

/-! ## Values -/

mutual

theorem unpacks_rewritten : (e : Expr) → (e.rewritten f).unpacks = e.unpacks
  | .parens parts _ => anyUnpacks_rewritten parts
  | .name _ | .attribute _ _ _ | .call _ _ | .list _ _ | .tuple _ _ | .literal _ | .literals _ _
  | .subscript _ | .splat _ _ | .other _ => rfl

theorem anyUnpacks_rewritten : (parts : List Part) →
    anyUnpacks (rewrittenParts f parts) = anyUnpacks parts
  | [] => rfl
  | .filler _ :: rest => anyUnpacks_rewritten rest
  | .item e :: rest => by
      rw [rewrittenParts, anyUnpacks, anyUnpacks, unpacks_rewritten e, anyUnpacks_rewritten rest]

end

theorem sequenceValue_rewritten (parts : List Part) :
    sequenceValue (rewrittenParts f parts) = sequenceValue parts := by
  rw [sequenceValue, sequenceValue, anyUnpacks_rewritten, solid_rewritten, length_rewrittenParts]

mutual

/-- Texts do not matter to what is known of a value. -/
theorem value_rewritten : (e : Expr) → (e.rewritten f).value = e.value
  | .list parts _ => sequenceValue_rewritten f parts
  | .tuple parts _ => sequenceValue_rewritten f parts
  | .parens parts _ => onlyValue_rewritten parts
  | .name _ | .attribute _ _ _ | .call _ _ | .literal _ | .literals _ _ | .subscript _
  | .splat _ _ | .other _ => rfl

theorem onlyValue_rewritten : (parts : List Part) →
    onlyValue (rewrittenParts f parts) = onlyValue parts
  | [] => rfl
  | .filler x :: rest => by
      rw [rewrittenParts, onlyValue, onlyValue, isComment_rewritten, onlyValue_rewritten rest]
  | .item e :: rest => by
      rw [rewrittenParts, onlyValue, onlyValue, solid_rewritten, isEmpty_rewrittenParts,
        value_rewritten e]

end

theorem argumentsOf_rewritten (parts : List ArgumentPart) :
    argumentsOf (rewrittenArguments f parts) = argumentsOf parts := by
  induction parts with
  | nil => rfl
  | cons p parts ih =>
      cases p with
      | filler x =>
          cases x with
          | comment text => exact ih
          | continuation text => exact congrArg (Argument.positional .unsized :: ·) ih
      | positional e =>
          show Argument.positional (e.rewritten f).value :: argumentsOf _ = _
          rw [value_rewritten, ih]
          rfl
      | keyword name e =>
          show Argument.keyword name (e.rewritten f).value :: argumentsOf _ = _
          rw [value_rewritten, ih]
          rfl
      | splat => exact congrArg (Argument.splat :: ·) ih
      | generator => exact congrArg (Argument.positional .unsized :: ·) ih

/-! ## Decorations -/

theorem dotted?_rewritten (e : Expr) : (e.rewritten f).dotted? = e.dotted? := by
  match e with
  | .attribute object member text =>
      rw [Expr.rewritten, Expr.dotted?, Expr.dotted?, dotted?_rewritten object]
  | .name _ | .call _ _ | .parens _ _ | .list _ _ | .tuple _ _ | .literal _ | .literals _ _
  | .subscript _ | .splat _ _ | .other _ => rfl

mutual

/-- The decoration of a rewritten expression is the rewritten decoration. -/
theorem decoration_rewritten : (e : Expr) → (e.rewritten f).decoration = e.decoration.rewritten f
  | .attribute object member text => by
      rw [Expr.rewritten, Expr.decoration, Expr.decoration, dotted?_rewritten]
      cases object.dotted? <;> rfl
  | .call callee parts => by
      rw [Expr.rewritten, Expr.decoration, Expr.decoration, decoration_rewritten callee,
        argumentsOf_rewritten, Decoration.rewritten]
  | .parens parts text => onlyDecoration_rewritten text parts
  | .name _ | .list _ _ | .tuple _ _ | .literal _ | .literals _ _ | .subscript _ | .splat _ _
  | .other _ => rfl

theorem onlyDecoration_rewritten (text : String) : (parts : List Part) →
    onlyDecoration (f text) (rewrittenParts f parts) = (onlyDecoration text parts).rewritten f
  | [] => rfl
  | .filler (.comment _) :: rest => onlyDecoration_rewritten text rest
  | .filler (.continuation _) :: _ => rfl
  | .item e :: rest => by
      rw [rewrittenParts, onlyDecoration, onlyDecoration, solid_rewritten, isEmpty_rewrittenParts,
        decoration_rewritten e]
      split <;> rfl

end

/-- The decorations of the solid parts. -/
theorem partDecorations_rewritten (parts : List Part) :
    (solid (rewrittenParts f parts)).map Part.decoration =
      ((solid parts).map Part.decoration).map (Decoration.rewritten f) := by
  induction parts with
  | nil => rfl
  | cons p parts ih =>
      cases p with
      | filler x =>
          cases x with
          | comment text => exact ih
          | continuation text => exact congrArg (Decoration.other (f text) :: ·) ih
      | item e => exact congr (congrArg List.cons (decoration_rewritten f e)) ih

theorem decoratorDecoration?_rewritten (d : Decorator) :
    decoratorDecoration? (rewrittenParts f d) =
      (decoratorDecoration? d).map (Decoration.rewritten f) := by
  rw [decoratorDecoration?, decoratorDecoration?, ← List.head?_map, ← List.head?_map,
    ← List.head?_map, partDecorations_rewritten]

theorem decorations_rewritten (ds : List Decorator) :
    decorations (ds.map (rewrittenParts f)) = (decorations ds).map (Decoration.rewritten f) := by
  simp only [decorations, List.filterMap_map, List.map_filterMap, Function.comp_def,
    decoratorDecoration?_rewritten]

theorem assignedDecorations_rewritten (value : Assigned) :
    (value.rewritten f).decorations = value.decorations.map (Decoration.rewritten f) := by
  match value with
  | .row _ | .other => rfl
  | .single (.list parts _) | .single (.tuple parts _) => exact partDecorations_rewritten f parts
  | .single (.name _) | .single (.attribute _ _ _) | .single (.call _ _) | .single (.parens _ _)
  | .single (.literal _) | .single (.literals _ _) | .single (.subscript _) | .single (.splat _ _)
  | .single (.other _) => exact congrArg (fun d => [d]) (decoration_rewritten f _)

theorem markerDecorations_rewritten (s : Statement) :
    (s.rewritten f).markerDecorations = s.markerDecorations.map (Decoration.rewritten f) := by
  match s with
  | .small (.assignment (some name) (some value)) =>
      show (if name = markerVariable then (value.rewritten f).decorations else []) =
        (if name = markerVariable then value.decorations else []).map (Decoration.rewritten f)
      rw [assignedDecorations_rewritten]
      split <;> rfl
  | .small (.assignment none _) | .small (.assignment (some _) none) | .small (.expressions _ _)
  | .small .simple | .filler _ | .function _ _ _ | .classDef _ _ _ | .compound _ _ => rfl

theorem blockDecorations_rewritten (block : List Statement) :
    blockDecorations (rewrittenBlock f block) =
      (blockDecorations block).map (Decoration.rewritten f) := by
  simp only [blockDecorations, rewrittenBlock_eq_map, List.flatMap_map, List.map_flatMap,
    markerDecorations_rewritten]

/-! ## Docstrings -/

theorem literals?_rewritten (s : Statement) :
    (s.rewritten f).literals? = s.literals?.map (List.map f) := by
  match s with
  | .small (.expressions parts comma) =>
      rw [Statement.rewritten, SmallStatement.rewritten, Statement.literals?, Statement.literals?,
        solid_rewritten]
      generalize solid parts = ps
      rcases ps with _ | ⟨_ | e, _ | ⟨_ | _, _⟩⟩ <;> try rfl
      · cases e <;> rfl
      · cases e <;> rfl
      · cases e <;> rfl
  | .small (.assignment _ _) | .small .simple | .filler _ | .function _ _ _ | .classDef _ _ _
  | .compound _ _ => rfl

theorem isFiller_rewritten (s : Statement) : (s.rewritten f).isFiller = s.isFiller := by
  cases s <;> rfl

/-- The literals that the docstring of a function with this body is made of. -/
def docLiterals? (body : List Statement) : Option (List String) :=
  (body.filter (!·.isFiller)).head?.bind Statement.literals?

theorem docstring?_eq (body : List Statement) :
    docstring? body = ((docLiterals? body).bind fun pieces =>
      Docstring.ofLiterals? (pieces.map String.toList)).map String.ofList := by
  rw [docstring?, docLiterals?]
  cases body.filter (!·.isFiller) <;> rfl

theorem docLiterals?_rewritten (body : List Statement) :
    docLiterals? (rewrittenBlock f body) = (docLiterals? body).map (List.map f) := by
  have hfiller : ((!·.isFiller) ∘ Statement.rewritten f : Statement → Bool) = (!·.isFiller) :=
    funext fun s => congrArg not (isFiller_rewritten f s)
  rw [docLiterals?, rewrittenBlock_eq_map, List.filter_map, hfiller, List.head?_map, docLiterals?]
  cases (body.filter (!·.isFiller)).head? with
  | none => rfl
  | some s => exact literals?_rewritten f s

/-- If the rewriting does not change what literals write, it does not change the docstring. -/
theorem docstring?_rewritten {body : List Statement}
    (h : ∀ pieces ∈ docLiterals? body, Docstring.ofLiterals? ((pieces.map f).map String.toList) =
      Docstring.ofLiterals? (pieces.map String.toList)) :
    docstring? (rewrittenBlock f body) = docstring? body := by
  rw [docstring?_eq, docstring?_eq, docLiterals?_rewritten]
  cases hpieces : docLiterals? body with
  | none => rfl
  | some pieces => exact congrArg (Option.map String.ofList) (h pieces hpieces)

end TestCensus.Source
