import TestCensus.Proofs.Decoration.Outline
import TestCensus.Proofs.Discovery.FirstDeclarations
import TestCensus.Proofs.Source.Equality

/-!
# Layout between brackets

Comments and escaped line ends between brackets are parts of the tree.  Blank space and line
ends are none: they only change texts and move what stands behind them to other lines.  This
module says which layout the arguments of a call depend on.

*Places.*  `Expr.Takes` and `ArgumentsTake` put fillers into an expression and into the
arguments of a call, at one place of any depth.  They say whether the place *counts*: a
place between the arguments does, one in a literal whose length is known, and one in brackets
that are looked through for such a literal.  Everywhere else only texts change.

*Arguments.*  Comments are never counted.  An escaped line end is counted at each place that
counts and at no other: it is one argument or one element more, or hides the literal in
brackets (`ArgumentsTake.arguments_eq_iff`).

*Tests.*  `Expr.Relaid` and `Relaid` carry a relation between argument lists into the
decorators of a source.  Whatever the relation is, the declared tests and their markers
correspond; if the related lists have the same arguments, the tests have the same arguments
and the same number of instances (`Relaid.declarations`).
-/

namespace TestCensus

open TestCensus.Source
open TestCensus.Text

/-! ## Parts and fillers -/

namespace Source

/-- Fillers as parts. -/
def fillerList (fs : List Filler) : List Part := fs.map .filler

variable {fs : List Filler}

@[simp] theorem solid_append (parts parts' : List Part) :
    solid (parts ++ parts') = solid parts ++ solid parts' := List.filter_append ..

@[simp] theorem solid_item (e : Expr) (parts : List Part) :
    solid (.item e :: parts) = .item e :: solid parts := rfl

/-- Comments are no solid parts. -/
theorem solid_comments (h : fs.all Filler.isComment = true) : solid (fillerList fs) = [] := by
  simpa [solid, fillerList, List.filter_eq_nil_iff, Part.isComment] using h

/-- Fillers that are not all comments have a solid part. -/
theorem solid_fillers_ne_nil (h : fs.all Filler.isComment = false) :
    ∃ f parts, solid (fillerList fs) = .filler f :: parts := by
  induction fs with
  | nil => cases h
  | cons f fs ih =>
      cases f with
      | comment text => exact ih h
      | continuation text => exact ⟨_, _, rfl⟩

@[simp] theorem anyUnpacks_append (parts parts' : List Part) :
    anyUnpacks (parts ++ parts') = (anyUnpacks parts || anyUnpacks parts') := by
  induction parts with
  | nil => rfl
  | cons p parts ih =>
      cases p with
      | filler f => exact ih
      | item e => simp [anyUnpacks, ih, Bool.or_assoc]

@[simp] theorem anyUnpacks_fillers (fs : List Filler) : anyUnpacks (fillerList fs) = false := by
  induction fs with
  | nil => rfl
  | cons f fs ih => exact ih

/-! ## The value between brackets -/

/-- The value of a single solid part is that of its expression. -/
theorem onlyValue_of_solid {parts : List Part} {e : Expr} (h : solid parts = [.item e]) :
    onlyValue parts = e.value := by
  induction parts with
  | nil => cases h
  | cons p parts ih =>
      cases p with
      | item d =>
          rw [solid_item] at h
          obtain ⟨⟨rfl⟩, hnil⟩ := List.cons.inj h
          rw [onlyValue, hnil]
          rfl
      | filler f =>
          cases f with
          | comment text => exact ih h
          | continuation text => cases h

/-- Anything but a single expression has no known value. -/
theorem onlyValue_of_ne {parts : List Part} (h : ∀ e, solid parts ≠ [.item e]) :
    onlyValue parts = .unsized := by
  induction parts with
  | nil => rfl
  | cons p parts ih =>
      cases p with
      | item d =>
          have hne : (solid parts).isEmpty = false := by
            refine Bool.eq_false_iff.2 fun hempty => h d ?_
            rw [solid_item, List.isEmpty_iff.1 hempty]
          rw [onlyValue, hne]
          rfl
      | filler f =>
          cases f with
          | comment text => exact ih h
          | continuation text => rfl

end Source

/-- The value is a sequence of a known length. -/
def ArgumentValue.isSized : ArgumentValue → Bool
  | .sequence _ => true
  | .unsized => false

/-! ## Places in an expression -/

namespace Source

/-- The expression is neither brackets nor an unpacking, so its value is never known. -/
def Expr.isFolded : Expr → Bool
  | .parens _ _ | .list _ _ | .tuple _ _ | .splat _ _ => false
  | _ => true

/-- The second expression is the first one with the fillers at one place between its
brackets.  The index says whether the place counts for the value.  All texts around the place
may change. -/
inductive Expr.Takes (fs : List Filler) : Bool → Expr → Expr → Prop where
  /-- Between the elements of a list, which counts unless one of them is an unpacking. -/
  | list (before after : List Part) (text text' : String) :
      Takes fs (!anyUnpacks (before ++ after)) (.list (before ++ after) text)
        (.list (before ++ fillerList fs ++ after) text')
  /-- Between the elements of a tuple. -/
  | tuple (before after : List Part) (text text' : String) :
      Takes fs (!anyUnpacks (before ++ after)) (.tuple (before ++ after) text)
        (.tuple (before ++ fillerList fs ++ after) text')
  /-- Next to an expression in brackets, which counts if its value is known. -/
  | parens (before after : List Part) (text text' : String) :
      Takes fs (onlyValue (before ++ after)).isSized (.parens (before ++ after) text)
        (.parens (before ++ fillerList fs ++ after) text')
  /-- In an expression in brackets, if they are looked through. -/
  | inParens {counts : Bool} {e e' : Expr} (before after : List Part) (text text' : String) :
      Takes fs counts e e' →
      Takes fs (counts && (solid before).isEmpty && (solid after).isEmpty)
        (.parens (before ++ .item e :: after) text) (.parens (before ++ .item e' :: after) text')
  /-- In an element of a list. -/
  | inList {counts : Bool} {e e' : Expr} (before after : List Part) (text text' : String) :
      Takes fs counts e e' →
      Takes fs false (.list (before ++ .item e :: after) text)
        (.list (before ++ .item e' :: after) text')
  /-- In an element of a tuple. -/
  | inTuple {counts : Bool} {e e' : Expr} (before after : List Part) (text text' : String) :
      Takes fs counts e e' →
      Takes fs false (.tuple (before ++ .item e :: after) text)
        (.tuple (before ++ .item e' :: after) text')
  /-- In what is unpacked. -/
  | splat (bindable : Bool) (text text' : String) :
      Takes fs false (.splat bindable text) (.splat bindable text')
  /-- In any other expression. -/
  | folded {e e' : Expr} : e.isFolded = true → e'.isFolded = true → Takes fs false e e'

variable {fs : List Filler} {counts : Bool} {e e' : Expr}

theorem Expr.value_of_isFolded (h : e.isFolded = true) : e.value = .unsized := by
  cases e <;> first | rfl | cases h

theorem Expr.unpacks_of_isFolded (h : e.isFolded = true) : e.unpacks = false := by
  cases e <;> first | rfl | cases h

/-- Fillers do not make an expression an unpacking or stop it from being one. -/
theorem Expr.Takes.unpacks_eq (h : e.Takes fs counts e') : e'.unpacks = e.unpacks := by
  induction h with
  | list before after text text' => rfl
  | tuple before after text text' => rfl
  | parens before after text text' => simp [Expr.unpacks]
  | inParens before after text text' _ ih => simp [Expr.unpacks, anyUnpacks, ih]
  | inList before after text text' _ _ => rfl
  | inTuple before after text text' _ _ => rfl
  | splat bindable text text' => rfl
  | folded he he' => rw [unpacks_of_isFolded he, unpacks_of_isFolded he']

/-- Fillers among the elements of a literal are counted if they are no comments and the
length is known. -/
theorem sequenceValue_fillers (before after : List Part) (fs : List Filler) :
    sequenceValue (before ++ fillerList fs ++ after) = sequenceValue (before ++ after) ↔
      (!anyUnpacks (before ++ after)) = false ∨ fs.all Filler.isComment = true := by
  have hunpacks : anyUnpacks (before ++ fillerList fs ++ after) = anyUnpacks (before ++ after) := by
    simp
  rw [sequenceValue, sequenceValue, hunpacks]
  cases anyUnpacks (before ++ after) with
  | true => simp
  | false =>
      cases hfs : fs.all Filler.isComment with
      | true => simp [solid_comments hfs]
      | false =>
          obtain ⟨f, parts, hsolid⟩ := solid_fillers_ne_nil hfs
          simp [hsolid]
          omega

/-- The value of a literal does not depend on what is put into its elements. -/
theorem sequenceValue_item (before after : List Part) (h : e'.unpacks = e.unpacks) :
    sequenceValue (before ++ .item e' :: after) = sequenceValue (before ++ .item e :: after) := by
  simp [sequenceValue, anyUnpacks, h]

/-- Fillers next to an expression in brackets hide it if they are no comments. -/
theorem onlyValue_fillers (before after : List Part) (fs : List Filler) :
    onlyValue (before ++ fillerList fs ++ after) = onlyValue (before ++ after) ↔
      (onlyValue (before ++ after)).isSized = false ∨ fs.all Filler.isComment = true := by
  cases hfs : fs.all Filler.isComment with
  | true =>
      have hsolid : solid (before ++ fillerList fs ++ after) = solid (before ++ after) := by
        simp [solid_comments hfs]
      by_cases hitem : ∃ e, solid (before ++ after) = [.item e]
      · obtain ⟨e, he⟩ := hitem
        rw [onlyValue_of_solid he, onlyValue_of_solid (hsolid.trans he)]
        simp
      · rw [not_exists] at hitem
        rw [onlyValue_of_ne hitem, onlyValue_of_ne fun e he => hitem e (hsolid.symm.trans he)]
        simp
  | false =>
      obtain ⟨f, parts, hsolid⟩ := solid_fillers_ne_nil hfs
      have hhidden : onlyValue (before ++ fillerList fs ++ after) = .unsized := by
        refine onlyValue_of_ne fun e he => ?_
        rw [solid_append, solid_append, hsolid] at he
        have hmem : Part.filler f ∈ [Part.item e] := by
          rw [← he]
          simp
        simp at hmem
      rw [hhidden]
      cases onlyValue (before ++ after) with
      | sequence length => simp [ArgumentValue.isSized]
      | unsized => simp [ArgumentValue.isSized]

/-- The value of an expression in brackets that are looked through, and of one in others. -/
theorem onlyValue_item (before after : List Part) (e : Expr) :
    onlyValue (before ++ .item e :: after) =
      if (solid before).isEmpty && (solid after).isEmpty then e.value else .unsized := by
  split
  · rename_i hempty
    simp only [Bool.and_eq_true, List.isEmpty_iff] at hempty
    exact onlyValue_of_solid (by rw [solid_append, solid_item, hempty.1, hempty.2]; rfl)
  · rename_i hsolid
    refine onlyValue_of_ne fun d hd => hsolid ?_
    rw [solid_append, solid_item] at hd
    cases hbefore : solid before with
    | nil =>
        rw [hbefore] at hd
        rw [(List.cons.inj hd).2]
        rfl
    | cons p parts =>
        rw [hbefore] at hd
        have hnil := (List.cons.inj hd).2
        simp at hnil

/-- Fillers at one place leave the value as it is if the place does not count or they are all
comments, and change it otherwise. -/
theorem Expr.Takes.value_eq_iff (h : e.Takes fs counts e') :
    e'.value = e.value ↔ counts = false ∨ fs.all Filler.isComment = true := by
  induction h with
  | list before after text text' =>
      rw [Expr.value, Expr.value]
      exact sequenceValue_fillers before after fs
  | tuple before after text text' =>
      rw [Expr.value, Expr.value]
      exact sequenceValue_fillers before after fs
  | parens before after text text' =>
      rw [Expr.value, Expr.value]
      exact onlyValue_fillers before after fs
  | @inParens counts d d' before after text text' hd ih =>
      rw [Expr.value, Expr.value, onlyValue_item, onlyValue_item, Bool.and_assoc]
      cases (solid before).isEmpty && (solid after).isEmpty with
      | true => rw [if_pos rfl, if_pos rfl, ih, Bool.and_true]
      | false => simp
  | inList before after text text' hd _ =>
      rw [Expr.value, Expr.value, sequenceValue_item before after hd.unpacks_eq]
      simp
  | inTuple before after text text' hd _ =>
      rw [Expr.value, Expr.value, sequenceValue_item before after hd.unpacks_eq]
      simp
  | splat bindable text text' => simp [Expr.value]
  | folded he he' => simp [value_of_isFolded he, value_of_isFolded he']

/-! ## Places in the arguments of a call -/

/-- The second arguments of a call are the first ones with the fillers at one place.  The index
says whether the place counts for the arguments. -/
inductive ArgumentsTake (fs : List Filler) :
    Bool → List ArgumentPart → List ArgumentPart → Prop where
  /-- Between the arguments. -/
  | between (before after : List ArgumentPart) :
      ArgumentsTake fs true (before ++ after) (before ++ fs.map .filler ++ after)
  /-- In an argument known by its position. -/
  | positional {counts : Bool} {e e' : Expr} (before after : List ArgumentPart) :
      e.Takes fs counts e' →
      ArgumentsTake fs counts (before ++ .positional e :: after) (before ++ .positional e' :: after)
  /-- In an argument known by its name. -/
  | keyword {counts : Bool} {e e' : Expr} (name : String) (before after : List ArgumentPart) :
      e.Takes fs counts e' →
      ArgumentsTake fs counts (before ++ .keyword name e :: after)
        (before ++ .keyword name e' :: after)
  /-- In an unpacking or a generator, of which nothing is kept. -/
  | within (parts : List ArgumentPart) : ArgumentsTake fs false parts parts

@[simp] theorem argumentsOf_append (parts parts' : List ArgumentPart) :
    argumentsOf (parts ++ parts') = argumentsOf parts ++ argumentsOf parts' := by
  simp [argumentsOf]

/-- Each escaped line end between the arguments is an argument of no known value. -/
theorem argumentsOf_fillers (fs : List Filler) :
    argumentsOf (fs.map .filler) =
      List.replicate (fs.countP (!·.isComment)) (.positional .unsized) := by
  induction fs with
  | nil => rfl
  | cons f fs ih =>
      cases f with
      | comment text =>
          rw [List.countP_cons_of_neg (by simp [Filler.isComment])]
          exact ih
      | continuation text =>
          rw [List.countP_cons_of_pos (by simp [Filler.isComment]), List.replicate_succ, ← ih]
          rfl

variable {parts parts' : List ArgumentPart}

/-- Fillers at one place leave the arguments as they are if the place does not count or they
are all comments, and change them otherwise. -/
theorem ArgumentsTake.arguments_eq_iff (h : ArgumentsTake fs counts parts parts') :
    argumentsOf parts' = argumentsOf parts ↔ counts = false ∨ fs.all Filler.isComment = true := by
  cases h with
  | within => simp
  | between before after =>
      simp only [argumentsOf_append, argumentsOf_fillers, List.append_assoc,
        List.append_cancel_left_eq, Bool.true_eq_false, false_or]
      rw [List.append_left_eq_self, List.replicate_eq_nil_iff, List.countP_eq_zero]
      simp
  | positional before after he =>
      have hcons : ∀ d : Expr, argumentsOf (.positional d :: after) =
          .positional d.value :: argumentsOf after := fun _ => rfl
      rw [argumentsOf_append, argumentsOf_append, hcons, hcons, List.append_cancel_left_eq,
        List.cons.injEq, Argument.positional.injEq, he.value_eq_iff]
      simp
  | keyword name before after he =>
      have hcons : ∀ d : Expr, argumentsOf (.keyword name d :: after) =
          .keyword name d.value :: argumentsOf after := fun _ => rfl
      rw [argumentsOf_append, argumentsOf_append, hcons, hcons, List.append_cancel_left_eq,
        List.cons.injEq, Argument.keyword.injEq, he.value_eq_iff]
      simp

/-! ## Decorators -/

/-- The second expression is the first one with other arguments in its calls: in the call
itself, in its callee, or between the brackets around it.  Old and new arguments are related
by `A`. -/
inductive Expr.Relaid (A : List ArgumentPart → List ArgumentPart → Prop) : Expr → Expr → Prop where
  /-- The same expression. -/
  | same (e : Expr) : Relaid A e e
  /-- In two steps. -/
  | trans {e₁ e₂ e₃ : Expr} : Relaid A e₁ e₂ → Relaid A e₂ e₃ → Relaid A e₁ e₃
  /-- A call with other arguments. -/
  | arguments {parts parts' : List ArgumentPart} (callee : Expr) :
      A parts parts' → Relaid A (.call callee parts) (.call callee parts')
  /-- In the callee of a call. -/
  | callee {e e' : Expr} (parts : List ArgumentPart) :
      Relaid A e e' → Relaid A (.call e parts) (.call e' parts)
  /-- In the object of a member. -/
  | object {e e' : Expr} (member text text' : String) :
      Relaid A e e' → Relaid A (.attribute e member text) (.attribute e' member text')
  /-- In brackets. -/
  | brackets {e e' : Expr} (before after : List Part) (text text' : String) :
      Relaid A e e' →
      Relaid A (.parens (before ++ .item e :: after) text)
        (.parens (before ++ .item e' :: after) text')

/-- A decorator with other arguments. -/
inductive Decorator.Relaid (A : List ArgumentPart → List ArgumentPart → Prop) :
    Decorator → Decorator → Prop where
  /-- Another expression among the same fillers. -/
  | mk {e e' : Expr} (before after : List Part) :
      e.Relaid A e' → Relaid A (before ++ .item e :: after) (before ++ .item e' :: after)

/-- A view of decorations that keeps at least what is left without texts and arguments. -/
def Coarse (view : Decoration → Decoration) : Prop := ∀ d, (view d).bare = d.bare

/-- The view does not tell decorations apart that differ by related arguments. -/
structure Overlooks (view : Decoration → Decoration)
    (A : List ArgumentPart → List ArgumentPart → Prop) : Prop where
  /-- Texts are not seen. -/
  texts : ∀ text text', view (.other text) = view (.other text')
  /-- Related arguments look the same, behind callees that look the same. -/
  arguments : ∀ {callee callee' : Decoration} {parts parts' : List ArgumentPart},
    view callee = view callee' → A parts parts' →
    view (.call callee (argumentsOf parts)) = view (.call callee' (argumentsOf parts'))
  /-- The same arguments look the same too. -/
  callees : ∀ {callee callee' : Decoration} (arguments : List Argument),
    view callee = view callee' → view (.call callee arguments) = view (.call callee' arguments)

/-- What brackets around an expression are. -/
theorem onlyDecoration_item (text : String) (before after : List Part) (e : Expr) :
    onlyDecoration text (before ++ .item e :: after) =
      if (solid before).isEmpty && (solid after).isEmpty then e.decoration else .other text := by
  induction before with
  | nil => rw [List.nil_append, onlyDecoration]; rfl
  | cons p before ih =>
      cases p with
      | item d =>
          rw [List.cons_append, onlyDecoration, solid_append, solid_item, solid_item]
          simp
      | filler f =>
          cases f with
          | comment text => exact ih
          | continuation text => rfl

section Views

variable {A : List ArgumentPart → List ArgumentPart → Prop} {view : Decoration → Decoration}

theorem Expr.Relaid.dotted?_eq (h : e.Relaid A e') : e'.dotted? = e.dotted? := by
  induction h with
  | same e => rfl
  | trans _ _ ih ih' => exact ih'.trans ih
  | arguments callee _ => rfl
  | callee parts _ _ => rfl
  | object member text text' _ ih => rw [Expr.dotted?, Expr.dotted?, ih]
  | brackets before after text text' _ _ => rfl

/-- The decorations of an expression with other arguments look the same. -/
theorem Expr.Relaid.decoration_eq (h : e.Relaid A e') (hview : Overlooks view A) :
    view e'.decoration = view e.decoration := by
  induction h with
  | same e => rfl
  | trans _ _ ih ih' => exact ih'.trans ih
  | arguments callee hparts =>
      rw [Expr.decoration, Expr.decoration]
      exact (hview.arguments rfl hparts).symm
  | callee parts _ ih =>
      rw [Expr.decoration, Expr.decoration]
      exact hview.callees _ ih
  | object member text text' he _ =>
      rw [Expr.decoration, Expr.decoration, he.dotted?_eq]
      split
      · rfl
      · exact hview.texts _ _
  | brackets before after text text' _ ih =>
      rw [Expr.decoration, Expr.decoration, onlyDecoration_item, onlyDecoration_item]
      split
      · exact ih
      · exact hview.texts _ _

/-- The decorations of relaid decorators look the same. -/
theorem decorations_relaid (hview : Overlooks view A) {ds ds' : List Decorator}
    (h : List.Forall₂ (Decorator.Relaid A) ds ds') :
    (decorations ds').map view = (decorations ds).map view := by
  induction h with
  | nil => rfl
  | @cons d d' ds ds' hd _ ih =>
      have hhead : (decoratorDecoration? d').map view = (decoratorDecoration? d).map view := by
        cases hd with
        | mk before after he =>
            rw [decoratorDecoration?, decoratorDecoration?, solid_append, solid_append, solid_item,
              solid_item]
            cases solid before with
            | nil => exact congrArg some (he.decoration_eq hview)
            | cons p parts => rfl
      rw [decorations, decorations] at ih ⊢
      cases h : decoratorDecoration? d with
      | none =>
          rw [h, Option.map_none, Option.map_eq_none_iff] at hhead
          rw [List.filterMap_cons_none h, List.filterMap_cons_none hhead, ih]
      | some a =>
          rw [h, Option.map_some, Option.map_eq_some_iff] at hhead
          obtain ⟨a', ha', hlook⟩ := hhead
          rw [List.filterMap_cons_some h, List.filterMap_cons_some ha', List.map_cons,
            List.map_cons, hlook, ih]

/-- Categories are seen by every coarse view. -/
theorem categoryNames_of_view (hcoarse : Coarse view) (ns : String) {as bs : List Decoration}
    (h : as.map view = bs.map view) :
    Decoration.categoryNames ns as = Decoration.categoryNames ns bs := by
  refine Decoration.categoryNames_congr ?_
  have hbare : ∀ ds : List Decoration, (ds.map view).map Decoration.bare =
      ds.map Decoration.bare := fun ds => by
    rw [List.map_map]
    exact List.map_congr_left fun d _ => hcoarse d
  rw [← hbare as, h, hbare]

end Views

end Source

/-! ## Sources -/

/-- The second block is the first one with other arguments in the calls of its decorators, and
with definitions on other lines. -/
inductive Source.Relaid (A : List ArgumentPart → List ArgumentPart → Prop) :
    List Statement → List Statement → Prop where
  /-- The same block. -/
  | same (block : List Statement) : Relaid A block block
  /-- In two steps. -/
  | trans {block₁ block₂ block₃ : List Statement} :
      Relaid A block₁ block₂ → Relaid A block₂ block₃ → Relaid A block₁ block₃
  /-- Behind the first statement. -/
  | behind {block block' : List Statement} (s : Statement) :
      Relaid A block block' → Relaid A (s :: block) (s :: block')
  /-- In a function definition. -/
  | function {decorators decorators' : List Decorator} {body body' : List Statement}
      (name : String) (isAsync : Bool) (line line' : Nat) (block : List Statement) :
      List.Forall₂ (Decorator.Relaid A) decorators decorators' → Relaid A body body' →
      Relaid A (.function decorators ⟨name, isAsync, line⟩ body :: block)
        (.function decorators' ⟨name, isAsync, line'⟩ body' :: block)
  /-- In a class definition. -/
  | classDef {decorators decorators' : List Decorator} {body body' : List Statement}
      (name : String) (block : List Statement) :
      List.Forall₂ (Decorator.Relaid A) decorators decorators' → Relaid A body body' →
      Relaid A (.classDef decorators name body :: block)
        (.classDef decorators' name body' :: block)
  /-- In a block of a compound statement. -/
  | compound {inner inner' : List Statement} (kind : CompoundKind)
      (earlier later : List (List Statement)) (block : List Statement) : Relaid A inner inner' →
      Relaid A (.compound kind (earlier ++ inner :: later) :: block)
        (.compound kind (earlier ++ inner' :: later) :: block)

/-- The declaration as far as a view of decorations shows it, without its line. -/
def Declaration.seen (view : Decoration → Decoration) (d : Declaration) : Declaration :=
  { d with line := 0, decorators := d.decorators.map view }

/-- The redeclaration without its lines. -/
def Redeclaration.seen (r : Redeclaration) : Redeclaration := r.moved fun _ => 0

namespace Source.Relaid

variable {A : List ArgumentPart → List ArgumentPart → Prop} {view : Decoration → Decoration}
variable {block block' : List Statement}

/-- The first statement is of the same kind, and the same if it is no definition. -/
theorem docstring?_eq (h : Relaid A block block') : docstring? block' = docstring? block := by
  induction h with
  | same block => rfl
  | trans _ _ ih ih' => exact ih'.trans ih
  | function name isAsync line line' block _ _ _ => rfl
  | classDef name block _ _ _ => rfl
  | compound kind earlier later block _ _ => rfl
  | behind s _ ih =>
      rw [docstring?, docstring?] at ih ⊢
      cases hfiller : s.isFiller with
      | false => simp [hfiller]
      | true => simpa [hfiller] using ih

theorem blockDecorations_eq (h : Relaid A block block') :
    blockDecorations block' = blockDecorations block := by
  induction h with
  | same block => rfl
  | trans _ _ ih ih' => exact ih'.trans ih
  | function name isAsync line line' block _ _ _ => rfl
  | classDef name block _ _ _ => rfl
  | compound kind earlier later block _ _ => rfl
  | behind s _ ih =>
      rw [blockDecorations, blockDecorations] at ih ⊢
      rw [List.flatMap_cons, List.flatMap_cons, ih]

variable (hview : Overlooks view A) (hcoarse : Coarse view)

include hview hcoarse

theorem enter_eq (rules : NamingRules) (scope : Scope) {decorators decorators' : List Decorator}
    (name : String) (hdecorators : List.Forall₂ (Decorator.Relaid A) decorators decorators')
    (h : Relaid A block block') :
    scope.enter rules decorators' name block' = scope.enter rules decorators name block := by
  have hnames := categoryNames_of_view hcoarse rules.markModule
    (decorations_relaid hview hdecorators)
  unfold Scope.enter Decoration.categoryNames at *
  rw [List.filterMap_append, List.filterMap_append, hnames, h.blockDecorations_eq]

/-- In every scope the declared tests are seen to be the same. -/
theorem declarations_eq (rules : NamingRules) (h : Relaid A block block') (scope : Scope) :
    (declarations rules scope block').map (Declaration.seen view) =
      (declarations rules scope block).map (Declaration.seen view) := by
  induction h generalizing scope with
  | same block => rfl
  | trans _ _ ih ih' => exact (ih' scope).trans (ih scope)
  | behind s _ ih =>
      rw [declarations, declarations, List.map_append, List.map_append, ih]
  | @function decorators decorators' body body' name isAsync line line' block hdecorators hbody _ =>
      have hlook := decorations_relaid hview hdecorators
      have hnames := categoryNames_of_view hcoarse rules.markModule hlook
      have hdeclare :
          (scope.declare rules decorators' ⟨name, isAsync, line'⟩ body').seen view =
            (scope.declare rules decorators ⟨name, isAsync, line⟩ body).seen view := by
        simp only [Scope.declare, Declaration.seen, hbody.docstring?_eq, hlook, hnames]
      rw [declarations, declarations, List.map_append, List.map_append, declarationsOf,
        declarationsOf]
      dsimp only
      split
      · rw [List.map_singleton, List.map_singleton, hdeclare]
      · rfl
  | classDef name block hdecorators hbody ih =>
      rw [declarations, declarations, List.map_append, List.map_append, declarationsOf,
        declarationsOf, enter_eq hview hcoarse rules scope name hdecorators hbody, ih]
  | @compound inner inner' kind earlier later block hinner ih =>
      have hblocks : (declarationsInBlocks rules scope (earlier ++ inner' :: later)).map
            (Declaration.seen view) =
          (declarationsInBlocks rules scope (earlier ++ inner :: later)).map
            (Declaration.seen view) := by
        rw [declarationsInBlocks_append, declarationsInBlocks_append, declarationsInBlocks,
          declarationsInBlocks, List.map_append, List.map_append, List.map_append, List.map_append,
          ih]
      rw [declarations, declarations, List.map_append, List.map_append, declarationsOf,
        declarationsOf]
      split
      · rw [hblocks]
      · rfl

/-- The tests and the redeclarations of an accepted source are seen to be the same. -/
theorem discoverIn_eq (rules : NamingRules) (path : String) {source source' : String}
    (hread : readSource source = .ok block) (hread' : readSource source' = .ok block')
    (h : Relaid A block block') :
    (discoverIn rules path block').tests.map (Declaration.seen view) =
        (discoverIn rules path block).tests.map (Declaration.seen view) ∧
      (discoverIn rules path block').redeclared.map Redeclaration.seen =
        (discoverIn rules path block).redeclared.map Redeclaration.seen := by
  have hmap : ∀ ds, settle (ds.map (Declaration.seen view)) =
      ⟨(settle ds).tests.map (Declaration.seen view),
        (settle ds).redeclared.map Redeclaration.seen⟩ :=
    settle_map (fun _ => rfl) (fun _ => rfl) fun _ => rfl
  have hscope : Scope.ofModule rules block' = Scope.ofModule rules block := by
    rw [Scope.ofModule, h.blockDecorations_eq, ← Scope.ofModule]
  have hsettled :=
    congrArg settle (declarations_eq hview hcoarse rules h (Scope.ofModule rules block))
  rw [hmap, hmap, ← hscope, declarations_ofModule, hscope, declarations_ofModule] at hsettled
  obtain ⟨htests, hredeclared⟩ := Settled.mk.inj hsettled
  refine ⟨?_, ?_⟩
  · rw [discoverIn_tests hread, discoverIn_tests hread', htests]
  · rw [discoverIn, discoverIn, declarations_ofModule, declarations_ofModule]
    exact hredeclared

end Source.Relaid

/-! ## Layout -/

/-- Layout was put between the brackets of a call, at some place. -/
def Source.TakesLayout (parts parts' : List ArgumentPart) : Prop :=
  ∃ fs counts, ArgumentsTake fs counts parts parts'

/-- Layout was put between the brackets of a call, without an escaped line end at a place that
counts. -/
def Source.TakesUncounted (parts parts' : List ArgumentPart) : Prop :=
  ∃ fs counts, ArgumentsTake fs counts parts parts' ∧
    (counts = false ∨ fs.all Filler.isComment = true)

/-- Without arguments, any arguments look the same. -/
theorem overlooks_bare (A : List ArgumentPart → List ArgumentPart → Prop) :
    Overlooks Decoration.bare A where
  texts _ _ := rfl
  arguments h _ := by rw [Decoration.bare, Decoration.bare, h]
  callees _ h := by rw [Decoration.bare, Decoration.bare, h]

/-- Layout that is not counted is seen in texts only. -/
theorem overlooks_outline : Overlooks Decoration.outline TakesUncounted where
  texts _ _ := rfl
  arguments := by
    rintro callee callee' parts parts' h ⟨fs, counts, htake, hcounts⟩
    rw [Decoration.outline, Decoration.outline] at h ⊢
    rw [Decoration.rewritten, Decoration.rewritten, h, htake.arguments_eq_iff.2 hcounts]
  callees _ h := by
    rw [Decoration.outline, Decoration.outline] at h ⊢
    rw [Decoration.rewritten, Decoration.rewritten, h]

/-- What layout between the brackets of decorators does to the tests of a source.

* Put at one place, it leaves the arguments of a call as they are exactly if it consists of
  comments or the place does not count.
* Put anywhere, it leaves the tests as they are, with their markers and with their decorators
  apart from arguments.
* Put where it is not counted, it leaves the arguments and the numbers of instances too. -/
theorem layout_in_calls (rules : NamingRules) (path : String) :
    (∀ {fs : List Filler} {counts : Bool} {parts parts' : List ArgumentPart},
      ArgumentsTake fs counts parts parts' →
        (argumentsOf parts' = argumentsOf parts ↔
          counts = false ∨ fs.all Filler.isComment = true)) ∧
    ∀ {source source' : String} {statements statements' : List Statement} {f f' : ParsedFile},
      discover rules path source = .ok f → readSource source = .ok statements →
      discover rules path source' = .ok f' → readSource source' = .ok statements' →
      (Relaid TakesLayout statements statements' →
        f'.tests.map (Declaration.seen Decoration.bare) =
            f.tests.map (Declaration.seen Decoration.bare) ∧
          f'.redeclared.map Redeclaration.seen = f.redeclared.map Redeclaration.seen) ∧
      (Relaid TakesUncounted statements statements' →
        f'.tests.map (Declaration.seen Decoration.outline) =
            f.tests.map (Declaration.seen Decoration.outline) ∧
          f'.tests.map (fun t => Decoration.instances rules.markModule t.decorators) =
            f.tests.map fun t => Decoration.instances rules.markModule t.decorators) := by
  refine ⟨fun h => h.arguments_eq_iff, ?_⟩
  intro source source' statements statements' f f' h hread h' hread'
  obtain ⟨_, hread₁, rfl⟩ := discover_eq_ok.1 h
  obtain ⟨_, hread₁', rfl⟩ := discover_eq_ok.1 h'
  obtain rfl := Except.ok.inj (hread.symm.trans hread₁)
  obtain rfl := Except.ok.inj (hread'.symm.trans hread₁')
  constructor
  · exact fun hlaid => hlaid.discoverIn_eq (overlooks_bare _) Decoration.bare_bare rules path
      hread hread'
  · intro hlaid
    have htests := (hlaid.discoverIn_eq overlooks_outline Decoration.bare_outline rules path hread
      hread').1
    refine ⟨htests, ?_⟩
    have hinstances : ∀ ts : List Declaration,
        ts.map (fun t => Decoration.instances rules.markModule t.decorators) =
          (ts.map (Declaration.seen Decoration.outline)).map fun t =>
            Decoration.instances rules.markModule t.decorators := by
      intro ts
      rw [List.map_map]
      refine List.map_congr_left fun t _ => Decoration.instances_congr ?_
      simp [Declaration.seen]
    rw [hinstances, htests, ← hinstances]

/-- A test whose decorator has a list of two numbers as its argument. -/
def listedTest (parts : List Part) (text : String) (line : Nat) : List Statement :=
  [.function [[.item (.call (.name "m") [.positional (.list parts text)])]]
    ⟨"test_a", false, line⟩ [.small (.expressions [.item (.other "0")] false)]]

theorem layout_in_calls_comment :
    ∃ f f' statements statements',
      discover .standard "test_a.py" "@m([1,2])\ndef test_a():0\n" = .ok f ∧
      discover .standard "test_a.py" "@m([1,#c\n2])\ndef test_a():0\n" = .ok f' ∧
      Relaid TakesUncounted statements statements' ∧
      ArgumentsTake [.comment "#c"] true
        [.positional (.list [.item (.other "1"), .item (.other "2")] "[1,2]")]
        [.positional
          (.list [.item (.other "1"), .filler (.comment "#c"), .item (.other "2")] "[1,#c\n2]")] ∧
      f'.tests.map (Declaration.seen Decoration.outline) =
        f.tests.map (Declaration.seen Decoration.outline) := by
  have hread : readSource "@m([1,2])\ndef test_a():0\n" =
      .ok (listedTest [.item (.other "1"), .item (.other "2")] "[1,2]" 2) := by
    decide +kernel
  have hread' : readSource "@m([1,#c\n2])\ndef test_a():0\n" =
      .ok (listedTest [.item (.other "1"), .filler (.comment "#c"), .item (.other "2")]
        "[1,#c\n2]" 3) := by
    decide +kernel
  have htake : ArgumentsTake [.comment "#c"] true
      [.positional (.list [.item (.other "1"), .item (.other "2")] "[1,2]")]
      [.positional
        (.list [.item (.other "1"), .filler (.comment "#c"), .item (.other "2")] "[1,#c\n2]")] :=
    .positional [] [] (.list [.item (.other "1")] [.item (.other "2")] _ _)
  have hlaid : Relaid TakesUncounted
      (listedTest [.item (.other "1"), .item (.other "2")] "[1,2]" 2)
      (listedTest [.item (.other "1"), .filler (.comment "#c"), .item (.other "2")]
        "[1,#c\n2]" 3) :=
    .function "test_a" false 2 3 []
      (.cons (.mk [] [] (.arguments (.name "m") ⟨_, _, htake, .inr rfl⟩)) .nil) (.same _)
  have h := @discover_eq_ok .standard "test_a.py" _ _ |>.2 ⟨_, hread, rfl⟩
  have h' := @discover_eq_ok .standard "test_a.py" _ _ |>.2 ⟨_, hread', rfl⟩
  exact ⟨_, _, _, _, h, h', hlaid, htake,
    (((layout_in_calls .standard "test_a.py").2 h hread h' hread').2 hlaid).1⟩

/-- An escaped line end in the list of values makes the list longer: a test of two instances
gets a third one. -/
theorem escaped_line_end_counted :
    (∃ t, discover .standard "test_a.py"
        ("@pytest.mark.parametrize('x',[1," ++ "2])\ndef test_a(x):0\n") =
          .ok ⟨"test_a.py", [t], []⟩ ∧
        (Decoration.instances "pytest" t.decorators).val = 2) ∧
    ∃ t, discover .standard "test_a.py"
        ("@pytest.mark.parametrize('x',[1," ++ "\\\n" ++ "2])\ndef test_a(x):0\n") =
          .ok ⟨"test_a.py", [t], []⟩ ∧
        (Decoration.instances "pytest" t.decorators).val = 3 :=
  ⟨exists_only_test (by decide +kernel) _, exists_only_test (by decide +kernel) _⟩

end TestCensus
