import TestCensus.Proofs.Discovery.Markers

/-!
# How the value of a marker assignment is written

The same expressions may be listed in several ways: in square brackets, in round brackets,
without brackets, or in brackets that stand in further round brackets.  `Assigned.Writes`
names these forms.  The census looks into a list and into a tuple with its own brackets, and
takes any other value as one expression.  So what a value contributes depends on its form
only through `ValueForm.isRead` (`Assigned.Writes.categoryNames`).

*Respelling.*  `Respelled` replaces values of marker assignments by values that write the
same expressions, in the module and in class bodies at any depth.  By induction along it the
declarations of every block stay the same if the forms are read alike
(`Respelled.declarations`), and with them all that is discovered.
-/

namespace TestCensus

open TestCensus.Source

/-! ## Forms -/

/-- How the value of a marker assignment lists its expressions. -/
inductive Source.ValueForm where
  /-- The value is the only expression. -/
  | alone
  /-- In square brackets. -/
  | list
  /-- In the round brackets of a tuple. -/
  | tuple
  /-- Between commas without brackets. -/
  | row
  /-- As a list or tuple in further round brackets. -/
  | wrapped
deriving DecidableEq, Repr

/-- The census looks for the expressions in a value of this form. -/
def Source.ValueForm.isRead : ValueForm → Bool
  | .alone | .list | .tuple => true
  | .row | .wrapped => false

/-- The expression of a part, unless it is a filler. -/
def Source.Part.expr? : Part → Option Expr
  | .filler _ => none
  | .item e => some e

/-- The expressions among parts. -/
def Source.expressions (parts : List Part) : List Expr := parts.filterMap Part.expr?

/-- The expression is a list or a tuple. -/
def Source.Expr.isBracketed : Expr → Bool
  | .list _ _ | .tuple _ _ => true
  | _ => false

/-- The expression lists the given expressions, directly or in further brackets. -/
inductive Source.Expr.Lists (es : List Expr) : ValueForm → Expr → Prop where
  /-- A list of them. -/
  | list {parts : List Part} (text : String) : expressions parts = es →
      Lists es .list (.list parts text)
  /-- A tuple of them. -/
  | tuple {parts : List Part} (text : String) : expressions parts = es →
      Lists es .tuple (.tuple parts text)
  /-- A listing in round brackets that mean nothing. -/
  | wrapped {form : ValueForm} {e : Expr} {parts : List Part} (text : String) :
      Lists es form e → expressions parts = [e] → Lists es .wrapped (.parens parts text)

/-- The value writes the given expressions in the given form. -/
inductive Source.Assigned.Writes (es : List Expr) : ValueForm → Assigned → Prop where
  /-- The only expression itself. -/
  | alone {e : Expr} : es = [e] → e.isBracketed = false → Writes es .alone (.single e)
  /-- One expression that lists them. -/
  | lists {form : ValueForm} {e : Expr} : e.Lists es form → Writes es form (.single e)
  /-- A row of them. -/
  | row {parts : List Part} : expressions parts = es → Writes es .row (.row parts)

/-! ## Contributions -/

namespace Decoration

variable {ns : String}

@[simp] theorem categoryNames_append (as bs : List Decoration) :
    categoryNames ns (as ++ bs) = categoryNames ns as ++ categoryNames ns bs :=
  List.filterMap_append

theorem categoryNames_cons (a : Decoration) (as : List Decoration) :
    categoryNames ns (a :: as) = categoryNames ns [a] ++ categoryNames ns as :=
  categoryNames_append [a] as

/-- Source text that is no marker names nothing. -/
theorem categoryNames_other (text : String) : categoryNames ns [.other text] = [] := rfl

end Decoration

/-- Fillers name nothing, so among the parts only the expressions do. -/
theorem categoryNames_parts (ns : String) (parts : List Part) :
    Decoration.categoryNames ns ((solid parts).map Part.decoration) =
      Decoration.categoryNames ns ((expressions parts).map Expr.decoration) := by
  induction parts with
  | nil => rfl
  | cons p parts ih =>
      cases p with
      | item e =>
          show Decoration.categoryNames ns (e.decoration :: (solid parts).map Part.decoration) =
            Decoration.categoryNames ns (e.decoration :: (expressions parts).map Expr.decoration)
          rw [Decoration.categoryNames_cons _ ((solid parts).map _), ih,
            ← Decoration.categoryNames_cons]
      | filler f =>
          cases f with
          | comment text => exact ih
          | continuation text =>
              show Decoration.categoryNames ns (.other text :: (solid parts).map _) = _
              rw [Decoration.categoryNames_cons, Decoration.categoryNames_other]
              exact ih

/-- Brackets around a single expression are that expression, or unreadable because of an
escaped line end. -/
theorem onlyDecoration_expressions (text : String) {parts : List Part} {e : Expr}
    (h : expressions parts = [e]) :
    onlyDecoration text parts = e.decoration ∨ onlyDecoration text parts = .other text := by
  induction parts with
  | nil => cases h
  | cons p parts ih =>
      cases p with
      | item d =>
          obtain ⟨rfl, -⟩ := List.cons.inj h
          unfold onlyDecoration
          split
          · exact Or.inl rfl
          · exact Or.inr rfl
      | filler f =>
          unfold onlyDecoration
          split
          · exact ih h
          · exact Or.inr rfl

/-- A listing is no marker itself. -/
theorem Source.Expr.Lists.decoration {es : List Expr} {form : ValueForm} {e : Expr}
    (h : e.Lists es form) : ∃ text, e.decoration = .other text := by
  induction h with
  | list text _ => exact ⟨text, by rw [Expr.decoration]⟩
  | tuple text _ => exact ⟨text, by rw [Expr.decoration]⟩
  | wrapped text _ hparts ih =>
      obtain ⟨inner, hinner⟩ := ih
      rw [Expr.decoration]
      rcases onlyDecoration_expressions text hparts with h | h
      · exact ⟨inner, h.trans hinner⟩
      · exact ⟨text, h⟩

/-- An expression that is not bracketed is taken as one marker. -/
theorem decorations_single {e : Expr} (h : e.isBracketed = false) :
    (Assigned.single e).decorations = [e.decoration] := by
  cases e with
  | list parts text => cases h
  | tuple parts text => cases h
  | _ => rfl

/-- A value contributes what its expressions name if the census looks into its form, and
nothing otherwise. -/
theorem Source.Assigned.Writes.categoryNames {es : List Expr} {form : ValueForm} {v : Assigned}
    (h : v.Writes es form) (ns : String) :
    Decoration.categoryNames ns v.decorations =
      if form.isRead then Decoration.categoryNames ns (es.map Expr.decoration) else [] := by
  cases h with
  | alone hes hsingle =>
      rw [decorations_single hsingle, hes]
      rfl
  | row _ => rfl
  | lists he =>
      cases he with
      | list text hparts => exact (categoryNames_parts ns _).trans (by rw [hparts]; rfl)
      | tuple text hparts => exact (categoryNames_parts ns _).trans (by rw [hparts]; rfl)
      | wrapped text hinner hparts =>
          obtain ⟨text', htext⟩ := (Expr.Lists.wrapped text hinner hparts).decoration
          rw [decorations_single rfl, htext]
          rfl

/-! ## Respelling -/

/-- The assignment of a value to the name whose value marks tests. -/
def Source.Statement.marking (v : Assigned) : Statement :=
  .small (.assignment (some markerVariable) (some v))

theorem markerDecorations_marking (v : Assigned) :
    (Statement.marking v).markerDecorations = v.decorations := by
  rw [Statement.marking, Statement.markerDecorations, if_pos rfl]

/-- The second block is the first one with some values of marker assignments written
differently.  They write the same expressions, and the census looks into both forms or into
neither. -/
inductive Source.Respelled : List Statement → List Statement → Prop where
  /-- The blocks end. -/
  | nil : Respelled [] []
  /-- The same statement. -/
  | same (s : Statement) {block block' : List Statement} : Respelled block block' →
      Respelled (s :: block) (s :: block')
  /-- An assignment with another value. -/
  | marking {es : List Expr} {form form' : ValueForm} {v v' : Assigned}
      {block block' : List Statement} : v.Writes es form → v'.Writes es form' →
      form.isRead = form'.isRead → Respelled block block' →
      Respelled (.marking v :: block) (.marking v' :: block')
  /-- A class with a body that is written differently. -/
  | classDef (decorators : List Decorator) (name : String)
      {body body' block block' : List Statement} : Respelled body body' → Respelled block block' →
      Respelled (.classDef decorators name body :: block)
        (.classDef decorators name body' :: block')
  /-- A compound statement with a block that is written differently. -/
  | compound (kind : CompoundKind) (earlier later : List (List Statement))
      {inner inner' block block' : List Statement} : Respelled inner inner' →
      Respelled block block' →
      Respelled (.compound kind (earlier ++ inner :: later) :: block)
        (.compound kind (earlier ++ inner' :: later) :: block')

namespace Source.Respelled

variable {rules : NamingRules} {block block' : List Statement}

/-- The marker assignments directly in a block contribute the same names. -/
theorem blockNames (h : Respelled block block') (ns : String) :
    Decoration.categoryNames ns (blockDecorations block) =
      Decoration.categoryNames ns (blockDecorations block') := by
  have hcons : ∀ (s : Statement) (rest : List Statement),
      Decoration.categoryNames ns (blockDecorations (s :: rest)) =
        Decoration.categoryNames ns s.markerDecorations ++
          Decoration.categoryNames ns (blockDecorations rest) := fun s rest =>
    Decoration.categoryNames_append _ _
  induction h with
  | nil => rfl
  | same s _ ih => rw [hcons, hcons, ih]
  | marking hv hv' hread _ ih =>
      rw [hcons, hcons, ih, markerDecorations_marking, markerDecorations_marking,
        hv.categoryNames, hv'.categoryNames, hread]
  | classDef decorators name _ _ _ ih => rw [hcons, hcons, ih]; rfl
  | compound kind earlier later _ _ _ ih => rw [hcons, hcons, ih]; rfl

/-- The scope of a module is the same. -/
theorem ofModule (h : Respelled block block') :
    Scope.ofModule rules block = Scope.ofModule rules block' := by
  unfold Scope.ofModule Decoration.markers
  rw [h.blockNames]

/-- The scope of a class body is the same. -/
theorem enter (h : Respelled block block') (scope : Scope) (decorators : List Decorator)
    (name : String) :
    scope.enter rules decorators name block = scope.enter rules decorators name block' := by
  unfold Scope.enter
  rw [Decoration.categoryNames_append, Decoration.categoryNames_append, h.blockNames]

/-- In every scope the blocks declare the same tests. -/
theorem declarations (h : Respelled block block') (scope : Scope) :
    TestCensus.declarations rules scope block = TestCensus.declarations rules scope block' := by
  induction h generalizing scope with
  | nil => rfl
  | same s _ ih => rw [TestCensus.declarations, TestCensus.declarations, ih]
  | marking _ _ _ _ ih => rw [TestCensus.declarations, TestCensus.declarations, ih]; rfl
  | classDef decorators name hbody _ ihBody ih =>
      rw [TestCensus.declarations, TestCensus.declarations, ih, declarationsOf, declarationsOf,
        hbody.enter, ihBody]
  | @compound kind earlier later inner inner' _ _ _ _ ihInner ih =>
      have hblocks : declarationsInBlocks rules scope (earlier ++ inner :: later) =
          declarationsInBlocks rules scope (earlier ++ inner' :: later) := by
        rw [declarationsInBlocks_append, declarationsInBlocks_append, declarationsInBlocks,
          declarationsInBlocks, ihInner]
      rw [TestCensus.declarations, TestCensus.declarations, ih, declarationsOf, declarationsOf,
        hblocks]

/-- The same tests are discovered. -/
theorem discoverIn (h : Respelled block block') (path : String) :
    TestCensus.discoverIn rules path block = TestCensus.discoverIn rules path block' := by
  unfold TestCensus.discoverIn
  rw [h.ofModule, h.declarations]

end Source.Respelled

/-- What a value of a marker assignment contributes depends on the form in which its
expressions are written.  A list, a tuple with brackets of its own, and a single expression
contribute what the expressions name; a row without brackets and a listing in further
brackets contribute nothing.  Values that write the same expressions in forms of one kind
may be put for each other anywhere in a module. -/
theorem marking_forms (rules : NamingRules) :
    (∀ {es : List Expr} {form : ValueForm} {v : Assigned}, v.Writes es form → ∀ c,
      (Statement.marking v).Marks rules.markModule c ↔
        form.isRead = true ∧ ∃ e ∈ es, e.decoration.Names rules.markModule c) ∧
    ∀ {block block' : List Statement}, Respelled block block' →
      (∀ path, discoverIn rules path block = discoverIn rules path block') ∧
      ∀ (scope : Scope) (decorators : List Decorator) (name : String),
        declarationsOf rules scope (.classDef decorators name block) =
          declarationsOf rules scope (.classDef decorators name block') := by
  constructor
  · intro es form v hv c
    rw [Statement.marks_iff, markerDecorations_marking, ← Decoration.mem_categoryNames,
      hv.categoryNames]
    cases form.isRead with
    | false => simp
    | true => simp [Decoration.mem_categoryNames]
  · intro block block' h
    refine ⟨fun path => h.discoverIn path, fun scope decorators name => ?_⟩
    rw [declarationsOf, declarationsOf, h.enter, h.declarations]

/-- A module with a marked test, where the expressions `unit` and `slow` are written as the
given value. -/
def markedBlock (v : Assigned) : List Statement :=
  [.marking v, .function [] ⟨"test_a", false, 2⟩ [.small .simple]]

theorem marking_forms_brackets :
    let es : List Expr := [.name "unit", .name "slow"]
    let v : Assigned := .single (.list (es.map .item) "[unit, slow]")
    let v' : Assigned :=
      .single (.tuple (.filler (.comment "# both") :: es.map .item) "(unit, slow)")
    v.Writes es .list ∧ v'.Writes es .tuple ∧ (Statement.marking v').Marks "pytest" "slow" ∧
      Respelled (markedBlock v) (markedBlock v') ∧
      discoverIn .standard "test_a.py" (markedBlock v) =
        discoverIn .standard "test_a.py" (markedBlock v') := by
  intro es v v'
  have hv : v.Writes es .list := .lists (.list _ rfl)
  have hv' : v'.Writes es .tuple := .lists (.tuple _ rfl)
  have hslow : (Expr.name "slow").decoration.Names "pytest" "slow" := by
    rw [Expr.decoration]
    exact .bare (by decide)
  have hrespelled : Respelled (markedBlock v) (markedBlock v') := .marking hv hv' rfl (.same _ .nil)
  exact ⟨hv, hv', ((marking_forms .standard).1 hv' "slow").2 ⟨rfl, _, .tail _ (.head _), hslow⟩,
    hrespelled, ((marking_forms .standard).2 hrespelled).1 _⟩

/-- The same two expressions mark a test as a list and as a tuple in brackets, and do not mark
it as a row without brackets or as a list in further brackets. -/
theorem row_and_wrapped_list_unread :
    (∃ t, discover .standard "test_a.py" "pytestmark = [unit, slow]\ndef test_a():0\n" =
      .ok ⟨"test_a.py", [t], []⟩ ∧ t.markers.names = ["slow", "unit"]) ∧
    (∃ t, discover .standard "test_a.py" "pytestmark = (unit, slow,)\ndef test_a():0\n" =
      .ok ⟨"test_a.py", [t], []⟩ ∧ t.markers.names = ["slow", "unit"]) ∧
    (∃ t, discover .standard "test_a.py" "pytestmark = unit, slow,\ndef test_a():0\n" =
      .ok ⟨"test_a.py", [t], []⟩ ∧ t.markers.names = []) ∧
    ∃ t, discover .standard "test_a.py" "pytestmark = ([unit, slow])\ndef test_a():0\n" =
      .ok ⟨"test_a.py", [t], []⟩ ∧ t.markers.names = [] :=
  ⟨exists_only_test (by decide +kernel) _, exists_only_test (by decide +kernel) _,
    exists_only_test (by decide +kernel) _, exists_only_test (by decide +kernel) _⟩

end TestCensus
