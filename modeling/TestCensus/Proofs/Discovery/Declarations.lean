import TestCensus.Discovery
import TestCensus.Proofs.Source.Definitions

/-!
# Which definitions are declared tests

`declarations` walks down the tree with a scope.  Here its result is described
from the other end: every definition of the tree knows what it stands in, and this
alone decides whether it is a test and what the test is.

*Scopes.*  The scope of a definition is found by going through what the definition
stands in, outermost first (`Scope.inside`).  Its three fields are then read off
one by one: the class path holds the names of all classes, and the innermost class
alone says whether tests are collected.

*Walks.*  `declarations_eq_collected` is the statement for a walk: it gives the
definitions that are collected, in their order, each as the test that it declares.
The proof is by induction on the tree.  What is added around all definitions of a
body either leads to another scope or closes the body (`collected_within`).

*Tests.*  `Definition.IsTest` says in terms of the definition when it is a test,
and `isCollected_ofModule` that these are the definitions collected in a module.
-/

namespace TestCensus

open TestCensus.Source
open TestCensus.Text

/-! ## What a definition stands in -/

/-- What stands inside still belongs to what is around it, as far as tests are
concerned. -/
def Source.Surrounding.isEntered : Surrounding → Bool
  | .classBody _ _ _ => true
  | .block .conditional => true
  | .block .guarded => true
  | .block .managed => true
  | .block .loop => false
  | .block .cases => false
  | .functionBody _ => false

/-- The name of a class body. -/
def Source.Surrounding.className? : Surrounding → Option String
  | .classBody _ name _ => some name
  | .block _ => none
  | .functionBody _ => none

/-- The names of all classes among the surroundings, outermost first. -/
def classNames (around : List Surrounding) : List String :=
  around.filterMap Surrounding.className?

@[simp] theorem classNames_classBody (decorators : List Decorator) (name : String)
    (body : List Statement) (around : List Surrounding) :
    classNames (.classBody decorators name body :: around) = name :: classNames around := rfl

@[simp] theorem classNames_block (kind : CompoundKind) (around : List Surrounding) :
    classNames (.block kind :: around) = classNames around := rfl

@[simp] theorem classNames_functionBody (head : FunctionHead) (around : List Surrounding) :
    classNames (.functionBody head :: around) = classNames around := rfl

/-- The names of all classes around the definition, outermost first. -/
def Source.Definition.classPath (d : Definition) : List String := classNames d.around

/-- A class of this name is a test class: the name contains the marker or starts
as configured. -/
def NamingRules.TestClass (rules : NamingRules) (name : String) : Prop :=
  rules.classMarker.toList <:+: name.toList ∨ rules.classStart.toList <+: name.toList

instance (rules : NamingRules) (name : String) : Decidable (rules.TestClass name) :=
  inferInstanceAs (Decidable (_ ∨ _))

theorem NamingRules.isTestClass_iff {rules : NamingRules} {name : String} :
    rules.isTestClass name = true ↔ rules.TestClass name := by
  rw [isTestClass, Bool.or_eq_true, contains_iff, hasStart_iff, TestClass]

/-- The definition is a test. -/
structure Source.Definition.IsTest (rules : NamingRules) (d : Definition) : Prop where
  /-- The name starts as configured. -/
  named : rules.functionStart.toList <+: d.head.name.toList
  /-- Everything around the definition is entered. -/
  entered : ∀ s ∈ d.around, s.isEntered = true
  /-- The innermost class around the definition is a test class, if there is one. -/
  owned : ∀ name ∈ d.classPath.getLast?, rules.TestClass name

/-! ## Scopes -/

namespace Scope

variable {rules : NamingRules}

/-- The scope inside what is added to a scope. -/
def into (rules : NamingRules) (scope : Scope) : Surrounding → Scope
  | .classBody decorators name body => scope.enter rules decorators name body
  | .block _ => scope
  | .functionBody _ => scope

/-- The scope of a definition: everything around it is gone into, outermost
first. -/
def inside (rules : NamingRules) (scope : Scope) (around : List Surrounding) : Scope :=
  around.foldl (into rules) scope

@[simp] theorem inside_nil (scope : Scope) : scope.inside rules [] = scope := rfl

@[simp] theorem inside_cons (scope : Scope) (s : Surrounding) (around : List Surrounding) :
    scope.inside rules (s :: around) = (scope.into rules s).inside rules around := rfl

theorem enter_classPath (scope : Scope) (decorators : List Decorator) (name : String)
    (body : List Statement) :
    (scope.enter rules decorators name body).classPath = scope.classPath ++ [name] := by
  unfold enter
  dsimp only
  split <;> rfl

theorem enter_collects (scope : Scope) (decorators : List Decorator) (name : String)
    (body : List Statement) :
    (scope.enter rules decorators name body).collects = rules.isTestClass name := by
  unfold enter
  dsimp only
  split
  · rename_i htest
    exact htest.symm
  · rename_i htest
    exact (Bool.eq_false_iff.2 htest).symm

/-- The class path holds the names of all classes gone into. -/
theorem inside_classPath (scope : Scope) (around : List Surrounding) :
    (scope.inside rules around).classPath = scope.classPath ++ classNames around := by
  induction around generalizing scope with
  | nil => exact (List.append_nil _).symm
  | cons s around ih =>
      rw [inside_cons, ih]
      cases s with
      | classBody decorators name body =>
          rw [into, enter_classPath, classNames_classBody, List.append_assoc]
          rfl
      | block kind => rfl
      | functionBody head => rfl

/-- The innermost class says whether tests are collected, whatever the classes
around it say. -/
theorem inside_collects (scope : Scope) (around : List Surrounding) :
    (scope.inside rules around).collects =
      match (classNames around).getLast? with
      | some name => rules.isTestClass name
      | none => scope.collects := by
  induction around generalizing scope with
  | nil => rfl
  | cons s around ih =>
      rw [inside_cons, ih]
      cases s with
      | classBody decorators name body =>
          rw [into, enter_collects, classNames_classBody, List.getLast?_cons]
          cases (classNames around).getLast? with
          | none => rfl
          | some last => rfl
      | block kind => rfl
      | functionBody head => rfl

end Scope

/-! ## Walks -/

section

variable {rules : NamingRules}

/-- A definition that is a test if it is met in the scope. -/
def Source.Definition.isCollected (rules : NamingRules) (scope : Scope) (d : Definition) : Bool :=
  d.around.all Surrounding.isEntered && (scope.inside rules d.around).collects &&
    rules.isTestFunction d.head.name

/-- The test that a definition met in the scope declares. -/
def Source.Definition.declaration (rules : NamingRules) (scope : Scope) (d : Definition) :
    Declaration :=
  (scope.inside rules d.around).declare rules d.decorators d.head d.body

/-- The tests that definitions met in the scope declare. -/
def collected (rules : NamingRules) (scope : Scope) (ds : List Definition) : List Declaration :=
  (ds.filter (·.isCollected rules scope)).map (·.declaration rules scope)

@[simp] theorem collected_nil (scope : Scope) : collected rules scope [] = [] := rfl

@[simp] theorem collected_append (scope : Scope) (ds es : List Definition) :
    collected rules scope (ds ++ es) = collected rules scope ds ++ collected rules scope es := by
  simp [collected]

theorem collected_cons (scope : Scope) (d : Definition) (ds : List Definition) :
    collected rules scope (d :: ds) = collected rules scope [d] ++ collected rules scope ds :=
  collected_append scope [d] ds

/-- One more thing around all definitions either leads to another scope or hides
them. -/
theorem collected_within (scope : Scope) (s : Surrounding) (ds : List Definition) :
    collected rules scope (ds.map (·.within s)) =
      if s.isEntered then collected rules (scope.into rules s) ds else [] := by
  have hcollected : ∀ d : Definition, (d.within s).isCollected rules scope =
      (s.isEntered && d.isCollected rules (scope.into rules s)) := by
    intro d
    simp [Definition.isCollected, Definition.within, Bool.and_assoc]
  have hfilter : (fun d : Definition => d.isCollected rules scope) ∘ Definition.within s =
      fun d => s.isEntered && d.isCollected rules (scope.into rules s) := funext hcollected
  rw [collected, List.filter_map, List.map_map, hfilter]
  cases s.isEntered with
  | true =>
      simp only [Bool.true_and, if_pos]
      rfl
  | false => simp

mutual

theorem declarationsOf_eq_collected (scope : Scope) (s : Statement) :
    declarationsOf rules scope s = collected rules scope (definitionsOf s) := by
  cases s with
  | filler f => rfl
  | small s => rfl
  | function decorators head body =>
      have hbody : collected rules scope
          ((definitions body).map (·.within (.functionBody head))) = [] :=
        collected_within scope (.functionBody head) (definitions body)
      rw [declarationsOf, definitionsOf, collected_cons, hbody, List.append_nil]
      split
      · rename_i h
        simp [collected, Definition.isCollected, Definition.declaration, h]
      · rename_i h
        simp [collected, Definition.isCollected, h]
  | classDef decorators name body =>
      rw [declarationsOf, definitionsOf, collected_within, declarations_eq_collected]
      rfl
  | compound kind blocks =>
      rw [declarationsOf, definitionsOf, collected_within, declarationsInBlocks_eq_collected]
      cases kind <;> rfl

/-- A walk gives the collected definitions, each as the test that it declares. -/
theorem declarations_eq_collected (scope : Scope) (ss : List Statement) :
    declarations rules scope ss = collected rules scope (definitions ss) := by
  cases ss with
  | nil => rfl
  | cons s rest =>
      rw [declarations, definitions, collected_append, declarationsOf_eq_collected,
        declarations_eq_collected]

theorem declarationsInBlocks_eq_collected (scope : Scope) (blocks : List (List Statement)) :
    declarationsInBlocks rules scope blocks =
      collected rules scope (definitionsInBlocks blocks) := by
  cases blocks with
  | nil => rfl
  | cons block rest =>
      rw [declarationsInBlocks, definitionsInBlocks, collected_append, declarations_eq_collected,
        declarationsInBlocks_eq_collected]

end

theorem declarationsInBlocks_append (scope : Scope) (earlier later : List (List Statement)) :
    declarationsInBlocks rules scope (earlier ++ later) =
      declarationsInBlocks rules scope earlier ++ declarationsInBlocks rules scope later := by
  induction earlier with
  | nil => rfl
  | cons first earlier ih =>
      rw [List.cons_append, declarationsInBlocks, declarationsInBlocks, ih, List.append_assoc]

/-! ## Tests -/

/-- The definitions collected in a module are the tests. -/
theorem isCollected_ofModule {statements : List Statement} {d : Definition} :
    d.isCollected rules (Scope.ofModule rules statements) = true ↔ d.IsTest rules := by
  have howned : ((Scope.ofModule rules statements).inside rules d.around).collects = true ↔
      ∀ name ∈ d.classPath.getLast?, rules.TestClass name := by
    rw [Scope.inside_collects, ← Definition.classPath]
    cases d.classPath.getLast? with
    | none => simp [Scope.ofModule]
    | some name => simp [NamingRules.isTestClass_iff]
  rw [Definition.isCollected, Bool.and_eq_true, Bool.and_eq_true, howned, List.all_eq_true,
    NamingRules.isTestFunction, hasStart_iff]
  constructor
  · rintro ⟨⟨hentered, howner⟩, hnamed⟩
    exact ⟨hnamed, hentered, howner⟩
  · rintro ⟨hnamed, hentered, howner⟩
    exact ⟨⟨hentered, howner⟩, hnamed⟩

instance (d : Definition) : Decidable (d.IsTest rules) :=
  decidable_of_iff (d.isCollected rules (Scope.ofModule rules [])) isCollected_ofModule

/-- The tests that a tree declares: its test definitions in the order of the source, each
as the test that it declares. -/
def testDeclarations (rules : NamingRules) (statements : List Statement) : List Declaration :=
  ((definitions statements).filter (·.IsTest rules)).map
    (·.declaration rules (Scope.ofModule rules statements))

/-- A walk over a module gives the tests that it declares. -/
theorem declarations_ofModule (statements : List Statement) :
    declarations rules (Scope.ofModule rules statements) statements =
      testDeclarations rules statements := by
  have hfilter : (definitions statements).filter
      (·.isCollected rules (.ofModule rules statements)) =
      (definitions statements).filter (·.IsTest rules) := by
    refine List.filter_congr fun d _ => ?_
    rw [Bool.eq_iff_iff, isCollected_ofModule, decide_eq_true_iff]
  rw [declarations_eq_collected, collected, hfilter]
  rfl

/-- A test of a module is declared in the class path of its definition. -/
theorem declaration_classPath {statements : List Statement} (d : Definition) :
    (d.declaration rules (Scope.ofModule rules statements)).classPath = d.classPath := by
  show (Scope.inside rules _ d.around).classPath = _
  rw [Scope.inside_classPath]
  rfl

end

end TestCensus
