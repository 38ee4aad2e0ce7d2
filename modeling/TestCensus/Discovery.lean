import TestCensus.Text.Parts
import TestCensus.Source.Decorations
import TestCensus.Source.Reading

/-!
# Discovery of tests

The tests of a source are functions whose names start as configured.  They are
looked for in the module and in the bodies of classes, through conditions,
guarded blocks and managed blocks, and never in function bodies, loops or case
distinctions.  The functions of a class count only if the class is a test class.

* A test class has a name that contains the class marker or starts with the class
  prefix.  Other classes are entered too, for the classes in them.
* The class path of a test holds the names of all classes around it, outermost
  first.
* A test inherits the markers of the module's marker assignments, and of each
  test class around it those of its decorators and of the marker assignments
  directly in its body.  The markers of its own decorators are added.
* A second declaration of the same name in the same class path is a
  redeclaration.  The first one stays, and the second is reported with the line
  of the first.

`declarations` lists the tests in the order of the source, `settle` separates the
first declarations from the others, and `discover` sorts the tests by line.
-/

namespace TestCensus

open TestCensus.Source
open TestCensus.Text

/-- The naming conventions by which tests and markers are recognized. -/
structure NamingRules where
  /-- How the name of a test function starts. -/
  functionStart : String
  /-- How the name of a test class may start. -/
  classStart : String
  /-- What the name of a test class may contain. -/
  classMarker : String
  /-- The module whose member `mark` carries the markers. -/
  markModule : String
deriving DecidableEq, Repr

namespace NamingRules

/-- The conventions that hold unless configured otherwise. -/
def standard : NamingRules := ⟨"test_", "test_", "Test", "pytest"⟩

/-- A class of this name is a test class. -/
def isTestClass (rules : NamingRules) (name : String) : Bool :=
  contains name rules.classMarker || hasStart name rules.classStart

/-- A function of this name is a test. -/
def isTestFunction (rules : NamingRules) (name : String) : Bool :=
  hasStart name rules.functionStart

end NamingRules

/-! ## Declarations -/

/-- A test as declared in a source. -/
structure Declaration where
  /-- The name of the function. -/
  name : String
  /-- The names of the classes around it, outermost first. -/
  classPath : List String
  /-- The line on which the definition starts, counted from one. -/
  line : Nat
  /-- The function is a coroutine. -/
  isAsync : Bool
  /-- The docstring, without the indentation of the code. -/
  docstring : Option String
  /-- The categories of the test, its own and the inherited ones. -/
  markers : MarkerSet
  /-- The test's own decorators, outermost first. -/
  decorators : List Decoration
deriving Inhabited

/-- A further declaration of a test that was declared before. -/
structure Redeclaration where
  /-- The name of the function. -/
  name : String
  /-- The names of the classes around it, outermost first. -/
  classPath : List String
  /-- The line of this declaration. -/
  line : Nat
  /-- The line of the first declaration. -/
  firstLine : Nat
deriving DecidableEq, Repr

/-- The name of a class path, or none at module level. -/
def className? (classPath : List String) : Option String :=
  if classPath.isEmpty then none else some ("::".intercalate classPath)

/-- Two declarations are of the same test. -/
def Declaration.sameTest (a b : Declaration) : Bool :=
  a.name == b.name && a.classPath == b.classPath

/-- What a block inherits from the code around it. -/
structure Scope where
  /-- The names of the classes around the block, outermost first. -/
  classPath : List String
  /-- The markers that its tests inherit. -/
  inherited : MarkerSet
  /-- Functions in the block may be tests. -/
  collects : Bool

namespace Scope

/-- The scope of a module. -/
def ofModule (rules : NamingRules) (statements : List Statement) : Scope :=
  ⟨[], Decoration.markers rules.markModule (blockDecorations statements), true⟩

/-- The scope of a class body. -/
def enter (scope : Scope) (rules : NamingRules) (decorators : List Decorator) (name : String)
    (body : List Statement) : Scope :=
  let classPath := scope.classPath ++ [name]
  if rules.isTestClass name then
    let own := Decoration.categoryNames rules.markModule
      (decorations decorators ++ blockDecorations body)
    ⟨classPath, scope.inherited.insertAll own, true⟩
  else
    ⟨classPath, scope.inherited, false⟩

/-- The test that a function of the scope declares. -/
def declare (scope : Scope) (rules : NamingRules) (decorators : List Decorator)
    (head : FunctionHead) (body : List Statement) : Declaration :=
  let own := decorations decorators
  { name := head.name
    classPath := scope.classPath
    line := head.line
    isAsync := head.isAsync
    docstring := docstring? body
    markers := scope.inherited.insertAll (Decoration.categoryNames rules.markModule own)
    decorators := own }

end Scope

/-- The blocks of a compound statement belong to the scope around it. -/
def Source.CompoundKind.staysInScope : CompoundKind → Bool
  | .conditional | .guarded | .managed => true
  | .loop | .cases => false

mutual

/-- The tests that a statement declares, in the order of the source. -/
def declarationsOf (rules : NamingRules) (scope : Scope) : Statement → List Declaration
  | .function decorators head body =>
      if scope.collects && rules.isTestFunction head.name then
        [scope.declare rules decorators head body]
      else []
  | .classDef decorators name body =>
      declarations rules (scope.enter rules decorators name body) body
  | .compound kind blocks =>
      if kind.staysInScope then declarationsInBlocks rules scope blocks else []
  | .filler _ => []
  | .small _ => []

/-- The tests that the statements of a block declare, in the order of the source. -/
def declarations (rules : NamingRules) (scope : Scope) : List Statement → List Declaration
  | [] => []
  | s :: rest => declarationsOf rules scope s ++ declarations rules scope rest

/-- The tests that several blocks declare, in the order of the source. -/
def declarationsInBlocks (rules : NamingRules) (scope : Scope) :
    List (List Statement) → List Declaration
  | [] => []
  | block :: rest => declarations rules scope block ++ declarationsInBlocks rules scope rest

end

/-! ## First declarations -/

/-- The first declarations and the others. -/
structure Settled where
  /-- The first declarations, in the order of the source. -/
  tests : List Declaration
  /-- The other declarations, in the order of the source. -/
  redeclared : List Redeclaration

/-- Adds a declaration to those before it. -/
def Settled.add (s : Settled) (d : Declaration) : Settled :=
  match s.tests.find? (·.sameTest d) with
  | none => { s with tests := s.tests ++ [d] }
  | some first =>
      { s with redeclared := s.redeclared ++ [⟨d.name, d.classPath, d.line, first.line⟩] }

/-- Separates the first declarations from the others. -/
def settle (ds : List Declaration) : Settled := ds.foldl Settled.add ⟨[], []⟩

/-! ## Discovery -/

/-- The tests of a file. -/
structure ParsedFile where
  /-- The path of the file, as reported. -/
  path : String
  /-- The tests, by line. -/
  tests : List Declaration
  /-- The redeclarations, in the order of the source. -/
  redeclared : List Redeclaration

/-- The order of tests in a file: by line, and by name on one line. -/
def Declaration.comesBefore (a b : Declaration) : Bool :=
  a.line < b.line || (a.line == b.line && a.name ≤ b.name)

/-- The tests of the statements of a source. -/
def discoverIn (rules : NamingRules) (path : String) (statements : List Statement) :
    ParsedFile :=
  let s := settle (declarations rules (Scope.ofModule rules statements) statements)
  ⟨path, s.tests.mergeSort Declaration.comesBefore, s.redeclared⟩

/-- The tests of a source. -/
def discover (rules : NamingRules) (path : String) (source : String) :
    Except SyntaxFailure ParsedFile :=
  (readSource source).map (discoverIn rules path)

end TestCensus
