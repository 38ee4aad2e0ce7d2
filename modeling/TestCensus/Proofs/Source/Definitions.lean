import TestCensus.Source.Tree

/-!
# The function definitions of a tree

`definitions` lists every function definition of a tree in the order of the
source, those in function bodies, loops and cases included.  Each comes with what
it stands in, outermost first: the class bodies, function bodies and blocks of
compound statements between the module and the definition.  Nothing is selected
here; which definitions are tests is said elsewhere in terms of this list.

`openings` lists the definitions of classes as well, in the order in which a reader
meets them, and without what they hold.  Its functions are those of `definitions`
(`openings_heads`).
-/

namespace TestCensus.Source

/-- What a definition stands in. -/
inductive Surrounding where
  /-- The body of a class. -/
  | classBody (decorators : List Decorator) (name : String) (body : List Statement)
  /-- The body of a function. -/
  | functionBody (head : FunctionHead)
  /-- A block of a compound statement. -/
  | block (kind : CompoundKind)

/-- A function definition of a tree with what it stands in. -/
structure Definition where
  /-- What the definition stands in, outermost first. -/
  around : List Surrounding
  /-- The decorators of the function, outermost first. -/
  decorators : List Decorator
  /-- What the definition says before the body. -/
  head : FunctionHead
  /-- The body. -/
  body : List Statement

/-- The definition with one more thing around it. -/
def Definition.within (s : Surrounding) (d : Definition) : Definition :=
  { d with around := s :: d.around }

@[simp] theorem Definition.within_head (s : Surrounding) (d : Definition) :
    (d.within s).head = d.head := rfl

mutual

/-- The definitions of a statement. -/
def definitionsOf : Statement → List Definition
  | .filler _ => []
  | .small _ => []
  | .function decorators head body =>
      ⟨[], decorators, head, body⟩ :: (definitions body).map (·.within (.functionBody head))
  | .classDef decorators name body =>
      (definitions body).map (·.within (.classBody decorators name body))
  | .compound kind blocks => (definitionsInBlocks blocks).map (·.within (.block kind))

/-- The definitions of a list of statements. -/
def definitions : List Statement → List Definition
  | [] => []
  | s :: rest => definitionsOf s ++ definitions rest

/-- The definitions of several blocks. -/
def definitionsInBlocks : List (List Statement) → List Definition
  | [] => []
  | block :: rest => definitions block ++ definitionsInBlocks rest

end

/-! ## Heads -/

/-- The heads of the function definitions of a list of statements. -/
def heads (ss : List Statement) : List FunctionHead := (definitions ss).map Definition.head

/-- The heads of the function definitions of several blocks. -/
def headsInBlocks (blocks : List (List Statement)) : List FunctionHead :=
  (definitionsInBlocks blocks).map Definition.head

/-! ## Openings -/

/-- What opens a definition. -/
inductive Opening where
  /-- The head of a function definition. -/
  | function (head : FunctionHead)
  /-- The name of a class definition. -/
  | classDef (name : String)

/-- The head of a function definition. -/
def Opening.head? : Opening → Option FunctionHead
  | .function head => some head
  | .classDef _ => none

mutual

/-- The openings of the definitions of a statement. -/
def openingsOf : Statement → List Opening
  | .filler _ => []
  | .small _ => []
  | .function _ head body => .function head :: openings body
  | .classDef _ name body => .classDef name :: openings body
  | .compound _ blocks => openingsInBlocks blocks

/-- The openings of the definitions of a list of statements, in the order of the source. -/
def openings : List Statement → List Opening
  | [] => []
  | s :: rest => openingsOf s ++ openings rest

/-- The openings of the definitions of several blocks. -/
def openingsInBlocks : List (List Statement) → List Opening
  | [] => []
  | block :: rest => openings block ++ openingsInBlocks rest

end

@[simp] theorem openings_nil : openings [] = [] := rfl

@[simp] theorem openings_append (ss ts : List Statement) :
    openings (ss ++ ts) = openings ss ++ openings ts := by
  induction ss with
  | nil => rfl
  | cons s rest ih => simp [openings, ih]

theorem openings_cons (s : Statement) (ss : List Statement) :
    openings (s :: ss) = openings [s] ++ openings ss :=
  openings_append [s] ss

@[simp] theorem openings_filler (f : Filler) : openings [.filler f] = [] := rfl

@[simp] theorem openings_small (s : SmallStatement) : openings [.small s] = [] := rfl

@[simp] theorem openings_function (decorators : List Decorator) (head : FunctionHead)
    (body : List Statement) :
    openings [.function decorators head body] = .function head :: openings body := by
  simp [openings, openingsOf]

@[simp] theorem openings_classDef (decorators : List Decorator) (name : String)
    (body : List Statement) :
    openings [.classDef decorators name body] = .classDef name :: openings body := by
  simp [openings, openingsOf]

@[simp] theorem openings_compound (kind : CompoundKind) (blocks : List (List Statement)) :
    openings [.compound kind blocks] = openingsInBlocks blocks := by
  simp [openings, openingsOf]

@[simp] theorem openings_fillers (fs : List Filler) : openings (fs.map Statement.filler) = [] := by
  induction fs with
  | nil => rfl
  | cons f rest ih => rw [List.map_cons, openings_cons, ih, openings_filler, List.nil_append]

@[simp] theorem openingsInBlocks_nil : openingsInBlocks [] = [] := rfl

@[simp] theorem openingsInBlocks_cons (block : List Statement) (rest : List (List Statement)) :
    openingsInBlocks (block :: rest) = openings block ++ openingsInBlocks rest := rfl

@[simp] theorem openingsInBlocks_append (bs cs : List (List Statement)) :
    openingsInBlocks (bs ++ cs) = openingsInBlocks bs ++ openingsInBlocks cs := by
  induction bs with
  | nil => rfl
  | cons block rest ih => simp [ih]

/-! ## What opens the definitions of a tree -/

mutual

theorem openingsOf_heads (s : Statement) :
    (openingsOf s).filterMap Opening.head? = (definitionsOf s).map Definition.head := by
  cases s with
  | filler f => rfl
  | small s => rfl
  | function decorators head body =>
      have hhead : (Opening.function head).head? = some head := rfl
      rw [openingsOf, List.filterMap_cons_some hhead, openings_heads body]
      simp [definitionsOf, heads]
  | classDef decorators name body =>
      have hhead : (Opening.classDef name).head? = none := rfl
      rw [openingsOf, List.filterMap_cons_none hhead, openings_heads body]
      simp [definitionsOf, heads]
  | compound kind blocks =>
      have hblocks := openingsInBlocks_heads blocks
      simp [openingsOf, definitionsOf, hblocks, headsInBlocks]

/-- The function definitions among the openings have the heads of the definitions. -/
theorem openings_heads (ss : List Statement) :
    (openings ss).filterMap Opening.head? = heads ss := by
  cases ss with
  | nil => rfl
  | cons s rest =>
      have hs := openingsOf_heads s
      have hrest := openings_heads rest
      simp [openings, heads, definitions, hs, hrest]

theorem openingsInBlocks_heads (blocks : List (List Statement)) :
    (openingsInBlocks blocks).filterMap Opening.head? = headsInBlocks blocks := by
  cases blocks with
  | nil => rfl
  | cons block rest =>
      have hblock := openings_heads block
      have hrest := openingsInBlocks_heads rest
      simp [openingsInBlocks, headsInBlocks, definitionsInBlocks, hblock, hrest, heads]

end

end TestCensus.Source
