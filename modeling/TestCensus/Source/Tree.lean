import TestCensus.Source.Layout

/-!
# Syntax trees

The tree of a source keeps apart what the census looks at and folds up the rest.

An expression is a name, an attribute, a call, a bracketed list or tuple, a
string literal, or something else of which only the text is kept.  Brackets hold
*parts*: the expressions between the commas together with the fillers that stand
among them, in source order.

A statement is a function or class definition, a compound statement with its
blocks, or a small statement, which is an assignment, a row of expressions or
anything else on one line.  A compound statement is a condition, a guarded block,
a managed block, a loop or a case distinction.  Fillers between statements are kept
in the block, like statements.
-/

namespace TestCensus.Source

/-! ## Expressions -/

mutual

/-- An expression.  The last text of a constructor is the source text. -/
inductive Expr where
  /-- A name. -/
  | name (id : String)
  /-- A member of an object. -/
  | attribute (object : Expr) (member : String) (text : String)
  /-- A call with the parts between its brackets. -/
  | call (callee : Expr) (arguments : List ArgumentPart)
  /-- One expression in brackets, or a yield. -/
  | parens (parts : List Part) (text : String)
  /-- A list literal. -/
  | list (parts : List Part) (text : String)
  /-- A tuple literal in brackets. -/
  | tuple (parts : List Part) (text : String)
  /-- One string literal. -/
  | literal (text : String)
  /-- Several adjacent string literals. -/
  | literals (pieces : List String) (text : String)
  /-- A subscription. -/
  | subscript (text : String)
  /-- An unpacked sequence; `bindable` says that it may be assigned to. -/
  | splat (bindable : Bool) (text : String)
  /-- Any other expression. -/
  | other (text : String)

/-- What stands between brackets. -/
inductive Part where
  /-- A comment or an escaped line end. -/
  | filler (f : Filler)
  /-- An expression. -/
  | item (e : Expr)

/-- What stands between the brackets of a call. -/
inductive ArgumentPart where
  /-- A comment or an escaped line end. -/
  | filler (f : Filler)
  /-- An argument known by its position. -/
  | positional (e : Expr)
  /-- An argument known by its name. -/
  | keyword (name : String) (value : Expr)
  /-- An unpacked sequence or mapping. -/
  | splat
  /-- A generator, which is the only argument and has no brackets of its own. -/
  | generator

end

instance : Inhabited Expr := ⟨.other ""⟩

/-- The text of an expression that is not a name, or the name. -/
def Expr.text : Expr → String
  | .name id => id
  | .attribute _ _ text => text
  | .call _ _ => ""
  | .parens _ text => text
  | .list _ text => text
  | .tuple _ text => text
  | .literal text => text
  | .literals _ text => text
  | .subscript text => text
  | .splat _ text => text
  | .other text => text

/-- The part is a comment. -/
def Part.isComment : Part → Bool
  | .filler f => f.isComment
  | .item _ => false

/-- The part of a call is a comment. -/
def ArgumentPart.isComment : ArgumentPart → Bool
  | .filler f => f.isComment
  | _ => false

/-- The expression may be assigned to behind a star. -/
def Expr.isBindable : Expr → Bool
  | .name _ | .attribute _ _ _ | .subscript _ => true
  | _ => false

/-- An operand behind a star: a name is unpacked at once.  `text` is the text of the star and the
operand. -/
def Expr.starred (text : String) : Expr → Expr
  | .name _ => .splat true text
  | e => e

/-- What an operand with a star before it is, if the star may stand there.  It unpacks a name, a
member or a subscription, and a call behind one of them calls what is unpacked. -/
def Expr.unpacked? : Expr → Option Expr
  | .splat bindable text => some (.splat bindable text)
  | .attribute _ _ text => some (.splat true text)
  | .subscript text => some (.splat true text)
  | .call callee arguments => callee.unpacked?.map (.call · arguments)
  | _ => none

/-- The expression is an unpacked sequence. -/
def Expr.isSplat : Expr → Bool
  | .splat _ _ => true
  | _ => false

mutual

/-- The expression may stand to the left of an assignment. -/
def Expr.isTarget : Expr → Bool
  | .name _ => true
  | .attribute _ _ _ => true
  | .subscript _ => true
  | .splat bindable _ => bindable
  | .parens parts _ => areTargets parts
  | .list parts _ => areTargets parts
  | .tuple parts _ => areTargets parts
  | _ => false

/-- All expressions among the parts may be assigned to. -/
def areTargets : List Part → Bool
  | [] => true
  | .filler _ :: rest => areTargets rest
  | .item e :: rest => e.isTarget && areTargets rest

end

/-! ## Statements -/

/-- The value of an assignment. -/
inductive Assigned where
  /-- One expression. -/
  | single (e : Expr)
  /-- A row of expressions without brackets. -/
  | row (parts : List Part)
  /-- A yield or a further assignment. -/
  | other

/-- What a compound statement is. -/
inductive CompoundKind where
  /-- `if` with its further conditions and `else`. -/
  | conditional
  /-- `try` with its handlers, `else` and `finally`. -/
  | guarded
  /-- `with`, also of a coroutine. -/
  | managed
  /-- `for` and `while` with `else`, also of a coroutine. -/
  | loop
  /-- `match` with its cases. -/
  | cases
deriving DecidableEq, Repr

/-- What a function definition says before its body. -/
structure FunctionHead where
  /-- The name. -/
  name : String
  /-- The function is a coroutine. -/
  isAsync : Bool
  /-- The line of the first word, counted from one. -/
  line : Nat
deriving DecidableEq, Repr

/-- A decorator, with the fillers before its expression. -/
abbrev Decorator := List Part

/-- A statement on one line. -/
inductive SmallStatement where
  /-- Expressions between commas; `comma` says that there is a comma, which may stand
  behind the last. -/
  | expressions (parts : List Part) (comma : Bool)
  /-- An assignment, plain or with a type; `target` is the name that it assigns,
  if it assigns one name. -/
  | assignment (target : Option String) (value : Option Assigned)
  /-- Any other statement on one line. -/
  | simple

/-- A statement, or a filler between statements. -/
inductive Statement where
  /-- A comment or an escaped line end. -/
  | filler (f : Filler)
  /-- A statement on one line. -/
  | small (s : SmallStatement)
  /-- A function definition. -/
  | function (decorators : List Decorator) (head : FunctionHead) (body : List Statement)
  /-- A class definition. -/
  | classDef (decorators : List Decorator) (name : String) (body : List Statement)
  /-- A compound statement with its blocks in order. -/
  | compound (kind : CompoundKind) (blocks : List (List Statement))

instance : Inhabited Statement := ⟨.small .simple⟩

end TestCensus.Source
