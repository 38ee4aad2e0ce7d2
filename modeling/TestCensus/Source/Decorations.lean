import TestCensus.Decoration
import TestCensus.Docstring
import TestCensus.Source.Tree

/-!
# What a tree says about a test

Decorators, marker assignments and docstrings are read off the syntax tree here.

Brackets around a single expression mean nothing: `value` and `decoration` look
through them.  A comment between brackets is no part of a literal or of an
argument list.  An escaped line end is a part like any other, so it makes a
literal longer and keeps brackets from being looked through.  In front of the first
statement of a block neither is part of the block.
-/

namespace TestCensus.Source

/-- The parts between brackets that are not comments. -/
def solid (parts : List Part) : List Part := parts.filter (!·.isComment)

/-! ## Values of arguments -/

mutual

/-- The expression unpacks a sequence, in brackets or not.  Fillers in the brackets
do not matter. -/
def Expr.unpacks : Expr → Bool
  | .splat _ _ => true
  | .parens parts _ => anyUnpacks parts
  | _ => false

/-- One of the parts unpacks a sequence. -/
def anyUnpacks : List Part → Bool
  | [] => false
  | .filler _ :: rest => anyUnpacks rest
  | .item e :: rest => e.unpacks || anyUnpacks rest

end

/-- What is known of a literal with these parts. -/
def sequenceValue (parts : List Part) : ArgumentValue :=
  if anyUnpacks parts then .unsized else .sequence (solid parts).length

mutual

/-- What is known of the value of an expression. -/
def Expr.value : Expr → ArgumentValue
  | .list parts _ => sequenceValue parts
  | .tuple parts _ => sequenceValue parts
  | .parens parts _ => onlyValue parts
  | _ => .unsized

/-- What is known of the value of the only part. -/
def onlyValue : List Part → ArgumentValue
  | [] => .unsized
  | .filler f :: rest => if f.isComment then onlyValue rest else .unsized
  | .item e :: rest => if (solid rest).isEmpty then e.value else .unsized

end

/-- The argument of a part of a call.  An escaped line end is an argument whose
value is not known. -/
def ArgumentPart.argument : ArgumentPart → Argument
  | .filler _ => .positional .unsized
  | .positional e => .positional e.value
  | .keyword name e => .keyword name e.value
  | .splat => .splat
  | .generator => .positional .unsized

/-- The arguments of a call. -/
def argumentsOf (parts : List ArgumentPart) : List Argument :=
  (parts.filter (!·.isComment)).map ArgumentPart.argument

/-! ## Decorations -/

/-- The names of a chain of members that starts with a name. -/
def Expr.dotted? : Expr → Option (List String)
  | .name id => some [id]
  | .attribute object member _ => object.dotted?.map (· ++ [member])
  | _ => none

mutual

/-- The decoration that an expression is. -/
def Expr.decoration : Expr → Decoration
  | .name id => .name id
  | .attribute object member text =>
      match object.dotted? with
      | some segments => .dotted (segments ++ [member])
      | none => .other text
  | .call callee parts => .call callee.decoration (argumentsOf parts)
  | .parens parts text => onlyDecoration text parts
  | .list _ text => .other text
  | .tuple _ text => .other text
  | .literal text => .other text
  | .literals _ text => .other text
  | .subscript text => .other text
  | .splat _ text => .other text
  | .other text => .other text

/-- The decoration that the only part in brackets is; `text` is the text of the
brackets. -/
def onlyDecoration (text : String) : List Part → Decoration
  | [] => .other text
  | .filler f :: rest => if f.isComment then onlyDecoration text rest else .other text
  | .item e :: rest => if (solid rest).isEmpty then e.decoration else .other text

end

/-- The decoration of a part. -/
def Part.decoration : Part → Decoration
  | .filler (.comment text) => .other text
  | .filler (.continuation text) => .other text
  | .item e => e.decoration

/-- The decoration of a decorator, which is that of its first part. -/
def decoratorDecoration? (d : Decorator) : Option Decoration :=
  (solid d).head?.map Part.decoration

/-- The decorations of a list of decorators. -/
def decorations (ds : List Decorator) : List Decoration := ds.filterMap decoratorDecoration?

/-! ## Marker assignments -/

/-- The name whose assignment marks all tests of a module or class. -/
def markerVariable : String := "pytestmark"

/-- The decorations that a marker assignment lists: the elements of a bracketed
list or tuple, or the value itself. -/
def Assigned.decorations : Assigned → List Decoration
  | .single (.list parts _) => (solid parts).map Part.decoration
  | .single (.tuple parts _) => (solid parts).map Part.decoration
  | .single e => [e.decoration]
  | .row _ => []
  | .other => []

/-- The decorations of a statement that is a marker assignment. -/
def Statement.markerDecorations : Statement → List Decoration
  | .small (.assignment (some name) (some value)) =>
      if name = markerVariable then value.decorations else []
  | _ => []

/-- The decorations of the marker assignments directly in a block. -/
def blockDecorations (block : List Statement) : List Decoration :=
  block.flatMap Statement.markerDecorations

/-! ## Docstrings -/

/-- The statement is a comment or an escaped line end. -/
def Statement.isFiller : Statement → Bool
  | .filler _ => true
  | _ => false

/-- The literals of a statement that consists of literals only. -/
def Statement.literals? : Statement → Option (List String)
  | .small (.expressions parts _) =>
      match solid parts with
      | [.item (.literal text)] => some [text]
      | [.item (.literals pieces _)] => some pieces
      | _ => none
  | _ => none

/-- The docstring of a function with this body. -/
def docstring? (body : List Statement) : Option String :=
  match body.filter (!·.isFiller) with
  | [] => none
  | s :: _ =>
      (s.literals?.bind fun pieces => Docstring.ofLiterals? (pieces.map String.toList)).map
        String.ofList

end TestCensus.Source
