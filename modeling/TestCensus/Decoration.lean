import TestCensus.Category
import TestCensus.MarkerSet
import TestCensus.Number.Count

/-!
# Decorations

A decoration is what the census keeps of a decorator, or of an element of a
module's marker list: a bare name, a dotted path of names, a call of another
decoration, or the source text of anything else.  Of an argument only the length
of a literal list or tuple is kept.  `Decoration` is read off the syntax tree
elsewhere; here are the three questions asked of it.

* Which category does it name?  `category?` knows three shapes: the path
  `ns.mark.c`, a call of that path, and the bare name `c`, where `ns` is the
  configured module name and `c` belongs to the taxonomy.
* Is it a call of `ns.mark.a` for a given `a`?  `isMarkCall` says so.
* By what factor does it multiply the instances of its test?  `factor` is the
  number of literal argument values, at least one, and `instances` multiplies
  the factors of the parametrizing calls of a decorator list.
-/

namespace TestCensus

/-- What is known of an argument's value without evaluating anything. -/
inductive ArgumentValue where
  /-- A list or tuple literal without unpacking, of a known length. -/
  | sequence (length : Nat)
  /-- Any other expression. -/
  | unsized
deriving DecidableEq, Repr, Inhabited

/-- One argument of a call. -/
inductive Argument where
  /-- An argument known by its position. -/
  | positional (value : ArgumentValue)
  /-- An argument known by its name. -/
  | keyword (name : String) (value : ArgumentValue)
  /-- An unpacked sequence or mapping. -/
  | splat
deriving DecidableEq, Repr, Inhabited

/-- The shape of a decorator or of an element of a marker list. -/
inductive Decoration where
  /-- A bare name. -/
  | name (id : String)
  /-- Names joined by dots, first to last. -/
  | dotted (segments : List String)
  /-- A call of another decoration. -/
  | call (callee : Decoration) (arguments : List Argument)
  /-- Anything else, as its source text. -/
  | other (text : String)
deriving Repr, Inhabited

namespace Decoration

/-! ## Categories -/

/-- The last segment of a path `ns.mark.segment`. -/
def markSegment? (ns : String) : List String → Option String
  | [first, second, segment] =>
      if first = ns ∧ second = "mark" then some segment else none
  | _ => none

/-- The category of a path `ns.mark.c`. -/
def pathCategory? (ns : String) (segments : List String) : Option Category :=
  (markSegment? ns segments).bind Category.named?

/-- The category a decoration names, if it names one. -/
def category? (ns : String) : Decoration → Option Category
  | .dotted segments => pathCategory? ns segments
  | .call (.dotted segments) _ => pathCategory? ns segments
  | .call _ _ => none
  | .name id => Category.named? id
  | .other _ => none

/-- The names of the categories that a list of decorations names, in the order
of the list. -/
def categoryNames (ns : String) (decorations : List Decoration) : List String :=
  decorations.filterMap fun a => (a.category? ns).map Category.name

/-- The markers a list of decorations contributes. -/
def markers (ns : String) (decorations : List Decoration) : MarkerSet :=
  MarkerSet.ofList (categoryNames ns decorations)

/-- The decoration is a call of `ns.mark.member`. -/
def isMarkCall (ns member : String) : Decoration → Bool
  | .call (.dotted segments) _ => markSegment? ns segments == some member
  | _ => false

/-! ## Instances -/

/-- The values of the positional arguments, in order.  Keywords and unpackings
take no position. -/
def positionals : Decoration → List ArgumentValue
  | .call _ arguments =>
      arguments.filterMap fun
        | .positional value => some value
        | _ => none
  | _ => []

/-- The value of the first argument of the given name. -/
def keyword? (name : String) : Decoration → Option ArgumentValue
  | .call _ arguments =>
      arguments.findSome? fun
        | .keyword key value => if key = name then some value else none
        | _ => none
  | _ => none

/-- The argument values of a parametrizing call: the second positional argument,
or else the argument named `argvalues`. -/
def argumentValues? (a : Decoration) : Option ArgumentValue :=
  match a.positionals[1]? with
  | some value => some value
  | none => a.keyword? "argvalues"

/-- How many instances one parametrizing call makes of one.  An empty list still
makes one, which is skipped when it runs. -/
def factor (a : Decoration) : Count :=
  match a.argumentValues? with
  | some (.sequence length) => Count.ofNat (max 1 length)
  | _ => 1

/-- The number of instances that a test with these decorators expands into. -/
def instances (ns : String) (decorators : List Decoration) : Count :=
  ((decorators.filter (isMarkCall ns "parametrize")).map factor).foldl Count.mul 1

end Decoration

end TestCensus
