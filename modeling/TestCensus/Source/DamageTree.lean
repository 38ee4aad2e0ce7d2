import TestCensus.Source.Token

/-!
# Trees with damage

A source that cannot be read leaves a tree in which damaged places are marked:
an *error* node stands for text that fits nothing, and a *missing* node for a
token that had to be added.  Every node carries a flag that says whether there is
damage at it or below it.  `damage` counts the damaged places and lists them in
the order of the tree.  It does not enter nodes whose flag is down.
-/

namespace TestCensus.Source

/-- How a node of a damaged tree was read. -/
inductive NodeState where
  /-- As the grammar says. -/
  | sound
  /-- Text that fits nothing. -/
  | error
  /-- A token that had to be added. -/
  | missing
deriving DecidableEq, Repr

/-- A node of a tree that may be damaged. -/
inductive DamageTree where
  /-- A node with its place, its flag and its children. -/
  | node (state : NodeState) (place : Position) (flag : Bool) (children : List DamageTree)

namespace DamageTree

/-- How the node was read. -/
def state : DamageTree → NodeState
  | .node s _ _ _ => s

/-- Where the node starts. -/
def place : DamageTree → Position
  | .node _ p _ _ => p

/-- The flag of the node. -/
def flag : DamageTree → Bool
  | .node _ _ f _ => f

/-- The children of the node. -/
def children : DamageTree → List DamageTree
  | .node _ _ _ cs => cs

/-- The node itself is damaged. -/
def isDamaged (t : DamageTree) : Bool := t.state != .sound

/-- What a search for damage has found.  A tree has fewer nodes than 32 bits can
count, so the count is a plain number. -/
structure Findings where
  /-- The number of damaged places. -/
  count : Nat
  /-- The damaged places, the first one first. -/
  places : List Position
deriving DecidableEq, Repr

mutual

/-- What is found in a tree after other findings, a node before its children.
Children are visited only where the flag is up. -/
def search (found : Findings) : DamageTree → Findings
  | .node s p f cs =>
      let noted := if s = .sound then found else ⟨found.count + 1, found.places ++ [p]⟩
      if f then searchAll noted cs else noted

/-- What is found in several trees, one tree after the other. -/
def searchAll (found : Findings) : List DamageTree → Findings
  | [] => found
  | t :: rest => searchAll (search found t) rest

end

/-- The damage of a tree. -/
def damage (t : DamageTree) : Findings := search ⟨0, []⟩ t

/-- A node whose flag says what is true of it. -/
def flagged (s : NodeState) (p : Position) (cs : List DamageTree) : DamageTree :=
  .node s p (s != .sound || cs.any flag) cs

end DamageTree

end TestCensus.Source
