import TestCensus.Source.Statement
import TestCensus.Source.DamageTree

/-!
# Reading a source

`readSource` gives the statements of a source, or a `SyntaxFailure`: how many
places are damaged, and where the first of them is.  Lines and columns are
counted from one, and a column is counted in bytes.
-/

namespace TestCensus.Source

/-- Why a source has no statements. -/
structure SyntaxFailure where
  /-- The line of the first damaged place, counted from one. -/
  line : Nat
  /-- The column of the first damaged place, counted from one. -/
  column : Nat
  /-- The number of damaged places. -/
  count : Nat
deriving DecidableEq, Repr

/-- The tree that is left when the reading of a source was stopped. -/
def Damage.tree : Damage → DamageTree
  | .unexpected p => .flagged .sound ⟨0, 0⟩ [.flagged .error p []]
  | .broken p => .flagged .sound ⟨0, 0⟩ [.flagged .error p []]
  | .missing p => .flagged .sound ⟨0, 0⟩ [.flagged .missing p []]

/-- The damage of a tree.  A tree without a damaged place would be reported at its
beginning. -/
def DamageTree.failure (t : DamageTree) : SyntaxFailure :=
  let found := t.damage
  match found.places.head? with
  | some p => ⟨p.line + 1, p.column + 1, found.count⟩
  | none => ⟨1, 1, found.count⟩

/-- The statements of a source. -/
def readSource (source : String) : Except SyntaxFailure (List Statement) :=
  match parse source.toList with
  | .ok statements => .ok statements
  | .error d => .error d.tree.failure

end TestCensus.Source
