import TestCensus.Proofs.Tally.Accounts

/-!
# The uncategorized amount

A tally states the uncategorized amount twice.  The reports show what the
categorized amount leaves of the total (`Tally.uncategorized`), and the issue about
functions without markers shows the sum over these functions (`Tally.gapInstances`).

The second number is the running sum over the listed functions, whatever the
counts are.  The first one is a difference of sums that were cut to the limit, and
once the exact total passes the limit it is too small unless one of the two parts
is empty.
-/

namespace TestCensus.Tally

/-- The number of instances in the issue about functions without markers, and zero
where there is no such issue. -/
def gapInstances (t : Tally) : Count :=
  match t.issues with
  | [] => 0
  | .gap _ instances :: _ => instances

/-- The issue counts the listed functions. -/
theorem gapInstances_eq (t : Tally) :
    t.gapInstances = countInstances t.uncategorizedFunctions := by
  unfold gapInstances issues
  by_cases hempty : t.uncategorizedFunctions.isEmpty = true
  · rw [if_pos hempty, List.isEmpty_iff.1 hempty]
    rfl
  · rw [if_neg hempty]

/-- The uncategorized amount that the reports show is the one of the issue, which is
the sum over the functions without markers, exactly when the exact total is within
the limit, or all instances are categorized, or none are. -/
theorem uncategorized_eq_gap_iff (t : Tally) :
    t.gapInstances = countInstances t.uncategorizedFunctions ∧
      (t.uncategorized = t.gapInstances ↔
        exactInstances t.functions ≤ Count.limit ∨
          exactInstances (t.functions.filter (·.isCategorized)) = 0 ∨
          exactInstances t.uncategorizedFunctions = 0) := by
  have hsplit := t.exactInstances_split
  have htotal := t.total_val
  have hcategorized := t.categorized_val
  have hlisted := countInstances_val t.uncategorizedFunctions
  have hshown : t.uncategorized.val = t.total.val - t.categorized.val := rfl
  refine ⟨t.gapInstances_eq, ?_⟩
  rw [gapInstances_eq]
  have hval : t.uncategorized = countInstances t.uncategorizedFunctions ↔
      t.uncategorized.val = (countInstances t.uncategorizedFunctions).val :=
    ⟨congrArg Count.val, Count.ext⟩
  have hlimit : 0 < Count.limit := by decide
  rw [hval, hshown, htotal, hcategorized, hlisted, ← hsplit]
  omega

/-- A suite whose categorized instances alone reach the limit. -/
def overfull : Tally :=
  { files := [⟨"test_a.py",
      [⟨"test_a", none, "test_a.py", 1, MarkerSet.ofList ["unit"], false, none,
          Count.ofNat Count.limit⟩,
        ⟨"test_b", none, "test_a.py", 2, ∅, false, none, 1⟩]⟩]
    collected := none
    recorded := [] }

/-- The reports of this suite show no uncategorized instance, and its issue shows
one. -/
theorem overfull_uncategorized_ne :
    overfull.uncategorized = 0 ∧ overfull.gapInstances = 1 ∧
      overfull.uncategorized ≠ countInstances overfull.uncategorizedFunctions := by
  decide +kernel

end TestCensus.Tally
