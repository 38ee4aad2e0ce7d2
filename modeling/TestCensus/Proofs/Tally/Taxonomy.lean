import TestCensus.Proofs.Tally.Accounts

/-!
# The split and the taxonomy

A suite is split by whether a function has a marker at all, and the table of categories
counts the markers that belong to the taxonomy.  The two agree as long as markers come from
a source, where only categories are recognized.  A tally may be made of any functions, and
then some may be *stray*: they have markers, and none of them is a category.

A stray function counts as categorized and in no category (`Tally.strays_counted`).  So the
split follows the taxonomy exactly if no function of the suite is stray
(`Tally.followsTaxonomy_iff`).
-/

namespace TestCensus

namespace TestFunction

/-- The function has a marker that belongs to the taxonomy. -/
def hasCategory (f : TestFunction) : Bool := f.markers.names.any Category.isKnown

/-- The function has markers, and none of them belongs to the taxonomy. -/
def isStray (f : TestFunction) : Bool := f.isCategorized && !f.hasCategory

theorem hasCategory_iff {f : TestFunction} :
    f.hasCategory = true ↔ ∃ c ∈ f.markers, c ∈ Category.names := by
  simp only [hasCategory, List.any_eq_true, Category.isKnown_iff, MarkerSet.mem_def]

/-- A function with a category has a marker. -/
theorem isCategorized_of_hasCategory {f : TestFunction} (h : f.hasCategory = true) :
    f.isCategorized = true := by
  obtain ⟨c, hc, -⟩ := hasCategory_iff.1 h
  exact isCategorized_iff.2 ⟨c, hc⟩

/-- A function that is not stray has a marker exactly if it has a category. -/
theorem isCategorized_eq_hasCategory {f : TestFunction} (h : f.isStray = false) :
    f.isCategorized = f.hasCategory := by
  cases hcategory : f.hasCategory with
  | true => exact isCategorized_of_hasCategory hcategory
  | false => simpa [isStray, hcategory] using h

/-- A stray function is counted in no category. -/
theorem isMarked_of_isStray {f : TestFunction} (h : f.isStray = true) {c : String}
    (hc : c ∈ Category.names) : f.isMarked c = false := by
  refine Bool.eq_false_iff.2 fun hmarked => ?_
  have hcategory := hasCategory_iff.2 ⟨c, isMarked_iff.1 hmarked, hc⟩
  simp [isStray, hcategory] at h

end TestFunction

namespace Tally

variable (t : Tally)

/-- The split of a suite follows the taxonomy. -/
structure FollowsTaxonomy : Prop where
  /-- A function counts as categorized exactly if one of its markers is a category. -/
  split : ∀ f ∈ t.functions,
    f.isCategorized = true ↔ ∃ c ∈ f.markers, c ∈ Category.names
  /-- The categorized amount is the sum over these functions. -/
  categorized : t.categorized.val =
    min (exactInstances (t.functions.filter (·.hasCategory))) Count.limit
  /-- All other functions are listed, in their order. -/
  uncategorized : t.uncategorizedFunctions = t.functions.filter (!·.hasCategory)
  /-- The issue counts them, and there is one if there are any. -/
  issues : t.issues =
    if (t.functions.filter (!·.hasCategory)).isEmpty then []
    else [.gap (t.functions.filter (!·.hasCategory)).length
      (countInstances (t.functions.filter (!·.hasCategory)))]
  /-- A categorized function is one of those over which the count of some category is
  the sum. -/
  contributes : ∀ f ∈ t.functions, f.isCategorized = true →
    ∃ c ∈ Category.names, f ∈ t.functions.filter (·.isMarked c) ∧
      ∃ n, t.staticCounts.get? c = some n ∧
        n.val = min (exactInstances (t.functions.filter (·.isMarked c))) Count.limit

/-- If no function is stray, the split follows the taxonomy. -/
theorem followsTaxonomy_of_no_strays (h : ∀ f ∈ t.functions, f.isStray = false) :
    t.FollowsTaxonomy := by
  have hsplit : ∀ f ∈ t.functions, f.isCategorized = f.hasCategory := fun f hf =>
    TestFunction.isCategorized_eq_hasCategory (h f hf)
  have huncategorized : t.uncategorizedFunctions = t.functions.filter (!·.hasCategory) := by
    rw [uncategorizedFunctions_eq]
    exact List.filter_congr fun f hf => by rw [hsplit f hf]
  constructor
  · intro f hf
    rw [hsplit f hf, TestFunction.hasCategory_iff]
  · rw [categorized_val, List.filter_congr hsplit]
  · exact huncategorized
  · rw [issues, huncategorized]
  · intro f hf hcategorized
    rw [hsplit f hf, TestFunction.hasCategory_iff] at hcategorized
    obtain ⟨c, hmarker, hc⟩ := hcategorized
    have hbalanced := t.accounts_balanced
    obtain ⟨n, hn⟩ := CountTable.exists_get? (hbalanced.names.mem_iff.2 hc)
    have hval := hbalanced.perCategory _ (CountTable.get?_eq_some_mem hn)
    exact ⟨c, hc, List.mem_filter.2 ⟨hf, TestFunction.isMarked_iff.2 hmarker⟩, n, hn, hval⟩

/-- Stray functions count for the categorized amount and for nothing else: they are not
listed, and no category counts them. -/
theorem strays_counted :
    t.categorized.val = min (exactInstances (t.functions.filter (·.hasCategory)) +
        exactInstances (t.functions.filter (·.isStray))) Count.limit ∧
      ∀ f ∈ t.functions, f.isStray = true →
        f ∉ t.uncategorizedFunctions ∧ ∀ c ∈ Category.names, f.isMarked c = false := by
  constructor
  · have hadd := exactInstances_filter_add (·.hasCategory) (t.functions.filter (·.isCategorized))
    rw [List.filter_filter, List.filter_filter] at hadd
    have hkept : t.functions.filter (fun f => f.hasCategory && f.isCategorized) =
        t.functions.filter (·.hasCategory) := by
      refine List.filter_congr fun f _ => ?_
      cases hcategory : f.hasCategory with
      | true => rw [TestFunction.isCategorized_of_hasCategory hcategory, Bool.and_true]
      | false => rfl
    have hstray : t.functions.filter (fun f => !f.hasCategory && f.isCategorized) =
        t.functions.filter (·.isStray) :=
      List.filter_congr fun f _ => Bool.and_comm _ _
    rw [hkept, hstray] at hadd
    rw [categorized_val, hadd]
  · intro f _ hstray
    refine ⟨fun hlisted => ?_, fun c hc => TestFunction.isMarked_of_isStray hstray hc⟩
    rw [uncategorizedFunctions_eq] at hlisted
    have hunmarked := (List.mem_filter.1 hlisted).2
    simp only [TestFunction.isStray, Bool.and_eq_true] at hstray
    rw [hstray.1] at hunmarked
    cases hunmarked

/-- The split of a suite follows the taxonomy exactly if every function that has a marker has
one that is a category.  Functions for which this fails are counted as categorized
without being counted in any category. -/
theorem followsTaxonomy_iff :
    (t.FollowsTaxonomy ↔
      ∀ f ∈ t.functions, f.markers.isEmpty = false → ∃ c ∈ f.markers, c ∈ Category.names) ∧
    t.categorized.val = min (exactInstances (t.functions.filter (·.hasCategory)) +
        exactInstances (t.functions.filter (·.isStray))) Count.limit ∧
    ∀ f ∈ t.functions, f.isStray = true →
      f ∉ t.uncategorizedFunctions ∧ ∀ c ∈ Category.names, f.isMarked c = false := by
  refine ⟨⟨fun h f hf hmarked => ?_, fun h => ?_⟩, t.strays_counted⟩
  · refine (h.split f hf).1 ?_
    rw [TestFunction.isCategorized, hmarked]
    rfl
  · refine t.followsTaxonomy_of_no_strays fun f hf => ?_
    cases hmarked : f.markers.isEmpty with
    | true => simp [TestFunction.isStray, TestFunction.isCategorized, hmarked]
    | false =>
        have hcategory := TestFunction.hasCategory_iff.2 (h f hf hmarked)
        rw [TestFunction.isStray, hcategory, Bool.not_true, Bool.and_false]

/-- A suite of one function, whose only marker is no category. -/
def straySuite : Tally :=
  { files := [⟨"test_a.py",
      [⟨"test_a", none, "test_a.py", 1, MarkerSet.ofList ["custom"], false, none, 1⟩]⟩]
    collected := none
    recorded := [] }

/-- This function counts as categorized: it is not listed, there is no issue, and all
categories stay at zero. -/
theorem straySuite_not_followsTaxonomy :
    straySuite.categorized = 1 ∧ straySuite.uncategorizedFunctions = [] ∧
      straySuite.issues = [] ∧ (straySuite.staticCounts.all fun e => e.2.val == 0) = true ∧
      ¬straySuite.FollowsTaxonomy := by
  refine ⟨by decide +kernel, by decide +kernel, by decide +kernel, by decide +kernel, fun h => ?_⟩
  have hlisted := h.uncategorized
  revert hlisted
  decide +kernel

end Tally

end TestCensus
