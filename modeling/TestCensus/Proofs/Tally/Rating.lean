import TestCensus.Proofs.Tally.Accounts

/-!
# How a suite is rated

A tally says four times whether its suite has a problem: by its issues, by its list
of functions without markers, by its verdict, and by the exit status in strict mode.
They never contradict each other (`Tally.rated`), because all issues are about
functions without markers (`hasOtherIssues_eq`) and there is one exactly if there are
such functions (`issues_eq_nil_iff`).
-/

namespace TestCensus.Tally

variable (t : Tally)

theorem mem_functions {f : TestFunction} :
    f ∈ t.functions ↔ ∃ file ∈ t.files, f ∈ file.functions := by
  rw [functions, List.mem_flatMap]

/-- Nothing is listed as uncategorized exactly if every function has a marker. -/
theorem uncategorizedFunctions_eq_nil_iff :
    t.uncategorizedFunctions = [] ↔ ∀ f ∈ t.functions, f.isCategorized = true := by
  rw [uncategorizedFunctions_eq, List.filter_eq_nil_iff]
  simp

theorem issues_eq_nil_iff : t.issues = [] ↔ t.uncategorizedFunctions = [] := by
  unfold issues
  cases t.uncategorizedFunctions with
  | nil => simp
  | cons f rest => simp

/-- All issues are about functions without markers. -/
theorem hasOtherIssues_eq : t.hasOtherIssues = false := by
  have hall : ∀ i : Issue, i.isGap = true := by
    intro i
    cases i with
    | gap functions instances => rfl
  simp [hasOtherIssues, hall]

/-- The verdict on a suite in which every function has a marker. -/
theorem verdict_of_eq_nil (h : t.uncategorizedFunctions = []) (threshold : Nat) :
    t.verdict threshold = .excellent := by
  rw [verdict, hasOtherIssues_eq, h]
  rfl

/-- The verdict on any other suite depends on the number of its functions without
markers. -/
theorem verdict_of_ne_nil (h : t.uncategorizedFunctions ≠ []) (threshold : Nat) :
    t.verdict threshold =
      if t.uncategorizedFunctions.length ≤ threshold then .good else .needsImprovement := by
  rw [verdict, hasOtherIssues_eq]
  cases hlist : t.uncategorizedFunctions with
  | nil => exact absurd hlist h
  | cons f rest => rfl

theorem exitStatus_lenient : t.exitStatus false = 0 := rfl

theorem exitStatus_of_eq_nil (h : t.uncategorizedFunctions = []) : t.exitStatus true = 0 := by
  rw [exitStatus, t.issues_eq_nil_iff.2 h, h]
  rfl

theorem exitStatus_of_ne_nil (h : t.uncategorizedFunctions ≠ []) : t.exitStatus true = 1 := by
  have hlist : t.uncategorizedFunctions.isEmpty = false := by simpa using h
  rw [exitStatus, hlist]
  simp

theorem exitStatus_lt (strict : Bool) : t.exitStatus strict < 2 := by
  unfold exitStatus
  split
  · exact Nat.one_lt_two
  · exact Nat.two_pos

/-- The signals that a tally gives about its suite agree. -/
structure Rated : Prop where
  /-- There is no issue exactly if every function of every file has a marker. -/
  issues_iff : t.issues = [] ↔ ∀ file ∈ t.files, ∀ f ∈ file.functions, f.markers.isEmpty = false
  /-- This is also when no function is listed as uncategorized. -/
  uncategorized_iff : t.issues = [] ↔ t.uncategorizedFunctions = []
  /-- It is also when the verdict is the best one, whatever number is few. -/
  verdict_iff : ∀ threshold, t.issues = [] ↔ t.verdict threshold = .excellent
  /-- It is also when the exit status in strict mode is zero. -/
  strict_iff : t.issues = [] ↔ t.exitStatus true = 0
  /-- Otherwise the exit status in strict mode is one. -/
  strict_otherwise : t.issues ≠ [] → t.exitStatus true = 1
  /-- Otherwise the verdict says whether few functions are uncategorized. -/
  verdict_otherwise : t.issues ≠ [] → ∀ threshold,
    t.verdict threshold = .good ↔ t.uncategorizedFunctions.length ≤ threshold
  /-- Outside strict mode the exit status is zero. -/
  lenient : t.exitStatus false = 0
  /-- Neither warnings nor the answers of a collector matter. -/
  unwarned : ∀ collected recorded,
    ({ t with collected, recorded } : Tally).issues = t.issues ∧
      (∀ threshold, ({ t with collected, recorded } : Tally).verdict threshold =
        t.verdict threshold) ∧
      ∀ strict, ({ t with collected, recorded } : Tally).exitStatus strict = t.exitStatus strict

theorem rated : t.Rated := by
  have hnil := t.issues_eq_nil_iff
  by_cases h : t.uncategorizedFunctions = []
  · have hissues := hnil.2 h
    have hverdict := t.verdict_of_eq_nil h
    have hstrict := t.exitStatus_of_eq_nil h
    have hmarked : ∀ file ∈ t.files, ∀ f ∈ file.functions, f.markers.isEmpty = false := by
      intro file hfile f hf
      have hf := t.uncategorizedFunctions_eq_nil_iff.1 h f (t.mem_functions.2 ⟨file, hfile, hf⟩)
      rwa [TestFunction.isCategorized, Bool.not_eq_true'] at hf
    exact
      { issues_iff := iff_of_true hissues hmarked
        uncategorized_iff := hnil
        verdict_iff := fun threshold => iff_of_true hissues (hverdict threshold)
        strict_iff := iff_of_true hissues hstrict
        strict_otherwise := fun hne => absurd hissues hne
        verdict_otherwise := fun hne => absurd hissues hne
        lenient := t.exitStatus_lenient
        unwarned := fun _ _ => ⟨rfl, fun _ => rfl, fun _ => rfl⟩ }
  · have hissues : t.issues ≠ [] := fun hissues => h (hnil.1 hissues)
    have hverdict := t.verdict_of_ne_nil h
    have hstrict := t.exitStatus_of_ne_nil h
    have hunmarked : ¬∀ file ∈ t.files, ∀ f ∈ file.functions, f.markers.isEmpty = false := by
      intro hall
      refine h (t.uncategorizedFunctions_eq_nil_iff.2 fun f hf => ?_)
      obtain ⟨file, hfile, hf⟩ := t.mem_functions.1 hf
      rw [TestFunction.isCategorized, hall file hfile f hf]
      rfl
    exact
      { issues_iff := iff_of_false hissues hunmarked
        uncategorized_iff := hnil
        verdict_iff := fun threshold => iff_of_false hissues (by
          rw [hverdict]
          split <;> decide)
        strict_iff := iff_of_false hissues (by rw [hstrict]; exact Nat.one_ne_zero)
        strict_otherwise := fun _ => hstrict
        verdict_otherwise := fun _ threshold => by
          rw [hverdict]
          split <;> simp [*]
        lenient := t.exitStatus_lenient
        unwarned := fun _ _ => ⟨rfl, fun _ => rfl, fun _ => rfl⟩ }

end TestCensus.Tally
