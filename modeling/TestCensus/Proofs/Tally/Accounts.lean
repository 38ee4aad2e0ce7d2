import TestCensus.Tally

/-!
# The accounts of a suite

A tally goes through the functions of its suite once and keeps four accounts.
`Accounts.Balanced` says what they hold for the functions gone through so far, in
terms of exact sums cut to the limit of counts.

*Steps.*  Entering one more function keeps the accounts balanced
(`Balanced.enter`).  A function without markers changes the total and its own
list; any other one changes the categorized amount and the table too.

*Runs.*  By induction the accounts of all functions are balanced
(`ofFunctions_balanced`).  `Tally.accounted` reads the figures of a tally off
this.
-/

namespace TestCensus

/-! ## Exact sums -/

/-- The exact number of instances of functions. -/
def exactInstances (fs : List TestFunction) : Nat :=
  Count.exactSum (fs.map TestFunction.instances)

theorem countInstances_val (fs : List TestFunction) :
    (countInstances fs).val = min (exactInstances fs) Count.limit := Count.sum_val _

namespace Count

theorem exactSum_append (cs ds : List Count) : exactSum (cs ++ ds) = exactSum cs + exactSum ds := by
  induction cs with
  | nil => simp [exactSum]
  | cons c cs ih =>
      rw [List.cons_append, exactSum, exactSum, ih]
      omega

end Count

theorem exactInstances_cons (f : TestFunction) (fs : List TestFunction) :
    exactInstances (f :: fs) = f.instances.val + exactInstances fs := rfl

@[simp] theorem exactInstances_singleton (f : TestFunction) :
    exactInstances [f] = f.instances.val := rfl

@[simp] theorem exactInstances_append (fs gs : List TestFunction) :
    exactInstances (fs ++ gs) = exactInstances fs + exactInstances gs := by
  rw [exactInstances, List.map_append, Count.exactSum_append]
  rfl

/-- One more function adds its instances if the filter keeps it. -/
theorem exactInstances_filter_snoc (p : TestFunction → Bool) (fs : List TestFunction)
    (f : TestFunction) : exactInstances ((fs ++ [f]).filter p) =
      exactInstances (fs.filter p) + if p f then f.instances.val else 0 := by
  rw [List.filter_append, exactInstances_append]
  cases hf : p f with
  | true => rw [List.filter_cons_of_pos hf, List.filter_nil, exactInstances_singleton, if_pos rfl]
  | false =>
      rw [List.filter_cons_of_neg (by simp [hf]), if_neg (by simp)]
      rfl

/-- A filter and its complement share out the instances. -/
theorem exactInstances_filter_add (p : TestFunction → Bool) (fs : List TestFunction) :
    exactInstances (fs.filter p) + exactInstances (fs.filter (!p ·)) = exactInstances fs := by
  induction fs with
  | nil => rfl
  | cons f fs ih =>
      rw [exactInstances_cons]
      cases hf : p f with
      | true =>
          rw [List.filter_cons_of_pos hf, List.filter_cons_of_neg (by simp [hf]),
            exactInstances_cons]
          omega
      | false =>
          rw [List.filter_cons_of_neg (by simp [hf]), List.filter_cons_of_pos (by simp [hf]),
            exactInstances_cons]
          omega

/-- A weaker filter leaves more instances. -/
theorem exactInstances_filter_le {p q : TestFunction → Bool} (h : ∀ f, p f = true → q f = true)
    (fs : List TestFunction) : exactInstances (fs.filter p) ≤ exactInstances (fs.filter q) := by
  have hfilter : fs.filter p = (fs.filter q).filter p := by
    rw [List.filter_filter]
    refine List.filter_congr fun f _ => ?_
    rw [Bool.eq_iff_iff, Bool.and_eq_true]
    exact ⟨fun hp => ⟨hp, h f hp⟩, And.left⟩
  have hadd := exactInstances_filter_add p (fs.filter q)
  rw [hfilter]
  omega

/-- Sums of cut sums may be cut late or early. -/
theorem sum_totals_val (files : List TestFile) :
    (Count.sum (files.map TestFile.total)).val =
      min (exactInstances (files.flatMap TestFile.functions)) Count.limit := by
  rw [Count.sum_val]
  induction files with
  | nil => rfl
  | cons file rest ih =>
      have hfile : file.total.val = min (exactInstances file.functions) Count.limit :=
        countInstances_val file.functions
      rw [List.map_cons, Count.exactSum, List.flatMap_cons, exactInstances_append]
      omega

/-! ## Tables -/

/-- The exact sum of the counts of a table. -/
def CountTable.exactTotal (t : CountTable) : Nat := Count.exactSum (t.map Prod.snd)

theorem CountTable.exactTotal_cons (e : String × Count) (t : CountTable) :
    exactTotal (e :: t) = e.2.val + exactTotal t := rfl

theorem le_exactTotal_map {g : String × Count → String × Count}
    (hg : ∀ e, e.2.val ≤ (g e).2.val) (t : CountTable) :
    t.exactTotal ≤ CountTable.exactTotal (t.map g) := by
  induction t with
  | nil => exact Nat.le_refl _
  | cons e t ih =>
      have he := hg e
      rw [List.map_cons, CountTable.exactTotal_cons, CountTable.exactTotal_cons]
      omega

/-- Raising at least one entry raises the sum of a table by as much, up to the
limit. -/
theorem exactTotal_raiseAll {names : List String} (hnames : names.Nodup) (more : Count)
    {t : CountTable} (h : ∃ name ∈ names, name ∈ t.map Prod.fst) :
    min (t.exactTotal + more.val) Count.limit ≤ (t.raiseAll names more).exactTotal := by
  rw [CountTable.raiseAll_eq_map hnames]
  have hgrow : ∀ e : String × Count,
      e.2.val ≤ (if e.1 ∈ names then (e.1, e.2 + more) else e).2.val := by
    intro e
    have hle := e.2.val_le
    split
    · rw [Count.add_val]
      omega
    · exact Nat.le_refl _
  obtain ⟨name, hname, hkey⟩ := h
  induction t with
  | nil => cases hkey
  | cons e t ih =>
      rw [List.map_cons, CountTable.exactTotal_cons, CountTable.exactTotal_cons]
      have hrest := le_exactTotal_map hgrow t
      by_cases he : e.1 ∈ names
      · rw [if_pos he, Count.add_val]
        omega
      · rw [if_neg he]
        have hkey' : name ∈ t.map Prod.fst := by
          rcases List.mem_cons.1 hkey with rfl | hkey
          · exact absurd hname he
          · exact hkey
        have hraised := ih hkey'
        omega

/-! ## Accounts -/

namespace Accounts

/-- What the accounts hold for the functions gone through so far. -/
structure Balanced (a : Accounts) (fs : List TestFunction) : Prop where
  /-- The total is the sum over all functions. -/
  total : a.total.val = min (exactInstances fs) Count.limit
  /-- The categorized amount is the sum over the functions with a marker. -/
  categorized : a.categorized.val =
    min (exactInstances (fs.filter (·.isCategorized))) Count.limit
  /-- The functions without a marker are listed in order. -/
  uncategorized : a.uncategorized = fs.filter (!·.isCategorized)
  /-- The table has an entry for each category. -/
  names : (a.perCategory.map Prod.fst).Perm Category.names
  /-- An entry holds the sum over the functions with its marker. -/
  perCategory : ∀ e ∈ a.perCategory,
    e.2.val = min (exactInstances (fs.filter (·.isMarked e.1))) Count.limit
  /-- If all markers are categories, the table covers the categorized amount. -/
  covered : (∀ f ∈ fs, ∀ marker ∈ f.markers, marker ∈ Category.names) →
    a.categorized.val ≤ a.perCategory.exactTotal

theorem opening_balanced : opening.Balanced [] := by
  have hzero : ∀ e ∈ opening.perCategory, e.2 = 0 := by decide
  refine ⟨rfl, rfl, rfl, by decide, ?_, fun _ => Nat.zero_le _⟩
  intro e he
  rw [hzero e he]
  rfl

variable {a : Accounts} {fs : List TestFunction} {f : TestFunction}

/-- A function without markers goes to the total and to the list. -/
theorem Balanced.enter_unmarked (h : a.Balanced fs) (hf : f.isCategorized = false) :
    (a.enter f).Balanced (fs ++ [f]) := by
  have hmarked : ∀ marker, f.isMarked marker = false := by
    intro marker
    refine Bool.eq_false_iff.2 fun hm => ?_
    rw [TestFunction.isCategorized_iff.2 ⟨marker, TestFunction.isMarked_iff.1 hm⟩] at hf
    cases hf
  have hentered : a.enter f =
      { a with total := a.total + f.instances, uncategorized := a.uncategorized ++ [f] } := by
    rw [enter, hf]
    rfl
  rw [hentered]
  constructor
  · rw [Count.add_val, h.total, exactInstances_append, exactInstances_singleton]
    omega
  · rw [exactInstances_filter_snoc, hf, if_neg (by simp)]
    exact h.categorized
  · rw [List.filter_append, h.uncategorized]
    simp [hf]
  · exact h.names
  · intro e he
    rw [exactInstances_filter_snoc, hmarked, if_neg (by simp)]
    exact h.perCategory e he
  · intro hall
    exact h.covered fun g hg => hall g (List.mem_append_left _ hg)

/-- A function with markers goes to the total, to the categorized amount and to the
entry of each of its markers. -/
theorem Balanced.enter_marked (h : a.Balanced fs) (hf : f.isCategorized = true) :
    (a.enter f).Balanced (fs ++ [f]) := by
  have hentered : a.enter f =
      ⟨a.total + f.instances, a.categorized + f.instances, a.uncategorized,
        a.perCategory.raiseAll f.markers.names f.instances⟩ := by
    rw [enter, hf]
    rfl
  rw [hentered]
  constructor
  · rw [Count.add_val, h.total, exactInstances_append, exactInstances_singleton]
    omega
  · rw [Count.add_val, h.categorized, exactInstances_filter_snoc, hf, if_pos rfl]
    omega
  · rw [h.uncategorized, List.filter_append]
    simp [hf]
  · rw [CountTable.raiseAll_names]
    exact h.names
  · intro e he
    rw [CountTable.raiseAll_eq_map f.markers.nodup] at he
    obtain ⟨old, hold, rfl⟩ := List.mem_map.1 he
    have hcount := h.perCategory old hold
    by_cases hm : old.1 ∈ f.markers.names
    · rw [if_pos hm, Count.add_val, hcount, exactInstances_filter_snoc,
        if_pos (TestFunction.isMarked_iff.2 hm)]
      dsimp only
      omega
    · rw [if_neg hm, hcount, exactInstances_filter_snoc,
        if_neg fun h => hm (TestFunction.isMarked_iff.1 h)]
      rfl
  · intro hall
    obtain ⟨marker, hmarker⟩ := TestFunction.isCategorized_iff.1 hf
    have hkey : marker ∈ a.perCategory.map Prod.fst :=
      h.names.mem_iff.2 (hall f (by simp) marker hmarker)
    have hraised := exactTotal_raiseAll f.markers.nodup f.instances ⟨marker, hmarker, hkey⟩
    have hcovered := h.covered fun g hg => hall g (List.mem_append_left _ hg)
    show (a.categorized + f.instances).val ≤
      (a.perCategory.raiseAll f.markers.names f.instances).exactTotal
    rw [Count.add_val]
    omega

/-- Entering one more function keeps the accounts balanced. -/
theorem Balanced.enter (h : a.Balanced fs) (f : TestFunction) :
    (a.enter f).Balanced (fs ++ [f]) := by
  cases hf : f.isCategorized with
  | true => exact h.enter_marked hf
  | false => exact h.enter_unmarked hf

theorem Balanced.foldl_enter (h : a.Balanced fs) (gs : List TestFunction) :
    (gs.foldl Accounts.enter a).Balanced (fs ++ gs) := by
  induction gs generalizing a fs with
  | nil => rwa [List.append_nil]
  | cons g gs ih =>
      have hnext := ih (h.enter g)
      rwa [List.append_assoc] at hnext

/-- The accounts of all functions are balanced. -/
theorem ofFunctions_balanced (fs : List TestFunction) : (ofFunctions fs).Balanced fs :=
  opening_balanced.foldl_enter fs

end Accounts

/-! ## Tallies -/

namespace Tally

theorem accounts_balanced (t : Tally) : t.accounts.Balanced t.functions :=
  Accounts.ofFunctions_balanced t.functions

theorem uncategorizedFunctions_eq (t : Tally) :
    t.uncategorizedFunctions = t.functions.filter (!·.isCategorized) :=
  t.accounts_balanced.uncategorized

theorem categorized_val (t : Tally) : t.categorized.val =
    min (exactInstances (t.functions.filter (·.isCategorized))) Count.limit :=
  t.accounts_balanced.categorized

theorem total_val (t : Tally) : t.total.val = min (exactInstances t.functions) Count.limit :=
  t.accounts_balanced.total

/-- The exact amounts with and without markers share out the exact total. -/
theorem exactInstances_split (t : Tally) :
    exactInstances (t.functions.filter (·.isCategorized)) +
      exactInstances t.uncategorizedFunctions = exactInstances t.functions := by
  rw [uncategorizedFunctions_eq]
  exact exactInstances_filter_add _ _

/-- The figures of a tally account for the functions of its files.  Sums are exact
sums cut to the limit of counts. -/
structure Accounted (t : Tally) : Prop where
  /-- The total of a file is the sum over its functions. -/
  file_total : ∀ file ∈ t.files,
    file.total.val = min (exactInstances file.functions) Count.limit
  /-- The total is the sum over all functions. -/
  total : t.total.val =
    min (exactInstances (t.files.flatMap TestFile.functions)) Count.limit
  /-- The total is the running sum of the totals of the files. -/
  total_eq_sum : t.total = Count.sum (t.files.map TestFile.total)
  /-- The categorized amount is the sum over the functions with a marker. -/
  categorized : t.categorized.val =
    min (exactInstances (t.functions.filter (!·.markers.isEmpty))) Count.limit
  /-- The categorized amount is a part of the total. -/
  categorized_le : t.categorized.val ≤ t.total.val
  /-- The functions without a marker are listed file by file in order. -/
  uncategorized : t.uncategorizedFunctions =
    t.files.flatMap fun file => file.functions.filter (·.markers.isEmpty)
  /-- The table has an entry for each category and no other. -/
  names : (t.staticCounts.map Prod.fst).Perm Category.names
  /-- The count of a category is the sum over the functions that carry it, and a part
  of the categorized amount. -/
  perCategory : ∀ c ∈ Category.names, ∃ n, t.staticCounts.get? c = some n ∧
    n.val = min (exactInstances (t.functions.filter (·.isMarked c))) Count.limit ∧
    n.val ≤ t.categorized.val
  /-- If all markers are categories, the counts of the categories cover the
  categorized amount. -/
  covered : (∀ f ∈ t.functions, ∀ marker ∈ f.markers, marker ∈ Category.names) →
    t.categorized.val ≤ t.staticCounts.exactTotal ∧
      t.categorized.val ≤ (Count.sum (t.staticCounts.map Prod.snd)).val
  /-- Below the limit the amounts with and without markers share out the total. -/
  shared : exactInstances t.functions ≤ Count.limit →
    t.categorized.val + (countInstances t.uncategorizedFunctions).val = t.total.val ∧
      t.categorized.val + t.uncategorized.val = t.total.val

/-- Every tally accounts for its files, whatever the collector says and whatever
was recorded. -/
theorem accounted (t : Tally) : t.Accounted := by
  have hbalanced := t.accounts_balanced
  have hsplit := t.exactInstances_split
  have htotal := t.total_val
  have hcategorized := t.categorized_val
  constructor
  · exact fun file _ => countInstances_val file.functions
  · exact htotal
  · exact Count.ext (htotal.trans (sum_totals_val t.files).symm)
  · exact hcategorized
  · rw [hcategorized, htotal]
    omega
  · rw [uncategorizedFunctions_eq, functions, List.filter_flatMap]
    simp [TestFunction.isCategorized]
  · exact hbalanced.names
  · intro c hc
    obtain ⟨n, hn⟩ := CountTable.exists_get? (hbalanced.names.mem_iff.2 hc)
    have hval := hbalanced.perCategory _ (CountTable.get?_eq_some_mem hn)
    have hle := exactInstances_filter_le (p := (·.isMarked c)) (q := (·.isCategorized))
      (fun f hf => TestFunction.isCategorized_iff.2 ⟨c, TestFunction.isMarked_iff.1 hf⟩)
      t.functions
    refine ⟨n, hn, hval, ?_⟩
    rw [hval, hcategorized]
    dsimp only
    omega
  · intro hall
    have hcovered := hbalanced.covered hall
    refine ⟨hcovered, ?_⟩
    rw [Count.sum_val]
    exact Nat.le_min.2 ⟨hcovered, t.categorized.val_le⟩
  · intro hfits
    have hlisted := countInstances_val t.uncategorizedFunctions
    have huncategorized : t.uncategorized.val = t.total.val - t.categorized.val := rfl
    omega

end Tally

end TestCensus
