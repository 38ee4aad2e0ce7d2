import TestCensus.Proofs.Census.Completion
import TestCensus.Proofs.Census.FileRecord

/-!
# The answers of a collector

The queries to a collector are all under way at once and end in any order, and each
may end with a count, with a failure or with a crash.  Whatever they give and
whichever is faster, the census has a result.  Each category has the count of its
own query in it, and each query without a count has its own warning, in the order in
which the queries were asked (`Setup.answers_kept`).

What a query stands for in the result is said once more here, one query at a time:
the count that goes into the table (`QueryOutcome.countOrZero`), the text of the
warning (`QueryOutcome.failureText?`), and the warnings about the whole suite, which
are about its total too (`QueryOutcome.suiteWarnings`).
-/

namespace TestCensus

open TestCensus.Files

namespace QueryOutcome

/-- The count that stands in the table for a query. -/
def countOrZero : QueryOutcome → Count
  | count n => n
  | failure _ => 0
  | crash => 0

/-- What went wrong with a query, if anything did. -/
def failureText? : QueryOutcome → Option String
  | count _ => none
  | failure f => some f.message
  | crash => some "oracle IO error: oracle query panicked"

/-- The warnings after the query about the whole suite, of which `total` instances
were found. -/
def suiteWarnings (total : Count) : QueryOutcome → List Warning
  | count n => if n = total then [] else [.countMismatch total n]
  | failure f => [.collectFailure none f.message]
  | crash => [.collectFailure none "oracle IO error: oracle query panicked"]

theorem answer?_getD (o : QueryOutcome) : o.answer?.getD 0 = o.countOrZero := by
  cases o with
  | count n => rfl
  | failure f => rfl
  | crash => rfl

theorem warning?_eq (asked : Query) (o : QueryOutcome) :
    o.warning? asked = o.failureText?.map (.collectFailure asked) := by
  cases o with
  | count n => rfl
  | failure f => rfl
  | crash => rfl

end QueryOutcome

/-- The warnings about the queries per category. -/
def Collector.categoryWarnings (c : Collector) : List Warning :=
  Category.names.filterMap fun name =>
    (c (some name)).failureText?.map (.collectFailure (some name))

theorem Collector.warnings_eq (c : Collector) :
    c.warnings =
      c.categoryWarnings ++ ((c none).failureText?.map (.collectFailure none)).toList := by
  rw [warnings, queries, List.filterMap_append, List.filterMap_map]
  congr 1
  · exact congrArg (List.filterMap · _) (funext fun name => QueryOutcome.warning?_eq _ _)
  · rw [List.filterMap_cons, QueryOutcome.warning?_eq]
    cases (c none).failureText?.map (Warning.collectFailure none) with
    | none => rfl
    | some w => rfl

namespace Census

section Tallies

variable {problems : List String} {records : List FileRecord} {c : Collector}

/-- The table of a census with a collector has an entry for each category. -/
theorem categoryCounts_names :
    ((tally problems records (some c)).categoryCounts.map Prod.fst).Perm Category.names := by
  show ((CountTable.putAll _ _).map Prod.fst).Perm _
  rw [CountTable.putAll_names (by decide)]
  · decide
  · intro e he
    obtain ⟨name, hname, rfl⟩ := List.mem_map.1 he
    have hall : ∀ n ∈ Category.names,
        n ∈ (CountTable.ofNames Category.names fun _ => 0).map Prod.fst := by decide
    exact hall name hname

/-- The count of a category is that of its own query. -/
theorem categoryCounts_get? {name : String} (h : name ∈ Category.names) :
    (tally problems records (some c)).categoryCounts.get? name =
      some (c (some name)).countOrZero := by
  rw [← QueryOutcome.answer?_getD]
  exact CountTable.get?_putAll_map (.inl h)

/-- The warnings of a census with a collector end with those about its queries. -/
theorem tally_warnings (problems : List String) (records : List FileRecord) (c : Collector) :
    (tally problems records (some c)).warnings =
    problems.map Warning.scanProblem ++ records.flatMap FileRecord.warnings ++
      (c.categoryWarnings ++
        (c none).suiteWarnings (tally problems records (some c)).total) := by
  have hasked : (tally problems records (some c)).collected.bind CollectedCounts.total =
      (c none).answer? := rfl
  have hrecorded : (tally problems records (some c)).recorded =
      problems.map Warning.scanProblem ++ records.flatMap FileRecord.warnings ++ c.warnings := rfl
  rw [Tally.warnings, Tally.mismatch, hasked, hrecorded, c.warnings_eq]
  simp only [List.append_assoc]
  cases c none with
  | count n => rfl
  | failure f => rfl
  | crash => rfl

end Tallies

/-- The warnings about a file are not about totals. -/
theorem countMismatch_not_mem_record (u : Setup) (path : Path) (a b : Count) :
    .countMismatch a b ∉ (u.record path).warnings := by
  have htells := FileRecord.ofReading_tells u.settings.naming.rules (relativePath u.base path) path
    (u.tree.readText path)
  show _ ∉ (FileRecord.ofReading _ _ _ _).warnings
  intro hmem
  cases hreading : u.tree.readText path with
  | error e =>
      rw [(htells.unreadable e hreading).2] at hmem
      cases List.mem_singleton.1 hmem
  | ok source =>
      cases hread : Source.readSource source with
      | error failure =>
          rw [(htells.malformed source failure hreading hread).2] at hmem
          cases List.mem_singleton.1 hmem
      | ok statements =>
          rw [(htells.parsed source statements hreading hread).2.1] at hmem
          obtain ⟨d, -, hd⟩ := List.mem_map.1 hmem
          cases hd

/-- The warnings about queries per category are not about totals. -/
theorem countMismatch_not_mem_categoryWarnings (c : Collector) (a b : Count) :
    .countMismatch a b ∉ c.categoryWarnings := by
  intro hmem
  obtain ⟨name, -, hname⟩ := List.mem_filterMap.1 hmem
  obtain ⟨text, -, htext⟩ := Option.map_eq_some_iff.1 hname
  cases htext

variable {u : Setup} {c : Collector} {located : LocatedFiles} {n : Nat} {h : CancelHandle}

/-- The answers of a collector are neither lost nor mixed up.

However the queries to a collector end, and in whichever order, a census that
located its files and is not cancelled comes to a result.

* The entries of the result are those of the files.
* The table has an entry for each category and no other, with the count of the
  category's own query, and zero if that has none.
* The warnings are those of the search, those about the files, one for each category
  whose query has no count, and at the end one about the whole suite: that its query
  has no count, or that the count is another than the total.
* There is none of the last kind if that query has no count. -/
theorem Setup.answers_kept (hasked : u.asked = some c)
    (hlocated : u.settings.scan.findFiles u.tree u.roots = .ok located)
    (hworkers : u.workers = .ok n) (hfresh : h.isCancelled = false) :
    (∀ done s, Course u ⟨h, u.opening⟩ done s → .cancel ∉ done →
      done.countP Action.isOwn ≤ u.todo u.opening ∧
      ∃ later h' result, Course u ⟨h, u.opening⟩ (done ++ later) ⟨h', .ended (.ok result)⟩ ∧
        ∀ a ∈ later, a.isOwn = true) ∧
    ∀ done h' outcome, Course u ⟨h, u.opening⟩ done ⟨h', .ended outcome⟩ → .cancel ∉ done →
      ∃ result, outcome = .ok result ∧
        result.files = located.files.map (fun path => (u.record path).file) ∧
        result.countSource = .collected ∧
        (result.categoryCounts.map Prod.fst).Perm Category.names ∧
        (∀ name ∈ Category.names,
          result.categoryCounts.get? name = some (c (some name)).countOrZero) ∧
        result.warnings = located.problems.map .scanProblem ++
          located.files.flatMap (fun path => (u.record path).warnings) ++
            (c.categoryWarnings ++ (c none).suiteWarnings result.total) ∧
        ((∀ m, c none ≠ .count m) → ∀ a b, .countMismatch a b ∉ result.warnings) := by
  have hended : ∀ done h' outcome, Course u ⟨h, u.opening⟩ done ⟨h', .ended outcome⟩ →
      .cancel ∉ done →
        outcome = .ok (Census.tally located.problems (located.files.map u.record) (some c)) := by
    intro done h' outcome hcourse hcancel
    rw [hcourse.outcome_of_uncancelled hfresh hcancel, Setup.result_located hlocated hworkers,
      hasked]
  refine ⟨fun done s hcourse hcancel => ⟨?_, ?_⟩, fun done h' outcome hcourse hcancel => ?_⟩
  · exact Nat.le_trans (Nat.le_add_right _ _) hcourse.own_le
  · obtain ⟨later, h', outcome, hlater, hown⟩ := hcourse.finishes
    have hnone : Action.cancel ∉ done ++ later := by
      rw [List.mem_append, not_or]
      exact ⟨hcancel, cancel_not_mem_of_own hown⟩
    obtain rfl := hended _ _ _ hlater hnone
    exact ⟨later, h', _, hlater, hown⟩
  · have hwarnings := tally_warnings located.problems (located.files.map u.record) c
    rw [List.flatMap_map] at hwarnings
    refine ⟨_, hended _ _ _ hcourse hcancel, List.map_map, rfl, categoryCounts_names,
      fun name hname => categoryCounts_get? hname, hwarnings, fun hfailed a b => ?_⟩
    rw [hwarnings]
    simp only [List.mem_append, not_or]
    refine ⟨⟨?_, ?_⟩, countMismatch_not_mem_categoryWarnings c a b, ?_⟩
    · simp
    · intro hmem
      obtain ⟨path, -, hpath⟩ := List.mem_flatMap.1 hmem
      exact countMismatch_not_mem_record u path a b hpath
    · cases hsuite : c none with
      | count m => exact absurd hsuite (hfailed m)
      | failure f => simp [QueryOutcome.suiteWarnings]
      | crash => simp [QueryOutcome.suiteWarnings]

/-- A collector two of whose queries have no count. -/
def unsteadyCollector : Collector := fun q =>
  if q = none then .count (.ofNat 5)
  else if q = some "unit" then .failure (.timeout 3)
  else if q = some "slow" then .crash
  else .count (.ofNat 2)

/-- A suite without files, which two workers read, and an unsteady collector. -/
def Setup.unsteady : Setup where
  tree := ⟨.directory [], ⟨"/"⟩⟩
  settings := { scan := { threads := some 2 } }
  collector := some unsteadyCollector
  base := [.root]
  roots := [⟨"/tests"⟩]
  workforce := .willing

/-- Two queries without a count and a total that differs make three warnings. -/
theorem Setup.answers_kept_unsteady :
    ∃ done h' result, Course unsteady ⟨.fresh, unsteady.opening⟩ done ⟨h', .ended (.ok result)⟩ ∧
      result.categoryCounts.get? "slow" = some 0 ∧
      result.categoryCounts.get? "smoke" = some (.ofNat 2) ∧
      result.warnings =
        [.collectFailure (some "unit") "collection timed out after 3s",
          .collectFailure (some "slow") "oracle IO error: oracle query panicked",
          .countMismatch 0 (.ofNat 5)] := by
  have hlocated : unsteady.settings.scan.findFiles unsteady.tree unsteady.roots =
      .ok ⟨[], [⟨"/tests"⟩], []⟩ := by
    have habsent : unsteady.tree.has ⟨"/tests"⟩ = false := by decide +kernel
    have hnone : (LocatedFiles.mk [] [⟨"/tests"⟩] []).arranged = ⟨[], [⟨"/tests"⟩], []⟩ := by
      simp [LocatedFiles.arranged, inOrder, dropRepeated]
    have hfound : unsteady.settings.scan.locateFrom unsteady.tree (fun _ => false) 0
        unsteady.roots = .ok ⟨[], [⟨"/tests"⟩], []⟩ := ScanSettings.locateFrom_absent habsent
    rw [Setup.findFiles_eq, hfound]
    exact congrArg Except.ok hnone
  have hkept := Setup.answers_kept (u := unsteady) (c := unsteadyCollector) (h := .fresh) rfl
    hlocated rfl rfl
  obtain ⟨-, later, h', result, hcourse, hown⟩ := hkept.1 [] _ .start List.not_mem_nil
  have hcancel : Action.cancel ∉ later := cancel_not_mem_of_own hown
  obtain ⟨x, hx, hfiles, -, -, hcounts, hwarnings, -⟩ := hkept.2 _ _ _ hcourse hcancel
  cases hx
  have htotal : Tally.total result = 0 := by
    rw [Tally.total, Tally.accounts, Tally.functions, hfiles]
    rfl
  refine ⟨_, h', result, hcourse, hcounts "slow" (by decide), hcounts "smoke" (by decide), ?_⟩
  rw [hwarnings, htotal]
  decide +kernel

end Census

end TestCensus
