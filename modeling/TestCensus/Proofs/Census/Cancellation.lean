import TestCensus.Proofs.Census.Completion

/-!
# Cancelling a census

A census that is cancelled gives all or nothing.  Whoever cancels or resets the
handle, and whenever, the census ends with a failure, or with exactly the result
that it would have given had nobody disturbed it.  Nothing is left out of a result,
since a single check point that saw the handle cancelled is enough to discard it
(`Setup.all_or_nothing`).

A failure tells the cancelled census from the one that failed by itself.  A search
that was cancelled is never reported as a failure of the search, and a failure that
comes before the first check point is reported even if the handle was cancelled from
the start.
-/

namespace TestCensus.Census

open TestCensus.Files

variable {u : Setup} {s t : State}

/-! ## Failures of a census that nobody disturbs -/

/-- A failure of the search that is no cancellation stays what it is. -/
theorem ofScanFailure_eq {cause : ScanFailure} (h : cause ≠ .cancelled) :
    ofScanFailure cause = .scan cause := by
  cases cause with
  | cancelled => exact absurd rfl h
  | io | permissionDenied | invalidPattern | workerPool => rfl

/-- A census that nobody disturbs fails only in its search or for want of workers, and is
not cancelled. -/
theorem Setup.result_eq_error {f : CensusFailure} (h : u.result = .error f) :
    ∃ cause, cause ≠ .cancelled ∧ f = .scan cause := by
  cases hfound : u.settings.scan.findFiles u.tree u.roots with
  | error cause =>
      have hcause : cause ≠ .cancelled := (ScanSettings.findFiles_eq_error hfound).ne_cancelled
      rw [Setup.result_refused hfound, ofScanFailure_eq hcause] at h
      exact ⟨cause, hcause, (Except.error.inj h).symm⟩
  | ok located =>
      cases hworkers : u.workers with
      | error message =>
          rw [Setup.result_strike hfound hworkers] at h
          cases h
          exact ⟨.workerPool message, nofun, rfl⟩
      | ok n =>
          rw [Setup.result_located hfound hworkers] at h
          cases h

/-! ## Results -/

/-- A census looks at the handle once more before it gives a result. -/
theorem Course.look_of_ok {done : List Action} (h : Course u s done t) (hs : ¬s.stage.Ended)
    {result : Tally} (ht : t.stage = .ended (.ok result)) : Action.look false ∈ done := by
  induction h with
  | start => exact absurd ⟨_, ht⟩ hs
  | step _ hstep ih =>
      cases hstep with
      | cancel | reset => exact List.mem_append_left _ (ih ht)
      | close => exact List.mem_append_right _ (.head _)
      | skipRoot | refuseRoot | enterRoot | event | stopSearch | employ | strike | take | passOver
      | record | abandon | gather | dropRecords | answer | dropAnswers => cases ht

/-- A census whose handle was cancelled before it began ends cancelled, unless it
fails before its first check point. -/
theorem Course.outcome_of_cancelled {h h' : CancelHandle} {done : List Action}
    {outcome : Except CensusFailure Tally}
    (hcourse : Course u ⟨h, u.opening⟩ done ⟨h', .ended outcome⟩)
    (hcancelled : h.isCancelled = true) (hreset : Action.reset ∉ done) :
    outcome = .error .cancelled ∨ ∃ cause, cause ≠ .cancelled ∧
      outcome = .error (.scan cause) ∧ outcome = u.result ∧ ∀ seen, Action.look seen ∉ done := by
  obtain ⟨-, hfalse⟩ : _ ∧ Action.look false ∉ done := hcourse.handle_kept hcancelled hreset
  have houtcome := hcourse.outcome_eq
  split at houtcome
  · exact .inl houtcome
  · rename_i htrue
    cases outcome with
    -- A result is given only after a look at the handle, which was cancelled throughout.
    | ok x => exact absurd (hcourse.look_of_ok nofun rfl) hfalse
    | error f =>
        obtain ⟨cause, hcause, rfl⟩ := Setup.result_eq_error houtcome.symm
        refine .inr ⟨cause, hcause, rfl, houtcome, fun seen => ?_⟩
        cases seen with
        | false => exact hfalse
        | true => exact htrue

/-- A cancellation is not reported as a failure of the search. -/
theorem Course.outcome_ne_scan_cancelled {h h' : CancelHandle} {done : List Action}
    {outcome : Except CensusFailure Tally}
    (hcourse : Course u ⟨h, u.opening⟩ done ⟨h', .ended outcome⟩) :
    outcome ≠ .error (.scan .cancelled) := by
  rintro rfl
  have houtcome := hcourse.outcome_eq
  split at houtcome
  · cases houtcome
  · obtain ⟨cause, hcause, heq⟩ := Setup.result_eq_error houtcome.symm
    cases heq
    exact hcause rfl

/-! ## Check points whose findings are given -/

section Given

variable {t : Tree} {settings : Settings} {collector : Option Collector} {seen : CheckPoints}
  {base : List Component} {roots : List Path} {workforce : Workforce}

/-- A census whose search was not cancelled and whose workers were started ends cancelled
exactly if a later check point finds the handle cancelled. -/
theorem run_located {located : LocatedFiles} {started : Nat}
    (h : settings.scan.locate t seen.atEvent roots = .ok located)
    (hstarted : startWorkers workforce settings.scan = .ok started) :
    run t settings collector seen base roots workforce =
      if (List.range located.files.length).any seen.atFile || seen.afterFiles ||
          seen.afterQueries then
        .error .cancelled
      else .ok (tally located.problems
        (located.files.map (FileRecord.ofFile settings.naming.rules t base))
        (effectiveCollector settings collector)) := by
  rw [run, h, hstarted]
  show (checkPoint ((List.range located.files.length).any seen.atFile) >>= fun _ =>
    checkPoint seen.afterFiles >>= fun _ => checkPoint seen.afterQueries >>= fun _ =>
      Except.ok _) = _
  cases (List.range located.files.length).any seen.atFile with
  | true => rfl
  | false =>
      cases seen.afterFiles with
      | true => rfl
      | false =>
          cases seen.afterQueries with
          | true => rfl
          | false => rfl

/-- Whatever the check points find, a census ends cancelled, or as if nobody had
disturbed it. -/
theorem run_disturbed : run t settings collector seen base roots workforce = .error .cancelled ∨
    run t settings collector seen base roots workforce =
      run t settings collector .never base roots workforce := by
  have hsearch : settings.scan.locate t seen.atEvent roots =
      (settings.scan.locateFrom t seen.atEvent 0 roots).map LocatedFiles.arranged :=
    ScanSettings.locate_eq
  have hdisturbed : settings.scan.locateFrom t seen.atEvent 0 roots = .error .cancelled ∨
      settings.scan.locateFrom t seen.atEvent 0 roots =
        settings.scan.locateFrom t (fun _ => false) 0 roots := ScanSettings.locateFrom_disturbed
  rcases hdisturbed with hcancelled | hsame
  · left
    rw [run, hsearch, hcancelled]
    rfl
  · have hundisturbed : settings.scan.locate t seen.atEvent roots =
        settings.scan.locate t CheckPoints.never.atEvent roots := by
      rw [hsearch, hsame]
      exact ScanSettings.locate_eq.symm
    cases hlocated : settings.scan.locate t seen.atEvent roots with
    | error f =>
        right
        rw [run, run, ← hundisturbed, hlocated]
        rfl
    | ok located =>
        cases hstarted : startWorkers workforce settings.scan with
        | error f =>
            right
            rw [run, run, ← hundisturbed, hlocated, hstarted]
            rfl
        | ok started =>
            rw [run_located hlocated hstarted,
              run_located (hundisturbed.symm.trans hlocated) hstarted]
            split
            · exact .inl rfl
            · right
              rw [CheckPoints.any_atFile_never]
              rfl

end Given

/-! ## All or nothing -/

/-- A census that is cancelled gives all or nothing.

However the handle is cancelled and reset while a census takes its course, the
census takes only so many steps of its own, it can always come to its end, and it
ends as follows.

* A result is the one that the undisturbed census gives.
* A census that nobody cancels is undisturbed.
* If any check point saw the handle cancelled, the census ends cancelled.
* If the handle was cancelled from the start and nobody resets it, the census ends
  cancelled or with the failure that it had before the first check point.
* A cancelled search is not reported as a failure of the search.
* Whatever the check points find, the census ends cancelled or undisturbed. -/
theorem Setup.all_or_nothing (u : Setup) (h : CancelHandle) :
    (∀ done s, Course u ⟨h, u.opening⟩ done s →
      done.countP Action.isOwn ≤ u.todo u.opening ∧
      ∃ later h' outcome, Course u ⟨h, u.opening⟩ (done ++ later) ⟨h', .ended outcome⟩ ∧
        ∀ a ∈ later, a.isOwn = true) ∧
    (∀ done h' outcome, Course u ⟨h, u.opening⟩ done ⟨h', .ended outcome⟩ →
      (∀ x, outcome = .ok x → u.result = .ok x) ∧
      (h.isCancelled = false → .cancel ∉ done → outcome = u.result) ∧
      (.look true ∈ done → outcome = .error .cancelled) ∧
      (h.isCancelled = true → .reset ∉ done → outcome = .error .cancelled ∨
        ∃ cause, cause ≠ .cancelled ∧ outcome = .error (.scan cause) ∧ outcome = u.result ∧
          ∀ seen, .look seen ∉ done) ∧
      outcome ≠ .error (.scan .cancelled)) ∧
    ∀ seen,
      run u.tree u.settings u.collector seen u.base u.roots u.workforce = .error .cancelled ∨
        run u.tree u.settings u.collector seen u.base u.roots u.workforce = u.result := by
  refine ⟨fun done s hcourse => ⟨?_, hcourse.finishes⟩, fun done h' outcome hcourse => ?_,
    fun _ => run_disturbed⟩
  · exact Nat.le_trans (Nat.le_add_right _ _) hcourse.own_le
  · refine ⟨?_, hcourse.outcome_of_uncancelled, ?_, hcourse.outcome_of_cancelled,
      hcourse.outcome_ne_scan_cancelled⟩
    · rintro x rfl
      exact hcourse.result_of_ok
    · intro hlook
      rw [hcourse.outcome_eq, if_pos hlook]

/-- A suite of one file, which one worker reads. -/
def Setup.single : Setup :=
  { Setup.ofProject ⟨.directory [("test_a.py", .file [])], ⟨"/"⟩⟩ {} ⟨"/"⟩ .willing with
    roots := [⟨"/test_a.py"⟩] }

/-- The file of `Setup.single` waits for its worker as soon as the search took in two
steps. -/
theorem Setup.single_employed : Course single ⟨.fresh, single.opening⟩ [.work, .look false, .work]
    ⟨.fresh, .reading ⟨[⟨"/test_a.py"⟩], [], []⟩ [.fresh ⟨"/test_a.py"⟩]⟩ := by
  have hroot : single.tree.has ⟨"/test_a.py"⟩ = true := by decide +kernel
  have hfound : (LocatedFiles.empty ++
      single.settings.scan.ofEvents [.entry ⟨"/test_a.py"⟩ true]).arranged =
        ⟨[⟨"/test_a.py"⟩], [], []⟩ := by
    have hqualifies : single.settings.scan.qualifies ⟨"/test_a.py"⟩ = true := by decide +kernel
    simp [LocatedFiles.arranged, ScanSettings.ofEvents, ScanSettings.ofEvent, hqualifies, inOrder,
      dropRepeated]
  have hentered : Course single ⟨.fresh, single.opening⟩ [.work]
      ⟨.fresh, .searching .empty [.entry ⟨"/test_a.py"⟩ true] []⟩ :=
    Course.start.step (.enterRoot hroot rfl)
  have hemployed := (hentered.step (.event rfl)).step (.employ rfl)
  rw [hfound] at hemployed
  exact hemployed

/-- A file that was passed over is not forgotten when the handle is reset before the
workers are done, a handle that no check point saw cancelled does no harm, and a handle
that was cancelled before ends even a census of nothing. -/
theorem Setup.all_or_nothing_single :
    (∃ outcome, Course single ⟨.fresh, single.opening⟩
      [.work, .look false, .work, .cancel, .look true, .reset, .work] ⟨.fresh, .ended outcome⟩ ∧
        outcome = .error .cancelled) ∧
    (∃ x, Course single ⟨.fresh, single.opening⟩
      [.work, .look false, .work, .look false, .cancel, .work, .reset, .look false, .look false]
        ⟨.fresh, .ended (.ok x)⟩ ∧ single.result = .ok x) ∧
    ∃ outcome, Course { single with roots := [] } ⟨⟨true⟩, .searching .empty [] []⟩
      [.work, .look true] ⟨⟨true⟩, .ended outcome⟩ ∧ outcome = .error .cancelled := by
  have hemployed : Course single ⟨.fresh, single.opening⟩ [.work, .look false, .work]
      ⟨.fresh, .reading ⟨[⟨"/test_a.py"⟩], [], []⟩ ([] ++ .fresh ⟨"/test_a.py"⟩ :: [])⟩ :=
    single_employed
  refine ⟨?_, ?_, ?_⟩
  · have hpassed : Course single ⟨.fresh, single.opening⟩
        [.work, .look false, .work, .cancel, .look true, .reset]
        ⟨.fresh, .reading ⟨[⟨"/test_a.py"⟩], [], []⟩ ([(⟨"/test_a.py"⟩, none)].map .finished)⟩ :=
      ((hemployed.step .cancel).step (.passOver rfl Nat.one_pos rfl)).step .reset
    have hended := hpassed.step (.abandon (.head _))
    exact ⟨_, hended, ((single.all_or_nothing .fresh).2.1 _ _ _ hended).2.2.1 (by decide)⟩
  · have hrecorded : Course single ⟨.fresh, single.opening⟩
        [.work, .look false, .work, .look false, .cancel, .work, .reset]
        ⟨.fresh, .reading ⟨[⟨"/test_a.py"⟩], [], []⟩
          ([(⟨"/test_a.py"⟩, single.record ⟨"/test_a.py"⟩)].map fun r => .finished (r.1, some r.2))⟩ :=
      (((hemployed.step (.take rfl Nat.one_pos rfl)).step .cancel).step .record).step .reset
    have hanswered : Course single ⟨.fresh, single.opening⟩
        [.work, .look false, .work, .look false, .cancel, .work, .reset, .look false]
        ⟨.fresh, .asking [] [single.record ⟨"/test_a.py"⟩] (([] : Answers).map .finished)⟩ :=
      hrecorded.step (.gather rfl)
    have hended := hanswered.step (.close rfl)
    exact ⟨_, hended, ((single.all_or_nothing .fresh).2.1 _ _ _ hended).1 _ rfl⟩
  · have hnothing : LocatedFiles.empty.arranged = .empty := by
      simp [LocatedFiles.arranged, LocatedFiles.empty, inOrder, dropRepeated]
    have hemploy : Step { single with roots := [] } ⟨⟨true⟩, .searching .empty [] []⟩ .work
        ⟨⟨true⟩, .reading LocatedFiles.empty.arranged
          (LocatedFiles.empty.arranged.files.map .fresh)⟩ := .employ rfl
    rw [hnothing] at hemploy
    have hdropped : Step { single with roots := [] }
        ⟨⟨true⟩, .reading .empty
          (([] : List (Path × FileRecord)).map fun r => .finished (r.1, some r.2))⟩
        (.look true) ⟨⟨true⟩, .ended (.error .cancelled)⟩ := .dropRecords rfl
    have hended := (Course.start.step hemploy).step hdropped
    refine ⟨_, hended, ?_⟩
    rcases ((Setup.all_or_nothing _ _).2.1 _ _ _ hended).2.2.2.1 rfl (by decide) with
      hcancelled | ⟨-, -, -, -, hlook⟩
    · exact hcancelled
    · exact absurd (.tail _ (.head _)) (hlook true)

end TestCensus.Census
