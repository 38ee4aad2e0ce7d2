import TestCensus.Census.Course
import TestCensus.Proofs.Files.Search

/-!
# How a census comes out

A course of a census comes out in one of two ways only.  If a check point saw the
handle cancelled, the census ends cancelled.  Otherwise it ends as if nobody had
been there to disturb it, whichever worker and whichever query was faster
(`Course.outcome_eq`).

*Undisturbed.*  As long as no check point saw the handle cancelled, each stage
determines what is still to come: what was found, with what the rest of the search
would find, is what an undisturbed search locates; every job that is done has the
result that belongs to its own input; and the jobs keep their order
(`Setup.Undisturbed`, preserved by `Step.undisturbed`).

*Stopped.*  Once a check point saw the handle cancelled, the census has ended, or a
file was passed over and stays passed over (`Stage.Stopped`, preserved by
`Step.stopped`).
-/

namespace TestCensus.Census

open TestCensus.Files

/-! ## Jobs -/

section Jobs

variable {α β : Type}

/-- A job that makes progress keeps its input and its place. -/
theorem map_input_replace {before after : List (Job α β)} {old new : Job α β} {inputs : List α}
    (h : (before ++ old :: after).map Job.input = inputs) (hnew : new.input = old.input) :
    (before ++ new :: after).map Job.input = inputs := by
  rw [← h]
  simp [hnew]

/-- What holds of all jobs still holds when one of them was replaced. -/
theorem forall_mem_replace {P : Job α β → Prop} {before after : List (Job α β)}
    {old new : Job α β} (h : ∀ job ∈ before ++ old :: after, P job) (hnew : P new) :
    ∀ job ∈ before ++ new :: after, P job := by
  intro job hjob
  rcases List.mem_append.1 hjob with hbefore | hafter
  · exact h job (List.mem_append_left _ hbefore)
  · rcases List.mem_cons.1 hafter with rfl | hafter
    · exact hnew
    · exact h job (List.mem_append_right _ (.tail _ hafter))

@[simp] theorem map_input_fresh (inputs : List α) :
    (inputs.map (Job.fresh (β := β))).map Job.input = inputs := by
  simp [Job.fresh, Function.comp_def]

@[simp] theorem map_input_begun (inputs : List α) :
    (inputs.map (Job.begun (β := β))).map Job.input = inputs := by
  simp [Job.begun, Function.comp_def]

@[simp] theorem map_input_finished (results : List (α × β)) :
    (results.map Job.finished).map Job.input = results.map Prod.fst := by
  simp [Job.finished, Function.comp_def]

end Jobs

variable {u : Setup} {s t : State} {a : Action}

/-! ## What holds of every course -/

/-- Files are read by workers that were started, and queries are under way as soon as
there are any. -/
def Setup.Staffed (u : Setup) : Stage → Prop
  | .reading _ _ => ∃ n, u.workers = .ok n
  | .asking _ _ jobs => (∃ n, u.workers = .ok n) ∧
      ∀ job ∈ jobs, job.progress ≠ .waiting ∧ ∃ c, u.asked = some c
  | .searching _ _ _ | .ended _ => True

theorem Setup.asked_of_mem_queries {q : Query} (h : q ∈ u.queries) : ∃ c, u.asked = some c := by
  cases hasked : u.asked with
  | some c => exact ⟨c, rfl⟩
  | none =>
      rw [Setup.queries_of_unasked hasked] at h
      cases h

theorem Step.staffed (h : Step u s a t) (hs : u.Staffed s.stage) : u.Staffed t.stage := by
  cases h with
  | cancel => exact hs
  | reset => exact hs
  | skipRoot => trivial
  | refuseRoot => trivial
  | enterRoot => trivial
  | event => trivial
  | stopSearch => trivial
  | employ hworkers => exact ⟨_, hworkers⟩
  | strike => trivial
  | take hworkers => exact ⟨_, hworkers⟩
  | passOver hworkers => exact ⟨_, hworkers⟩
  | record => exact hs
  | abandon => trivial
  | gather =>
      refine ⟨hs, fun job hjob => ?_⟩
      obtain ⟨q, hq, rfl⟩ := List.mem_map.1 hjob
      exact ⟨nofun, Setup.asked_of_mem_queries hq⟩
  | dropRecords => trivial
  | answer hasked => exact ⟨hs.1, forall_mem_replace hs.2 ⟨nofun, _, hasked⟩⟩
  | close => trivial
  | dropAnswers => trivial

theorem Course.staffed {done : List Action} (h : Course u s done t) (hs : u.Staffed s.stage) :
    u.Staffed t.stage := by
  induction h with
  | start => exact hs
  | step _ hstep ih => exact hstep.staffed ih

/-! ## The result of a census that nobody disturbs -/

theorem Setup.findFiles_eq (u : Setup) : u.settings.scan.findFiles u.tree u.roots =
    (u.settings.scan.locateFrom u.tree (fun _ => false) 0 u.roots).map LocatedFiles.arranged :=
  ScanSettings.locate_eq

theorem Setup.result_refused {f : ScanFailure}
    (h : u.settings.scan.findFiles u.tree u.roots = .error f) :
    u.result = .error (ofScanFailure f) := by
  have hlocate : u.settings.scan.locate u.tree CheckPoints.never.atEvent u.roots = .error f := h
  rw [Setup.result, run, hlocate]
  rfl

theorem Setup.result_strike {located : LocatedFiles} {message : String}
    (h : u.settings.scan.findFiles u.tree u.roots = .ok located)
    (hworkers : u.workers = .error message) :
    u.result = .error (.scan (.workerPool message)) := by
  have hlocate : u.settings.scan.locate u.tree CheckPoints.never.atEvent u.roots = .ok located := h
  have hstart : u.workforce.start u.settings.scan.effectiveThreads = .error message := hworkers
  rw [Setup.result, run, hlocate, startWorkers, hstart]
  rfl

theorem Setup.result_located {located : LocatedFiles} {n : Nat}
    (h : u.settings.scan.findFiles u.tree u.roots = .ok located) (hworkers : u.workers = .ok n) :
    u.result =
      .ok (Census.tally located.problems (located.files.map u.record) u.asked) := by
  exact run_eq_ok.2
    ⟨located, h, ⟨n, hworkers⟩, CheckPoints.any_atFile_never _, rfl, rfl, rfl⟩

/-- A census that has a result located its files and started its workers. -/
theorem Setup.result_eq_ok {x : Tally} (h : u.result = .ok x) :
    ∃ located, u.settings.scan.findFiles u.tree u.roots = .ok located ∧
      x = Census.tally located.problems (located.files.map u.record) u.asked := by
  cases hlocated : u.settings.scan.findFiles u.tree u.roots with
  | error f =>
      rw [Setup.result_refused hlocated] at h
      cases h
  | ok located =>
      cases hworkers : u.workers with
      | error message =>
          rw [Setup.result_strike hlocated hworkers] at h
          cases h
      | ok n =>
          rw [Setup.result_located hlocated hworkers] at h
          exact ⟨located, rfl, (Except.ok.inj h).symm⟩

/-- The answers of the collector that is asked make up its part of the result. -/
theorem Setup.tally_answers {problems : List String} {records : List FileRecord}
    {answers : Answers} (hqueries : answers.map Prod.fst = u.queries)
    (h : ∀ x ∈ answers, ∀ c, u.asked = some c → x.2 = c x.1) :
    u.tally problems records answers = Census.tally problems records u.asked := by
  cases hasked : u.asked with
  | none =>
      rw [Setup.queries_of_unasked hasked, List.map_eq_nil_iff] at hqueries
      rw [hqueries, Setup.tally, hasked]
      rfl
  | some c =>
      have hanswers : answers = c.answers := by
        rw [Collector.answers, ← Setup.queries_of_asked hasked, ← hqueries, List.map_map]
        refine (List.map_id answers).symm.trans (List.map_congr_left fun x hx => ?_)
        exact Prod.ext rfl (h x hx c hasked)
      rw [Setup.tally, hasked, hanswers, c.answers_warnings, Option.map_some, c.answers_counts]
      rfl

/-! ## Courses on which the handle was not seen cancelled -/

/-- How far a census is that never saw the handle cancelled. -/
def Setup.Undisturbed (u : Setup) : Stage → Prop
  | .searching found events roots =>
      u.settings.scan.findFiles u.tree u.roots =
        (u.settings.scan.locateFrom u.tree (fun _ => false) 0 roots).map fun later =>
          (found ++ (u.settings.scan.ofEvents events ++ later)).arranged
  | .reading located jobs =>
      u.settings.scan.findFiles u.tree u.roots = .ok located ∧
        jobs.map Job.input = located.files ∧
        ∀ job ∈ jobs, ∀ r, job.progress = .done r → r = some (u.record job.input)
  | .asking problems records jobs =>
      ∃ located, u.settings.scan.findFiles u.tree u.roots = .ok located ∧
        problems = located.problems ∧ records = located.files.map u.record ∧
        jobs.map Job.input = u.queries ∧
        ∀ job ∈ jobs, ∀ o c, u.asked = some c → job.progress = .done o → o = c job.input
  | .ended outcome => outcome = u.result

theorem Setup.opening_undisturbed (u : Setup) : u.Undisturbed u.opening := by
  show u.settings.scan.findFiles u.tree u.roots = _
  rw [u.findFiles_eq]
  rfl

/-- A step that does not see the handle cancelled leaves a census undisturbed. -/
theorem Step.undisturbed (h : Step u s a t) (ha : a ≠ .look true) (hstaffed : u.Staffed s.stage)
    (hs : u.Undisturbed s.stage) : u.Undisturbed t.stage := by
  cases h with
  | cancel => exact hs
  | reset => exact hs
  | skipRoot habsent =>
      refine hs.trans ?_
      rw [ScanSettings.locateFrom_absent habsent]
      simp only [LocatedFiles.append_assoc]
      cases u.settings.scan.locateFrom u.tree (fun _ => false) 0 _ with
      | error f => rfl
      | ok later => rfl
  | refuseRoot hroot hrules =>
      have hfound := hs.trans (by rw [ScanSettings.locateFrom_refused hroot hrules])
      exact (Setup.result_refused hfound).symm
  | enterRoot hroot hrules =>
      -- What was still to come of the root is now in the events.
      refine hs.trans ?_
      rw [ScanSettings.locateFrom_walked hroot hrules]
      cases u.settings.scan.locateFrom u.tree (fun _ => false) 0 _ with
      | error f => rfl
      | ok later => rfl
  | event =>
      refine hs.trans ?_
      rw [ScanSettings.ofEvents_cons]
      simp only [LocatedFiles.append_assoc]
  | stopSearch => exact absurd rfl ha
  | employ =>
      refine ⟨hs.trans ?_, map_input_fresh _, ?_⟩
      · exact congrArg (Except.ok ·.arranged) (LocatedFiles.append_empty _)
      · intro job hjob r hr
        obtain ⟨path, -, rfl⟩ := List.mem_map.1 hjob
        cases hr
  | strike hworkers => exact (Setup.result_strike hs hworkers).symm
  | take =>
      obtain ⟨hlocated, hinputs, hdone⟩ := hs
      exact ⟨hlocated, map_input_replace hinputs rfl, forall_mem_replace hdone nofun⟩
  | passOver => exact absurd rfl ha
  | record =>
      obtain ⟨hlocated, hinputs, hdone⟩ := hs
      refine ⟨hlocated, map_input_replace hinputs rfl, forall_mem_replace hdone ?_⟩
      intro r hr
      cases hr
      rfl
  | abandon hpassed =>
      -- An undisturbed census passed over no file.
      obtain ⟨-, -, hdone⟩ := hs
      exact absurd (hdone _ (List.mem_map_of_mem hpassed) _ rfl) nofun
  | @gather h located records _ =>
      obtain ⟨hlocated, hinputs, hdone⟩ := hs
      refine ⟨located, hlocated, rfl, ?_, map_input_begun _, ?_⟩
      · rw [← hinputs, List.map_map, List.map_map]
        refine List.map_congr_left fun r hr => ?_
        exact Option.some.inj (hdone _ (List.mem_map_of_mem hr) _ rfl)
      · intro job hjob o c _ ho
        obtain ⟨q, -, rfl⟩ := List.mem_map.1 hjob
        cases ho
  | dropRecords => exact absurd rfl ha
  | answer hasked =>
      obtain ⟨located, hlocated, hproblems, hrecords, hinputs, hdone⟩ := hs
      refine ⟨located, hlocated, hproblems, hrecords, map_input_replace hinputs rfl,
        forall_mem_replace hdone ?_⟩
      intro o c hc ho
      cases ho
      cases hasked.symm.trans hc
      rfl
  | close =>
      obtain ⟨located, hlocated, rfl, rfl, hinputs, hdone⟩ := hs
      obtain ⟨⟨n, hworkers⟩, -⟩ := hstaffed
      rw [map_input_finished] at hinputs
      show Except.ok _ = u.result
      rw [Setup.result_located hlocated hworkers, Setup.tally_answers hinputs]
      intro x hx c hc
      exact hdone _ (List.mem_map_of_mem hx) _ c hc rfl
  | dropAnswers => exact absurd rfl ha

theorem Course.undisturbed {done : List Action} (h : Course u s done t)
    (hlook : Action.look true ∉ done) (hstaffed : u.Staffed s.stage)
    (hs : u.Undisturbed s.stage) : u.Undisturbed t.stage := by
  induction h with
  | start => exact hs
  | step hcourse hstep ih =>
      rw [List.mem_append, not_or, List.mem_singleton] at hlook
      exact hstep.undisturbed (Ne.symm hlook.2) (hcourse.staffed hstaffed) (ih hlook.1)

/-! ## Courses on which the handle was seen cancelled -/

/-- The census has ended cancelled, or will when the workers are done. -/
def Stage.Stopped : Stage → Prop
  | .reading _ jobs => ∃ job ∈ jobs, job.progress = .done none
  | .ended outcome => outcome = .error .cancelled
  | .searching _ _ _ | .asking _ _ _ => False

/-- A file that was passed over stays so while other jobs make progress. -/
theorem exists_mem_replace {α β : Type} {before after : List (Job α β)} {old new : Job α β} {r : β}
    (h : ∃ job ∈ before ++ old :: after, job.progress = .done r) (hold : old.progress ≠ .done r) :
    ∃ job ∈ before ++ new :: after, job.progress = .done r := by
  obtain ⟨job, hjob, hr⟩ := h
  rcases List.mem_append.1 hjob with hbefore | hafter
  · exact ⟨job, List.mem_append_left _ hbefore, hr⟩
  · rcases List.mem_cons.1 hafter with rfl | hafter
    · exact absurd hr hold
    · exact ⟨job, List.mem_append_right _ (.tail _ hafter), hr⟩

/-- A census that is stopped never gets going again. -/
theorem Step.stopped (h : Step u s a t) (hs : s.stage.Stopped) : t.stage.Stopped := by
  have hrecorded : ∀ {records : List (Path × FileRecord)},
      ¬∃ job ∈ records.map fun r => (Job.finished (r.1, some r.2) : Job Path (Option FileRecord)),
        job.progress = .done none := by
    rintro records ⟨job, hjob, hr⟩
    obtain ⟨r, -, rfl⟩ := List.mem_map.1 hjob
    cases hr
  cases h with
  | cancel => exact hs
  | reset => exact hs
  | skipRoot => exact hs
  | refuseRoot => exact hs.elim
  | enterRoot => exact hs
  | event => exact hs
  | stopSearch => exact hs.elim
  | employ => exact hs.elim
  | strike => exact hs.elim
  | take => exact exists_mem_replace hs nofun
  | passOver => exact exists_mem_replace hs nofun
  | record => exact exists_mem_replace hs nofun
  | abandon => rfl
  | gather => exact absurd hs hrecorded
  | dropRecords => rfl
  | answer => exact hs
  | close => exact hs.elim
  | dropAnswers => rfl

/-- A census that sees the handle cancelled is stopped. -/
theorem Step.stopped_of_look (h : Step u s (.look true) t) : t.stage.Stopped := by
  cases h with
  | stopSearch => rfl
  | passOver => exact ⟨.finished _, List.mem_append_right _ (.head _), rfl⟩
  | dropRecords => rfl
  | dropAnswers => rfl

theorem Course.stopped {done : List Action} (h : Course u s done t)
    (hlook : Action.look true ∈ done) : t.stage.Stopped := by
  induction h with
  | start => cases hlook
  | step hcourse hstep ih =>
      rcases List.mem_append.1 hlook with hbefore | hlast
      · exact hstep.stopped (ih hbefore)
      · rw [List.mem_singleton] at hlast
        subst hlast
        exact hstep.stopped_of_look

/-! ## Outcomes -/

/-- A census ends cancelled if a check point saw the handle cancelled, and otherwise
as if nobody had disturbed it. -/
theorem Course.outcome_eq {h h' : CancelHandle} {done : List Action}
    {outcome : Except CensusFailure Tally}
    (hcourse : Course u ⟨h, u.opening⟩ done ⟨h', .ended outcome⟩) :
    outcome = if Action.look true ∈ done then .error .cancelled else u.result := by
  split
  · rename_i hlook
    exact hcourse.stopped hlook
  · rename_i hlook
    exact hcourse.undisturbed hlook trivial u.opening_undisturbed

/-- A census with a result gives all that it would have given undisturbed. -/
theorem Course.result_of_ok {h h' : CancelHandle} {done : List Action} {x : Tally}
    (hcourse : Course u ⟨h, u.opening⟩ done ⟨h', .ended (.ok x)⟩) : u.result = .ok x := by
  have houtcome := hcourse.outcome_eq
  split at houtcome
  · cases houtcome
  · exact houtcome.symm

end TestCensus.Census
