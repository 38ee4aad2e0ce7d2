import Mathlib.Data.Set.List
import TestCensus.Proofs.Census.Course

/-!
# Every census comes to an end

A census that has not ended can always go on by itself, whatever the handle says and
whoever is at work (`Stage.Ended`, `exists_step`), and each of its own steps leaves
less to do (`Step.todo_lt`).  So a census can take only so many steps of its own,
and at any moment there is a way to its end that needs nobody else
(`Course.finishes`).

What is left to do is counted as follows.  A query that is under way is one thing to
do, a file that waits is two, and a file that somebody is at is one.  An event is
three, since it may bring a file, and a root is all its events and one thing more.
Each change of the stage is one.
-/

namespace TestCensus.Census

open TestCensus.Files

/-- The census has a result or a failure. -/
def Stage.Ended (stage : Stage) : Prop := ∃ outcome, stage = .ended outcome

/-! ## What is left to do -/

/-- The number of steps that a job needs at most. -/
def Job.todo {α β : Type} (job : Job α β) : Nat :=
  match job.progress with
  | .waiting => 2
  | .underway => 1
  | .done _ => 0

/-- The events of the walk from a root; none if there is no walk. -/
def Setup.events (u : Setup) (root : Path) : List WalkEvent :=
  match u.settings.scan.rulesAt u.tree root with
  | .ok rules => u.tree.walk u.settings.scan.ignoreFilesUse rules root
  | .error _ => []

/-- The number of steps that roots need at most, with those of the files in them. -/
def Setup.todoOfRoots (u : Setup) : List Files.Path → Nat
  | [] => 0
  | root :: roots => 1 + 3 * (u.events root).length + u.todoOfRoots roots

/-- The number of steps that jobs need at most. -/
def todoOfJobs {α β : Type} : List (Job α β) → Nat
  | [] => 0
  | job :: jobs => job.todo + todoOfJobs jobs

/-- The number of steps that a census needs at most from a stage on. -/
def Setup.todo (u : Setup) : Stage → Nat
  | .searching found events roots =>
      2 * found.files.length + 3 * events.length + u.todoOfRoots roots + 3 + u.queries.length
  | .reading _ jobs => todoOfJobs jobs + 2 + u.queries.length
  | .asking _ _ jobs => todoOfJobs jobs + 1
  | .ended _ => 0

section Jobs

variable {α β : Type}

@[simp] theorem Job.todo_fresh (input : α) : (Job.fresh input : Job α β).todo = 2 := rfl

@[simp] theorem Job.todo_begun (input : α) : (Job.begun input : Job α β).todo = 1 := rfl

@[simp] theorem Job.todo_finished (x : α × β) : (Job.finished x).todo = 0 := rfl

theorem todoOfJobs_append (before after : List (Job α β)) :
    todoOfJobs (before ++ after) = todoOfJobs before + todoOfJobs after := by
  induction before with
  | nil => exact (Nat.zero_add _).symm
  | cons job before ih =>
      rw [List.cons_append, todoOfJobs, todoOfJobs, ih, Nat.add_assoc]

theorem todoOfJobs_replace {before after : List (Job α β)} {old new : Job α β}
    (h : new.todo < old.todo) :
    todoOfJobs (before ++ new :: after) < todoOfJobs (before ++ old :: after) := by
  rw [todoOfJobs_append, todoOfJobs_append, todoOfJobs, todoOfJobs]
  omega

theorem todoOfJobs_fresh (inputs : List α) :
    todoOfJobs (inputs.map (Job.fresh (β := β))) = 2 * inputs.length := by
  induction inputs with
  | nil => rfl
  | cons input rest ih =>
      rw [List.map_cons, todoOfJobs, ih, Job.todo_fresh, List.length_cons]
      omega

theorem todoOfJobs_begun (inputs : List α) :
    todoOfJobs (inputs.map (Job.begun (β := β))) = inputs.length := by
  induction inputs with
  | nil => rfl
  | cons input rest ih =>
      rw [List.map_cons, todoOfJobs, ih, Job.todo_begun, List.length_cons]
      omega

end Jobs

/-- Putting files in order makes them no more. -/
theorem dropRepeated_length_le (paths : List Path) :
    (dropRepeated paths).length ≤ paths.length := by
  induction paths with
  | nil => exact Nat.le_refl _
  | cons p rest ih =>
      rw [dropRepeated]
      cases hrest : dropRepeated rest with
      | nil => simp
      | cons q others =>
          rw [hrest] at ih
          dsimp only
          split <;> simp only [List.length_cons] at * <;> omega

theorem arranged_length_le (found : LocatedFiles) :
    found.arranged.files.length ≤ found.files.length := by
  exact Nat.le_trans (dropRepeated_length_le _) (Nat.le_of_eq (List.length_mergeSort _))

/-- An event brings at most one file. -/
theorem ofEvents_singleton_length_le (s : ScanSettings) (e : WalkEvent) :
    (s.ofEvents [e]).files.length ≤ 1 := by
  cases e with
  | problem message => exact Nat.zero_le _
  | entry path isFile =>
      simp only [ScanSettings.ofEvents, ScanSettings.ofEvent, List.flatMap_cons, List.flatMap_nil,
        List.append_nil]
      split <;> simp

variable {u : Setup} {s t : State} {a : Action}

theorem Setup.events_eq {root : Path} {rules : IgnoreRules}
    (h : u.settings.scan.rulesAt u.tree root = .ok rules) :
    u.events root = u.tree.walk u.settings.scan.ignoreFilesUse rules root := by
  rw [Setup.events, h]

/-! ## Steps leave less to do -/

/-- Using the handle leaves as much to do as there was. -/
theorem Step.todo_eq (h : Step u s a t) (ha : a.isOwn = false) :
    u.todo t.stage = u.todo s.stage := by
  cases h with
  | cancel => rfl
  | reset => rfl
  | skipRoot | refuseRoot | enterRoot | event | stopSearch | employ | strike | take | passOver
  | record | abandon | gather | dropRecords | answer | close | dropAnswers => cases ha

/-- A step of the census leaves less to do. -/
theorem Step.todo_lt (h : Step u s a t) (ha : a.isOwn = true) :
    u.todo t.stage < u.todo s.stage := by
  cases h with
  | cancel => cases ha
  | reset => cases ha
  | skipRoot =>
      simp only [Setup.todo, Setup.todoOfRoots, LocatedFiles.append_files, List.length_append,
        List.length_nil]
      omega
  | refuseRoot =>
      simp only [Setup.todo]
      omega
  | enterRoot _ hrules =>
      simp only [Setup.todo, Setup.todoOfRoots, Setup.events_eq hrules, List.length_nil]
      omega
  | @event h found e events roots _ =>
      have hfiles := ofEvents_singleton_length_le u.settings.scan e
      simp only [Setup.todo, LocatedFiles.append_files, List.length_append, List.length_cons]
      omega
  | stopSearch =>
      simp only [Setup.todo]
      omega
  | @employ h found n _ =>
      have hfiles := arranged_length_le found
      simp only [Setup.todo, todoOfJobs_fresh, List.length_nil]
      omega
  | strike =>
      simp only [Setup.todo]
      omega
  | take | passOver | record =>
      exact Nat.add_lt_add_right (Nat.add_lt_add_right (todoOfJobs_replace (by simp)) 2) _
  | abandon =>
      simp only [Setup.todo]
      omega
  | gather =>
      simp only [Setup.todo, todoOfJobs_begun]
      omega
  | dropRecords =>
      simp only [Setup.todo]
      omega
  | answer => exact Nat.add_lt_add_right (todoOfJobs_replace (by simp)) 1
  | close =>
      simp only [Setup.todo]
      omega
  | dropAnswers =>
      simp only [Setup.todo]
      omega

/-! ## A census can always go on -/

/-- Somebody is at a job, or a job waits and nobody is at any, or all jobs are done. -/
theorem jobs_cases {α β : Type} (jobs : List (Job α β)) :
    (∃ before input after, jobs = before ++ .begun input :: after) ∨
      (∃ before input after, jobs = before ++ .fresh input :: after ∧
        jobs.countP Job.isUnderway = 0) ∨
      ∃ results : List (α × β), jobs = results.map Job.finished := by
  by_cases hunderway : ∃ job ∈ jobs, job.progress = .underway
  · obtain ⟨⟨input, progress⟩, hjob, rfl⟩ := hunderway
    obtain ⟨before, after, h⟩ := List.append_of_mem hjob
    exact .inl ⟨before, input, after, h⟩
  · have hidle : jobs.countP Job.isUnderway = 0 := by
      refine List.countP_eq_zero.2 fun job hjob h => hunderway ⟨job, hjob, ?_⟩
      unfold Job.isUnderway at h
      split at h
      · assumption
      · cases h
    by_cases hwaiting : ∃ job ∈ jobs, job.progress = .waiting
    · obtain ⟨⟨input, progress⟩, hjob, rfl⟩ := hwaiting
      obtain ⟨before, after, h⟩ := List.append_of_mem hjob
      exact .inr (.inl ⟨before, input, after, h, hidle⟩)
    · refine .inr (.inr ?_)
      have hdone : ∀ job ∈ jobs, ∃ x, Job.finished x = job := by
        rintro ⟨input, progress⟩ hjob
        cases progress with
        | waiting => exact absurd ⟨_, hjob, rfl⟩ hwaiting
        | underway => exact absurd ⟨_, hjob, rfl⟩ hunderway
        | done result => exact ⟨(input, result), rfl⟩
      obtain ⟨results, rfl⟩ := (Set.range_list_map Job.finished).ge hdone
      exact ⟨results, rfl⟩

/-- A file was passed over, or every file has its record. -/
theorem outcomes_cases {α β : Type} (outcomes : List (α × Option β)) :
    (∃ input, (input, none) ∈ outcomes) ∨
      ∃ results : List (α × β), outcomes = results.map fun r => (r.1, some r.2) := by
  by_cases hpassed : ∃ input, (input, none) ∈ outcomes
  · exact .inl hpassed
  · have hall : ∀ x ∈ outcomes, ∃ r : α × β, (r.1, some r.2) = x := by
      rintro ⟨input, result⟩ hx
      cases result with
      | none => exact absurd ⟨input, hx⟩ hpassed
      | some r => exact ⟨(input, r), rfl⟩
    obtain ⟨results, rfl⟩ := (Set.range_list_map _).ge hall
    exact .inr ⟨results, rfl⟩

/-- A search takes in its next event, or goes to its next root, or ends. -/
theorem exists_step_searching (h : CancelHandle) (found : LocatedFiles) (events : List WalkEvent)
    (roots : List Files.Path) :
    ∃ a t, a.isOwn = true ∧ Step u ⟨h, .searching found events roots⟩ a t := by
  cases events with
  | cons e events =>
      cases hlook : h.isCancelled with
      | false => exact ⟨_, _, rfl, .event hlook⟩
      | true => exact ⟨_, _, rfl, .stopSearch hlook⟩
  | nil =>
      cases roots with
      | nil =>
          cases hworkers : u.workers with
          | ok n => exact ⟨_, _, rfl, .employ hworkers⟩
          | error message => exact ⟨_, _, rfl, .strike hworkers⟩
      | cons root roots =>
          cases hroot : u.tree.has root with
          | false => exact ⟨_, _, rfl, .skipRoot hroot⟩
          | true =>
              cases hrules : u.settings.scan.rulesAt u.tree root with
              | error f => exact ⟨_, _, rfl, .refuseRoot hroot hrules⟩
              | ok rules => exact ⟨_, _, rfl, .enterRoot hroot hrules⟩

/-- Workers that were started come to the end of the files. -/
theorem exists_step_reading (h : CancelHandle) (located : LocatedFiles)
    (jobs : List (Job Files.Path (Option FileRecord))) {n : Nat} (hworkers : u.workers = .ok n) :
    ∃ a t, a.isOwn = true ∧ Step u ⟨h, .reading located jobs⟩ a t := by
  obtain ⟨before, path, after, rfl⟩ | ⟨before, path, after, rfl, hidle⟩ | ⟨outcomes, rfl⟩ :=
    jobs_cases jobs
  · exact ⟨_, _, rfl, .record⟩
  · -- Nobody is at a file, and there is at least one worker.
    have hfree : (before ++ Job.fresh path :: after).countP Job.isUnderway < n :=
      hidle ▸ Setup.workers_pos hworkers
    cases hlook : h.isCancelled with
    | false => exact ⟨_, _, rfl, .take hworkers hfree hlook⟩
    | true => exact ⟨_, _, rfl, .passOver hworkers hfree hlook⟩
  · obtain ⟨path, hpassed⟩ | ⟨records, rfl⟩ := outcomes_cases outcomes
    · exact ⟨_, _, rfl, .abandon hpassed⟩
    · rw [List.map_map]
      cases hlook : h.isCancelled with
      | false => exact ⟨_, _, rfl, .gather hlook⟩
      | true => exact ⟨_, _, rfl, .dropRecords hlook⟩

/-- Queries that are under way come to their end. -/
theorem exists_step_asking (h : CancelHandle) (problems : List String) (records : List FileRecord)
    {jobs : List (Job Query QueryOutcome)}
    (hjobs : ∀ job ∈ jobs, job.progress ≠ .waiting ∧ ∃ c, u.asked = some c) :
    ∃ a t, a.isOwn = true ∧ Step u ⟨h, .asking problems records jobs⟩ a t := by
  obtain ⟨before, query, after, rfl⟩ | ⟨before, query, after, rfl, -⟩ | ⟨answers, rfl⟩ :=
    jobs_cases jobs
  · obtain ⟨-, c, hasked⟩ := hjobs (.begun query) (List.mem_append_right _ (.head _))
    exact ⟨_, _, rfl, .answer hasked⟩
  · obtain ⟨hwaiting, -⟩ := hjobs (.fresh query) (List.mem_append_right _ (.head _))
    exact absurd rfl hwaiting
  · cases hlook : h.isCancelled with
    | false => exact ⟨_, _, rfl, .close hlook⟩
    | true => exact ⟨_, _, rfl, .dropAnswers hlook⟩

/-- A census that has not ended can take a step of its own. -/
theorem exists_step (hs : u.Staffed s.stage) (hended : ¬s.stage.Ended) :
    ∃ a t, a.isOwn = true ∧ Step u s a t := by
  obtain ⟨h, stage⟩ := s
  cases stage with
  | searching found events roots => exact exists_step_searching h found events roots
  | reading located jobs =>
      obtain ⟨n, hworkers⟩ := hs
      exact exists_step_reading h located jobs hworkers
  | asking problems records jobs => exact exists_step_asking h problems records hs.2
  | ended outcome => exact absurd ⟨outcome, rfl⟩ hended

/-! ## A census comes to its end -/

theorem Course.trans {r : State} {first second : List Action} (h : Course u r first s)
    (h' : Course u s second t) : Course u r (first ++ second) t := by
  induction h' with
  | start => rwa [List.append_nil]
  | step _ hstep ih =>
      rw [← List.append_assoc]
      exact ih.step hstep

/-- A census takes at most so many steps of its own as there are to do. -/
theorem Course.own_le {done : List Action} (h : Course u s done t) :
    done.countP Action.isOwn + u.todo t.stage ≤ u.todo s.stage := by
  induction h with
  | start => simp
  | @step done r t a _ hstep ih =>
      rw [List.countP_append, List.countP_singleton]
      cases ha : a.isOwn with
      | false =>
          rw [hstep.todo_eq ha, if_neg Bool.false_ne_true]
          exact ih
      | true =>
          have hless := hstep.todo_lt ha
          rw [if_pos rfl]
          omega

/-- From any state there is a way to the end on which nobody uses the handle. -/
theorem exists_course_ended (s : State) (hs : u.Staffed s.stage) :
    ∃ later t, Course u s later t ∧ t.stage.Ended ∧ ∀ a ∈ later, a.isOwn = true := by
  by_cases hended : s.stage.Ended
  · exact ⟨[], s, .start, hended, nofun⟩
  · obtain ⟨a, r, ha, hstep⟩ := exists_step hs hended
    have hless := hstep.todo_lt ha
    obtain ⟨later, t, hcourse, ht, hown⟩ := exists_course_ended r (hstep.staffed hs)
    refine ⟨[a] ++ later, t, (Course.start.step hstep).trans hcourse, ht, ?_⟩
    simpa [ha] using hown
termination_by u.todo s.stage

/-- However a census began, it can be brought to its end without the handle being
used. -/
theorem Course.finishes {h : CancelHandle} {done : List Action}
    (hcourse : Course u ⟨h, u.opening⟩ done s) :
    ∃ later h' outcome, Course u ⟨h, u.opening⟩ (done ++ later) ⟨h', .ended outcome⟩ ∧
      ∀ a ∈ later, a.isOwn = true := by
  obtain ⟨later, ⟨h', stage⟩, hlater, ⟨outcome, rfl⟩, hown⟩ :=
    exists_course_ended s (hcourse.staffed (show u.Staffed u.opening from trivial))
  exact ⟨later, h', outcome, hcourse.trans hlater, hown⟩

/-- Nobody cancels the handle in steps that the census takes by itself. -/
theorem cancel_not_mem_of_own {later : List Action} (h : ∀ a ∈ later, a.isOwn = true) :
    Action.cancel ∉ later :=
  fun hmem => Bool.false_ne_true (h _ hmem)

/-! ## What the census sees of the handle -/

/-- What turns a handle that is found so into one that is not. -/
def Action.turning : Bool → Action
  | true => .reset
  | false => .cancel

/-- A handle stays as it is unless somebody turns it, and check points see it so. -/
theorem Step.handle_kept {b : Bool} (h : Step u s a t) (hs : s.handle.isCancelled = b)
    (ha : a ≠ .turning b) : t.handle.isCancelled = b ∧ a ≠ .look (!b) := by
  cases h with
  | cancel =>
      cases b with
      | true => exact ⟨rfl, nofun⟩
      | false => exact absurd rfl ha
  | reset =>
      cases b with
      | true => exact absurd rfl ha
      | false => exact ⟨rfl, nofun⟩
  | skipRoot | refuseRoot | enterRoot | employ | strike | record | abandon | answer =>
      exact ⟨hs, nofun⟩
  | event hlook | stopSearch hlook | take _ _ hlook | passOver _ _ hlook | gather hlook
  | dropRecords hlook | close hlook | dropAnswers hlook =>
      -- What is seen is what the handle is, and the handle is `b`.
      cases hs.symm.trans hlook
      exact ⟨hs, nofun⟩

theorem Course.handle_kept {b : Bool} {done : List Action} (h : Course u s done t)
    (hs : s.handle.isCancelled = b) (hnone : .turning b ∉ done) :
    t.handle.isCancelled = b ∧ .look (!b) ∉ done := by
  induction h with
  | start => exact ⟨hs, List.not_mem_nil⟩
  | step _ hstep ih =>
      rw [List.mem_append, not_or, List.mem_singleton] at hnone
      obtain ⟨hkept, hbefore⟩ := ih hnone.1
      obtain ⟨hkept', hlast⟩ := hstep.handle_kept hkept (Ne.symm hnone.2)
      rw [List.mem_append, not_or, List.mem_singleton]
      exact ⟨hkept', hbefore, Ne.symm hlast⟩

/-- A census that nobody cancels ends undisturbed. -/
theorem Course.outcome_of_uncancelled {h h' : CancelHandle} {done : List Action}
    {outcome : Except CensusFailure Tally}
    (hcourse : Course u ⟨h, u.opening⟩ done ⟨h', .ended outcome⟩) (hfresh : h.isCancelled = false)
    (hcancel : Action.cancel ∉ done) : outcome = u.result := by
  obtain ⟨-, hlook⟩ : _ ∧ Action.look true ∉ done := hcourse.handle_kept hfresh hcancel
  rw [hcourse.outcome_eq, if_neg hlook]

/-- A census can take its course without being cancelled, and so come to its result. -/
theorem Setup.exists_course_result (u : Setup) : ∃ done h,
    Course u ⟨.fresh, u.opening⟩ done ⟨h, .ended u.result⟩ ∧ Action.cancel ∉ done := by
  obtain ⟨done, h, outcome, hcourse, hown⟩ := Course.finishes (u := u) (h := .fresh) .start
  have hcancel : Action.cancel ∉ [] ++ done := cancel_not_mem_of_own hown
  rw [hcourse.outcome_of_uncancelled rfl hcancel] at hcourse
  exact ⟨_, h, hcourse, hcancel⟩

end TestCensus.Census
