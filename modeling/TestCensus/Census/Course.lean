import TestCensus.Census.Run

/-!
# The course of a census

`Census.run` says what a census gives.  Here is how it comes about.  A census is
not alone: its files are read by several workers at once, all queries to the
collector are under way at the same time, and whoever holds the handle may cancel
or reset it at any moment.  `Step` lists what can happen next, and a `Course` is any
sequence of such steps, so what holds of every course holds whichever worker or
query is faster and whenever the handle is used.

*Stages.*  A census goes through its roots event by event (`searching`), then has
the files read (`reading`), then asks the collector (`asking`), and then it has
`ended`.  A root, the workers, and a handle that is found cancelled can end it
earlier.

*Jobs.*  A file that is to be read and a query that is to be answered are jobs.  They
stand in the order in which their results are wanted, and each is done
independently of the others.  Queries are under way from the start.  Files wait for
a worker, and there are only so many workers.

*Check points.*  The census looks at the handle before each event, before each file
is read, when it has gathered the records, and when it has gathered the answers.
These are the steps that `look`, and what they see is the state of the handle at
that moment.  A file whose worker sees the handle cancelled is passed over.  A census
that passed over a file ends without looking again.
-/

namespace TestCensus.Census

open TestCensus.Files

/-! ## What a census works with -/

/-- What a census is about and what it works with.  Nothing of it changes while the
census takes its course. -/
structure Setup where
  /-- The files. -/
  tree : Tree
  /-- The settings. -/
  settings : Settings
  /-- The collector, if there is one. -/
  collector : Option Collector
  /-- What the files are reported relative to. -/
  base : List Component
  /-- The roots of the suite. -/
  roots : List Path
  /-- What starts the workers. -/
  workforce : Workforce

namespace Setup

/-- The census of a project without a collector. -/
def ofProject (t : Tree) (settings : Settings) (project : Path) (workforce : Workforce) :
    Setup where
  tree := t
  settings := settings
  collector := none
  base := project.components
  roots := projectRoots settings project
  workforce := workforce

/-- The number of workers, or why they cannot be started. -/
def workers (u : Setup) : Except String Nat := u.workforce.start u.settings.scan.effectiveThreads

theorem workers_pos {u : Setup} {n : Nat} (h : u.workers = .ok n) : 0 < n :=
  u.workforce.pos_of_start _ n h

/-- The collector that is asked. -/
def asked (u : Setup) : Option Collector := effectiveCollector u.settings u.collector

/-- The queries to the collector that is asked. -/
def queries (u : Setup) : List Query :=
  match u.asked with
  | some _ => Collector.queries
  | none => []

theorem queries_of_asked {u : Setup} {c : Collector} (h : u.asked = some c) :
    u.queries = Collector.queries := by
  rw [queries, h]

theorem queries_of_unasked {u : Setup} (h : u.asked = none) : u.queries = [] := by
  rw [queries, h]

/-- The record of a file. -/
def record (u : Setup) (path : Path) : FileRecord :=
  .ofFile u.settings.naming.rules u.tree u.base path

/-- The result from what was gathered on the way. -/
def tally (u : Setup) (problems : List String) (records : List FileRecord)
    (answers : Answers) : Tally :=
  { files := records.map FileRecord.file
    collected := u.asked.map fun _ => answers.counts
    recorded := problems.map Warning.scanProblem ++ records.flatMap FileRecord.warnings ++
      answers.warnings }

/-- What the census gives if nobody disturbs it. -/
def result (u : Setup) : Except CensusFailure Tally :=
  run u.tree u.settings u.collector .never u.base u.roots u.workforce

end Setup

/-! ## Jobs -/

/-- How far a job is. -/
inductive Progress (β : Type) where
  /-- Nobody has begun. -/
  | waiting
  /-- Somebody is at it. -/
  | underway
  /-- It is done. -/
  | done (result : β)

/-- A job. -/
structure Job (α β : Type) where
  /-- What is to be done. -/
  input : α
  /-- How far it is. -/
  progress : Progress β

namespace Job

variable {α β : Type}

/-- A job that nobody has begun. -/
def fresh (input : α) : Job α β := ⟨input, .waiting⟩

/-- A job that somebody is at. -/
def begun (input : α) : Job α β := ⟨input, .underway⟩

/-- A job that is done, with its result. -/
def finished (x : α × β) : Job α β := ⟨x.1, .done x.2⟩

/-- Somebody is at the job. -/
def isUnderway (j : Job α β) : Bool :=
  match j.progress with
  | .underway => true
  | _ => false

end Job

/-! ## States -/

/-- How far a census is. -/
inductive Stage where
  /-- It is among the events of a root; `roots` are still to come. -/
  | searching (found : LocatedFiles) (events : List WalkEvent) (roots : List Path)
  /-- The located files are read.  A file that was passed over has no record. -/
  | reading (located : LocatedFiles) (jobs : List (Job Path (Option FileRecord)))
  /-- The files are recorded and the collector is asked. -/
  | asking (problems : List String) (records : List FileRecord)
      (jobs : List (Job Query QueryOutcome))
  /-- It has a result or a failure. -/
  | ended (outcome : Except CensusFailure Tally)

/-- A census with the handle on which it can be cancelled. -/
structure State where
  /-- The handle, as all who hold a clone of it find it. -/
  handle : CancelHandle
  /-- How far the census is. -/
  stage : Stage

/-- The first stage of a census. -/
def Setup.opening (u : Setup) : Stage := .searching .empty [] u.roots

/-! ## Steps -/

/-- What somebody does in a step. -/
inductive Action where
  /-- The handle is cancelled. -/
  | cancel
  /-- The handle is reset. -/
  | reset
  /-- The census comes to a check point and finds the handle so. -/
  | look (isCancelled : Bool)
  /-- The census goes on without a look at the handle. -/
  | work
deriving DecidableEq

/-- The action is one of the census itself. -/
def Action.isOwn : Action → Bool
  | .cancel | .reset => false
  | .look _ | .work => true

/-- What can happen next. -/
inductive Step (u : Setup) : State → Action → State → Prop where
  /-- Somebody cancels the handle. -/
  | cancel {s : State} : Step u s .cancel ⟨s.handle.cancel, s.stage⟩
  /-- Somebody resets the handle. -/
  | reset {s : State} : Step u s .reset ⟨s.handle.reset, s.stage⟩
  /-- The next root does not exist. -/
  | skipRoot {h found root roots} :
      u.tree.has root = false →
      Step u ⟨h, .searching found [] (root :: roots)⟩ .work
        ⟨h, .searching (found ++ ⟨[], [root], []⟩) [] roots⟩
  /-- The next root is closed, or the exclude list cannot be used. -/
  | refuseRoot {h found root roots f} :
      u.tree.has root = true →
      u.settings.scan.rulesAt u.tree root = .error f →
      Step u ⟨h, .searching found [] (root :: roots)⟩ .work ⟨h, .ended (.error (ofScanFailure f))⟩
  /-- The next root is entered. -/
  | enterRoot {h found root roots rules} :
      u.tree.has root = true →
      u.settings.scan.rulesAt u.tree root = .ok rules →
      Step u ⟨h, .searching found [] (root :: roots)⟩ .work
        ⟨h, .searching found (u.tree.walk u.settings.scan.ignoreFilesUse rules root) roots⟩
  /-- The next event is taken in. -/
  | event {h found e events roots} :
      h.isCancelled = false →
      Step u ⟨h, .searching found (e :: events) roots⟩ (.look false)
        ⟨h, .searching (found ++ u.settings.scan.ofEvents [e]) events roots⟩
  /-- The search ends at the next event. -/
  | stopSearch {h found e events roots} :
      h.isCancelled = true →
      Step u ⟨h, .searching found (e :: events) roots⟩ (.look true)
        ⟨h, .ended (.error (ofScanFailure .cancelled))⟩
  /-- The files are put in order and wait for the workers. -/
  | employ {h found n} :
      u.workers = .ok n →
      Step u ⟨h, .searching found [] []⟩ .work
        ⟨h, .reading found.arranged (found.arranged.files.map Job.fresh)⟩
  /-- The workers cannot be started. -/
  | strike {h found message} :
      u.workers = .error message →
      Step u ⟨h, .searching found [] []⟩ .work ⟨h, .ended (.error (.scan (.workerPool message)))⟩
  /-- A free worker begins with a file. -/
  | take {h located before path after n} :
      u.workers = .ok n →
      (before ++ Job.fresh path :: after).countP Job.isUnderway < n →
      h.isCancelled = false →
      Step u ⟨h, .reading located (before ++ .fresh path :: after)⟩ (.look false)
        ⟨h, .reading located (before ++ .begun path :: after)⟩
  /-- A free worker passes over a file. -/
  | passOver {h located before path after n} :
      u.workers = .ok n →
      (before ++ Job.fresh path :: after).countP Job.isUnderway < n →
      h.isCancelled = true →
      Step u ⟨h, .reading located (before ++ .fresh path :: after)⟩ (.look true)
        ⟨h, .reading located (before ++ .finished (path, none) :: after)⟩
  /-- A worker is done with a file. -/
  | record {h located before path after} :
      Step u ⟨h, .reading located (before ++ .begun path :: after)⟩ .work
        ⟨h, .reading located (before ++ .finished (path, some (u.record path)) :: after)⟩
  /-- The workers are done and a file was passed over. -/
  | abandon {h located path} {outcomes : List (Path × Option FileRecord)} :
      (path, none) ∈ outcomes →
      Step u ⟨h, .reading located (outcomes.map Job.finished)⟩ .work
        ⟨h, .ended (.error .cancelled)⟩
  /-- The workers are done with all files. -/
  | gather {h located} {records : List (Path × FileRecord)} :
      h.isCancelled = false →
      Step u ⟨h, .reading located (records.map fun r => .finished (r.1, some r.2))⟩ (.look false)
        ⟨h, .asking located.problems (records.map Prod.snd) (u.queries.map Job.begun)⟩
  /-- The workers are done with all files in vain. -/
  | dropRecords {h located} {records : List (Path × FileRecord)} :
      h.isCancelled = true →
      Step u ⟨h, .reading located (records.map fun r => .finished (r.1, some r.2))⟩ (.look true)
        ⟨h, .ended (.error .cancelled)⟩
  /-- A query ends. -/
  | answer {h problems records before query after c} :
      u.asked = some c →
      Step u ⟨h, .asking problems records (before ++ .begun query :: after)⟩ .work
        ⟨h, .asking problems records (before ++ .finished (query, c query) :: after)⟩
  /-- All queries have ended. -/
  | close {h problems records} {answers : Answers} :
      h.isCancelled = false →
      Step u ⟨h, .asking problems records (answers.map Job.finished)⟩ (.look false)
        ⟨h, .ended (.ok (u.tally problems records answers))⟩
  /-- All queries have ended in vain. -/
  | dropAnswers {h problems records} {answers : Answers} :
      h.isCancelled = true →
      Step u ⟨h, .asking problems records (answers.map Job.finished)⟩ (.look true)
        ⟨h, .ended (.error .cancelled)⟩

/-- What can happen from a state on, with what was done on the way. -/
inductive Course (u : Setup) (s : State) : List Action → State → Prop where
  /-- Nothing has happened yet. -/
  | start : Course u s [] s
  /-- One more step. -/
  | step {done : List Action} {t t' : State} {a : Action} :
      Course u s done t → Step u t a t' → Course u s (done ++ [a]) t'

end TestCensus.Census
