import TestCensus.Command.Run
import TestCensus.Proofs.Census.Completion

/-!
# What a collector cannot change

A collector is asked after the files are recorded, and its answers go into the counts
per category and into the warnings, and nowhere else.  So two censuses of one suite
that differ in nothing but the collector, or in whether it is asked, fail alike or
have results that agree in all that a suite is rated by
(`Setup.collector_without_influence`).  The status of a command is then the same
whatever its collector is (`Command.run_status_eq`).

The reason is that the result of a census holds the entries of the files, the
answers and the warnings, and all other figures are computed from the entries alone
(`Tally.agrees_of_files`).
-/

namespace TestCensus

open TestCensus.Files

/-! ## Results that agree -/

namespace Tally

/-- The results agree in all but the counts per category that are shown, where these
come from, and the warnings. -/
structure Agrees (x y : Tally) : Prop where
  /-- The entries of the files. -/
  files : x.files = y.files
  /-- The number of test instances. -/
  total : x.total = y.total
  /-- The number of test instances whose function has a marker. -/
  categorized : x.categorized = y.categorized
  /-- The functions without markers. -/
  uncategorizedFunctions : x.uncategorizedFunctions = y.uncategorizedFunctions
  /-- The number of test instances that are not categorized. -/
  uncategorized : x.uncategorized = y.uncategorized
  /-- The share of the categorized instances. -/
  percentage : x.percentage = y.percentage
  /-- The counts per category that the markers give. -/
  staticCounts : x.staticCounts = y.staticCounts
  /-- The problems of the suite. -/
  issues : x.issues = y.issues
  /-- The rating, whatever number of functions without markers is few. -/
  verdict : ∀ threshold, x.verdict threshold = y.verdict threshold
  /-- The exit status, strict or not. -/
  exitStatus : ∀ strict, x.exitStatus strict = y.exitStatus strict

/-- Results with the same entries agree. -/
theorem agrees_of_files {x y : Tally} (h : x.files = y.files) : x.Agrees y := by
  have haccounts : x.accounts = y.accounts := by rw [accounts, accounts, functions, functions, h]
  have htotal : x.total = y.total := congrArg Accounts.total haccounts
  have hcategorized : x.categorized = y.categorized := congrArg Accounts.categorized haccounts
  have huncategorized : x.uncategorizedFunctions = y.uncategorizedFunctions :=
    congrArg Accounts.uncategorized haccounts
  have hissues : x.issues = y.issues := by rw [issues, issues, huncategorized]
  exact
    { files := h
      total := htotal
      categorized := hcategorized
      uncategorizedFunctions := huncategorized
      uncategorized := by rw [uncategorized, uncategorized, htotal, hcategorized]
      percentage := by rw [percentage, percentage, htotal, hcategorized]
      staticCounts := congrArg Accounts.perCategory haccounts
      issues := hissues
      verdict := fun threshold => by
        rw [verdict, verdict, hasOtherIssues, hasOtherIssues, hissues, huncategorized]
      exitStatus := fun strict => by rw [exitStatus, exitStatus, hissues, huncategorized] }

end Tally

/-! ## Censuses that differ in their collectors -/

namespace Census

/-- The same census with another collector and other settings for it. -/
def Setup.withCollector (u : Setup) (collect : CollectSettings) (collector : Option Collector) :
    Setup :=
  { u with settings := { u.settings with collect }, collector }

/-- A collector that is missing or disabled is not asked. -/
theorem Setup.asked_eq_none {u : Setup} {collect : CollectSettings} {collector : Option Collector}
    (h : collector = none ∨ collect.isEnabled = false) :
    (u.withCollector collect collector).asked = none := by
  unfold Setup.asked effectiveCollector
  rcases h with rfl | h
  · exact ite_self none
  · exact if_neg (ne_true_of_eq_false h)

/-- What a census finds before its collector is asked does not depend on the
collector, and its result is made of this and of the answers. -/
theorem Setup.result_withCollector (u : Setup) : ∃ found : Except CensusFailure LocatedFiles,
    ∀ collect collector, (u.withCollector collect collector).result = found.map fun located =>
      Census.tally located.problems (located.files.map u.record)
        (u.withCollector collect collector).asked := by
  cases hlocated : u.settings.scan.findFiles u.tree u.roots with
  | error cause =>
      exact ⟨.error _, fun collect collector =>
        Setup.result_refused (u := u.withCollector collect collector) hlocated⟩
  | ok located =>
      cases hworkers : u.workers with
      | error message =>
          exact ⟨.error _, fun collect collector =>
            Setup.result_strike (u := u.withCollector collect collector) hlocated hworkers⟩
      | ok n =>
          exact ⟨.ok located, fun collect collector =>
            Setup.result_located (u := u.withCollector collect collector) hlocated hworkers⟩

/-- What a census of a project finds before its collector is asked does not depend on
the collector. -/
theorem ofProject_eq (t : Tree) (settings : Settings) (project : Path) (workforce : Workforce) :
    ∃ found : Except CensusFailure (List String × List FileRecord), ∀ collector, ∃ asked,
      ofProject t settings collector .never project workforce =
        found.map fun x => Census.tally x.1 x.2 asked := by
  let u : Setup := .ofProject t settings project workforce
  obtain ⟨found, hfound⟩ := u.result_withCollector
  refine ⟨found.map fun located => (located.problems, located.files.map u.record),
    fun collector => ⟨(u.withCollector settings.collect collector).asked, ?_⟩⟩
  have hresult := hfound settings.collect collector
  cases found with
  | error f => exact hresult
  | ok located => exact hresult

section Tallies

variable {problems : List String} {records : List FileRecord}

/-- The warnings without a collector are the first ones with any. -/
theorem warnings_extended (collector : Option Collector) :
    (tally problems records none).warnings <+: (tally problems records collector).warnings := by
  have hplain : (tally problems records none).warnings =
      problems.map Warning.scanProblem ++ records.flatMap FileRecord.warnings := by
    simp [Tally.warnings, Tally.mismatch, tally]
  rw [hplain, Tally.warnings]
  exact (List.prefix_append _ _).trans (List.prefix_append _ _)

end Tallies

/-- A collector has no influence on how a suite is rated.

Two censuses of one suite that nobody cancels come to an end, whichever collectors
they have and whether these are disabled or not.  Either both fail in the same way, or
both have a result.  The results agree in all but the counts per category that are
shown, their source and the warnings.  Without a collector that is asked, the counts
shown are the static ones, and the warnings are the first ones of the other census. -/
theorem Setup.collector_without_influence (u : Setup) (k₁ k₂ : CollectSettings)
    (c₁ c₂ : Option Collector) :
    (∀ k c, ∃ done h outcome, Course (u.withCollector k c) ⟨.fresh, (u.withCollector k c).opening⟩
      done ⟨h, .ended outcome⟩ ∧ .cancel ∉ done) ∧
    ∀ done₁ h₁ outcome₁ done₂ h₂ outcome₂,
      Course (u.withCollector k₁ c₁) ⟨.fresh, (u.withCollector k₁ c₁).opening⟩ done₁
        ⟨h₁, .ended outcome₁⟩ → .cancel ∉ done₁ →
      Course (u.withCollector k₂ c₂) ⟨.fresh, (u.withCollector k₂ c₂).opening⟩ done₂
        ⟨h₂, .ended outcome₂⟩ → .cancel ∉ done₂ →
      (∃ f, outcome₁ = .error f ∧ outcome₂ = .error f) ∨
        ∃ x y, outcome₁ = .ok x ∧ outcome₂ = .ok y ∧ x.Agrees y ∧
          (c₁ = none ∨ k₁.isEnabled = false →
            x.warnings <+: y.warnings ∧ x.categoryCounts = x.staticCounts ∧
              x.countSource = .static) := by
  refine ⟨fun k c => ?_, ?_⟩
  · obtain ⟨done, h, hcourse⟩ := (u.withCollector k c).exists_course_result
    exact ⟨done, h, _, hcourse⟩
  · intro done₁ h₁ outcome₁ done₂ h₂ outcome₂ hcourse₁ hcancel₁ hcourse₂ hcancel₂
    obtain ⟨found, hfound⟩ := u.result_withCollector
    rw [hcourse₁.outcome_of_uncancelled rfl hcancel₁, hcourse₂.outcome_of_uncancelled rfl hcancel₂,
      hfound, hfound]
    cases found with
    | error f => exact .inl ⟨f, rfl, rfl⟩
    | ok located =>
        refine .inr ⟨_, _, rfl, rfl, Tally.agrees_of_files rfl, fun hunasked => ?_⟩
        rw [Setup.asked_eq_none hunasked]
        exact ⟨warnings_extended _, rfl, rfl⟩

end Census

/-! ## Commands -/

namespace Command

/-- Whether a file can be written does not depend on what is written. -/
theorem write_isSome_eq (t : Tree) (p : Path) (content content' : List UInt8) :
    (t.write p content).toOption.isSome = (t.write p content').toOption.isSome := by
  unfold Tree.write
  dsimp only
  split
  · rfl
  · cases t.land true p with
    | error e => rfl
    | ok landing =>
        cases landing with
        | absent names => rfl
        | present place =>
            cases hdirectory : place.node.isDirectory with
            | true => simp [bind, Except.bind, hdirectory]
            | false => simp [bind, Except.bind, hdirectory, Except.toOption]

theorem deliver_isSome_eq (t : Tree) (report report' : String) (output : Option String) :
    (deliver t report output).toOption.isSome = (deliver t report' output).toOption.isSome := by
  cases output with
  | none => rfl
  | some path =>
      have hwrite := write_isSome_eq t ⟨path⟩ (Text.utf8 report) (Text.utf8 report')
      unfold deliver
      dsimp only
      cases hfirst : t.write ⟨path⟩ (Text.utf8 report) with
      | error e =>
          cases hsecond : t.write ⟨path⟩ (Text.utf8 report') with
          | error e' => rfl
          | ok written' =>
              rw [hfirst, hsecond] at hwrite
              cases hwrite
      | ok written =>
          cases hsecond : t.write ⟨path⟩ (Text.utf8 report') with
          | error e' =>
              rw [hfirst, hsecond] at hwrite
              cases hwrite
          | ok written' => rfl

variable {t : Tree} {environment : Variables} {onTerminal : Bool} {a : Arguments}
  {workforce : Workforce}

/-- What a command finds before its collector is asked does not depend on the
collector. -/
theorem census_eq (t : Tree) (environment : Variables) (a : Arguments) (workforce : Workforce) :
    ∃ found : Except Failure (Settings × List String × List FileRecord), ∀ collectorOf,
      ∃ asked, census t collectorOf environment a workforce =
        found.map fun x => (x.1, Census.tally x.2.1 x.2.2 asked) := by
  unfold census
  dsimp only
  cases Settings.load t ⟨a.root.getD "."⟩ (a.config.map Files.Path.mk) environment a.overrides with
  | error f => exact ⟨.error (.settings f), fun _ => ⟨none, rfl⟩⟩
  | ok settings =>
      obtain ⟨found, hfound⟩ := Census.ofProject_eq t settings ⟨a.root.getD "."⟩ workforce
      cases found with
      | error f =>
          refine ⟨.error (.census f), fun collectorOf => ⟨none, ?_⟩⟩
          obtain ⟨asked, hasked⟩ := hfound (some (collectorOf settings.collect ⟨a.root.getD "."⟩))
          show (Census.ofProject _ _ _ _ _ _).mapError _ >>= _ = _
          rw [hasked]
          rfl
      | ok found =>
          refine ⟨.ok (settings, found), fun collectorOf => ?_⟩
          obtain ⟨asked, hasked⟩ := hfound (some (collectorOf settings.collect ⟨a.root.getD "."⟩))
          refine ⟨asked, ?_⟩
          show (Census.ofProject _ _ _ _ _ _).mapError _ >>= _ = _
          rw [hasked]
          rfl

/-- The status of a command with a result is that of the suite, if the report can be
delivered. -/
theorem execute_status {collectorOf : CollectorOf} {settings : Settings} {result : Tally}
    (h : census t collectorOf environment a workforce = .ok (settings, result))
    (report : String) :
    (execute t collectorOf environment a onTerminal workforce).toOption.map Outcome.status =
      if (deliver t report a.output).toOption.isSome then some (result.exitStatus a.strict)
      else none := by
  rw [execute, h, deliver_isSome_eq t report
    (Report.render a.format settings.report.effectiveThreshold (a.output.isNone && onTerminal)
      result)]
  simp only [bind, Except.bind, Report.renderNamed_name]
  show Option.map Outcome.status (Except.toOption (deliver t _ a.output >>= _)) = _
  cases deliver t (Report.render a.format settings.report.effectiveThreshold
    (a.output.isNone && onTerminal) result) a.output with
  | error f => rfl
  | ok delivered => rfl

theorem execute_status_eq (collectorOf₁ collectorOf₂ : CollectorOf) :
    (execute t collectorOf₁ environment a onTerminal workforce).toOption.map Outcome.status =
      (execute t collectorOf₂ environment a onTerminal workforce).toOption.map
        Outcome.status := by
  obtain ⟨found, hfound⟩ := census_eq t environment a workforce
  obtain ⟨asked₁, hfirst⟩ := hfound collectorOf₁
  obtain ⟨asked₂, hsecond⟩ := hfound collectorOf₂
  cases found with
  | error f =>
      rw [execute, execute, hfirst, hsecond]
      rfl
  | ok found =>
      have hagrees : (Census.tally found.2.1 found.2.2 asked₁).Agrees
          (Census.tally found.2.1 found.2.2 asked₂) := Tally.agrees_of_files rfl
      rw [execute_status hfirst "", execute_status hsecond "", hagrees.exitStatus]

/-- The status of a command does not depend on the answers of its collector. -/
theorem run_status_eq (t : Tree) (collectorOf₁ collectorOf₂ : CollectorOf)
    (environment : Variables) (onTerminal : Bool) (arguments : List String)
    (workforce : Workforce) :
    (run t collectorOf₁ environment onTerminal arguments workforce).status =
      (run t collectorOf₂ environment onTerminal arguments workforce).status := by
  have hrun : ∀ collectorOf a, Arguments.read arguments = .ok a →
      (run t collectorOf environment onTerminal arguments workforce).status =
        ((execute t collectorOf environment a onTerminal workforce).toOption.map
          Outcome.status).getD fatalStatus := by
    intro collectorOf a ha
    rw [run, ha]
    dsimp only
    cases execute t collectorOf environment a onTerminal workforce with
    | error f => rfl
    | ok outcome => rfl
  cases harguments : Arguments.read arguments with
  | ok a => rw [hrun collectorOf₁ a harguments, hrun collectorOf₂ a harguments,
        execute_status_eq collectorOf₁ collectorOf₂]
  | error stop =>
      rw [run, run, harguments]
      cases stop with
      | refused => rfl
      | help => rfl
      | version => rfl

end Command

end TestCensus
