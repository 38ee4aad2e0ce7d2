import TestCensus.Command.Run
import TestCensus.Proofs.Files.Search
import TestCensus.Proofs.Settings.Layers
import TestCensus.Proofs.Tally.Rating

/-!
# What a command leaves behind

A command whose arguments are understood goes through four stages: it loads the
settings, makes the census, makes the report and delivers it.  The first stage that
fails decides the outcome (`Fails`), and a command without a failure has all four
behind it (`Completes`).  There is nothing else (`execute_eq_error`,
`exists_of_execute_eq_ok`).

A failure leaves the fatal status, an empty standard output and the files as they
were.  Otherwise the status is the one that the tally gives, which cannot be the fatal
one (`Tally.exitStatus_lt`), and the report is the one thing that is printed or
written (`run_outcome`).
-/

namespace TestCensus.Command

open TestCensus.Files

/-! ## Stages -/

section Stages

variable (t : Tree) (collectorOf : CollectorOf) (environment : Variables) (onTerminal : Bool)
variable (a : Arguments) (workforce : Workforce)

/-- The project that the arguments name. -/
def Arguments.project (a : Arguments) : Path := ⟨a.root.getD "."⟩

/-- The settings of the project. -/
def loaded : Except SettingsFailure Settings :=
  Settings.load t a.project (a.config.map Files.Path.mk) environment a.overrides

/-- The result of the census of the project. -/
def audited (s : Settings) : Except CensusFailure Tally :=
  Census.ofProject t s (some (collectorOf s.collect a.project)) .never a.project workforce

/-- The report on a result, in the format that is asked for. -/
def rendered (s : Settings) (r : Tally) : Except ReportFailure String :=
  Report.renderNamed a.format.name s.report.effectiveThreshold (a.output.isNone && onTerminal) r

/-- A stage of a command fails, and the stages before it do not. -/
inductive Fails : Failure → Prop where
  /-- There are no settings. -/
  | settings {f : SettingsFailure} (hsettings : loaded t environment a = .error f) :
      Fails (.settings f)
  /-- The census has no result. -/
  | census {s : Settings} {f : CensusFailure} (hsettings : loaded t environment a = .ok s)
      (haudit : audited t collectorOf a workforce s = .error f) : Fails (.census f)
  /-- The report cannot be made. -/
  | report {s : Settings} {r : Tally} {f : ReportFailure}
      (hsettings : loaded t environment a = .ok s)
      (haudit : audited t collectorOf a workforce s = .ok r)
      (hreport : rendered onTerminal a s r = .error f) : Fails (.report f)
  /-- The report cannot be written to its file. -/
  | unwritten {s : Settings} {r : Tally} {text path : String} {e : PathError}
      (hsettings : loaded t environment a = .ok s)
      (haudit : audited t collectorOf a workforce s = .ok r)
      (hreport : rendered onTerminal a s r = .ok text) (houtput : a.output = some path)
      (hwrite : t.write ⟨path⟩ (Text.utf8 text) = .error e) : Fails (.unwritten path e)

/-- All stages of a command succeed, with their results and the files at the end. -/
structure Completes (s : Settings) (r : Tally) (text : String) (final : Tree) : Prop where
  /-- The settings are there. -/
  settings : loaded t environment a = .ok s
  /-- The census has a result. -/
  audit : audited t collectorOf a workforce s = .ok r
  /-- The report is made. -/
  report : rendered onTerminal a s r = .ok text
  /-- A report that is printed leaves the files alone. -/
  printed : a.output = none → final = t
  /-- A report that is not printed is in its file. -/
  written : ∀ path, a.output = some path → t.write ⟨path⟩ (Text.utf8 text) = .ok final

end Stages

variable {t : Tree} {collectorOf : CollectorOf} {environment : Variables} {onTerminal : Bool}
variable {a : Arguments} {workforce : Workforce}

/-- A command goes through its stages one after the other. -/
theorem execute_eq (t : Tree) (collectorOf : CollectorOf) (environment : Variables)
    (onTerminal : Bool) (a : Arguments) (workforce : Workforce) :
    execute t collectorOf environment a onTerminal workforce = (do
      let s ← (loaded t environment a).mapError .settings
      let r ← (audited t collectorOf a workforce s).mapError .census
      let text ← (rendered onTerminal a s r).mapError .report
      let (final, output) ← deliver t text a.output
      return { status := r.exitStatus a.strict, output, failure := "", tree := final }) := by
  rw [execute, census]
  simp only [bind_assoc, pure_bind]
  rfl

theorem mapError_bind_eq_error {α β ε ε' : Type} {x : Except ε α} {f : ε → ε'}
    {g : α → Except ε' β} {e : ε'} :
    x.mapError f >>= g = .error e ↔
      (∃ cause, x = .error cause ∧ f cause = e) ∨ ∃ c, x = .ok c ∧ g c = .error e := by
  cases x with
  | error cause =>
      constructor
      · intro h
        exact .inl ⟨cause, rfl, Except.error.inj h⟩
      · rintro (⟨cause', hcause, rfl⟩ | ⟨c, hc, -⟩)
        · rw [Except.error.inj hcause]
          rfl
        · cases hc
  | ok c =>
      constructor
      · intro h
        exact .inr ⟨c, rfl, h⟩
      · rintro (⟨cause, hcause, -⟩ | ⟨c', hc, h⟩)
        · cases hcause
        · rw [Except.ok.inj hc]
          exact h

theorem deliver_eq_ok {text output : String} {final : Tree} {path? : Option String}
    (h : deliver t text path? = .ok (final, output)) :
    (path? = none → final = t) ∧
      (∀ path, path? = some path → t.write ⟨path⟩ (Text.utf8 text) = .ok final) ∧
      output = if path?.isNone then text else "" := by
  cases path? with
  | none =>
      cases h
      exact ⟨fun _ => rfl, nofun, rfl⟩
  | some path =>
      unfold deliver at h
      dsimp only at h
      cases hwrite : t.write ⟨path⟩ (Text.utf8 text) with
      | error e =>
          rw [hwrite] at h
          cases h
      | ok written =>
          rw [hwrite] at h
          cases h
          refine ⟨nofun, fun path' h => ?_, rfl⟩
          cases h
          exact hwrite

theorem deliver_eq_error {text : String} {path? : Option String} {f : Failure} :
    deliver t text path? = .error f ↔
      ∃ path e, path? = some path ∧ t.write ⟨path⟩ (Text.utf8 text) = .error e ∧
        f = .unwritten path e := by
  cases path? with
  | none => exact iff_of_false nofun nofun
  | some path =>
      unfold deliver
      dsimp only
      cases hwrite : t.write ⟨path⟩ (Text.utf8 text) with
      | error e => simp [hwrite, eq_comm]
      | ok written => simp [hwrite]

/-- The first stage that fails is the failure of a command. -/
theorem execute_eq_error {f : Failure} :
    execute t collectorOf environment a onTerminal workforce = .error f ↔
      Fails t collectorOf environment onTerminal a workforce f := by
  rw [execute_eq]
  constructor
  · intro h
    rcases mapError_bind_eq_error.1 h with ⟨cause, hsettings, rfl⟩ | ⟨s, hsettings, h⟩
    · exact .settings hsettings
    rcases mapError_bind_eq_error.1 h with ⟨cause, haudit, rfl⟩ | ⟨r, haudit, h⟩
    · exact .census hsettings haudit
    rcases mapError_bind_eq_error.1 h with ⟨cause, hreport, rfl⟩ | ⟨text, hreport, h⟩
    · exact .report hsettings haudit hreport
    -- Delivery is not like the stages before it: it names its failure itself.
    cases hdelivery : deliver t text a.output with
    | error cause =>
        rw [hdelivery] at h
        cases h
        obtain ⟨path, e, houtput, hwrite, rfl⟩ := deliver_eq_error.1 hdelivery
        exact .unwritten hsettings haudit hreport houtput hwrite
    | ok delivered =>
        rw [hdelivery] at h
        cases h
  · intro h
    cases h with
    | settings hsettings => exact mapError_bind_eq_error.2 (.inl ⟨_, hsettings, rfl⟩)
    | census hsettings haudit =>
        refine mapError_bind_eq_error.2 (.inr ⟨_, hsettings, ?_⟩)
        exact mapError_bind_eq_error.2 (.inl ⟨_, haudit, rfl⟩)
    | report hsettings haudit hreport =>
        refine mapError_bind_eq_error.2 (.inr ⟨_, hsettings, ?_⟩)
        refine mapError_bind_eq_error.2 (.inr ⟨_, haudit, ?_⟩)
        exact mapError_bind_eq_error.2 (.inl ⟨_, hreport, rfl⟩)
    | unwritten hsettings haudit hreport houtput hwrite =>
        refine mapError_bind_eq_error.2 (.inr ⟨_, hsettings, ?_⟩)
        refine mapError_bind_eq_error.2 (.inr ⟨_, haudit, ?_⟩)
        refine mapError_bind_eq_error.2 (.inr ⟨_, hreport, ?_⟩)
        rw [deliver_eq_error.2 ⟨_, _, houtput, hwrite, rfl⟩]
        rfl

/-- A command without a failure has all stages behind it. -/
theorem exists_of_execute_eq_ok {o : Outcome}
    (h : execute t collectorOf environment a onTerminal workforce = .ok o) :
    ∃ s r text final, Completes t collectorOf environment onTerminal a workforce s r text final ∧
      o = ⟨r.exitStatus a.strict, if a.output.isNone then text else "", "", final⟩ := by
  rw [execute_eq] at h
  obtain ⟨s, hsettings, h⟩ := Census.bind_eq_ok.1 h
  obtain ⟨r, haudit, h⟩ := Census.bind_eq_ok.1 h
  obtain ⟨text, hreport, h⟩ := Census.bind_eq_ok.1 h
  obtain ⟨⟨final, output⟩, hdelivery, h⟩ := Census.bind_eq_ok.1 h
  cases h
  obtain ⟨hprinted, hwritten, rfl⟩ := deliver_eq_ok hdelivery
  exact ⟨s, r, text, final, ⟨Census.mapError_eq_ok.1 hsettings, Census.mapError_eq_ok.1 haudit,
    Census.mapError_eq_ok.1 hreport, hprinted, hwritten⟩, rfl⟩

/-! ## Reports -/

/-- Every report has some text. -/
theorem render_ne_empty (format : Report.Format) (threshold : Nat) (color : Bool) (r : Tally) :
    Report.render format threshold color r ≠ "" := by
  intro hempty
  -- The first pieces show it in every format.  The rest stays a variable, or the whole
  -- report would be computed.
  cases format with
  | console =>
      have hpieces : ∃ rest, Report.consolePieces r threshold =
          .plain Report.banner :: .plain "\n" :: rest := ⟨_, rfl⟩
      obtain ⟨rest, hpieces⟩ := hpieces
      rw [Report.render, Report.console, Report.renderPieces, hpieces, List.map_cons,
        List.map_cons, String.join_cons, String.join_cons] at hempty
      have hrest := (String.append_eq_empty_iff.1 hempty).2
      have hline : "\n" = "" := (String.append_eq_empty_iff.1 hrest).1
      exact absurd hline (by decide)
  | json =>
      have hvalue : ∃ cs, Json.written 0 (Report.jsonValue r) = '{' :: cs := ⟨_, rfl⟩
      obtain ⟨cs, hcs⟩ := hvalue
      rw [Report.render, Report.json, Json.Value.render, hcs] at hempty
      exact List.cons_ne_nil _ _ (String.ofList_eq_empty_iff.1 hempty)
  | markdown =>
      have hlines : ∃ rest, Report.markdownLines r =
          "# Test Suite Marker Audit" :: rest := ⟨_, rfl⟩
      obtain ⟨rest, hlines⟩ := hlines
      rw [Report.render, Report.markdown, Report.unlines, hlines, List.map_cons,
        String.join_cons] at hempty
      have hline : "\n" = "" :=
        (String.append_eq_empty_iff.1 (String.append_eq_empty_iff.1 hempty).1).2
      exact absurd hline (by decide)

theorem Completes.text_ne_empty {s : Settings} {r : Tally} {text : String} {final : Tree}
    (h : Completes t collectorOf environment onTerminal a workforce s r text final) :
    text ≠ "" := by
  have hreport := h.report
  rw [rendered, Report.renderNamed_name] at hreport
  cases hreport
  exact render_ne_empty _ _ _ _

/-! ## Outcomes -/

variable {arguments : List String}

theorem run_of_failed {f : Failure} (h : Arguments.read arguments = .ok a)
    (hfailed : Fails t collectorOf environment onTerminal a workforce f) :
    run t collectorOf environment onTerminal arguments workforce =
      ⟨fatalStatus, "", f.text, t⟩ := by
  rw [run, h]
  dsimp only
  rw [execute_eq_error.2 hfailed]

theorem exists_of_not_failed (h : Arguments.read arguments = .ok a)
    (hnot : ∀ f, ¬Fails t collectorOf environment onTerminal a workforce f) :
    ∃ s r text final, Completes t collectorOf environment onTerminal a workforce s r text final ∧
      run t collectorOf environment onTerminal arguments workforce =
        ⟨r.exitStatus a.strict, if a.output.isNone then text else "", "", final⟩ := by
  rw [run, h]
  dsimp only
  cases hexecute : execute t collectorOf environment a onTerminal workforce with
  | error f => exact absurd (execute_eq_error.1 hexecute) (hnot f)
  | ok o => exact exists_of_execute_eq_ok hexecute

theorem status_eq_fatal_iff (h : Arguments.read arguments = .ok a) :
    (run t collectorOf environment onTerminal arguments workforce).status = fatalStatus ↔
      ∃ f, Fails t collectorOf environment onTerminal a workforce f := by
  constructor
  · intro hstatus
    refine Classical.byContradiction fun hnone => ?_
    obtain ⟨s, r, text, final, -, hrun⟩ := exists_of_not_failed h fun f hf => hnone ⟨f, hf⟩
    rw [hrun] at hstatus
    exact Nat.ne_of_lt (r.exitStatus_lt a.strict) hstatus
  · rintro ⟨f, hf⟩
    rw [run_of_failed h hf]

/-- The arguments differ at most in the format of the report, in where it goes, and in
how much is logged. -/
def Arguments.AsksLike (a b : Arguments) : Prop :=
  b = { a with json := b.json, markdown := b.markdown, output := b.output,
               verbosity := b.verbosity }

/-- Neither the format of a report nor where it goes matters for the settings and the
result. -/
theorem Completes.result_unique {b : Arguments} {onTerminal' : Bool} {s s' : Settings}
    {r r' : Tally} {text text' : String} {final final' : Tree} (hlike : a.AsksLike b)
    (h : Completes t collectorOf environment onTerminal a workforce s r text final)
    (h' : Completes t collectorOf environment onTerminal' b workforce s' r' text' final') :
    r = r' ∧ a.strict = b.strict := by
  rw [hlike] at h'
  obtain rfl : s = s' := Except.ok.inj (h.settings.symm.trans h'.settings)
  obtain rfl : r = r' := Except.ok.inj (h.audit.symm.trans h'.audit)
  exact ⟨rfl, by rw [hlike]⟩

/-- The signals about a suite agree, and a command ends with the status they stand for,
unless it fails.

In every tally the issues, the functions without markers, the verdict and the exit
status agree.  For a command whose arguments are understood, the following holds.

* It has the fatal status exactly if a stage fails: loading the settings, the census,
  making the report, or writing it to its file.
* Then it prints nothing to the standard output and leaves the files alone.
* Otherwise its status is that of the tally.  The report, which is not empty, is
  printed if no file was named, and else it is in that file and nothing is printed.
* Its status is that of any other command that asks for the same census and has no
  fatal status, whatever the formats are and wherever the reports go. -/
theorem run_outcome :
    (∀ r : Tally, r.Rated) ∧
    ∀ (t : Tree) (collectorOf : CollectorOf) (environment : Variables) (onTerminal : Bool)
      (workforce : Workforce) (arguments : List String) (a : Arguments),
      Arguments.read arguments = .ok a →
      ((run t collectorOf environment onTerminal arguments workforce).status = fatalStatus ↔
        ∃ f, Fails t collectorOf environment onTerminal a workforce f) ∧
      (∀ f, Fails t collectorOf environment onTerminal a workforce f →
        run t collectorOf environment onTerminal arguments workforce =
          ⟨fatalStatus, "", f.text, t⟩) ∧
      ((∀ f, ¬Fails t collectorOf environment onTerminal a workforce f) →
        ∃ s r text final,
          Completes t collectorOf environment onTerminal a workforce s r text final ∧
          text ≠ "" ∧
          run t collectorOf environment onTerminal arguments workforce =
            ⟨r.exitStatus a.strict, if a.output.isNone then text else "", "", final⟩) ∧
      ∀ (onTerminal' : Bool) (arguments' : List String) (b : Arguments),
        Arguments.read arguments' = .ok b → a.AsksLike b →
        (run t collectorOf environment onTerminal arguments workforce).status ≠ fatalStatus →
        (run t collectorOf environment onTerminal' arguments' workforce).status ≠ fatalStatus →
        (run t collectorOf environment onTerminal' arguments' workforce).status =
          (run t collectorOf environment onTerminal arguments workforce).status := by
  refine ⟨Tally.rated, ?_⟩
  intro t collectorOf environment onTerminal workforce arguments a h
  refine ⟨status_eq_fatal_iff h, fun f hf => run_of_failed h hf, fun hnot => ?_, ?_⟩
  · obtain ⟨s, r, text, final, hcompletes, hrun⟩ := exists_of_not_failed h hnot
    exact ⟨s, r, text, final, hcompletes, hcompletes.text_ne_empty, hrun⟩
  · intro onTerminal' arguments' b hb hlike hstatus hstatus'
    obtain ⟨s, r, text, final, hcompletes, hrun⟩ :=
      exists_of_not_failed h fun f hf => hstatus ((status_eq_fatal_iff h).2 ⟨f, hf⟩)
    obtain ⟨s', r', text', final', hcompletes', hrun'⟩ :=
      exists_of_not_failed hb fun f hf => hstatus' ((status_eq_fatal_iff hb).2 ⟨f, hf⟩)
    obtain ⟨rfl, hstrict⟩ := hcompletes.result_unique hlike hcompletes'
    rw [hrun, hrun', hstrict]

/-- A file system without files. -/
def bareTree : Tree := ⟨.directory [], ⟨"/"⟩⟩

/-- A collector that never answers. -/
def silentCollector : CollectorOf := fun _ _ _ => .crash

theorem bareTree_loaded : loaded bareTree {} { strict := true, noCollector := true } =
    .ok { collect := { enabled := some false } } :=
  eq_ok_of_toOption (by decide +kernel)

theorem bareTree_audited : ∃ r, r.files = [] ∧
    audited bareTree silentCollector { strict := true, noCollector := true } .willing
      { collect := { enabled := some false } } = .ok r := by
  have habsent : bareTree.has ⟨"./tests"⟩ = false := by decide +kernel
  have hnone : (LocatedFiles.mk [] [⟨"./tests"⟩] []).arranged = ⟨[], [⟨"./tests"⟩], []⟩ := by
    simp [LocatedFiles.arranged, inOrder, dropRepeated]
  have hfound : ScanSettings.locateFrom {} bareTree (fun _ => false) 0 [⟨"./tests"⟩] =
      .ok ⟨[], [⟨"./tests"⟩], []⟩ := ScanSettings.locateFrom_absent habsent
  have hlocated : ScanSettings.locate {} bareTree (fun _ => false) [⟨"./tests"⟩] =
      .ok ⟨[], [⟨"./tests"⟩], []⟩ := by
    rw [ScanSettings.locate_eq, hfound]
    exact congrArg Except.ok hnone
  exact ⟨_, rfl, Census.run_eq_ok.2 ⟨_, hlocated, ⟨_, rfl⟩, rfl, rfl, rfl, rfl⟩⟩

/-- Without a file to read settings from, a command is fatal.  A suite without tests
has nothing to report, but a report is printed. -/
theorem run_outcome_bare :
    (∃ a, Arguments.read ["--strict", "-c", "none.toml"] = .ok a ∧
      run bareTree silentCollector {} false ["--strict", "-c", "none.toml"] =
        ⟨2, "", "[CONFIG_ERROR] Config file not found: none.toml", bareTree⟩) ∧
    ∃ a, Arguments.read ["--strict", "--no-oracle"] = .ok a ∧
      (run bareTree silentCollector {} false ["--strict", "--no-oracle"]).status = 0 ∧
      (run bareTree silentCollector {} false ["--strict", "--no-oracle"]).output ≠ "" := by
  constructor
  · have hread : Arguments.read ["--strict", "-c", "none.toml"] =
        .ok { strict := true, config := some "none.toml" } :=
      eq_ok_of_toOption (by decide +kernel)
    have hmissing : loaded bareTree {} { strict := true, config := some "none.toml" } =
        .error (.fileNotFound "none.toml") := by
      rfl
    refine ⟨_, hread, ?_⟩
    rw [(run_outcome.2 bareTree silentCollector {} false .willing _ _ hread).2.1 _
      (.settings hmissing)]
    rfl
  · have hread : Arguments.read ["--strict", "--no-oracle"] =
        .ok { strict := true, noCollector := true } := eq_ok_of_toOption (by decide +kernel)
    obtain ⟨r, hfiles, haudit⟩ := bareTree_audited
    have hnot : ∀ f, ¬Fails bareTree silentCollector {} false
        { strict := true, noCollector := true } .willing f := by
      intro f hf
      cases hf with
      | settings hsettings => cases bareTree_loaded.symm.trans hsettings
      | census hsettings hcensus =>
          cases bareTree_loaded.symm.trans hsettings
          cases haudit.symm.trans hcensus
      | report hsettings hcensus hreport =>
          rw [rendered, Report.renderNamed_name] at hreport
          cases hreport
      | unwritten hsettings hcensus hreport houtput hwrite => cases houtput
    obtain ⟨s, r', text, final, hcompletes, htext, hrun⟩ :=
      (run_outcome.2 bareTree silentCollector {} false .willing _ _ hread).2.2.1 hnot
    obtain rfl : { collect := { enabled := some false } } = s :=
      Except.ok.inj (bareTree_loaded.symm.trans hcompletes.settings)
    obtain rfl : r = r' := Except.ok.inj (haudit.symm.trans hcompletes.audit)
    have hissues : r.issues = [] := r.rated.issues_iff.2 (by simp [hfiles])
    refine ⟨_, hread, ?_, ?_⟩
    · rw [hrun]
      exact r.rated.strict_iff.1 hissues
    · rw [hrun]
      exact htext

end TestCensus.Command
