import TestCensus.Proofs.Census.Completion
import TestCensus.Proofs.Census.FileRecord
import TestCensus.Proofs.Files.Contents
import TestCensus.Proofs.Files.Order

/-!
# Files are recorded one by one

A census has one entry for each located file, and what it says of a file does not
depend on other files, on the number of workers, or on who is done first
(`Setup.recorded_apart`).

The record of a file follows from how the file is reported and from what reading it
gives (`FileRecord.Tells`).  Reading gives the content of the file, so files that are
reported alike and have the same content have the same entry, and the same warnings
too if the content is text.  If it is not, the warning names the path at which the
file was located, which is more than how it is reported
(`unreadable_warning_names_path`).
-/

namespace TestCensus

open TestCensus.Files

namespace Census

/-! ## Results -/

variable {u : Setup}

/-- The warnings behind those of the records are about the collector. -/
theorem tally_warnings_cases (problems : List String) (records : List FileRecord)
    (asked : Option Collector) :
    ∃ later, (tally problems records asked).warnings =
        problems.map Warning.scanProblem ++ records.flatMap FileRecord.warnings ++ later ∧
      ∀ w ∈ later, (∃ category detail, w = .collectFailure category detail) ∨
        ∃ staticTotal collectedTotal, w = .countMismatch staticTotal collectedTotal := by
  refine ⟨(asked.map Collector.warnings).getD [] ++ (tally problems records asked).mismatch,
    List.append_assoc _ _ _, fun w hw => ?_⟩
  rcases List.mem_append.1 hw with hfailure | hmismatch
  · cases asked with
    | none => cases hfailure
    | some c =>
        obtain ⟨q, -, hq⟩ := List.mem_filterMap.1 hfailure
        unfold QueryOutcome.warning? at hq
        split at hq
        · cases hq
        · cases hq
          exact .inl ⟨_, _, rfl⟩
  · unfold Tally.mismatch at hmismatch
    split at hmismatch
    · split at hmismatch
      · cases hmismatch
      · exact .inr ⟨_, _, List.mem_singleton.1 hmismatch⟩
    · cases hmismatch

/-- The entries and the warnings of a result are those of the records. -/
theorem Course.recorded {h h' : CancelHandle} {done : List Action} {x : Tally}
    (hcourse : Course u ⟨h, u.opening⟩ done ⟨h', .ended (.ok x)⟩) :
    ∃ located later, u.settings.scan.findFiles u.tree u.roots = .ok located ∧
      located.files.Pairwise (fun a b => a.components < b.components) ∧
      x.files = located.files.map (fun path => (u.record path).file) ∧
      x.files.length = located.files.length ∧
      x.warnings = located.problems.map .scanProblem ++
        located.files.flatMap (fun path => (u.record path).warnings) ++ later ∧
      ∀ w ∈ later, (∃ category detail, w = .collectFailure category detail) ∨
        ∃ staticTotal collectedTotal, w = .countMismatch staticTotal collectedTotal := by
  obtain ⟨located, hlocated, rfl⟩ := Setup.result_eq_ok hcourse.result_of_ok
  obtain ⟨later, hwarnings, hlater⟩ :=
    tally_warnings_cases located.problems (located.files.map u.record) u.asked
  have hfiles : (Census.tally located.problems (located.files.map u.record) u.asked).files =
      located.files.map fun path => (u.record path).file := List.map_map
  refine ⟨located, later, hlocated, ScanSettings.findFiles_ascending hlocated, hfiles, ?_, ?_,
    hlater⟩
  · rw [hfiles, List.length_map]
  · rw [hwarnings, List.flatMap_map]

/-- Files that are reported alike and have the same content have the same entry, and
the same warnings too if the content is text or the paths are the same. -/
theorem Setup.record_congr {u' : Setup} {path path' : Path}
    (hrules : u'.settings.naming.rules = u.settings.naming.rules)
    (hshown : relativePath u'.base path' = relativePath u.base path)
    (hcontent : u'.tree.readBytes path' = u.tree.readBytes path) :
    (u'.record path').file = (u.record path).file ∧
      (path'.text = path.text ∨ (∃ source, u.tree.readText path = .ok source) →
        (u'.record path').warnings = (u.record path).warnings) := by
  have hreading : u'.tree.readText path' = u.tree.readText path := by
    rw [Tree.readText, Tree.readText, hcontent]
  have hrecord' : u'.record path' = .ofReading u.settings.naming.rules
      (relativePath u.base path) path' (u.tree.readText path) := by
    rw [Setup.record, FileRecord.ofFile, hrules, hshown, hreading]
  rw [hrecord']
  exact FileRecord.ofReading_congr _ _ _

/-- A file that changes leaves the records of all other files as they are, and unless
it is an ignore file, the same files are located. -/
theorem Setup.record_write {file : Path} {content : List UInt8} {changed : Tree}
    (hfile : u.tree.hasFile file = true) (hwrite : u.tree.write file content = .ok changed) :
    (∀ path, (∀ names, u.tree.LeadsTo file names → ¬u.tree.LeadsTo path names) →
      { u with tree := changed }.record path = u.record path) ∧
    ((u.settings.scan.respectsIgnoreFiles = true →
        ∀ names, u.tree.LeadsTo file names → ¬u.tree.IsIgnoreFile names) →
      u.settings.scan.findFiles changed u.roots = u.settings.scan.findFiles u.tree u.roots) := by
  obtain ⟨names, old, hleads, hold, rfl⟩ := Tree.write_eq_put hfile hwrite
  refine ⟨fun path hpath => ?_, fun hignore => ?_⟩
  · rw [Setup.record, Setup.record, FileRecord.ofFile, FileRecord.ofFile,
      Tree.readText_put hold (hpath names hleads)]
  · exact ScanSettings.findFiles_put hold content (fun huse => hignore huse names hleads) u.roots

/-- Files are recorded one by one, and none is lost.

* A result has one entry for each located file, in the order of the paths.  Its
  warnings are the problems of the search, those about the files in the same order, and
  then only such as are about the collector.
* The record of a file tells what reading the file gives.
* Files that are reported alike and have the same content have the same entry.  They
  have the same warnings too, unless the content is no text and the files were located
  at paths that are spelled differently.
* A file that changes leaves the records of all other files as they are, and unless it
  is an ignore file, the same files are located. -/
theorem Setup.recorded_apart (u : Setup) (h : CancelHandle) :
    (∀ done h' x, Course u ⟨h, u.opening⟩ done ⟨h', .ended (.ok x)⟩ →
      ∃ located later, u.settings.scan.findFiles u.tree u.roots = .ok located ∧
        located.files.Pairwise (fun a b => a.components < b.components) ∧
        x.files = located.files.map (fun path => (u.record path).file) ∧
        x.files.length = located.files.length ∧
        x.warnings = located.problems.map .scanProblem ++
          located.files.flatMap (fun path => (u.record path).warnings) ++ later ∧
        ∀ w ∈ later, (∃ category detail, w = .collectFailure category detail) ∨
          ∃ staticTotal collectedTotal, w = .countMismatch staticTotal collectedTotal) ∧
    (∀ path, (u.record path).Tells u.settings.naming.rules (relativePath u.base path) path
      (u.tree.readText path)) ∧
    (∀ (u' : Setup) path path', u'.settings.naming.rules = u.settings.naming.rules →
      relativePath u'.base path' = relativePath u.base path →
      u'.tree.readBytes path' = u.tree.readBytes path →
        (u'.record path').file = (u.record path).file ∧
        (path'.text = path.text ∨ (∃ source, u.tree.readText path = .ok source) →
          (u'.record path').warnings = (u.record path).warnings)) ∧
    ∀ file content changed, u.tree.hasFile file = true →
      u.tree.write file content = .ok changed →
        (∀ path, (∀ names, u.tree.LeadsTo file names → ¬u.tree.LeadsTo path names) →
          { u with tree := changed }.record path = u.record path) ∧
        ((u.settings.scan.respectsIgnoreFiles = true →
            ∀ names, u.tree.LeadsTo file names → ¬u.tree.IsIgnoreFile names) →
          u.settings.scan.findFiles changed u.roots =
            u.settings.scan.findFiles u.tree u.roots) :=
  ⟨fun _ _ _ => Course.recorded, fun _ => FileRecord.ofReading_tells _ _ _ _,
    fun _ _ _ => Setup.record_congr, fun _ _ _ => Setup.record_write⟩

/-- A suite of two files in one directory. -/
def Setup.pair : Setup where
  tree := ⟨.directory [("test_a.py", .file []), ("test_b.py", .file [])], ⟨"/"⟩⟩
  settings := { scan := { respectIgnoreFiles := some false, threads := some 3 } }
  collector := none
  base := [.root]
  roots := [⟨"/"⟩]
  workforce := .willing

theorem Setup.pair_located : pair.settings.scan.findFiles pair.tree pair.roots =
    .ok ⟨[⟨"/test_a.py"⟩, ⟨"/test_b.py"⟩], [], []⟩ := by
  have hroot : pair.tree.has ⟨"/"⟩ = true := by decide +kernel
  have hrules : pair.settings.scan.rulesAt pair.tree ⟨"/"⟩ = .ok ⟨⟨"/"⟩, []⟩ := rfl
  have hwalk : pair.tree.walk pair.settings.scan.ignoreFilesUse ⟨⟨"/"⟩, []⟩ ⟨"/"⟩ =
      [.entry ⟨"/"⟩ false, .entry ⟨"/test_a.py"⟩ true, .entry ⟨"/test_b.py"⟩ true] := by
    decide +kernel
  have hfirst : pair.settings.scan.qualifies ⟨"/test_a.py"⟩ = true := by decide +kernel
  have hsecond : pair.settings.scan.qualifies ⟨"/test_b.py"⟩ = true := by decide +kernel
  have hsorted : [Files.Path.mk "/test_a.py", ⟨"/test_b.py"⟩].Pairwise
      (fun a b => a.comesBefore b = true) := by decide +kernel
  have hdistinct : Files.Path.same ⟨"/test_a.py"⟩ ⟨"/test_b.py"⟩ = false := by decide +kernel
  refine (ScanSettings.findFiles_walked hroot hrules).trans ?_
  rw [hwalk]
  simp [ScanSettings.ofEvents, ScanSettings.ofEvent, hfirst, hsecond, LocatedFiles.arranged,
    inOrder, List.mergeSort_of_pairwise hsorted, dropRepeated, hdistinct]

/-- A census of the two files has two entries.  A file has the same entry when it is
located by another spelling of its path.  When one of the files is broken, the other
one is located and recorded as before. -/
theorem Setup.recorded_apart_pair :
    (∃ done h x, Course pair ⟨.fresh, pair.opening⟩ done ⟨h, .ended (.ok x)⟩ ∧
      x.files.length = 2) ∧
    (pair.record ⟨"/./test_b.py"⟩).file = (pair.record ⟨"/test_b.py"⟩).file ∧
    ∃ broken, pair.tree.write ⟨"/test_a.py"⟩ [255] = .ok broken ∧
      { pair with tree := broken }.record ⟨"/test_b.py"⟩ = pair.record ⟨"/test_b.py"⟩ ∧
      pair.settings.scan.findFiles broken pair.roots =
        pair.settings.scan.findFiles pair.tree pair.roots := by
  obtain ⟨hresults, -, hentries, hchange⟩ := pair.recorded_apart .fresh
  refine ⟨?_, ?_, ?_⟩
  · obtain ⟨done, h, hcourse, -⟩ := pair.exists_course_result
    rw [Setup.result_located pair_located rfl] at hcourse
    obtain ⟨located, -, hfound, -, -, hlength, -⟩ := hresults _ _ _ hcourse
    cases pair_located.symm.trans hfound
    exact ⟨done, h, _, hcourse, hlength⟩
  · have hshown : relativePath pair.base ⟨"/./test_b.py"⟩ =
        relativePath pair.base ⟨"/test_b.py"⟩ := by
      decide +kernel
    have hcontent : pair.tree.readBytes ⟨"/test_b.py"⟩ = .ok [] := rfl
    have hcontent' : pair.tree.readBytes ⟨"/./test_b.py"⟩ = .ok [] := rfl
    exact (hentries pair _ _ rfl hshown (hcontent'.trans hcontent.symm)).1
  · have hwrite : pair.tree.write ⟨"/test_a.py"⟩ [255] =
        .ok (pair.tree.put ["test_a.py"] (.file [255])) := rfl
    have hfirst : pair.tree.place? ⟨"/test_a.py"⟩ = .ok ⟨["test_a.py"], .file []⟩ := rfl
    have hsecond : pair.tree.place? ⟨"/test_b.py"⟩ = .ok ⟨["test_b.py"], .file []⟩ := rfl
    obtain ⟨hrecords, hsearch⟩ := hchange ⟨"/test_a.py"⟩ [255] _ (by decide +kernel) hwrite
    refine ⟨_, hwrite, hrecords ⟨"/test_b.py"⟩ ?_, hsearch nofun⟩
    rintro names ⟨place, hplace, rfl⟩ ⟨place', hplace', hnames⟩
    cases hfirst.symm.trans hplace
    cases hsecond.symm.trans hplace'
    exact absurd hnames (by decide)

/-! ## A warning that names a path -/

/-- The census of a project whose only test file cannot be read. -/
theorem ofProject_unreadable (t : Tree) (settings : Settings) (project file : Path) {shown : String}
    {rules : IgnoreRules} {e : PathError} (hroots : projectRoots settings project = [project])
    (hproject : t.has project = true)
    (hrules : settings.scan.rulesAt t project = .ok rules)
    (hwalk : t.walk settings.scan.ignoreFilesUse rules project =
      [.entry project false, .entry file true])
    (hname : settings.scan.qualifies file = true) (hread : t.readText file = .error e)
    (hshown : relativePath project.components file = shown) :
    ∃ x, ofProject t settings none .never project = .ok x ∧ x.files = [⟨shown, []⟩] ∧
      x.warnings = [.parseFailure shown (file.text ++ " is unreadable: " ++ e.message)] := by
  have hlocate : settings.scan.locate t CheckPoints.never.atEvent [project] =
      .ok ⟨[file], [], []⟩ := by
    refine (ScanSettings.findFiles_walked hproject hrules).trans ?_
    rw [hwalk]
    simp [ScanSettings.ofEvents, ScanSettings.ofEvent, hname, LocatedFiles.arranged, inOrder,
      dropRepeated]
  have hrecord : FileRecord.ofFile settings.naming.rules t project.components file =
      .ofFailure shown (.unreadable file.text e.message) := by
    rw [FileRecord.ofFile, hread, hshown]
    rfl
  have hcollector : effectiveCollector settings none = none := ite_self none
  refine ⟨tally [] [.ofFailure shown (.unreadable file.text e.message)] none, ?_, rfl, rfl⟩
  rw [ofProject, hroots]
  refine run_eq_ok.2 ⟨_, hlocate, ⟨_, rfl⟩, rfl, rfl, rfl, ?_⟩
  rw [List.map_singleton, hrecord, hcollector]

/-- A project with one file, which holds a byte that is no text. -/
def unreadableTree : Tree :=
  ⟨.directory [("a", .directory [("test_x.py", .file [255])])], ⟨"/"⟩⟩

/-- Settings under which a project has its tests in its own directory. -/
def plainSettings : Settings := { scan := { testDirs := some [] } }

/-- The warning about a file that is no text is not a function of how the file is
reported and of its content.  Two censuses of one project that is named by two
spellings of its path have the same entries, and the file is reported alike and has
the same content in both, but the warnings differ. -/
theorem unreadable_warning_names_path :
    ∃ x y, ofProject unreadableTree plainSettings none .never ⟨"/a"⟩ = .ok x ∧
      ofProject unreadableTree plainSettings none .never ⟨"/./a"⟩ = .ok y ∧
      relativePath (Files.Path.mk "/a").components ⟨"/a/test_x.py"⟩ =
        relativePath (Files.Path.mk "/./a").components ⟨"/./a/test_x.py"⟩ ∧
      unreadableTree.readBytes ⟨"/a/test_x.py"⟩ = unreadableTree.readBytes ⟨"/./a/test_x.py"⟩ ∧
      x.files = y.files ∧
      x.warnings = [.parseFailure "test_x.py"
        "/a/test_x.py is unreadable: stream did not contain valid UTF-8"] ∧
      y.warnings = [.parseFailure "test_x.py"
        "/./a/test_x.py is unreadable: stream did not contain valid UTF-8"] ∧
      x.warnings ≠ y.warnings := by
  obtain ⟨x, hx, hfiles, hwarnings⟩ :=
    ofProject_unreadable unreadableTree plainSettings ⟨"/a"⟩ ⟨"/a/test_x.py"⟩ (e := .notText) rfl
      (by decide +kernel) rfl rfl (by decide +kernel) rfl rfl
  obtain ⟨y, hy, hfiles', hwarnings'⟩ :=
    ofProject_unreadable unreadableTree plainSettings ⟨"/./a"⟩ ⟨"/./a/test_x.py"⟩ (e := .notText)
      rfl (by decide +kernel) rfl rfl (by decide +kernel) rfl rfl
  have hshown : relativePath (Files.Path.mk "/a").components ⟨"/a/test_x.py"⟩ =
      relativePath (Files.Path.mk "/./a").components ⟨"/./a/test_x.py"⟩ := by decide +kernel
  have hcontent : unreadableTree.readBytes ⟨"/a/test_x.py"⟩ = .ok [255] := rfl
  have hcontent' : unreadableTree.readBytes ⟨"/./a/test_x.py"⟩ = .ok [255] := rfl
  refine ⟨x, y, hx, hy, hshown, hcontent.trans hcontent'.symm, hfiles.trans hfiles'.symm,
    hwarnings, hwarnings', ?_⟩
  rw [hwarnings, hwarnings']
  decide

end Census

end TestCensus
