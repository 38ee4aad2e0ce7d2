import TestCensus.Census.Run
import TestCensus.Proofs.Census.FileRecord
import TestCensus.Proofs.Files.Excludes
import TestCensus.Proofs.Files.Spellings

/-!
# Files that are counted once

A census has one entry for each located file, so the tests of a file are counted as often as it is
located.  That is once for all files exactly if the roots that yield the same files are spelled
alike (`ofProject_countsFiles`), and twice if a root is spelled by a detour
(`detour_counted_twice`).

When test directories are added, the totals stay as they are exactly if the new ones yield nothing
but files whose paths are located already.
-/

namespace TestCensus

open TestCensus.Files

/-! ## Other test directories -/

/-- The settings with other test directories. -/
def ScanSettings.listing (s : ScanSettings) (dirs : List String) : ScanSettings :=
  { s with testDirs := some dirs }

/-- The settings with other test directories. -/
def Settings.listing (s : Settings) (dirs : List String) : Settings :=
  { s with scan := s.scan.listing dirs }

/-- A search looks at its roots and not at the test directories. -/
theorem ScanSettings.locateFrom_listing (s : ScanSettings) (dirs : List String) (t : Tree)
    (seen : Nat → Bool) (n : Nat) (roots : List Path) :
    (s.listing dirs).locateFrom t seen n roots = s.locateFrom t seen n roots := by
  induction roots generalizing n with
  | nil => rfl
  | cons root roots ih =>
      rw [locateFrom, locateFrom, ih]
      split
      · rfl
      · simp only [ih]
        rfl

namespace Census

theorem run_listing (t : Tree) (settings : Settings) (dirs : List String)
    (collector : Option Collector) (seen : CheckPoints) (base : List Component)
    (roots : List Path) (workforce : Workforce) :
    run t (settings.listing dirs) collector seen base roots workforce =
      run t settings collector seen base roots workforce := by
  have hlocate : (settings.scan.listing dirs).locate t seen.atEvent roots =
      settings.scan.locate t seen.atEvent roots := by
    rw [ScanSettings.locate, ScanSettings.locate, ScanSettings.locateFrom_listing]
  unfold run
  rw [← hlocate]
  rfl

/-! ## Entries -/

variable {t : Tree} {settings : Settings} {collector collector' : Option Collector}
  {seen seen' : CheckPoints} {base : List Component} {roots roots' : List Path}
  {workforce workforce' : Workforce} {x x' : Tally} {located located' : LocatedFiles} {p q : Path}

/-- The entry of a file in a suite. -/
def entryOf (t : Tree) (settings : Settings) (base : List Component) (path : Path) : TestFile :=
  (FileRecord.ofFile settings.naming.rules t base path).file

/-- A census has the entries of the located files. -/
theorem run_files (h : run t settings collector seen base roots workforce = .ok x) :
    ∃ located, settings.scan.findFiles t roots = .ok located ∧
      x.files = located.files.map (entryOf t settings base) := by
  obtain ⟨located, hlocated, -, -, -, -, rfl⟩ := run_eq_ok.1 h
  exact ⟨located, ScanSettings.findFiles_of_locate hlocated, List.map_map⟩

/-- A census that nobody cancels succeeds if its search does and its workers are willing. -/
theorem exists_run (collector : Option Collector) (base : List Component)
    (h : settings.scan.findFiles t roots = .ok located) :
    ∃ x, run t settings collector .never base roots .willing = .ok x ∧
      x.files = located.files.map (entryOf t settings base) :=
  ⟨_, run_eq_ok.2 ⟨located, h, ⟨_, rfl⟩, CheckPoints.any_atFile_never _, rfl, rfl, rfl⟩,
    List.map_map⟩

/-- A census of files that the walks come across in order. -/
theorem exists_run_of_ordered (collector : Option Collector) (base : List Component)
    {files : List Path}
    (husable : ∀ entry ∈ settings.scan.exclude, ∃ rule, excludeRule entry = .ok rule)
    (hroots : ∀ root ∈ roots, t.has root = true ∧ closedRoot? t root = none)
    (hfiles : (settings.scan.ofEvents (roots.flatMap (settings.scan.ownWalk t))).files = files)
    (hordered : files.Pairwise fun a b => a.comesBefore b = true)
    (hdistinct : dropRepeated files = files) :
    ∃ located x, settings.scan.findFiles t roots = .ok located ∧ located.files = files ∧
      run t settings collector .never base roots .willing = .ok x ∧
      x.files = files.map (entryOf t settings base) := by
  obtain ⟨located, hlocated, rfl⟩ :=
    ScanSettings.findFiles_of_ordered husable hroots hfiles hordered hdistinct
  obtain ⟨x, hx, hentries⟩ := exists_run collector base hlocated
  exact ⟨located, x, hlocated, rfl, hx, hentries⟩

/-- A file has the same entry in all spellings of its path. -/
theorem entryOf_congr (hsame : t.SameFile p q) (hcomponents : p.components = q.components) :
    entryOf t settings base p = entryOf t settings base q := by
  obtain ⟨names, ⟨place, hplace, -⟩, ⟨place', hplace', -⟩⟩ := hsame
  have hshown : relativePath base p = relativePath base q := by
    rw [relativePath, relativePath, hcomponents]
  have hread : t.readText p = t.readText q := by
    rw [Tree.readText, Tree.readText, Tree.readBytes, Tree.readBytes, hplace, hplace',
      Tree.place?_congr hcomponents hplace hplace']
  rw [entryOf, entryOf, FileRecord.ofFile, FileRecord.ofFile, hshown, hread]
  exact (FileRecord.ofReading_congr _ _ _).1

/-- Located files with the same components have the same entries. -/
theorem map_entryOf_congr (hproper : t.isProper = true)
    (h : settings.scan.findFiles t roots = .ok located)
    (h' : settings.scan.findFiles t roots' = .ok located')
    (hcomponents : located'.files.map Path.components = located.files.map Path.components) :
    located'.files.map (entryOf t settings base) = located.files.map (entryOf t settings base) := by
  have hlength : located'.files.length = located.files.length := by
    rw [← List.length_map Path.components, hcomponents, List.length_map]
  refine List.ext_getElem (by rw [List.length_map, List.length_map, hlength]) fun i hi' hi => ?_
  rw [List.length_map] at hi hi'
  have hsame : located'.files[i].components = located.files[i].components := by
    have hboth := congrArg (·[i]?) hcomponents
    simpa [hi, hi'] using hboth
  obtain ⟨names', hleads'⟩ := ScanSettings.exists_leadsTo_of_mem hproper h' (List.getElem_mem hi')
  obtain ⟨names, hleads⟩ := ScanSettings.exists_leadsTo_of_mem hproper h (List.getElem_mem hi)
  rw [List.getElem_map, List.getElem_map]
  exact entryOf_congr (.of_components hsame hleads' hleads) hsame

/-- With more roots the totals stay as they are exactly if these yield nothing but paths that are
located already, and then all entries stay. -/
theorem run_grown (hproper : t.isProper = true) (hroots : roots ⊆ roots')
    (hlocated : settings.scan.findFiles t roots = .ok located)
    (h : run t settings collector seen base roots workforce = .ok x)
    (h' : run t settings collector' seen' base roots' workforce' = .ok x') :
    (x'.files.length = x.files.length ↔ ∀ root ∈ roots', ∀ p, settings.scan.Yields t root p →
      ∃ q ∈ located.files, q.components = p.components) ∧
    (x'.files.length = x.files.length → x'.files = x.files) := by
  obtain ⟨found, hfound, hfiles⟩ := run_files h
  obtain ⟨located', hlocated', hfiles'⟩ := run_files h'
  cases hlocated.symm.trans hfound
  rw [hfiles, hfiles', List.length_map, List.length_map]
  have hlength := ScanSettings.length_eq_iff hroots hlocated hlocated'
  exact ⟨hlength.trans (ScanSettings.components_eq_iff hroots hlocated hlocated'),
    fun hsame => map_entryOf_congr hproper hlocated hlocated' (hlength.1 hsame)⟩

/-- What a census of a project counts. -/
structure CountsFiles (t : Tree) (settings : Settings) (project : Path) (x : Tally)
    (located : LocatedFiles) : Prop where
  /-- Every located file has one entry. -/
  entries : x.files = located.files.map (entryOf t settings project.components)
  /-- No file is located twice exactly if the roots are spelled alike. -/
  distinct : located.files.Pairwise (fun p q => ¬t.SameFile p q) ↔
    settings.scan.SpelledAlike t (projectRoots settings project)
  /-- With more test directories the totals stay as they are exactly if these yield nothing but
  paths that are located already. -/
  grown : ∀ dirs collector seen workforce x',
    projectRoots settings project ⊆ projectRoots (settings.listing dirs) project →
    ofProject t (settings.listing dirs) collector seen project workforce = .ok x' →
    ((x'.files.length = x.files.length ∧ x'.total = x.total) ↔
      ∀ root ∈ projectRoots (settings.listing dirs) project, ∀ p, settings.scan.Yields t root p →
        ∃ q ∈ located.files, q.components = p.components)
  /-- Test directories that hold nothing but located files change nothing, if they are spelled as
  the other ones are. -/
  covered : ∀ dirs collector seen workforce x',
    projectRoots settings project ⊆ projectRoots (settings.listing dirs) project →
    ofProject t (settings.listing dirs) collector seen project workforce = .ok x' →
    settings.scan.SpelledAlike t (projectRoots (settings.listing dirs) project) →
    (∀ root ∈ projectRoots (settings.listing dirs) project, ∀ p, settings.scan.Yields t root p →
      ∃ q ∈ located.files, t.SameFile q p) →
    x'.files = x.files ∧ x'.total = x.total

theorem total_eq_of_files (h : x'.files = x.files) : x'.total = x.total := by
  rw [Tally.total, Tally.accounts, Tally.functions, h]
  rfl

/-- A census of a project counts every file once exactly if its roots are spelled alike. -/
theorem ofProject_countsFiles (hproper : t.isProper = true) {project : Path}
    (h : ofProject t settings collector seen project workforce = .ok x) :
    ∃ located, settings.scan.findFiles t (projectRoots settings project) = .ok located ∧
      CountsFiles t settings project x located := by
  obtain ⟨located, hlocated, hfiles⟩ := run_files h
  refine ⟨located, hlocated, ?_⟩
  constructor
  case entries => exact hfiles
  case distinct => exact ScanSettings.pairwise_not_sameFile_iff hproper hlocated
  case grown =>
    intro dirs collector' seen' workforce' x' hroots h'
    rw [ofProject, run_listing] at h'
    obtain ⟨hiff, hkept⟩ := run_grown hproper hroots hlocated h h'
    rw [← hiff]
    exact ⟨And.left, fun hlength => ⟨hlength, total_eq_of_files (hkept hlength)⟩⟩
  case covered =>
    intro dirs collector' seen' workforce' x' hroots h' hspelled hcovered
    rw [ofProject, run_listing] at h'
    obtain ⟨hiff, hkept⟩ := run_grown hproper hroots hlocated h h'
    have hfiles' : x'.files = x.files := by
      refine hkept (hiff.2 fun root hroot p hp => ?_)
      obtain ⟨q, hq, hsame⟩ := hcovered root hroot p hp
      obtain ⟨root', hroot', hq'⟩ := ScanSettings.exists_yields_of_mem hlocated hq
      exact ⟨q, hq, hspelled.components_eq hproper (hroots hroot') hroot hq' hp hsame⟩
    exact ⟨hfiles', total_eq_of_files hfiles'⟩

/-! ## A detour -/

/-- A tree with one test file, which holds one test. -/
def detourTree : Tree :=
  ⟨.directory [("tests", .directory [("test_a.py", .file (Text.utf8 "def test_a(): pass\n"))])],
    ⟨"/"⟩⟩

/-- A census of the tree under the standard settings, with other test directories. -/
theorem detour_files (dirs : List String) (files : List Path)
    (hroots : ∀ root ∈ projectRoots (Settings.listing {} dirs) ⟨"/"⟩,
      detourTree.has root = true ∧ closedRoot? detourTree root = none)
    (hfiles : (ScanSettings.ofEvents {} ((projectRoots (Settings.listing {} dirs) ⟨"/"⟩).flatMap
      (ScanSettings.ownWalk {} detourTree))).files = files)
    (hordered : files.Pairwise fun a b => a.comesBefore b = true)
    (hdistinct : dropRepeated files = files) :
    ∃ located x, (Settings.listing {} dirs).scan.findFiles detourTree
          (projectRoots (Settings.listing {} dirs) ⟨"/"⟩) = .ok located ∧ located.files = files ∧
      ofProject detourTree (Settings.listing {} dirs) none .never ⟨"/"⟩ = .ok x ∧
      x.files = files.map (entryOf detourTree {} [.root]) :=
  exists_run_of_ordered none [.root] (fun _ h => absurd h List.not_mem_nil) hroots hfiles hordered
    hdistinct

/-- The test directory of the tree, and in front of it the same one by a detour. -/
def detourDirs : List String := ["tests/../tests", "tests"]

theorem detour_files_twice : ∃ located x, (Settings.listing {} detourDirs).scan.findFiles detourTree
      (projectRoots (Settings.listing {} detourDirs) ⟨"/"⟩) = .ok located ∧
    located.files = [⟨"/tests/../tests/test_a.py"⟩, ⟨"/tests/test_a.py"⟩] ∧
    ofProject detourTree (Settings.listing {} detourDirs) none .never ⟨"/"⟩ = .ok x ∧
    x.files = [⟨"/tests/../tests/test_a.py"⟩, ⟨"/tests/test_a.py"⟩].map
      (entryOf detourTree {} [.root]) :=
  detour_files detourDirs _ (by decide +kernel) (by decide +kernel) (by decide +kernel)
    (by decide +kernel)

/-- A file is counted twice because the roots are not spelled alike. -/
theorem ofProject_countsFiles_detour : detourTree.isProper = true ∧
    ∃ located x, ofProject detourTree (Settings.listing {} detourDirs) none .never ⟨"/"⟩ = .ok x ∧
      CountsFiles detourTree (Settings.listing {} detourDirs) ⟨"/"⟩ x located ∧
      ¬(Settings.listing {} detourDirs).scan.SpelledAlike detourTree
        (projectRoots (Settings.listing {} detourDirs) ⟨"/"⟩) := by
  have hproper : detourTree.isProper = true := by decide +kernel
  obtain ⟨found, x, hfound, hfiles, hx, -⟩ := detour_files_twice
  obtain ⟨located, hlocated, hcounts⟩ := ofProject_countsFiles hproper hx
  cases hfound.symm.trans hlocated
  refine ⟨hproper, found, x, hx, hcounts, fun hspelled => ?_⟩
  have hapart := hcounts.distinct.2 hspelled
  rw [hfiles] at hapart
  exact (List.pairwise_cons.1 hapart).1 _ (.head _)
    ⟨["tests", "test_a.py"], ⟨_, rfl, rfl⟩, ⟨_, rfl, rfl⟩⟩

/-- The only file of a project is counted twice if its directory is listed by a detour as well. -/
theorem detour_counted_twice :
    detourTree.isProper = true ∧
    detourTree.LeadsTo ⟨"/tests"⟩ ["tests"] ∧ detourTree.LeadsTo ⟨"/tests/../tests"⟩ ["tests"] ∧
    ∃ x x', ofProject detourTree (Settings.listing {} ["tests"]) none .never ⟨"/"⟩ = .ok x ∧
      ofProject detourTree (Settings.listing {} detourDirs) none .never ⟨"/"⟩ = .ok x' ∧
      (x.files.length = 1 ∧ x.total.val = 1) ∧ x'.files.length = 2 ∧ x'.total.val = 2 := by
  obtain ⟨-, x, -, -, hx, hfiles⟩ := detour_files ["tests"] [⟨"/tests/test_a.py"⟩]
    (by decide +kernel) (by decide +kernel) (by decide +kernel) (by decide +kernel)
  obtain ⟨-, x', -, -, hx', hfiles'⟩ := detour_files_twice
  refine ⟨by decide +kernel, ⟨_, rfl, rfl⟩, ⟨_, rfl, rfl⟩, x, x', hx, hx', ?_⟩
  rw [Tally.total, Tally.accounts, Tally.functions, Tally.total, Tally.accounts, Tally.functions,
    hfiles, hfiles']
  decide +kernel

end Census

end TestCensus
