import TestCensus.Proofs.Census.CountedOnce
import TestCensus.Proofs.Census.Records
import TestCensus.Proofs.Files.Reported

/-!
# Reported paths identify files

Everything that a census says of a file carries the path that the file is reported under: its entry
and its warnings.  So files can be told apart in a result if no two of them are reported alike
(`ReportsFiles`).

In a census of a project the roots are anchored (`anchored_projectRoots`), so only names that are
no text can be taken for each other.  In a census of a suite the roots need not be anchored, since
they are reported relative to the directory of the first root: if they are relative, a file of one
root may be reported as a file of another one (`files_reported_alike`).
-/

namespace TestCensus

open TestCensus.Files

/-- The path that a warning is about. -/
def Warning.path? : Warning → Option String
  | .parseFailure path _ => some path
  | .redeclaration path _ _ _ => some path
  | .collectFailure _ _ => none
  | .countMismatch _ _ => none
  | .scanProblem _ => none

namespace FileRecord

/-- All warnings about a file carry the path that it is reported under. -/
theorem path?_of_mem_warnings {rules : NamingRules} {shown : String} {path : Path}
    {reading : Except PathError String} {w : Warning}
    (h : w ∈ (ofReading rules shown path reading).warnings) : w.path? = some shown := by
  have htells := ofReading_tells rules shown path reading
  cases reading with
  | error e =>
      rw [(htells.unreadable e rfl).2, List.mem_singleton] at h
      rw [h]
      rfl
  | ok source =>
      cases hread : Source.readSource source with
      | error failure =>
          rw [(htells.malformed source failure rfl hread).2, List.mem_singleton] at h
          rw [h]
          rfl
      | ok statements =>
          rw [(htells.parsed source statements rfl hread).2.1] at h
          obtain ⟨d, -, rfl⟩ := List.mem_map.1 h
          rfl

end FileRecord

namespace Census

open ScanSettings

/-! ## Anchored roots -/

theorem anchored_projectRoots (settings : Settings) (project : Path) :
    Anchored project.components (projectRoots settings project) := by
  intro root hroot
  unfold projectRoots at hroot
  split at hroot
  · cases List.mem_singleton.1 hroot
    exact .inl (List.prefix_refl _)
  · obtain ⟨dir, -, rfl⟩ := List.mem_map.1 hroot
    cases habsolute : Path.isAbsolute ⟨dir⟩ with
    | true =>
        rw [Path.join, habsolute, if_pos rfl]
        exact .inr habsolute
    | false => exact .inl (Path.prefix_components_join habsolute)

/-! ## Reports -/

/-- What a census says of the located files, under the paths that they are reported under. -/
structure ReportsFiles (t : Tree) (settings : Settings) (base : List Component)
    (roots : List Path) (located : LocatedFiles) (x : Tally) : Prop where
  /-- The entries carry the reported paths of the located files. -/
  entries : x.files.map TestFile.path = located.files.map (relativePath base)
  /-- A warning that carries a path is about a located file that is reported under it. -/
  warnings : ∀ w ∈ x.warnings, ∀ path, w.path? = some path →
    ∃ p ∈ located.files, relativePath base p = path ∧
      w ∈ (FileRecord.ofFile settings.naming.rules t base p).warnings
  /-- Files are reported alike if a reader sees the same in all components that are reported. -/
  alike : ∀ p ∈ located.files, ∀ q ∈ located.files,
    (relativePath base p = relativePath base q ↔
      (reported base p).map Component.displayedText =
        (reported base q).map Component.displayedText)
  /-- Different files whose names are texts are reported alike if one of them is outside of the
  base and the other one is the base followed by it. -/
  shadowed : ∀ p ∈ located.files, ∀ q ∈ located.files, p.isExact = true → q.isExact = true →
    (relativePath base p = relativePath base q ↔ p = q ∨ Shadows base p q ∨ Shadows base q p)
  /-- If the roots are anchored, then different files whose names are texts have different entries
  and different warnings, by the path that they carry. -/
  apart : Anchored base roots → ∀ p ∈ located.files, ∀ q ∈ located.files,
    p.isExact = true → q.isExact = true → p ≠ q →
      relativePath base p ≠ relativePath base q ∧
        ∀ w ∈ (FileRecord.ofFile settings.naming.rules t base p).warnings,
        ∀ w' ∈ (FileRecord.ofFile settings.naming.rules t base q).warnings, w.path? ≠ w'.path?
  /-- If moreover all names are texts, then no path occurs in two entries. -/
  distinct : Anchored base roots → (∀ p ∈ located.files, p.isExact = true) →
    (x.files.map TestFile.path).Nodup

variable {t : Tree} {settings : Settings} {collector : Option Collector} {seen : CheckPoints}
  {base : List Component} {roots : List Path} {workforce : Workforce} {x : Tally}

/-- A warning that carries a path is one of those about the files. -/
theorem mem_warnings_of_path? {problems : List String} {records : List FileRecord}
    {asked : Option Collector} {w : Warning} {path : String}
    (hw : w ∈ (tally problems records asked).warnings) (hpath : w.path? = some path) :
    ∃ r ∈ records, w ∈ r.warnings := by
  obtain ⟨later, hwarnings, hlater⟩ := tally_warnings_cases problems records asked
  rw [hwarnings, List.mem_append, List.mem_append] at hw
  rcases hw with (hproblem | hrecord) | hother
  · obtain ⟨message, -, rfl⟩ := List.mem_map.1 hproblem
    cases hpath
  · exact List.mem_flatMap.1 hrecord
  · rcases hlater w hother with ⟨category, detail, rfl⟩ | ⟨static, collected, rfl⟩
    · cases hpath
    · cases hpath

/-- An entry carries the path that the file is reported under. -/
theorem map_path_entryOf (t : Tree) (settings : Settings) (base : List Component)
    (files : List Path) :
    (files.map (entryOf t settings base)).map TestFile.path = files.map (relativePath base) := by
  rw [List.map_map]
  exact List.map_congr_left fun p _ => (FileRecord.ofReading_tells _ _ _ _).file_path

theorem run_reportsFiles (hproper : t.isProper = true)
    (h : run t settings collector seen base roots workforce = .ok x) :
    ∃ located, settings.scan.findFiles t roots = .ok located ∧
      ReportsFiles t settings base roots located x := by
  obtain ⟨located, hlocate, -, -, -, -, hx⟩ := run_eq_ok.1 h
  have hlocated := ScanSettings.findFiles_of_locate hlocate
  have hpath : ∀ {p : Path} {w : Warning},
      w ∈ (FileRecord.ofFile settings.naming.rules t base p).warnings →
        w.path? = some (relativePath base p) := FileRecord.path?_of_mem_warnings
  have hfiles : x.files = located.files.map (entryOf t settings base) := hx ▸ List.map_map
  have hentries : x.files.map TestFile.path = located.files.map (relativePath base) := by
    rw [hfiles, map_path_entryOf]
  refine ⟨located, hlocated, ?_⟩
  constructor
  case entries => exact hentries
  case warnings =>
    intro w hw path hcarried
    rw [hx] at hw
    obtain ⟨r, hr, hwr⟩ := mem_warnings_of_path? hw hcarried
    obtain ⟨p, hp, rfl⟩ := List.mem_map.1 hr
    exact ⟨p, hp, Option.some.inj ((hpath hwr).symm.trans hcarried), hwr⟩
  case alike => exact fun p _ q _ => relativePath_eq_iff
  case shadowed =>
    intro p hp q hq hexact hexact'
    rw [relativePath_eq_iff_of_isExact hexact hexact']
    exact or_congr_left ⟨eq_of_components_eq hlocated hp hq, fun h => h ▸ rfl⟩
  case apart =>
    intro hanchored p hp q hq hexact hexact' hne
    have hdifferent : relativePath base p ≠ relativePath base q := fun heq =>
      hne (relativePath_inj hproper hlocated hanchored hp hq hexact hexact' heq)
    refine ⟨hdifferent, fun w hw w' hw' hsame => hdifferent ?_⟩
    rwa [hpath hw, hpath hw', Option.some.injEq] at hsame
  case distinct =>
    intro hanchored hexact
    have hnodup : located.files.Nodup :=
      (ScanSettings.findFiles_distinct hlocated).imp fun hne heq =>
        hne (congrArg Path.components heq)
    rw [hentries]
    exact hnodup.map_on fun p hp q hq =>
      relativePath_inj hproper hlocated hanchored hp hq (hexact p hp) (hexact q hq)

/-- Reported paths identify files whose names are texts, in every census of a project, and in a
census of a suite whose roots are anchored. -/
theorem reported_paths_identify (hproper : t.isProper = true) :
    (∀ project x, ofProject t settings collector seen project workforce = .ok x →
      ∃ located, settings.scan.findFiles t (projectRoots settings project) = .ok located ∧
        Anchored project.components (projectRoots settings project) ∧
        ReportsFiles t settings project.components (projectRoots settings project) located x) ∧
    ∀ roots x, ofSuite t settings collector seen roots workforce = .ok x →
      ∃ located, settings.scan.findFiles t roots = .ok located ∧
        ReportsFiles t settings (suiteBase roots) roots located x := by
  constructor
  · intro project x h
    obtain ⟨located, hlocated, hreports⟩ := run_reportsFiles hproper h
    exact ⟨located, hlocated, anchored_projectRoots settings project, hreports⟩
  · exact fun roots x h => run_reportsFiles hproper h

/-! ## Files that are reported alike -/

/-- A census of files that the walks come across in order. -/
theorem exists_reports_of_ordered (t : Tree) (settings : Settings) (base : List Component)
    (roots files : List Path)
    (husable : ∀ entry ∈ settings.scan.exclude, ∃ rule, excludeRule entry = .ok rule)
    (hroots : ∀ root ∈ roots, t.has root = true ∧ closedRoot? t root = none)
    (hfiles : (settings.scan.ofEvents (roots.flatMap (settings.scan.ownWalk t))).files = files)
    (hordered : files.Pairwise fun a b => a.comesBefore b = true)
    (hdistinct : dropRepeated files = files) :
    ∃ located x, settings.scan.findFiles t roots = .ok located ∧ located.files = files ∧
      run t settings none .never base roots .willing = .ok x ∧
      x.files.map TestFile.path = files.map (relativePath base) := by
  obtain ⟨located, x, hlocated, rfl, hx, hentries⟩ :=
    exists_run_of_ordered none base husable hroots hfiles hordered hdistinct
  exact ⟨located, x, hlocated, rfl, hx, hentries ▸ map_path_entryOf t settings base _⟩

/-- A tree with two test directories of one name, one of them in another directory. -/
def namesakeTree : Tree :=
  ⟨.directory [("a", .directory [("x", .directory [("test_a.py", .file [])])]),
    ("x", .directory [("test_a.py", .file [])])], ⟨"/"⟩⟩

/-- The two directories, as absolute roots. -/
def namesakeRoots : List Path := [⟨"/a/x"⟩, ⟨"/x"⟩]

/-- In a suite with absolute roots the two files are told apart. -/
theorem reported_paths_identify_namesakes : namesakeTree.isProper = true ∧
    ∃ located x, ofSuite namesakeTree {} none .never namesakeRoots = .ok x ∧
      located.files = [⟨"/a/x/test_a.py"⟩, ⟨"/x/test_a.py"⟩] ∧
      ReportsFiles namesakeTree {} (suiteBase namesakeRoots) namesakeRoots located x ∧
      (x.files.map TestFile.path).Nodup := by
  have hproper : namesakeTree.isProper = true := by decide +kernel
  obtain ⟨found, x, hfound, hfiles, hx, -⟩ := exists_reports_of_ordered namesakeTree {}
    (suiteBase namesakeRoots) namesakeRoots [⟨"/a/x/test_a.py"⟩, ⟨"/x/test_a.py"⟩]
    (fun _ h => absurd h List.not_mem_nil) (by decide +kernel) (by decide +kernel)
    (by decide +kernel) (by decide +kernel)
  obtain ⟨located, hlocated, hreports⟩ := (reported_paths_identify hproper).2 namesakeRoots x hx
  cases hfound.symm.trans hlocated
  have habsolute : ∀ root ∈ namesakeRoots, root.isAbsolute = true := by decide +kernel
  have hanchored : Anchored (suiteBase namesakeRoots) namesakeRoots :=
    fun root hroot => .inr (habsolute root hroot)
  have hexact : ∀ p ∈ found.files, p.isExact = true := by
    rw [hfiles]
    decide +kernel
  exact ⟨hproper, found, x, hx, hfiles, hreports, hreports.distinct hanchored hexact⟩

/-- The two directories, as relative roots. -/
def relativeRoots : List Path := [⟨"a/x"⟩, ⟨"x"⟩]

/-- A tree with two directories whose names are no texts. -/
def strayTree : Tree :=
  ⟨.directory [("tests", .directory
    [(Text.keptText [0xfe], .directory [("test_a.py", .file [])]),
      (Text.keptText [0xff], .directory [("test_a.py", .file [])])])], ⟨"/"⟩⟩

/-- The test files of the tree. -/
def strayFiles : List Path :=
  [⟨"/tests/" ++ Text.keptText [0xfe] ++ "/test_a.py"⟩,
    ⟨"/tests/" ++ Text.keptText [0xff] ++ "/test_a.py"⟩]

/-- Different files are reported alike in a suite with relative roots, and in a project with names
that are no texts. -/
theorem files_reported_alike :
    (namesakeTree.isProper = true ∧ ∃ located x,
      (Settings.scan {}).findFiles namesakeTree relativeRoots = .ok located ∧
      located.files = [⟨"a/x/test_a.py"⟩, ⟨"x/test_a.py"⟩] ∧
      ofSuite namesakeTree {} none .never relativeRoots = .ok x ∧
      x.files.map TestFile.path = ["x/test_a.py", "x/test_a.py"]) ∧
    strayTree.isProper = true ∧ ∃ located x,
      (Settings.scan {}).findFiles strayTree (projectRoots {} ⟨"/"⟩) = .ok located ∧
      located.files = strayFiles ∧ (strayFiles.map Path.components).Nodup ∧
      ofProject strayTree {} none .never ⟨"/"⟩ = .ok x ∧
      x.files.map TestFile.path = ["tests/\uFFFD/test_a.py", "tests/\uFFFD/test_a.py"] := by
  obtain ⟨found, x, hfound, hfiles, hx, hpaths⟩ := exists_reports_of_ordered namesakeTree {}
    (suiteBase relativeRoots) relativeRoots [⟨"a/x/test_a.py"⟩, ⟨"x/test_a.py"⟩]
    (fun _ h => absurd h List.not_mem_nil) (by decide +kernel) (by decide +kernel)
    (by decide +kernel) (by decide +kernel)
  obtain ⟨found', x', hfound', hfiles', hx', hpaths'⟩ := exists_reports_of_ordered strayTree {}
    [.root] (projectRoots {} ⟨"/"⟩) strayFiles
    (fun _ h => absurd h List.not_mem_nil) (by decide +kernel) (by decide +kernel)
    (by decide +kernel) (by decide +kernel)
  refine ⟨⟨by decide +kernel, found, x, hfound, hfiles, hx, hpaths.trans ?_⟩,
    by decide +kernel, found', x', hfound', hfiles', by decide +kernel, hx', hpaths'.trans ?_⟩
  · decide +kernel
  · decide +kernel

end Census

end TestCensus
