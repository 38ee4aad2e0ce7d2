import TestCensus.Proofs.Files.Outline
import TestCensus.Proofs.Files.Search

/-!
# Searches in trees whose contents differ

A search looks at the outline of a tree and at the ignore files, and not at the
contents of other files.  So when a file changes that is no ignore file, the same
files are located as before (`findFiles_put`).

A file is an ignore file if one of the paths at which a directory has its ignore
files leads to it (`Tree.IsIgnoreFile`).  This is not a matter of its name, since the
path may lead through a link.
-/

namespace TestCensus.Files

namespace Tree

/-- A directory has the place with these names as an ignore file. -/
def IsIgnoreFile (t : Tree) (names : List String) : Prop :=
  ∃ directory, t.LeadsTo (ignorePaths directory).1 names ∨
    t.LeadsTo (ignorePaths directory).2.1 names ∨ t.LeadsTo (ignorePaths directory).2.2 names

variable {t t' : Tree} {names : List String} {old new : List UInt8}

theorem ignoreFile_put (h : t.root.at? names = some (.file old)) {p : Path}
    (hp : ¬t.LeadsTo p names) : (t.put names (.file new)).ignoreFile p = t.ignoreFile p := by
  rw [ignoreFile, ignoreFile, readBytes_put h hp]

theorem has_put (h : t.root.at? names = some (.file old)) (new : List UInt8) (p : Path) :
    (t.put names (.file new)).has p = t.has p := by
  rw [← has_outline, outline_put_file h, has_outline]

/-- Whether a path leads to a closed directory is a matter of the outline. -/
theorem closedRoot?_outline (t : Tree) (root : Path) :
    closedRoot? t.outline root = closedRoot? t root := by
  unfold closedRoot?
  rw [node?_outline]
  cases t.node? root with
  | none => rfl
  | some node => cases node <;> rfl

theorem closedRoot?_put (h : t.root.at? names = some (.file old)) (new : List UInt8)
    (root : Path) : closedRoot? (t.put names (.file new)) root = closedRoot? t root := by
  rw [← closedRoot?_outline, outline_put_file h, closedRoot?_outline]

/-- The ignore files of a directory are what they were. -/
theorem ignoreFiles_put (h : t.root.at? names = some (.file old)) (hignore : ¬t.IsIgnoreFile names)
    (new : List UInt8) (directory : Path) :
    (t.put names (.file new)).ignoreFile (ignorePaths directory).1 =
        t.ignoreFile (ignorePaths directory).1 ∧
      (t.put names (.file new)).ignoreFile (ignorePaths directory).2.1 =
        t.ignoreFile (ignorePaths directory).2.1 ∧
      (t.put names (.file new)).ignoreFile (ignorePaths directory).2.2 =
        t.ignoreFile (ignorePaths directory).2.2 :=
  ⟨ignoreFile_put h fun hp => hignore ⟨directory, .inl hp⟩,
    ignoreFile_put h fun hp => hignore ⟨directory, .inr (.inl hp)⟩,
    ignoreFile_put h fun hp => hignore ⟨directory, .inr (.inr hp)⟩⟩

theorem directoryRules_put (h : t.root.at? names = some (.file old))
    (hignore : ¬t.IsIgnoreFile names) (directory : Path) :
    (t.put names (.file new)).directoryRules directory = t.directoryRules directory := by
  obtain ⟨hgeneral, hshared, hpersonal⟩ := ignoreFiles_put h hignore new directory
  unfold directoryRules
  dsimp only
  rw [hgeneral, hshared, hpersonal, has_put h, has_put h]

theorem ignoreProblems_put (h : t.root.at? names = some (.file old))
    (hignore : ¬t.IsIgnoreFile names) (directory : Path) :
    (t.put names (.file new)).ignoreProblems directory = t.ignoreProblems directory := by
  obtain ⟨hgeneral, hshared, hpersonal⟩ := ignoreFiles_put h hignore new directory
  unfold ignoreProblems
  simp only [List.flatMap_cons, List.flatMap_nil, hgeneral, hshared, hpersonal]

end Tree

/-! ## Walks -/

section Walks

variable {t t' : Tree} {use : IgnoreFilesUse}

theorem WalkRules.enter_eq
    (h : use = .respected → ∀ d, t'.directoryRules d = t.directoryRules d) (w : WalkRules)
    (directory : Path) : w.enter t' use directory = w.enter t use directory := by
  cases use with
  | passedOver => rfl
  | respected => rw [enter, enter, h rfl]

mutual

/-- A walk looks at the outline of a node and at the ignore files. -/
theorem Node.walk_outline (h : use = .respected → ∀ d, t'.directoryRules d = t.directoryRules d)
    (w : WalkRules) (path : Path) (name : String) :
    ∀ node : Node, node.outline.walk t' use w path name = node.walk t use w path name
  | .file _ => by rw [Node.outline, Node.walk, Node.walk]
  | .closed _ => by rw [Node.outline, Node.walk, Node.walk]
  | .link _ => by rw [Node.outline, Node.walk, Node.walk]
  | .directory es => by
      rw [Node.outline, Node.walk, Node.walk, WalkRules.enter_eq h, walkEntries_outline h]

theorem walkEntries_outline (h : use = .respected → ∀ d, t'.directoryRules d = t.directoryRules d)
    (w : WalkRules) (directory : Path) : ∀ es : List (String × Node),
      walkEntries t' use w directory (outlineEntries es) = walkEntries t use w directory es
  | [] => by rw [outlineEntries, walkEntries, walkEntries]
  | (name, node) :: rest => by
      rw [outlineEntries, walkEntries, walkEntries, Node.walk_outline h, walkEntries_outline h]

end

theorem walkEntries_congr (h : use = .respected → ∀ d, t'.directoryRules d = t.directoryRules d)
    {es es' : List (String × Node)} (hes : outlineEntries es' = outlineEntries es) (w : WalkRules)
    (directory : Path) : walkEntries t' use w directory es' = walkEntries t use w directory es := by
  have hsame : walkEntries t' use w directory (outlineEntries es') =
      walkEntries t' use w directory es' := walkEntries_outline (fun _ _ => rfl) w directory es'
  rw [← hsame, hes, walkEntries_outline h]

end Walks

/-- A walk after a file has changed that is no ignore file, or that need not be looked
at, comes across what it came across before. -/
theorem Tree.walk_put {t : Tree} {names : List String} {old : List UInt8}
    (h : t.root.at? names = some (.file old)) (new : List UInt8) {use : IgnoreFilesUse}
    (hignore : use = .respected → ¬t.IsIgnoreFile names) (excluded : IgnoreRules) (root : Path) :
    (t.put names (.file new)).walk use excluded root = t.walk use excluded root := by
  have hrules : use = .respected →
      ∀ d, (t.put names (.file new)).directoryRules d = t.directoryRules d :=
    fun huse => directoryRules_put h (hignore huse)
  unfold walk
  rcases place?_cases (outline_put_file h new) root with
    ⟨e, hplace, hplace'⟩ | ⟨place, place', hplace, hplace', hnames, hnode⟩
  · rw [hplace, hplace']
  · rw [hplace, hplace']
    obtain ⟨placeNames, node⟩ := place
    obtain ⟨placeNames', node'⟩ := place'
    cases hnames
    dsimp only
    cases Node.sameOutline hnode with
    | file content content' => rfl
    | closed why => rfl
    | link target => rfl
    | directory hentries =>
        simp only [walkEntries_congr hrules hentries, WalkRules.enter_eq hrules]
        cases use with
        | passedOver => simp only [List.map_nil, List.reverse_nil, List.flatMap_nil]
        | respected =>
            have hproblems : (t.put names (.file new)).ignoreProblems = t.ignoreProblems :=
              funext (ignoreProblems_put h (hignore rfl))
            rw [funext (hrules rfl), hproblems]

end TestCensus.Files

namespace TestCensus.ScanSettings

open TestCensus.Files

/-! ## Searches -/

variable {s : ScanSettings} {t t' : Tree}

/-- A search looks at no more than which roots there are, whether they are closed, and what
their walks come across. -/
theorem locateFrom_congr (hhas : ∀ p, t'.has p = t.has p)
    (hclosed : ∀ root, closedRoot? t' root = closedRoot? t root)
    (hwalk : ∀ excluded root, t'.walk s.ignoreFilesUse excluded root =
      t.walk s.ignoreFilesUse excluded root) (roots : List Path) :
    s.locateFrom t' (fun _ => false) 0 roots = s.locateFrom t (fun _ => false) 0 roots := by
  induction roots with
  | nil => rfl
  | cons root roots ih =>
      cases hroot : t.has root with
      | false =>
          have hroot' : t'.has root = false := (hhas root).trans hroot
          rw [locateFrom_absent hroot, locateFrom_absent hroot', ih]
      | true =>
          have hroot' : t'.has root = true := (hhas root).trans hroot
          have hsame : s.rulesAt t' root = s.rulesAt t root := by rw [rulesAt, rulesAt, hclosed]
          cases hrules : s.rulesAt t root with
          | error f =>
              rw [locateFrom_refused hroot hrules,
                locateFrom_refused hroot' (hsame.trans hrules)]
          | ok rules =>
              rw [locateFrom_walked hroot hrules, locateFrom_walked hroot' (hsame.trans hrules), ih,
                hwalk]

/-- A file that is no ignore file may change, and the same files are located. -/
theorem findFiles_put {names : List String} {old : List UInt8}
    (h : t.root.at? names = some (.file old)) (new : List UInt8)
    (hignore : s.respectsIgnoreFiles = true → ¬t.IsIgnoreFile names) (roots : List Path) :
    s.findFiles (t.put names (.file new)) roots = s.findFiles t roots := by
  have huse : s.ignoreFilesUse = .respected → ¬t.IsIgnoreFile names := by
    intro huse
    refine hignore ?_
    unfold ignoreFilesUse at huse
    split at huse
    · assumption
    · cases huse
  have hfound := locateFrom_congr (s := s) (Tree.has_put h new)
    (Tree.closedRoot?_put h new) (Tree.walk_put h new huse) roots
  rw [findFiles, findFiles, locate_eq, locate_eq, hfound]

end TestCensus.ScanSettings
