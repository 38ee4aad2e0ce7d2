import Mathlib.Data.List.Sort
import TestCensus.Proofs.Files.Following
import TestCensus.Proofs.Files.Order

/-!
# Located files as a union

A search walks its roots one after the other and puts what they give in order at the end.  So
what it locates is the union of what the roots give, each on its own (`locate_sortedUnion`).

*Membership.*  Paths are the same if their components are.  Dropping repeated paths keeps one
of each (`exists_mem_dropRepeated`), so the components of located files are those that some
walk yields (`mem_components_iff`), and in strictly ascending order they are determined by
that (`components_eq`).

*Rearrangement.*  A list of roots is `Rearranged` if roots change places, are repeated, or join
without adding anything: roots that do not exist, and other spellings of a root.  None of this
changes which components are yielded (`Rearranged.yields_iff`), or lets a search fail that
succeeded before (`Rearranged.isUsable`).
-/

namespace TestCensus.Files

/-! ## Paths in order -/

/-- Of paths with the same components one is kept. -/
theorem exists_mem_dropRepeated {paths : List Path} {p : Path} (h : p ∈ paths) :
    ∃ q ∈ dropRepeated paths, q.components = p.components := by
  induction paths with
  | nil => cases h
  | cons first rest ih =>
      rw [dropRepeated]
      cases hrest : dropRepeated rest with
      | nil =>
          rw [hrest] at ih
          cases h with
          | head => exact ⟨p, .head _, rfl⟩
          | tail _ h =>
              obtain ⟨q, hq, -⟩ := ih h
              cases hq
      | cons next others =>
          rw [hrest] at ih
          dsimp only
          split
          · rename_i hsame
            have hsame' : first.components = next.components := beq_iff_eq.1 hsame
            cases h with
            | head => exact ⟨p, .head _, rfl⟩
            | tail _ h =>
                obtain ⟨q, hq, hcomponents⟩ := ih h
                cases hq with
                | head => exact ⟨first, .head _, hsame'.trans hcomponents⟩
                | tail _ hq => exact ⟨q, .tail _ hq, hcomponents⟩
          · cases h with
            | head => exact ⟨p, .head _, rfl⟩
            | tail _ h =>
                obtain ⟨q, hq, hcomponents⟩ := ih h
                exact ⟨q, .tail _ hq, hcomponents⟩

theorem mem_of_mem_inOrder {paths : List Path} {p : Path} (h : p ∈ inOrder paths) : p ∈ paths :=
  List.mem_mergeSort.1 (dropRepeated_subset _ h)

theorem exists_mem_inOrder {paths : List Path} {p : Path} (h : p ∈ paths) :
    ∃ q ∈ inOrder paths, q.components = p.components :=
  exists_mem_dropRepeated (List.mem_mergeSort.2 h)

/-- Components in strictly ascending order are determined by which they are. -/
theorem components_eq {paths paths' : List Path}
    (h : paths.Pairwise fun a b => a.components < b.components)
    (h' : paths'.Pairwise fun a b => a.components < b.components)
    (hmem : ∀ c, c ∈ paths.map Path.components ↔ c ∈ paths'.map Path.components) :
    paths.map Path.components = paths'.map Path.components :=
  List.Pairwise.eq_of_mem_iff (List.pairwise_map.2 h) (List.pairwise_map.2 h') hmem

/-! ## Walks -/

/-- What an entry of a walk is, whatever the spelling of the root. -/
def WalkEvent.outline? : WalkEvent → Option (List Component × Bool)
  | .problem _ => none
  | .entry path isFile => some (path.components, isFile)

theorem WalkEvent.outline?_eq_some {e : WalkEvent} {c : List Component} {isFile : Bool} :
    e.outline? = some (c, isFile) ↔ ∃ p : Path, p.components = c ∧ e = .entry p isFile := by
  cases e with
  | problem message => simp [outline?]
  | entry path isFile' =>
      simp only [outline?, Option.some.injEq, Prod.mk.injEq, entry.injEq]
      constructor
      · rintro ⟨hc, rfl⟩
        exact ⟨path, hc, rfl, rfl⟩
      · rintro ⟨p, hc, rfl, rfl⟩
        exact ⟨hc, rfl⟩

theorem Tree.exists_place {t : Tree} {p : Path} (h : t.has p = true) :
    ∃ place, t.place? p = .ok place := by
  rw [has, node?] at h
  cases hplace : t.place? p with
  | error e =>
      rw [hplace] at h
      cases h
  | ok place => exact ⟨place, rfl⟩

/-- A root that does not exist is not walked. -/
theorem Tree.walk_absent {t : Tree} {root : Path} (h : t.has root = false) (use : IgnoreFilesUse)
    (excluded : IgnoreRules) : t.walk use excluded root = [] := by
  unfold walk
  split
  · rfl
  · rename_i place hplace
    rw [has, node?, hplace] at h
    cases h

/-- A root that exists is an entry of its own walk. -/
theorem Tree.exists_entry_root {t : Tree} {root : Path} (h : t.has root = true)
    (use : IgnoreFilesUse) (excluded : IgnoreRules) :
    ∃ isFile, .entry root isFile ∈ t.walk use excluded root := by
  obtain ⟨⟨names, node⟩, hplace⟩ := exists_place h
  rw [walk, hplace]
  cases node with
  | directory es => exact ⟨false, List.mem_append_right _ (.head _)⟩
  | closed why => exact ⟨false, .head _⟩
  | file content => exact ⟨true, .head _⟩
  | link target => exact ⟨true, .head _⟩

end TestCensus.Files

namespace TestCensus.ScanSettings

open TestCensus.Files

variable {s : ScanSettings} {t : Tree} {roots roots' : List Path} {root root' : Path}

/-! ## What a root yields -/

/-- The walk from a root on its own.  An exclude list that cannot be used excludes nothing. -/
def ownWalk (s : ScanSettings) (t : Tree) (root : Path) : List WalkEvent :=
  t.walk s.ignoreFilesUse ((excludeRules root s.exclude).toOption.getD ⟨root, []⟩) root

/-- The walk from a root on its own comes across a file that qualifies. -/
def Yields (s : ScanSettings) (t : Tree) (root p : Path) : Prop :=
  .entry p true ∈ s.ownWalk t root ∧ s.qualifies p = true

/-- The walks from two roots come across the same entries, up to the spelling of the roots. -/
def SameEntries (s : ScanSettings) (t : Tree) (root root' : Path) : Prop :=
  (s.ownWalk t root).filterMap WalkEvent.outline? =
    (s.ownWalk t root').filterMap WalkEvent.outline?

/-- Every root that exists can be walked: it is not closed, and the exclude list can be used. -/
def IsUsable (s : ScanSettings) (t : Tree) (roots : List Path) : Prop :=
  ∀ root ∈ roots, t.has root = true → ∃ rules, s.rulesAt t root = .ok rules

/-- Whether a file qualifies depends on its components. -/
theorem qualifies_congr {p q : Path} (h : p.components = q.components) :
    s.qualifies p = s.qualifies q := by
  rw [qualifies, qualifies, Path.fileName?, Path.fileName?, h]

/-- A file that qualifies has the name of a test file. -/
theorem exists_name_of_qualifies {p : Path} (h : s.qualifies p = true) :
    ∃ name, p.fileName? = some name ∧
      isTestFileName s.effectiveFileStart s.effectiveExtensions name = true := by
  obtain ⟨name, hname, hqualifies⟩ := (Option.any_eq_true _ _).1 h
  exact ⟨name, hname, (Bool.and_eq_true_iff.1 hqualifies).2⟩

theorem mem_files_ofEvents {events : List WalkEvent} {p : Path} :
    p ∈ (s.ofEvents events).files ↔ .entry p true ∈ events ∧ s.qualifies p = true := by
  rw [ofEvents, List.mem_flatMap]
  constructor
  · rintro ⟨e, he, hp⟩
    cases e with
    | problem message => cases hp
    | entry path isFile =>
        rw [ofEvent] at hp
        split at hp
        · rename_i h
          rw [Bool.and_eq_true] at h
          obtain rfl := List.mem_singleton.1 hp
          obtain ⟨rfl, hqualifies⟩ := h
          exact ⟨he, hqualifies⟩
        · cases hp
  · rintro ⟨he, hqualifies⟩
    refine ⟨_, he, ?_⟩
    rw [ofEvent, hqualifies]
    exact .head _

/-- Nothing is yielded by a root that does not exist. -/
theorem not_yields_of_absent (h : t.has root = false) (p : Path) : ¬s.Yields t root p := by
  rintro ⟨hentry, -⟩
  rw [ownWalk, Tree.walk_absent h] at hentry
  cases hentry

/-- Roots with the same entries yield the same components. -/
theorem SameEntries.yields {p : Path} (h : s.SameEntries t root root') (hp : s.Yields t root p) :
    ∃ p', s.Yields t root' p' ∧ p'.components = p.components := by
  have hmem : (p.components, true) ∈ (s.ownWalk t root).filterMap WalkEvent.outline? :=
    List.mem_filterMap.2 ⟨_, hp.1, rfl⟩
  rw [h] at hmem
  obtain ⟨e, he, houtline⟩ := List.mem_filterMap.1 hmem
  obtain ⟨p', hcomponents, rfl⟩ := WalkEvent.outline?_eq_some.1 houtline
  exact ⟨p', ⟨he, (qualifies_congr hcomponents).trans hp.2⟩, hcomponents⟩

theorem SameEntries.symm (h : s.SameEntries t root root') : s.SameEntries t root' root :=
  Eq.symm h

/-- Of two roots with the same entries both exist or none. -/
theorem SameEntries.has (h : s.SameEntries t root root') (hroot : t.has root = true) :
    t.has root' = true := by
  obtain ⟨isFile, hentry⟩ := Tree.exists_entry_root hroot s.ignoreFilesUse
    ((excludeRules root s.exclude).toOption.getD ⟨root, []⟩)
  have hmem : (root.components, isFile) ∈ (s.ownWalk t root).filterMap WalkEvent.outline? :=
    List.mem_filterMap.2 ⟨_, hentry, rfl⟩
  rw [h] at hmem
  obtain ⟨e, he, -⟩ := List.mem_filterMap.1 hmem
  by_contra habsent
  rw [ownWalk, Tree.walk_absent (Bool.eq_false_iff.2 habsent)] at he
  cases he

/-- Whether an exclude list can be used does not depend on the root. -/
theorem exists_excludeRules {exclude : List String} {rules : IgnoreRules}
    (h : excludeRules root exclude = .ok rules) (root' : Path) :
    ∃ rules', excludeRules root' exclude = .ok rules' := by
  unfold excludeRules at h ⊢
  cases hlist : exclude.mapM excludeRule with
  | error f =>
      rw [hlist] at h
      cases h
  | ok list => exact ⟨_, rfl⟩

/-- Of two spellings of a root both are closed or none. -/
theorem closedRoot?_eq_none_congr (hcomponents : root.components = root'.components)
    (hroot : t.has root = true) (hroot' : t.has root' = true) (h : closedRoot? t root = none) :
    closedRoot? t root' = none := by
  obtain ⟨place, hfound⟩ := Tree.exists_place hroot
  obtain ⟨place', hfound'⟩ := Tree.exists_place hroot'
  obtain rfl := Tree.place?_congr hcomponents hfound hfound'
  have hnode : t.node? root' = t.node? root := by
    rw [Tree.node?, Tree.node?, hfound, hfound']
  rw [closedRoot?_eq_none_iff] at h ⊢
  rwa [hnode]

/-! ## What a search locates -/

/-- What a search locates at several roots, before it is put in order. -/
structure Gathers (s : ScanSettings) (t : Tree) (roots : List Path) (found : LocatedFiles) :
    Prop where
  /-- The files are those that some root yields. -/
  files : ∀ p, p ∈ found.files ↔ ∃ root ∈ roots, s.Yields t root p
  /-- The roots that do not exist are noted. -/
  skipped : found.skippedRoots = roots.filter fun root => !t.has root

/-- A search that nobody cancels goes through all roots if they can be walked. -/
theorem locateFrom_gathers (h : s.IsUsable t roots) :
    ∃ found, s.locateFrom t (fun _ => false) 0 roots = .ok found ∧ s.Gathers t roots found := by
  induction roots with
  | nil => exact ⟨.empty, rfl, fun p => by simp [LocatedFiles.empty], rfl⟩
  | cons root roots ih =>
      obtain ⟨hfirst, hrest⟩ := List.forall_mem_cons.1 h
      obtain ⟨found, hfound, hfiles, hskipped⟩ := ih hrest
      cases hroot : t.has root with
      | false =>
          refine ⟨_, by rw [locateFrom_absent hroot, hfound]; rfl, fun p => ?_, ?_⟩
          · rw [LocatedFiles.append_files, List.nil_append, hfiles]
            simp only [List.mem_cons, exists_eq_or_imp, not_yields_of_absent hroot p, false_or]
          · show [root] ++ found.skippedRoots = _
            rw [hskipped, List.filter_cons_of_pos (by simp [hroot])]
            rfl
      | true =>
          obtain ⟨rules, hrules⟩ := hfirst hroot
          have hown : t.walk s.ignoreFilesUse rules root = s.ownWalk t root := by
            rw [ownWalk, (rulesAt_eq_ok_iff.1 hrules).2]
            rfl
          refine ⟨_, by rw [locateFrom_walked hroot hrules, hfound]; rfl, fun p => ?_, ?_⟩
          · rw [LocatedFiles.append_files, List.mem_append, mem_files_ofEvents, hfiles, hown]
            simp only [List.mem_cons, exists_eq_or_imp, Yields]
          · show [] ++ found.skippedRoots = _
            rw [hskipped, List.filter_cons_of_neg (by simp [hroot])]
            rfl

/-- A search that succeeds can walk its roots. -/
theorem isUsable_of_locateFrom {found : LocatedFiles}
    (h : s.locateFrom t (fun _ => false) 0 roots = .ok found) : s.IsUsable t roots := by
  induction roots generalizing found with
  | nil => exact fun root hroot => absurd hroot List.not_mem_nil
  | cons root roots ih =>
      have hlater : ∀ {first : LocatedFiles},
          (s.locateFrom t (fun _ => false) 0 roots).map (first ++ ·) = .ok found →
            s.IsUsable t roots := by
        intro first hmap
        cases hfound : s.locateFrom t (fun _ => false) 0 roots with
        | error f =>
            rw [hfound] at hmap
            cases hmap
        | ok later => exact ih hfound
      cases hroot : t.has root with
      | false =>
          rw [locateFrom_absent hroot] at h
          exact List.forall_mem_cons.2
            ⟨fun hpresent => absurd (hroot.symm.trans hpresent) Bool.false_ne_true, hlater h⟩
      | true =>
          cases hrules : s.rulesAt t root with
          | error f =>
              rw [locateFrom_refused hroot hrules] at h
              cases h
          | ok rules =>
              rw [locateFrom_walked hroot hrules] at h
              exact List.forall_mem_cons.2 ⟨fun _ => ⟨rules, hrules⟩, hlater h⟩

theorem isUsable_of_findFiles {located : LocatedFiles} (h : s.findFiles t roots = .ok located) :
    s.IsUsable t roots := by
  rw [findFiles, locate_eq] at h
  cases hfound : s.locateFrom t (fun _ => false) 0 roots with
  | error f =>
      rw [hfound] at h
      cases h
  | ok found => exact isUsable_of_locateFrom hfound

/-- A search that nobody cancels puts what it gathers in order. -/
theorem findFiles_gathers (h : s.IsUsable t roots) :
    ∃ found, s.findFiles t roots = .ok found.arranged ∧ s.Gathers t roots found := by
  obtain ⟨found, hfound, hgathers⟩ := locateFrom_gathers h
  exact ⟨found, by rw [findFiles, locate_eq, hfound]; rfl, hgathers⟩

/-- A search that somebody may cancel is cancelled, or it ends as if nobody could. -/
theorem locate_disturbed (seen : Nat → Bool) (roots : List Path) :
    s.locate t seen roots = .error .cancelled ∨
      s.locate t seen roots = s.findFiles t roots := by
  have hsearch : s.locateFrom t seen 0 roots = .error .cancelled ∨
      s.locateFrom t seen 0 roots = s.locateFrom t (fun _ => false) 0 roots :=
    locateFrom_disturbed
  rw [findFiles, locate_eq, locate_eq]
  rcases hsearch with hcancelled | hsame
  · exact Or.inl (by rw [hcancelled]; rfl)
  · exact Or.inr (by rw [hsame])

theorem findFiles_of_locate {seen : Nat → Bool} {located : LocatedFiles}
    (h : s.locate t seen roots = .ok located) : s.findFiles t roots = .ok located := by
  rcases locate_disturbed seen roots with hcancelled | hsame
  · rw [hcancelled] at h
    cases h
  · rw [← hsame, h]

/-- The components of located files are those that some root yields. -/
theorem mem_components_iff {located : LocatedFiles} (h : s.findFiles t roots = .ok located)
    (c : List Component) : c ∈ located.files.map Path.components ↔
      ∃ root ∈ roots, ∃ p, s.Yields t root p ∧ p.components = c := by
  obtain ⟨found, hfound, hgathers⟩ := findFiles_gathers (isUsable_of_findFiles h)
  obtain rfl := Except.ok.inj (h.symm.trans hfound)
  rw [List.mem_map]
  constructor
  · rintro ⟨p, hp, hc⟩
    obtain ⟨root, hroot, hyields⟩ := (hgathers.files p).1 (mem_of_mem_inOrder hp)
    exact ⟨root, hroot, p, hyields, hc⟩
  · rintro ⟨root, hroot, p, hyields, rfl⟩
    exact exists_mem_inOrder ((hgathers.files p).2 ⟨root, hroot, hyields⟩)

/-! ## Rearranged roots -/

/-- Roots are put in another order, repeated, or joined by roots that add nothing. -/
inductive Rearranged (s : ScanSettings) (t : Tree) : List Path → List Path → Prop where
  /-- The roots stand in another order. -/
  | permuted {roots roots' : List Path} : roots.Perm roots' → Rearranged s t roots roots'
  /-- A root is repeated. -/
  | repeated {root : Path} {roots : List Path} :
      root ∈ roots → Rearranged s t roots (root :: roots)
  /-- A root joins that does not exist. -/
  | absent {root : Path} {roots : List Path} :
      t.has root = false → Rearranged s t roots (root :: roots)
  /-- A root is repeated in another spelling, which makes no difference to the walk. -/
  | respelled {root root' : Path} {roots : List Path} : root ∈ roots →
      root'.components = root.components → s.SameEntries t root root' →
      Rearranged s t roots (root' :: roots)
  /-- One rearrangement follows another. -/
  | trans {roots roots' roots'' : List Path} : Rearranged s t roots roots' →
      Rearranged s t roots' roots'' → Rearranged s t roots roots''

namespace Rearranged

/-- If the roots could be walked before, they can be walked now. -/
theorem isUsable (h : s.Rearranged t roots roots') (husable : s.IsUsable t roots) :
    s.IsUsable t roots' := by
  induction h with
  | permuted hperm => exact fun root hroot => husable root (hperm.mem_iff.2 hroot)
  | repeated hroot => exact List.forall_mem_cons.2 ⟨husable _ hroot, husable⟩
  | absent habsent =>
      exact List.forall_mem_cons.2
        ⟨fun hpresent => absurd (habsent.symm.trans hpresent) Bool.false_ne_true, husable⟩
  | respelled hroot hcomponents hsame =>
      refine List.forall_mem_cons.2 ⟨fun hpresent => ?_, husable⟩
      have hpresent' := hsame.symm.has hpresent
      obtain ⟨rules, hrules⟩ := husable _ hroot hpresent'
      obtain ⟨hopen, hexclude⟩ := rulesAt_eq_ok_iff.1 hrules
      obtain ⟨rules', hexclude'⟩ := exists_excludeRules hexclude _
      exact ⟨rules', rulesAt_eq_ok_iff.2
        ⟨closedRoot?_eq_none_congr hcomponents.symm hpresent' hpresent hopen, hexclude'⟩⟩
  | trans _ _ ih ih' => exact ih' (ih husable)

/-- The roots yield the same components as before. -/
theorem yields_iff (h : s.Rearranged t roots roots') (c : List Component) :
    (∃ root ∈ roots, ∃ p, s.Yields t root p ∧ p.components = c) ↔
      ∃ root ∈ roots', ∃ p, s.Yields t root p ∧ p.components = c := by
  induction h with
  | permuted hperm => simp only [hperm.mem_iff]
  | repeated hroot =>
      simp only [List.mem_cons, exists_eq_or_imp]
      exact ⟨Or.inr, fun h => h.elim (fun hp => ⟨_, hroot, hp⟩) id⟩
  | absent habsent =>
      simp only [List.mem_cons, exists_eq_or_imp, not_yields_of_absent habsent, false_and,
        exists_false, false_or]
  | respelled hroot _ hsame =>
      simp only [List.mem_cons, exists_eq_or_imp]
      refine ⟨Or.inr, fun h => h.elim (fun hp => ?_) id⟩
      obtain ⟨p', hp', hc⟩ := hp
      obtain ⟨p, hp, hcomponents⟩ := SameEntries.yields hsame.symm hp'
      exact ⟨_, hroot, p, hp, hcomponents.trans hc⟩
  | trans _ _ ih ih' => exact ih.trans ih'

end Rearranged

/-- Rearranging the roots changes nothing but how files are spelled. -/
theorem findFiles_rearranged {located : LocatedFiles} (h : s.findFiles t roots = .ok located)
    (hroots : s.Rearranged t roots roots') :
    ∃ located', s.findFiles t roots' = .ok located' ∧
      located'.files.map Path.components = located.files.map Path.components := by
  obtain ⟨found, hfound, -⟩ := findFiles_gathers (hroots.isUsable (isUsable_of_findFiles h))
  refine ⟨_, hfound, components_eq (findFiles_ascending hfound) (findFiles_ascending h) fun c => ?_⟩
  rw [mem_components_iff hfound, mem_components_iff h, hroots.yields_iff]

/-! ## The union -/

/-- What is located is the union of what the roots give. -/
structure SortedUnion (s : ScanSettings) (t : Tree) (roots : List Path) (located : LocatedFiles) :
    Prop where
  /-- The files stand in strictly ascending order of their components. -/
  ascending : located.files.Pairwise fun a b => a.components < b.components
  /-- Every file is yielded by a root that exists. -/
  sound : ∀ p ∈ located.files, ∃ root ∈ roots, t.has root = true ∧ s.Yields t root p
  /-- Every file that a root yields is among them, in some spelling. -/
  complete : ∀ root ∈ roots, ∀ p, s.Yields t root p →
    ∃ q ∈ located.files, q.components = p.components
  /-- The roots that do not exist are noted, in their order. -/
  skipped : located.skippedRoots = roots.filter fun root => !t.has root
  /-- Every file has the name of a test file. -/
  named : ∀ p ∈ located.files, ∃ name, p.fileName? = some name ∧
    isTestFileName s.effectiveFileStart s.effectiveExtensions name = true
  /-- However the roots are rearranged, the same files are located, up to their spelling, unless
  the search is cancelled. -/
  rearranged : ∀ roots', s.Rearranged t roots roots' → ∃ located',
    located'.files.map Path.components = located.files.map Path.components ∧
      s.findFiles t roots' = .ok located' ∧
      ∀ seen, s.locate t seen roots' = .error .cancelled ∨
        s.locate t seen roots' = .ok located'

/-- A search that succeeds locates the union of what its roots give. -/
theorem locate_sortedUnion {seen : Nat → Bool} {located : LocatedFiles}
    (h : s.locate t seen roots = .ok located) : s.SortedUnion t roots located := by
  have hfind := findFiles_of_locate h
  obtain ⟨found, hfound, hgathers⟩ := findFiles_gathers (isUsable_of_findFiles hfind)
  obtain rfl := Except.ok.inj (hfind.symm.trans hfound)
  have hsound : ∀ p ∈ found.arranged.files, ∃ root ∈ roots, s.Yields t root p :=
    fun p hp => (hgathers.files p).1 (mem_of_mem_inOrder hp)
  constructor
  case ascending => exact inOrder_ascending found.files
  case sound =>
    intro p hp
    obtain ⟨root, hroot, hyields⟩ := hsound p hp
    refine ⟨root, hroot, ?_, hyields⟩
    by_contra habsent
    exact not_yields_of_absent (Bool.eq_false_iff.2 habsent) p hyields
  case complete =>
    intro root hroot p hyields
    exact exists_mem_inOrder ((hgathers.files p).2 ⟨root, hroot, hyields⟩)
  case skipped => exact hgathers.skipped
  case named =>
    intro p hp
    obtain ⟨root, -, hyields⟩ := hsound p hp
    exact exists_name_of_qualifies hyields.2
  case rearranged =>
    intro roots' hroots
    obtain ⟨located', hlocated', hcomponents⟩ := findFiles_rearranged hfind hroots
    refine ⟨located', hcomponents, hlocated', fun seen' => ?_⟩
    rw [← hlocated']
    exact locate_disturbed seen' roots'

/-- A tree with one test file. -/
def singleTree : Tree :=
  ⟨.directory [("tests", .directory [("test_a.py", .file [])])], ⟨"/"⟩⟩

/-- Settings that pass over ignore files. -/
def plainSettings : ScanSettings := { respectIgnoreFiles := some false }

/-- The file is located once, whichever spelling of its root comes first. -/
theorem locate_sortedUnion_respelled :
    plainSettings.locate singleTree (fun _ => false) [⟨"/tests"⟩] =
        .ok ⟨[⟨"/tests/test_a.py"⟩], [], []⟩ ∧
      ∃ located, plainSettings.findFiles singleTree [⟨"/missing"⟩, ⟨"/tests//."⟩, ⟨"/tests"⟩] =
          .ok located ∧
        located.files.map Path.components = [[.root, .name "tests", .name "test_a.py"]] := by
  have hroot : singleTree.has ⟨"/tests"⟩ = true := by decide +kernel
  have hmissing : singleTree.has ⟨"/missing"⟩ = false := by decide +kernel
  have hrules : plainSettings.rulesAt singleTree ⟨"/tests"⟩ = .ok ⟨⟨"/tests"⟩, []⟩ := rfl
  have hwalk : singleTree.walk plainSettings.ignoreFilesUse ⟨⟨"/tests"⟩, []⟩ ⟨"/tests"⟩ =
      [.entry ⟨"/tests"⟩ false, .entry ⟨"/tests/test_a.py"⟩ true] := by decide +kernel
  have hqualifies : plainSettings.qualifies ⟨"/tests/test_a.py"⟩ = true := by decide +kernel
  have hsame : plainSettings.SameEntries singleTree ⟨"/tests"⟩ ⟨"/tests//."⟩ := by
    unfold SameEntries
    decide +kernel
  have hlocate : plainSettings.locate singleTree (fun _ => false) [⟨"/tests"⟩] =
      .ok ⟨[⟨"/tests/test_a.py"⟩], [], []⟩ := by
    rw [← findFiles, findFiles_walked hroot hrules, hwalk]
    simp [ofEvents, ofEvent, hqualifies, LocatedFiles.arranged, inOrder, dropRepeated]
  have hrespelled : plainSettings.Rearranged singleTree [⟨"/tests"⟩] [⟨"/tests//."⟩, ⟨"/tests"⟩] :=
    .respelled (.head _) (by decide +kernel) hsame
  obtain ⟨located, hcomponents, hlocated, -⟩ :=
    (locate_sortedUnion hlocate).rearranged _ (hrespelled.trans (.absent hmissing))
  have hfile : Path.components ⟨"/tests/test_a.py"⟩ =
      [.root, .name "tests", .name "test_a.py"] := by decide +kernel
  exact ⟨hlocate, located, hlocated, by rw [hcomponents, List.map_singleton, hfile]⟩

end TestCensus.ScanSettings
