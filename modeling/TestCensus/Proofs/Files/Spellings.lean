import Mathlib.Data.List.Pairwise
import TestCensus.Proofs.Files.Following
import TestCensus.Proofs.Files.Union

/-!
# Spellings of roots

Located files are told apart by the components of their paths, so a file is located twice if two
roots lead to it by ways that are spelled differently.

A walk goes from a directory to its entries (`Node.below_of_walk`).  So it comes across places below
its root, and the way from the root is spelled by the names of the place
(`ScanSettings.Yields.below`).  If the files are the same place, then one root leads to a place
within the other one, and all depends on whether the inner root is spelled as the outer one with
the names between them (`ScanSettings.SpelledAlike`): no file is located twice exactly if all roots
that yield the same files are spelled like this (`ScanSettings.pairwise_not_sameFile_iff`).

The entries of a directory have different names, none of which is longer than the system allows
(`Tree.isProper`).
-/

namespace TestCensus.Files

/-! ## Proper trees -/

mutual

/-- The entries of all directories are proper. -/
def Node.isProper : Node → Bool
  | .directory es => isProperEntries es
  | .closed _ => true
  | .file _ => true
  | .link _ => true

/-- The entries have different names, which entries may have, and are proper themselves. -/
def isProperEntries : List (String × Node) → Bool
  | [] => true
  | (name, node) :: rest =>
      isEntryName name && (rest.lookup name).isNone && node.isProper && isProperEntries rest

end

/-- The tree is one that a file system may hold. -/
def Tree.isProper (t : Tree) : Bool := t.root.isProper

theorem isProperEntries_cons {name : String} {node : Node} {rest : List (String × Node)} :
    isProperEntries ((name, node) :: rest) = true ↔ isEntryName name = true ∧
      rest.lookup name = none ∧ node.isProper = true ∧ isProperEntries rest = true := by
  simp only [isProperEntries, Bool.and_eq_true, Option.isNone_iff_eq_none, and_assoc]

theorem isProper_of_lookup {es : List (String × Node)} (h : isProperEntries es = true)
    {name : String} {node : Node} (hnode : es.lookup name = some node) : node.isProper = true := by
  induction es with
  | nil => cases hnode
  | cons e rest ih =>
      obtain ⟨first, child⟩ := e
      obtain ⟨-, -, hchild, hrest⟩ := isProperEntries_cons.1 h
      rw [lookup_entry_cons] at hnode
      split at hnode
      · cases hnode
        exact hchild
      · exact ih hrest hnode

theorem Node.isProper_of_at? {node found : Node} {names : List String}
    (h : node.isProper = true) (hfound : node.at? names = some found) :
    found.isProper = true := by
  induction names generalizing node with
  | nil =>
      cases hfound
      exact h
  | cons name rest ih =>
      cases node with
      | file content => cases hfound
      | closed why => cases hfound
      | link target => cases hfound
      | directory es =>
          rw [at?] at hfound
          cases hchild : es.lookup name with
          | none =>
              rw [hchild] at hfound
              cases hfound
          | some child =>
              rw [hchild] at hfound
              rw [isProper] at h
              exact ih (isProper_of_lookup h hchild) hfound

theorem Tree.isProper_of_place? {t : Tree} (h : t.isProper = true) {p : Path} {place : Place}
    (hp : t.place? p = .ok place) : place.node.isProper = true :=
  Node.isProper_of_at? h (at?_of_place? hp)

namespace Tree

/-! ## Places of paths -/

variable {t : Tree} {p q dir : Path} {names names' : List String}

theorem LeadsTo.unique (h : t.LeadsTo p names) (h' : t.LeadsTo p names') : names = names' := by
  obtain ⟨place, hplace, rfl⟩ := h
  obtain ⟨place', hplace', rfl⟩ := h'
  cases hplace.symm.trans hplace'
  rfl

/-- Paths with the same components lead to the same names. -/
theorem LeadsTo.congr (hcomponents : p.components = q.components) (hp : t.LeadsTo p names)
    (hq : t.LeadsTo q names') : names = names' := by
  obtain ⟨place, hplace, rfl⟩ := hp
  obtain ⟨place', hplace', rfl⟩ := hq
  rw [place?_congr hcomponents hplace hplace']

/-- The paths lead to the same file. -/
def SameFile (t : Tree) (p q : Path) : Prop := ∃ names, t.LeadsTo p names ∧ t.LeadsTo q names

theorem SameFile.of_components (hcomponents : p.components = q.components)
    (hp : t.LeadsTo p names) (hq : t.LeadsTo q names') : t.SameFile p q :=
  ⟨names, hp, hp.congr hcomponents hq ▸ hq⟩

theorem SameFile.symm (h : t.SameFile p q) : t.SameFile q p := by
  obtain ⟨names, hp, hq⟩ := h
  exact ⟨names, hq, hp⟩

theorem SameFile.trans {r : Path} (h : t.SameFile p q) (h' : t.SameFile q r) : t.SameFile p r := by
  obtain ⟨names, hp, hq⟩ := h
  obtain ⟨names', hq', hr⟩ := h'
  exact ⟨names, hp, hq'.unique hq ▸ hr⟩

/-- The path leads to a place within the one at the names, and is spelled as the directory with the
names in between. -/
def Below (t : Tree) (dir : Path) (names : List String) (p : Path) : Prop :=
  ∃ below : List String, t.LeadsTo p (names ++ below) ∧
    p.components = dir.components ++ below.map .name

/-- What is below an entry is below the directory. -/
theorem Below.of_join {name : String} (hdir : dir.text ≠ "") (hname : isEntryName name = true)
    (h : t.Below (dir.join name) (names ++ [name]) p) : t.Below dir names p := by
  obtain ⟨below, hleads, hcomponents⟩ := h
  refine ⟨name :: below, ?_, ?_⟩
  · rwa [List.append_assoc, List.singleton_append] at hleads
  · rw [hcomponents, Path.components_join hdir hname, List.append_assoc, List.singleton_append,
      List.map_cons]

end Tree

/-! ## Walks -/

section Walks

variable {t : Tree} {use : IgnoreFilesUse} {p : Path}

theorem not_mem_closedEvents {path : Path} {why : PathError} :
    .entry p true ∉ closedEvents path why := by
  intro h
  rcases List.mem_cons.1 h with hself | h
  · cases hself
  · cases List.mem_singleton.1 h

mutual

/-- A walk from a node comes across files below its path, unless the node is a link. -/
theorem Node.below_of_walk (w : WalkRules) (path : Path) (name : String) (names : List String) :
    ∀ node : Node, node.isProper = true →
      ((∀ target, node ≠ .link target) → t.place? path = .ok ⟨names, node⟩) →
      .entry p true ∈ node.walk t use w path name → t.Below path names p
  | .file content, _, hplace, h => by
      rw [Node.walk] at h
      split at h
      · cases h
      · cases List.mem_singleton.1 h
        exact ⟨[], ⟨_, hplace (by simp), (List.append_nil names).symm⟩, (List.append_nil _).symm⟩
  | .closed why, _, _, h => by
      rw [Node.walk] at h
      split at h
      · cases h
      · exact absurd h not_mem_closedEvents
  | .link target, _, _, h => by
      rw [Node.walk] at h
      split at h
      · cases h
      · cases List.mem_singleton.1 h
  | .directory es, hproper, hplace, h => by
      rw [Node.walk] at h
      split at h
      · cases h
      · rcases List.mem_cons.1 h with hself | h
        · cases hself
        · rw [Node.isProper] at hproper
          exact below_of_walkEntries _ path names es es hproper (fun _ _ h => h)
            (hplace (by simp)) h

/-- A walk from the entries of a directory comes across files below the directory. -/
theorem below_of_walkEntries (w : WalkRules) (dir : Path) (names : List String)
    (all : List (String × Node)) :
    ∀ es : List (String × Node), isProperEntries es = true →
      (∀ name node, es.lookup name = some node → all.lookup name = some node) →
      t.place? dir = .ok ⟨names, .directory all⟩ →
      .entry p true ∈ walkEntries t use w dir es → t.Below dir names p
  | [], _, _, _, h => by
      rw [walkEntries] at h
      cases h
  | (name, node) :: rest, hproper, hall, hdir, h => by
      obtain ⟨hname, hfresh, hnode, hrest⟩ := isProperEntries_cons.1 hproper
      have hchild : all.lookup name = some node := hall _ _ (by rw [lookup_entry_cons, if_pos rfl])
      have hlater : ∀ other child, rest.lookup other = some child →
          all.lookup other = some child := by
        intro other child hother
        refine hall _ _ ?_
        rw [lookup_entry_cons, if_neg, hother]
        rintro rfl
        cases hfresh.symm.trans hother
      rw [walkEntries, List.mem_append] at h
      rcases h with h | h
      · have hentry := Node.below_of_walk w (dir.join name) name (names ++ [name]) node hnode
          (Tree.place?_join hdir hname hchild) h
        exact hentry.of_join (Tree.place?_eq_ok_iff.1 hdir).1 hname
      · exact below_of_walkEntries w dir names all rest hrest hlater hdir h

end

/-- A walk from a root comes across files below the root. -/
theorem Tree.below_of_walk (hproper : t.isProper = true) {excluded : IgnoreRules} {root : Path}
    (h : .entry p true ∈ t.walk use excluded root) :
    ∃ names, t.LeadsTo root names ∧ t.Below root names p := by
  unfold walk at h
  split at h
  · cases h
  · rename_i place hplace
    refine ⟨place.names, ⟨place, hplace, rfl⟩, ?_⟩
    split at h
    · rename_i es hnode
      have hdir : t.place? root = .ok ⟨place.names, .directory es⟩ := by rw [hplace, ← hnode]
      have hentries := isProper_of_place? hproper hdir
      rw [Node.isProper] at hentries
      have hproblems : ∀ messages : List String, .entry p true ∉
          (if messages.isEmpty then [] else [WalkEvent.problem ("\n".intercalate messages)]) := by
        intro messages
        split
        · exact List.not_mem_nil
        · exact fun hmem => by cases List.mem_singleton.1 hmem
      rcases List.mem_append.1 h with hproblem | h
      · exact absurd hproblem (hproblems _)
      · rcases List.mem_cons.1 h with hself | h
        · cases hself
        · exact below_of_walkEntries _ root place.names es es hentries (fun _ _ h => h) hdir h
    · exact absurd h not_mem_closedEvents
    · cases List.mem_singleton.1 h
      exact ⟨[], ⟨place, hplace, (List.append_nil _).symm⟩, (List.append_nil _).symm⟩

end Walks

end TestCensus.Files

namespace TestCensus.ScanSettings

open TestCensus.Files

variable {s : ScanSettings} {t : Tree} {roots : List Path} {root root' p p' : Path}

/-! ## Located files -/

/-- A root yields files below it. -/
theorem Yields.below (hproper : t.isProper = true) (h : s.Yields t root p) :
    ∃ names, t.LeadsTo root names ∧ t.Below root names p :=
  Tree.below_of_walk hproper h.1

/-- The components of a file tell its place from that of the root. -/
theorem Yields.leadsTo (hproper : t.isProper = true) (h : s.Yields t root p)
    {names below : List String} (hroot : t.LeadsTo root names)
    (hcomponents : p.components = root.components ++ below.map .name) :
    t.LeadsTo p (names ++ below) := by
  obtain ⟨names', hroot', below', hleads, hcomponents'⟩ := h.below hproper
  have hbelow : below' = below := List.map_injective_iff.2 (fun _ _ => Component.name.inj)
    (List.append_cancel_left (hcomponents'.symm.trans hcomponents))
  rwa [hroot'.unique hroot, hbelow] at hleads

/-- Roots that yield a file in common are spelled alike: the one that leads to the inner directory
is spelled as the other one with the names in between. -/
def SpelledAlike (s : ScanSettings) (t : Tree) (roots : List Path) : Prop :=
  ∀ outer ∈ roots, ∀ inner ∈ roots, ∀ (names between below : List String) (p q : Path),
    t.LeadsTo outer names → t.LeadsTo inner (names ++ between) →
    s.Yields t outer p → p.components = outer.components ++ (between ++ below).map .name →
    s.Yields t inner q → q.components = inner.components ++ below.map .name →
    inner.components = outer.components ++ between.map .name

/-- The same file has the same components wherever it is yielded, if the roots are spelled
alike. -/
theorem SpelledAlike.components_eq (hproper : t.isProper = true) (h : s.SpelledAlike t roots)
    (hroot : root ∈ roots) (hroot' : root' ∈ roots) (hp : s.Yields t root p)
    (hp' : s.Yields t root' p') (hsame : t.SameFile p p') : p.components = p'.components := by
  obtain ⟨names, hleads, below, hbelow, hcomponents⟩ := hp.below hproper
  obtain ⟨names', hleads', below', hbelow', hcomponents'⟩ := hp'.below hproper
  obtain ⟨found, hfound, hfound'⟩ := hsame
  -- One of the roots is within the other one.
  have hways : names ++ below = names' ++ below' :=
    (hbelow.unique hfound).trans (hfound'.unique hbelow')
  rcases List.append_eq_append_iff.1 hways with ⟨between, rfl, rfl⟩ | ⟨between, rfl, rfl⟩
  · have hinner := h root hroot root' hroot' names between below' p p' hleads hleads' hp
      hcomponents hp' hcomponents'
    rw [hcomponents, hcomponents', hinner, List.map_append, List.append_assoc]
  · have hinner := h root' hroot' root hroot names' between below p' p hleads' hleads hp'
      hcomponents' hp hcomponents
    rw [hcomponents, hcomponents', hinner, List.map_append, List.append_assoc]

/-- No two located files have the same components. -/
theorem findFiles_distinct {located : LocatedFiles} (h : s.findFiles t roots = .ok located) :
    located.files.Pairwise fun p q => p.components ≠ q.components := by
  refine (findFiles_ascending h).imp fun {p q} hlt heq => ?_
  rw [heq] at hlt
  exact List.lt_irrefl _ hlt

/-- Every located file is yielded by a root. -/
theorem exists_yields_of_mem {located : LocatedFiles} (h : s.findFiles t roots = .ok located)
    (hp : p ∈ located.files) : ∃ root ∈ roots, s.Yields t root p := by
  obtain ⟨found, hfound, hgathers⟩ := findFiles_gathers (isUsable_of_findFiles h)
  obtain rfl := Except.ok.inj (h.symm.trans hfound)
  exact (hgathers.files p).1 (mem_of_mem_inOrder hp)

/-- Every located file is somewhere. -/
theorem exists_leadsTo_of_mem (hproper : t.isProper = true) {located : LocatedFiles}
    (h : s.findFiles t roots = .ok located) (hp : p ∈ located.files) :
    ∃ names, t.LeadsTo p names := by
  obtain ⟨root, -, hyields⟩ := exists_yields_of_mem h hp
  obtain ⟨names, -, below, hleads, -⟩ := hyields.below hproper
  exact ⟨names ++ below, hleads⟩

/-- A file that a root yields is located at the same place. -/
theorem exists_mem_sameFile (hproper : t.isProper = true) {located : LocatedFiles}
    (h : s.findFiles t roots = .ok located) (hroot : root ∈ roots) (hp : s.Yields t root p) :
    ∃ q ∈ located.files, q.components = p.components ∧ t.SameFile q p := by
  obtain ⟨q, hq, hcomponents⟩ :=
    List.mem_map.1 ((mem_components_iff h p.components).2 ⟨root, hroot, p, hp, rfl⟩)
  obtain ⟨names, hleads⟩ := exists_leadsTo_of_mem hproper h hq
  obtain ⟨names', -, below, hleads', -⟩ := hp.below hproper
  exact ⟨q, hq, hcomponents, .of_components hcomponents hleads hleads'⟩

/-- No file is located twice exactly if the roots are spelled alike. -/
theorem pairwise_not_sameFile_iff (hproper : t.isProper = true) {located : LocatedFiles}
    (h : s.findFiles t roots = .ok located) :
    located.files.Pairwise (fun p q => ¬t.SameFile p q) ↔ s.SpelledAlike t roots := by
  constructor
  · intro hdistinct outer houter inner hinner names between below p q hleads hleads' hp hcomponents
      hq hcomponents'
    obtain ⟨p', hp', hsame, hfile⟩ := exists_mem_sameFile hproper h houter hp
    obtain ⟨q', hq', hsame', hfile'⟩ := exists_mem_sameFile hproper h hinner hq
    have hplace := hp.leadsTo hproper hleads hcomponents
    have hplace' := hq.leadsTo hproper hleads' hcomponents'
    rw [List.append_assoc] at hplace'
    have hboth : t.SameFile p' q' := (hfile.trans ⟨_, hplace, hplace'⟩).trans hfile'.symm
    have hsymm : Std.Symm fun p q => ¬t.SameFile p q :=
      ⟨fun _ _ hapart hsame => hapart hsame.symm⟩
    have heq : p' = q' := by
      by_contra hne
      exact hdistinct.forall hp' hq' hne hboth
    rw [← hsame, heq, hsame', hcomponents', List.map_append, ← List.append_assoc] at hcomponents
    exact List.append_cancel_right hcomponents
  · intro hspelled
    refine (findFiles_ascending h).imp_of_mem fun {p q} hp hq hlt hsame => ?_
    obtain ⟨root, hroot, hyields⟩ := exists_yields_of_mem h hp
    obtain ⟨root', hroot', hyields'⟩ := exists_yields_of_mem h hq
    rw [hspelled.components_eq hproper hroot hroot' hyields hyields' hsame] at hlt
    exact List.lt_irrefl _ hlt

/-! ## More roots -/

section MoreRoots

variable {roots' : List Path} {located located' : LocatedFiles}

/-- With more roots the same paths are located exactly if the number of files stays the same. -/
theorem length_eq_iff (hroots : roots ⊆ roots') (h : s.findFiles t roots = .ok located)
    (h' : s.findFiles t roots' = .ok located') :
    located'.files.length = located.files.length ↔
      located'.files.map Path.components = located.files.map Path.components := by
  constructor
  · intro hlength
    have hsubset : located.files.map Path.components ⊆ located'.files.map Path.components := by
      intro c hc
      obtain ⟨root, hroot, hyields⟩ := (mem_components_iff h c).1 hc
      exact (mem_components_iff h' c).2 ⟨root, hroots hroot, hyields⟩
    have hperm := (List.subperm_of_subset (List.pairwise_map.2 (findFiles_distinct h))
      hsubset).perm_of_length_le (by rw [List.length_map, List.length_map, hlength])
    exact components_eq (findFiles_ascending h') (findFiles_ascending h) fun c => hperm.mem_iff.symm
  · intro hcomponents
    rw [← List.length_map Path.components, hcomponents, List.length_map]

/-- With more roots the same paths are located exactly if these yield none but located ones. -/
theorem components_eq_iff (hroots : roots ⊆ roots') (h : s.findFiles t roots = .ok located)
    (h' : s.findFiles t roots' = .ok located') :
    located'.files.map Path.components = located.files.map Path.components ↔
      ∀ root ∈ roots', ∀ p, s.Yields t root p →
        ∃ q ∈ located.files, q.components = p.components := by
  constructor
  · intro hcomponents root hroot p hp
    have hmem := (mem_components_iff h' p.components).2 ⟨root, hroot, p, hp, rfl⟩
    rw [hcomponents] at hmem
    exact List.mem_map.1 hmem
  · intro hlocated
    refine components_eq (findFiles_ascending h') (findFiles_ascending h) fun c => ⟨?_, ?_⟩
    · intro hc
      obtain ⟨root, hroot, p, hp, rfl⟩ := (mem_components_iff h' c).1 hc
      exact List.mem_map.2 (hlocated root hroot p hp)
    · intro hc
      obtain ⟨root, hroot, hyields⟩ := (mem_components_iff h c).1 hc
      exact (mem_components_iff h' c).2 ⟨root, hroots hroot, hyields⟩

end MoreRoots

end TestCensus.ScanSettings
