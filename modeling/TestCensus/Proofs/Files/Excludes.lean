import TestCensus.Proofs.Files.Union

/-!
# Excludes only exclude

An entry of an exclude list is read as the line of an ignore file that starts with an
exclamation mark.  Whatever the entry starts with, that mark stands before it, so the line is
never a comment, never empty, and never a rule that ignores (`excludeRule_kept`).  An exclude
list skips what one of its rules is about, and their verdicts make no difference.

So a list with more entries skips more (`WalkRules.skips_mono`).  A walk that skips more comes
across a part of the same events (`Node.walk_sublist`), since what a directory adds to a walk
depends on the exclude list through nothing else.  A search that excludes more locates fewer
files (`locate_excludes`).
-/

namespace TestCensus.Files

open TestCensus.Text

/-! ## Entries -/

/-- A line does not lose what stands at its beginning and is not blank. -/
theorem withoutEndBlanks_cons {c : Char} (h : isBlank c = false) (cs : List Char) :
    ∃ rest, withoutEndBlanks (c :: cs) = c :: rest := by
  unfold withoutEndBlanks
  split
  · exact ⟨cs, rfl⟩
  · rw [trimEnd, List.reverse_cons, List.dropWhile_append]
    split
    · refine ⟨[], ?_⟩
      rw [List.dropWhile_cons_of_neg (by simp [h])]
      rfl
    · exact ⟨_, by rw [List.reverse_append]; rfl⟩

theorem readRuleGlob_verdict {brackets : ClassReading} {rule cs : List Char}
    {verdict : IgnoreVerdict} {bound : Bool} {r : IgnoreRule}
    (h : readRuleGlob brackets rule verdict bound cs = .ok r) : r.verdict = verdict := by
  unfold readRuleGlob at h
  dsimp only at h
  split at h
  · cases h
    rfl
  · cases h

/-- A line with an exclamation mark at its beginning is one rule, and it is marked. -/
theorem readRule_kept {brackets : ClassReading} {line rest : List Char} {rule? : Option IgnoreRule}
    (hline : withoutEndBlanks line = '!' :: rest) (h : readRule brackets line = .ok rule?) :
    ∃ rule, rule? = some rule ∧ rule.verdict = .kept := by
  have hmapped : ∀ {x : Except GlobProblem IgnoreRule},
      (∀ r, x = .ok r → r.verdict = .kept) → x.map some = .ok rule? →
        ∃ rule, rule? = some rule ∧ rule.verdict = .kept := by
    intro x hx hsome
    cases x with
    | error e => cases hsome
    | ok r =>
        cases hsome
        exact ⟨r, rfl, hx r rfl⟩
  unfold readRule at h
  dsimp only at h
  rw [hline] at h
  split at h
  case h_5 body heq =>
      -- A slash behind the mark binds the rule, but leaves it marked.
      refine hmapped (fun r hr => ?_) h
      split at hr
      · exact readRuleGlob_verdict hr
      · exact readRuleGlob_verdict hr
  case h_6 hother => exact absurd rfl (hother rest)
  all_goals
    rename_i heq
    simp at heq

/-- An entry of an exclude list is one rule, and it is marked, whatever the entry is. -/
theorem excludeRule_kept {entry : String} {rule? : Option IgnoreRule}
    (h : excludeRule entry = .ok rule?) : ∃ rule, rule? = some rule ∧ rule.verdict = .kept := by
  obtain ⟨rest, hline⟩ := withoutEndBlanks_cons (c := '!') (by decide) entry.toList
  unfold excludeRule at h
  split at h
  · rename_i rule hread
    cases h
    exact readRule_kept hline hread
  · cases h

/-- A pass over a list succeeds at all of its elements, and gives what they give. -/
theorem mapM_eq_ok {α β ε : Type} {f : α → Except ε β} {xs : List α} {ys : List β}
    (h : xs.mapM f = .ok ys) :
    (∀ x ∈ xs, ∃ y, f x = .ok y) ∧ ∀ y, y ∈ ys ↔ ∃ x ∈ xs, f x = .ok y := by
  induction xs generalizing ys with
  | nil =>
      cases h
      simp
  | cons x rest ih =>
      rw [List.mapM_cons] at h
      cases hx : f x with
      | error e =>
          rw [hx] at h
          cases h
      | ok first =>
          rw [hx] at h
          cases hrest : rest.mapM f with
          | error e =>
              rw [hrest] at h
              cases h
          | ok others =>
              rw [hrest] at h
              cases h
              obtain ⟨hall, hmem⟩ := ih hrest
              refine ⟨List.forall_mem_cons.2 ⟨⟨first, hx⟩, hall⟩, fun y => ?_⟩
              simp only [List.mem_cons, hmem, exists_eq_or_imp, hx, Except.ok.injEq,
                @eq_comm _ y first]

/-- What is read of an exclude list. -/
structure ReadExcludes (root : Path) (exclude : List String) (rules : IgnoreRules) : Prop where
  /-- The rules are for what is below the root. -/
  base : rules.base = root
  /-- Every entry can be used. -/
  usable : ∀ entry ∈ exclude, ∃ rule, excludeRule entry = .ok rule
  /-- The rules are those of the entries. -/
  mem_rules : ∀ rule, rule ∈ rules.rules ↔ ∃ entry ∈ exclude, excludeRule entry = .ok (some rule)

theorem ReadExcludes.of_eq_ok {root : Path} {exclude : List String} {rules : IgnoreRules}
    (h : excludeRules root exclude = .ok rules) : ReadExcludes root exclude rules := by
  unfold excludeRules at h
  cases hfound : exclude.mapM excludeRule with
  | error f =>
      rw [hfound] at h
      cases h
  | ok found =>
      rw [hfound] at h
      cases h
      obtain ⟨husable, hmem⟩ := mapM_eq_ok hfound
      exact ⟨rfl, husable, fun rule => by simp [← hmem]⟩

/-- A list can be used if all of its entries can. -/
theorem exists_readExcludes {exclude : List String} (root : Path)
    (h : ∀ entry ∈ exclude, ∃ rule, excludeRule entry = .ok rule) :
    ∃ rules, excludeRules root exclude = .ok rules := by
  cases hrules : excludeRules root exclude with
  | ok rules => exact ⟨rules, rfl⟩
  | error f =>
      obtain ⟨entry, hentry, hfails⟩ :=
        ScanSettings.exists_of_mapM_eq_error (ScanSettings.error_of_map_eq_error hrules)
      obtain ⟨rule, hrule⟩ := h entry hentry
      rw [hrule] at hfails
      cases hfails

/-! ## Skipping -/

/-- The rules say something of all that the others say something of. -/
def IgnoreRules.Covers (rules' rules : IgnoreRules) : Prop :=
  ∀ path isDirectory, (rules.verdict? path isDirectory).isSome = true →
    (rules'.verdict? path isDirectory).isSome = true

theorem IgnoreRules.isSome_verdict? (rules : IgnoreRules) (path : List Char) (isDirectory : Bool) :
    (rules.verdict? path isDirectory).isSome =
      rules.rules.any (·.applies (keptBytes (String.ofList (relative rules.base path))) isDirectory) :=
    by
  unfold verdict?
  dsimp only
  rw [Option.isSome_map, List.isSome_find?, List.any_reverse]

/-- More rules of a directory say something of more. -/
theorem IgnoreRules.covers_of_subset {rules rules' : IgnoreRules} (hbase : rules.base = rules'.base)
    (h : rules.rules ⊆ rules'.rules) : rules'.Covers rules := by
  intro path isDirectory hsome
  rw [isSome_verdict?, List.any_eq_true] at hsome ⊢
  obtain ⟨rule, hrule, happlies⟩ := hsome
  exact ⟨rule, h hrule, hbase ▸ happlies⟩

namespace WalkRules

/-- What a walk knows, with other rules of the exclude list. -/
def excluding (w : WalkRules) (rules : IgnoreRules) : WalkRules := { w with excluded := rules }

variable {rules rules' : IgnoreRules}

/-- What is skipped for an exclude list is skipped for one that covers it. -/
theorem skips_mono (h : rules'.Covers rules) (w : WalkRules) {path : Path} {name : String}
    {isDirectory : Bool} (hskips : (w.excluding rules).skips path name isDirectory = true) :
    (w.excluding rules').skips path name isDirectory = true := by
  unfold skips at hskips ⊢
  dsimp only at hskips ⊢
  split at hskips
  · rename_i hsome
    exact if_pos (h _ _ hsome)
  · split
    · rfl
    · exact hskips

theorem enter_excluding (w : WalkRules) (t : Tree) (use : IgnoreFilesUse) (directory : Path) :
    (w.excluding rules).enter t use directory = (w.enter t use directory).excluding rules := by
  cases use with
  | respected => rfl
  | passedOver => rfl

end WalkRules

/-! ## Walks -/

section Walks

variable {rules rules' : IgnoreRules} {t : Tree} {use : IgnoreFilesUse}

mutual

/-- A walk that excludes more comes across a part of the same events. -/
theorem Node.walk_sublist (h : rules'.Covers rules) (w : WalkRules) (path : Path) (name : String) :
    ∀ node : Node, (node.walk t use (w.excluding rules') path name).Sublist
      (node.walk t use (w.excluding rules) path name)
  | .file _ => by
      rw [Node.walk, Node.walk]
      split
      · exact List.nil_sublist _
      · rename_i hkept
        rw [if_neg fun hskips => hkept (WalkRules.skips_mono h w hskips)]
  | .link _ => by
      rw [Node.walk, Node.walk]
      split
      · exact List.nil_sublist _
      · rename_i hkept
        rw [if_neg fun hskips => hkept (WalkRules.skips_mono h w hskips)]
  | .closed _ => by
      rw [Node.walk, Node.walk]
      split
      · exact List.nil_sublist _
      · rename_i hkept
        rw [if_neg fun hskips => hkept (WalkRules.skips_mono h w hskips)]
  | .directory es => by
      rw [Node.walk, Node.walk]
      split
      · exact List.nil_sublist _
      · rename_i hkept
        rw [if_neg fun hskips => hkept (WalkRules.skips_mono h w hskips),
          WalkRules.enter_excluding, WalkRules.enter_excluding]
        exact (walkEntries_sublist h _ path es).cons_cons _

theorem walkEntries_sublist (h : rules'.Covers rules) (w : WalkRules) (directory : Path) :
    ∀ es : List (String × Node),
      (walkEntries t use (w.excluding rules') directory es).Sublist
        (walkEntries t use (w.excluding rules) directory es)
  | [] => by
      rw [walkEntries, walkEntries]
  | (name, node) :: rest => by
      rw [walkEntries, walkEntries]
      exact (Node.walk_sublist h w (directory.join name) name node).append
        (walkEntries_sublist h w directory rest)

end

end Walks

/-- A walk from a root that excludes more comes across a part of the same events. -/
theorem Tree.walk_sublist {rules rules' : IgnoreRules} (h : rules'.Covers rules) (t : Tree)
    (use : IgnoreFilesUse) (root : Path) :
    (t.walk use rules' root).Sublist (t.walk use rules root) := by
  unfold walk
  split
  · exact List.Sublist.refl _
  · split
    · rename_i es _
      have hentries : ∀ w : WalkRules,
          (walkEntries t use ((w.excluding rules').enter t use root) root es).Sublist
            (walkEntries t use ((w.excluding rules).enter t use root) root es) := by
        intro w
        rw [WalkRules.enter_excluding, WalkRules.enter_excluding]
        exact walkEntries_sublist h _ root es
      exact (List.Sublist.refl _).append
        ((hentries ⟨rules, [], List.map t.directoryRules _, ⟨_⟩⟩).cons_cons _)
    · exact List.Sublist.refl _
    · exact List.Sublist.refl _

end TestCensus.Files

namespace TestCensus.ScanSettings

open TestCensus.Files

/-! ## Searches -/

variable {s : ScanSettings} {t : Tree} {roots : List Path} {root : Path}
  {exclude exclude' : List String}

/-- The settings with another exclude list. -/
def excluding (s : ScanSettings) (exclude : List String) : ScanSettings := { s with exclude }

@[simp] theorem qualifies_excluding (p : Path) :
    (s.excluding exclude).qualifies p = s.qualifies p := rfl

/-- A list covers what a part of its entries covers. -/
theorem covers_of_subset {rules rules' : IgnoreRules} (hmore : ∀ entry ∈ exclude, entry ∈ exclude')
    (h : ReadExcludes root exclude rules) (h' : ReadExcludes root exclude' rules') :
    rules'.Covers rules := by
  refine IgnoreRules.covers_of_subset (h.base.trans h'.base.symm) fun rule hrule => ?_
  obtain ⟨entry, hentry, hread⟩ := (h.mem_rules rule).1 hrule
  exact (h'.mem_rules rule).2 ⟨entry, hmore entry hentry, hread⟩

/-- A list can be used wherever a list with more entries can. -/
theorem IsUsable.of_subset (hmore : ∀ entry ∈ exclude, entry ∈ exclude')
    (h : (s.excluding exclude').IsUsable t roots) : (s.excluding exclude).IsUsable t roots := by
  intro root hroot hpresent
  obtain ⟨rules', hrules'⟩ := h root hroot hpresent
  obtain ⟨hopen, hread'⟩ := rulesAt_eq_ok_iff.1 hrules'
  obtain ⟨rules, hread⟩ := exists_readExcludes root fun entry hentry =>
    (ReadExcludes.of_eq_ok hread').usable entry (hmore entry hentry)
  exact ⟨rules, rulesAt_eq_ok_iff.2 ⟨hopen, hread⟩⟩

/-- The walk from a root on its own comes across a part of the events if more is excluded. -/
theorem ownWalk_sublist (hmore : ∀ entry ∈ exclude, entry ∈ exclude')
    (h : (s.excluding exclude').IsUsable t roots) (hroot : root ∈ roots) :
    ((s.excluding exclude').ownWalk t root).Sublist ((s.excluding exclude).ownWalk t root) := by
  cases hpresent : t.has root with
  | false =>
      rw [ownWalk, Tree.walk_absent hpresent]
      exact List.nil_sublist _
  | true =>
      obtain ⟨rules', hrules'⟩ := h root hroot hpresent
      obtain ⟨rules, hrules⟩ := IsUsable.of_subset hmore h root hroot hpresent
      have hread := (rulesAt_eq_ok_iff.1 hrules).2
      have hread' := (rulesAt_eq_ok_iff.1 hrules').2
      rw [ownWalk, ownWalk, hread, hread']
      exact Tree.walk_sublist (covers_of_subset hmore (ReadExcludes.of_eq_ok hread)
        (ReadExcludes.of_eq_ok hread')) t _ root

/-- A search that excludes more succeeds no more often, and locates a part of the files. -/
theorem exists_findFiles_of_subset {located' : LocatedFiles}
    (hmore : ∀ entry ∈ exclude, entry ∈ exclude')
    (h' : (s.excluding exclude').findFiles t roots = .ok located') :
    ∃ located, (s.excluding exclude).findFiles t roots = .ok located ∧
      located'.files.map Path.components ⊆ located.files.map Path.components := by
  have husable' := isUsable_of_findFiles h'
  obtain ⟨found, hfound, -⟩ := findFiles_gathers (IsUsable.of_subset hmore husable')
  refine ⟨_, hfound, fun c hc => ?_⟩
  obtain ⟨root, hroot, p, ⟨hentry, hqualifies⟩, hcomponents⟩ := (mem_components_iff h' c).1 hc
  exact (mem_components_iff hfound c).2 ⟨root, hroot, p,
    ⟨(ownWalk_sublist hmore husable' hroot).subset hentry, hqualifies⟩, hcomponents⟩

/-- The walk from a root on its own is the one that a search makes. -/
theorem ownWalk_eq {rules : IgnoreRules} (h : s.rulesAt t root = .ok rules) :
    s.ownWalk t root = t.walk s.ignoreFilesUse rules root := by
  rw [ownWalk, (rulesAt_eq_ok_iff.1 h).2]
  rfl

theorem locateFrom_ownWalk (husable : ∀ entry ∈ s.exclude, ∃ rule, excludeRule entry = .ok rule)
    (h : ∀ root ∈ roots, t.has root = true ∧ closedRoot? t root = none) :
    s.locateFrom t (fun _ => false) 0 roots =
      .ok (s.ofEvents (roots.flatMap (s.ownWalk t))) := by
  induction roots with
  | nil => rfl
  | cons root roots ih =>
      obtain ⟨⟨hroot, hopen⟩, hroots⟩ := List.forall_mem_cons.1 h
      obtain ⟨rules, hread⟩ := exists_readExcludes root husable
      have hrules := rulesAt_eq_ok_iff.2 ⟨hopen, hread⟩
      rw [locateFrom_walked hroot hrules, ih hroots, List.flatMap_cons, ofEvents_append,
        ownWalk_eq hrules]
      rfl

/-- What is located below roots that exist and are not closed, if the exclude list can be used. -/
theorem findFiles_ownWalk (husable : ∀ entry ∈ s.exclude, ∃ rule, excludeRule entry = .ok rule)
    (h : ∀ root ∈ roots, t.has root = true ∧ closedRoot? t root = none) :
    s.findFiles t roots = .ok (s.ofEvents (roots.flatMap (s.ownWalk t))).arranged := by
  rw [findFiles, locate_eq, locateFrom_ownWalk husable h]
  rfl

/-- Files that the walks come across in order are located. -/
theorem findFiles_of_ordered {files : List Path}
    (husable : ∀ entry ∈ s.exclude, ∃ rule, excludeRule entry = .ok rule)
    (h : ∀ root ∈ roots, t.has root = true ∧ closedRoot? t root = none)
    (hfiles : (s.ofEvents (roots.flatMap (s.ownWalk t))).files = files)
    (hordered : files.Pairwise fun a b => a.comesBefore b = true)
    (hdistinct : dropRepeated files = files) :
    ∃ located, s.findFiles t roots = .ok located ∧ located.files = files := by
  refine ⟨_, findFiles_ownWalk husable h, ?_⟩
  rw [LocatedFiles.arranged, inOrder, hfiles, List.mergeSort_of_pairwise hordered, hdistinct]

theorem locateFrom_congr_excludes (hmore : ∀ entry ∈ exclude, entry ∈ exclude')
    (hless : ∀ entry ∈ exclude', entry ∈ exclude)
    (husable : (s.excluding exclude').IsUsable t roots) :
    (s.excluding exclude').locateFrom t (fun _ => false) 0 roots =
      (s.excluding exclude).locateFrom t (fun _ => false) 0 roots := by
  induction roots with
  | nil => rfl
  | cons root roots ih =>
      have hlater := ih fun r hr => husable r (.tail _ hr)
      cases hpresent : t.has root with
      | false => rw [locateFrom_absent hpresent, locateFrom_absent hpresent, hlater]
      | true =>
          have husable' := IsUsable.of_subset hmore husable
          obtain ⟨rules', hrules'⟩ := husable root (.head _) hpresent
          obtain ⟨rules, hrules⟩ := husable' root (.head _) hpresent
          have hwalk := (ownWalk_sublist hmore husable (.head _)).antisymm
            (ownWalk_sublist hless husable' (.head _))
          rw [ownWalk_eq hrules, ownWalk_eq hrules'] at hwalk
          rw [locateFrom_walked hpresent hrules, locateFrom_walked hpresent hrules', hlater, hwalk]
          rfl

/-- A search does not depend on the order of the entries, or on how often they are listed. -/
theorem findFiles_congr_excludes (hmore : ∀ entry ∈ exclude, entry ∈ exclude')
    (hless : ∀ entry ∈ exclude', entry ∈ exclude)
    (husable : (s.excluding exclude').IsUsable t roots) :
    (s.excluding exclude').findFiles t roots = (s.excluding exclude).findFiles t roots := by
  rw [findFiles, findFiles, locate_eq, locate_eq, locateFrom_congr_excludes hmore hless husable]

/-- Entries of an exclude list do nothing but exclude. -/
structure OnlyExcludes (s : ScanSettings) (t : Tree) (roots : List Path)
    (exclude exclude' : List String) (located located' : LocatedFiles) : Prop where
  /-- With more entries the walk from a root comes across a part of what it came across. -/
  walks : ∀ root ∈ roots,
    ((s.excluding exclude').ownWalk t root).Sublist ((s.excluding exclude).ownWalk t root)
  /-- With more entries a part of the files is located. -/
  subset : ∀ p ∈ located'.files, ∃ q ∈ located.files, q.components = p.components
  /-- With the same entries the same is located. -/
  unordered : (∀ entry ∈ exclude', entry ∈ exclude) → located' = located
  /-- What is located is located with each of the entries alone: none of them brings back what
  another one removes. -/
  alone : ∀ entry ∈ exclude', ∃ single, (s.excluding [entry]).findFiles t roots = .ok single ∧
    ∀ p ∈ located'.files, ∃ q ∈ single.files, q.components = p.components
  /-- What is located is located without any entries: none of them brings back what an ignore
  file removes. -/
  unlisted : ∃ all, (s.excluding []).findFiles t roots = .ok all ∧
    ∀ p ∈ located'.files, ∃ q ∈ all.files, q.components = p.components
  /-- Whatever an entry starts with, it is one rule, and a marked one. -/
  marked : ∀ entry rule?, excludeRule entry = .ok rule? →
    ∃ rule, rule? = some rule ∧ rule.verdict = .kept

/-- Of two searches that succeed, one of which has all entries of the exclude list of the other
one, this one only excludes more. -/
theorem locate_excludes {seen seen' : Nat → Bool} {located located' : LocatedFiles}
    (hmore : ∀ entry ∈ exclude, entry ∈ exclude')
    (h : (s.excluding exclude).locate t seen roots = .ok located)
    (h' : (s.excluding exclude').locate t seen' roots = .ok located') :
    s.OnlyExcludes t roots exclude exclude' located located' := by
  have hfind := findFiles_of_locate h
  have hfind' := findFiles_of_locate h'
  have husable' := isUsable_of_findFiles hfind'
  have hpart : ∀ {others : List String}, (∀ entry ∈ others, entry ∈ exclude') →
      ∃ found, (s.excluding others).findFiles t roots = .ok found ∧
        ∀ p ∈ located'.files, ∃ q ∈ found.files, q.components = p.components := by
    intro others hothers
    obtain ⟨found, hfound, hsubset⟩ := exists_findFiles_of_subset hothers hfind'
    exact ⟨found, hfound, fun p hp => List.mem_map.1 (hsubset (List.mem_map_of_mem hp))⟩
  constructor
  case walks => exact fun root hroot => ownWalk_sublist hmore husable' hroot
  case subset =>
    obtain ⟨found, hfound, hsubset⟩ := hpart hmore
    obtain rfl := Except.ok.inj (hfound.symm.trans hfind)
    exact hsubset
  case unordered =>
    intro hless
    rw [findFiles_congr_excludes hmore hless husable', hfind] at hfind'
    exact (Except.ok.inj hfind').symm
  case alone => exact fun entry hentry => hpart fun e he => List.mem_singleton.1 he ▸ hentry
  case unlisted => exact hpart fun e he => absurd he List.not_mem_nil
  case marked => exact fun _ _ => excludeRule_kept

/-- A tree with four test files, one of which an ignore file is about. -/
def ignoringTree : Tree :=
  ⟨.directory [("tests", .directory
    [(".ignore", .file [0x74, 0x65, 0x73, 0x74, 0x5f, 0x63, 0x2e, 0x70, 0x79]),
      ("test_a.py", .file []), ("test_b.py", .file []), ("test_c.py", .file []),
      ("test_d.py", .file [])])], ⟨"/"⟩⟩

/-- An exclude list with entries that would stand for something else in an ignore file. -/
def markedEntries : List String := ["!test_c.py", "!test_b.py", "#", "test_d.py", "test_b.py"]

/-- An entry with an exclamation mark does not bring back the file that is ignored, and not the
one that another entry removes. -/
theorem locate_excludes_marked :
    (excluding {} ["test_b.py"]).locate ignoringTree (fun _ => false) [⟨"/tests"⟩] =
        .ok ⟨[⟨"/tests/test_a.py"⟩, ⟨"/tests/test_d.py"⟩], [], []⟩ ∧
      (excluding {} markedEntries).locate ignoringTree (fun _ => false) [⟨"/tests"⟩] =
        .ok ⟨[⟨"/tests/test_a.py"⟩], [], []⟩ ∧
      OnlyExcludes {} ignoringTree [⟨"/tests"⟩] ["test_b.py"] markedEntries
        ⟨[⟨"/tests/test_a.py"⟩, ⟨"/tests/test_d.py"⟩], [], []⟩
        ⟨[⟨"/tests/test_a.py"⟩], [], []⟩ := by
  have hroots : ∀ root ∈ [Files.Path.mk "/tests"],
      ignoringTree.has root = true ∧ closedRoot? ignoringTree root = none := by
    decide +kernel
  have husable : ∀ entry ∈ markedEntries, ∃ rule, excludeRule entry = .ok rule := by
    have hread : (markedEntries.all fun entry => (excludeRule entry).toOption.isSome) = true := by
      decide +kernel
    intro entry hentry
    cases hrule : excludeRule entry with
    | ok rule => exact ⟨rule, rfl⟩
    | error f =>
        have hsome := List.all_eq_true.1 hread entry hentry
        rw [hrule] at hsome
        cases hsome
  have hmore : ∀ entry ∈ ["test_b.py"], entry ∈ markedEntries := by decide
  have hwalk : (excluding {} ["test_b.py"]).ownWalk ignoringTree ⟨"/tests"⟩ =
      [.entry ⟨"/tests"⟩ false, .entry ⟨"/tests/test_a.py"⟩ true,
        .entry ⟨"/tests/test_d.py"⟩ true] := by decide +kernel
  have hwalk' : (excluding {} markedEntries).ownWalk ignoringTree ⟨"/tests"⟩ =
      [.entry ⟨"/tests"⟩ false, .entry ⟨"/tests/test_a.py"⟩ true] := by decide +kernel
  have hfirst : qualifies {} ⟨"/tests/test_a.py"⟩ = true := by decide +kernel
  have hlast : qualifies {} ⟨"/tests/test_d.py"⟩ = true := by decide +kernel
  have hsorted : [Files.Path.mk "/tests/test_a.py", ⟨"/tests/test_d.py"⟩].Pairwise
      (fun a b => a.comesBefore b = true) := by decide +kernel
  have hdistinct : Files.Path.same ⟨"/tests/test_a.py"⟩ ⟨"/tests/test_d.py"⟩ = false := by
    decide +kernel
  have hlocate : (excluding {} ["test_b.py"]).findFiles ignoringTree [⟨"/tests"⟩] =
      .ok ⟨[⟨"/tests/test_a.py"⟩, ⟨"/tests/test_d.py"⟩], [], []⟩ := by
    rw [findFiles_ownWalk (fun entry hentry => husable entry (hmore entry hentry)) hroots,
      List.flatMap_singleton, hwalk]
    simp [ofEvents, ofEvent, hfirst, hlast, LocatedFiles.arranged, inOrder,
      List.mergeSort_of_pairwise hsorted, dropRepeated, hdistinct]
  have hlocate' : (excluding {} markedEntries).findFiles ignoringTree [⟨"/tests"⟩] =
      .ok ⟨[⟨"/tests/test_a.py"⟩], [], []⟩ := by
    rw [findFiles_ownWalk husable hroots, List.flatMap_singleton, hwalk']
    simp [ofEvents, ofEvent, hfirst, LocatedFiles.arranged, inOrder, dropRepeated]
  exact ⟨hlocate, hlocate', locate_excludes hmore hlocate hlocate'⟩

end TestCensus.ScanSettings
