import Mathlib.Data.List.Induction
import Mathlib.Data.List.Nodup
import TestCensus.Proofs.Discovery.Tests
import TestCensus.Proofs.Text.Joined

/-!
# First declarations win

A source may declare a test again: in one class, or in classes of one name, or in two
branches of a condition.  The key of a test is its joined class path and its name.  The
first declaration of a key is the test and stays as it is; every later one is reported
with the line of the first.

*Keys.*  No name of a class has a colon, so joined class paths are equal only if the
class paths are (`className?_inj`).  Hence comparing keys and comparing class paths
with names is the same (`sameTest_iff_key_eq`).

*Settling.*  What settling finds among the tests is what stands first among all
declarations (`find?_settle`).  This is the invariant of the loop: it is kept when a
declaration is added, and the rest is read off it.

*Lines.*  The definitions of a source stand on ascending lines, so the tests are in
order before they are sorted, and the first of two declarations has the smaller line.
-/

namespace TestCensus

open TestCensus.Source
open TestCensus.Text

/-! ## Keys -/

/-- The key of a declaration: the joined class path and the name. -/
def Declaration.key (d : Declaration) : Option String × String := (className? d.classPath, d.name)

/-- The key of a redeclaration. -/
def Redeclaration.key (r : Redeclaration) : Option String × String :=
  (className? r.classPath, r.name)

/-- The class path consists of names without colons. -/
def Plain (classPath : List String) : Prop := ∀ name ∈ classPath, ':' ∉ name.toList

/-- Joined class paths are equal only if the class paths are. -/
theorem className?_inj {p q : List String} (hp : Plain p) (hq : Plain q)
    (h : className? p = className? q) : p = q := by
  unfold className? at h
  cases p with
  | nil =>
      cases q with
      | nil => rfl
      | cons n q => cases h
  | cons m p =>
      cases q with
      | nil => cases h
      | cons n q =>
          have hjoined : "::".intercalate (m :: p) = "::".intercalate (n :: q) := by
            simpa using h
          have hchars := congrArg String.toList hjoined
          rw [String.toList_intercalate, String.toList_intercalate] at hchars
          have hplain : ∀ {r : List String}, Plain r → ∀ cs ∈ r.map String.toList, ':' ∉ cs := by
            intro r hr cs hcs
            obtain ⟨name, hname, rfl⟩ := List.mem_map.1 hcs
            exact hr name hname
          have hmap := intercalate_inj (hplain hp) (hplain hq) (by simp) (by simp) hchars
          exact (List.map_inj_right fun _ _ => String.toList_injective).1 hmap

/-- Declarations in plain class paths are of the same test if their keys are equal. -/
theorem sameTest_iff_key_eq {d e : Declaration} (hd : Plain d.classPath) (he : Plain e.classPath) :
    d.sameTest e = true ↔ d.key = e.key := by
  simp only [Declaration.sameTest, Bool.and_eq_true, beq_iff_eq, Declaration.key, Prod.mk.injEq]
  constructor
  · rintro ⟨hname, hpath⟩
    exact ⟨by rw [hpath], hname⟩
  · rintro ⟨hpath, hname⟩
    exact ⟨hname, className?_inj hd he hpath⟩

/-! ## Settling -/

theorem Declaration.sameTest_refl (d : Declaration) : d.sameTest d = true := by
  simp [Declaration.sameTest]

theorem Declaration.sameTest_trans {d e g : Declaration} (h : d.sameTest e = true)
    (h' : e.sameTest g = true) : d.sameTest g = true := by
  simp only [Declaration.sameTest, Bool.and_eq_true, beq_iff_eq] at *
  exact ⟨h.1.trans h'.1, h.2.trans h'.2⟩

theorem settle_concat (ds : List Declaration) (d : Declaration) :
    settle (ds ++ [d]) = (settle ds).add d := by
  rw [settle, List.foldl_append]
  rfl

/-- What is found among the tests is what stands first among all declarations. -/
theorem find?_settle (ds : List Declaration) (d : Declaration) :
    (settle ds).tests.find? (·.sameTest d) = ds.find? (·.sameTest d) := by
  induction ds using List.reverseRecOn generalizing d with
  | nil => rfl
  | append_singleton ds e ih =>
      rw [settle_concat, Settled.add, List.find?_append]
      split
      · rw [List.find?_append, ih]
      · rename_i first hfirst
        rw [ih] at hfirst ⊢
        -- a declaration like `e` stands earlier, so `e` is not the first one found
        cases hfound : ds.find? (·.sameTest d) with
        | some found => rfl
        | none =>
            have hne : e.sameTest d = false := by
              refine Bool.eq_false_iff.2 fun hed => ?_
              have hfirste : first.sameTest e = true := by simpa using List.find?_some hfirst
              exact List.find?_eq_none.1 hfound first (List.mem_of_find?_eq_some hfirst)
                (Declaration.sameTest_trans hfirste hed)
            simp [hne]

/-- The tests are declarations, in their order. -/
theorem settle_tests_sublist (ds : List Declaration) : (settle ds).tests.Sublist ds := by
  induction ds using List.reverseRecOn with
  | nil => exact .refl _
  | append_singleton ds e ih =>
      rw [settle_concat, Settled.add]
      split
      · exact ih.append_right [e]
      · exact ih.trans (List.sublist_append_left ds [e])

/-- No two tests are the same. -/
theorem settle_tests_pairwise (ds : List Declaration) :
    (settle ds).tests.Pairwise fun d e => d.sameTest e = false := by
  induction ds using List.reverseRecOn with
  | nil => exact .nil
  | append_singleton ds e ih =>
      rw [settle_concat, Settled.add]
      split
      · rename_i hnone
        refine List.pairwise_append.2 ⟨ih, List.pairwise_singleton _ _, ?_⟩
        intro d hd e' he'
        obtain rfl := List.mem_singleton.1 he'
        simpa using List.find?_eq_none.1 hnone d hd
      · exact ih

/-- A redeclaration is a declaration with an earlier one of the same test. -/
def Redeclaration.Follows (r : Redeclaration) (ds : List Declaration) : Prop :=
  ∃ before d after first, ds = before ++ d :: after ∧
    before.find? (·.sameTest d) = some first ∧ r = ⟨d.name, d.classPath, d.line, first.line⟩

theorem settle_redeclared (ds : List Declaration) :
    ∀ r ∈ (settle ds).redeclared, r.Follows ds := by
  induction ds using List.reverseRecOn with
  | nil => nofun
  | append_singleton ds e ih =>
      have hmore : ∀ r : Redeclaration, r.Follows ds → r.Follows (ds ++ [e]) := by
        rintro r ⟨before, d, after, first, rfl, hfirst, rfl⟩
        exact ⟨before, d, after ++ [e], first, by simp, hfirst, rfl⟩
      rw [settle_concat, Settled.add]
      split
      · exact fun r hr => hmore r (ih r hr)
      · rename_i first hfirst
        rw [find?_settle] at hfirst
        intro r hr
        rcases List.mem_append.1 hr with hr | hr
        · exact hmore r (ih r hr)
        · obtain rfl := List.mem_singleton.1 hr
          exact ⟨ds, e, [], first, rfl, hfirst, rfl⟩

/-- The redeclarations are declarations, in their order. -/
theorem settle_redeclared_sublist (ds : List Declaration) :
    ((settle ds).redeclared.map Redeclaration.site).Sublist (ds.map Declaration.site) := by
  induction ds using List.reverseRecOn with
  | nil => exact .refl _
  | append_singleton ds e ih =>
      rw [settle_concat, Settled.add, List.map_append]
      split
      · exact ih.trans (List.sublist_append_left _ _)
      · rw [List.map_append]
        exact ih.append_right _

/-- The redeclaration on other lines. -/
def Redeclaration.moved (lineOf : Nat → Nat) (r : Redeclaration) : Redeclaration :=
  { r with line := lineOf r.line, firstLine := lineOf r.firstLine }

/-- A change of declarations that keeps their names and class paths commutes with settling. -/
theorem settle_map {change : Declaration → Declaration} {lineOf : Nat → Nat}
    (hname : ∀ d, (change d).name = d.name) (hpath : ∀ d, (change d).classPath = d.classPath)
    (hline : ∀ d, (change d).line = lineOf d.line) (ds : List Declaration) :
    settle (ds.map change) =
      ⟨(settle ds).tests.map change, (settle ds).redeclared.map (·.moved lineOf)⟩ := by
  have hsame : ∀ d e, (change d).sameTest (change e) = d.sameTest e := fun d e => by
    rw [Declaration.sameTest, Declaration.sameTest, hname, hname, hpath, hpath]
  induction ds using List.reverseRecOn with
  | nil => rfl
  | append_singleton ds d ih =>
      rw [List.map_append, List.map_singleton, settle_concat, settle_concat, ih, Settled.add,
        Settled.add, List.find?_map]
      have hfind : (fun e => (change e).sameTest (change d)) = (·.sameTest d) :=
        funext fun e => hsame e d
      simp only [Function.comp_def, hfind]
      cases (settle ds).tests.find? (·.sameTest d) with
      | none => simp
      | some first => simp [Redeclaration.moved, hname, hpath, hline]

/-! ## Class names -/

mutual

theorem mem_openingsOf {s : Statement} {d : Definition} (h : d ∈ definitionsOf s) {name : String}
    (hname : name ∈ d.classPath) : .classDef name ∈ openingsOf s := by
  cases s with
  | filler f => cases h
  | small s => cases h
  | function decorators head body =>
      rcases List.mem_cons.1 h with rfl | h
      · cases hname
      · obtain ⟨e, he, rfl⟩ := List.mem_map.1 h
        exact .tail _ (mem_openings he hname)
  | classDef decorators className body =>
      obtain ⟨e, he, rfl⟩ := List.mem_map.1 h
      rcases List.mem_cons.1 hname with rfl | hname
      · exact .head _
      · exact .tail _ (mem_openings he hname)
  | compound kind blocks =>
      obtain ⟨e, he, rfl⟩ := List.mem_map.1 h
      exact mem_openingsInBlocks he hname

/-- The names of the classes around a definition open the classes of the tree. -/
theorem mem_openings {ss : List Statement} {d : Definition} (h : d ∈ definitions ss)
    {name : String} (hname : name ∈ d.classPath) : .classDef name ∈ openings ss := by
  cases ss with
  | nil => cases h
  | cons s rest =>
      rcases List.mem_append.1 h with h | h
      · exact List.mem_append_left _ (mem_openingsOf h hname)
      · exact List.mem_append_right _ (mem_openings h hname)

theorem mem_openingsInBlocks {blocks : List (List Statement)} {d : Definition}
    (h : d ∈ definitionsInBlocks blocks) {name : String} (hname : name ∈ d.classPath) :
    .classDef name ∈ openingsInBlocks blocks := by
  cases blocks with
  | nil => cases h
  | cons block rest =>
      rcases List.mem_append.1 h with h | h
      · exact List.mem_append_left _ (mem_openings h hname)
      · exact List.mem_append_right _ (mem_openingsInBlocks h hname)

end

/-! ## Discovery -/

/-- The file keeps the first of the declarations of each key and reports the others. -/
structure ParsedFile.KeepsFirst (f : ParsedFile) (ds : List Declaration) : Prop where
  /-- No two tests have one key. -/
  keys_nodup : (f.tests.map Declaration.key).Nodup
  /-- The tests are the declarations that are the first ones of their keys. -/
  mem_tests_iff : ∀ t, t ∈ f.tests ↔ ds.find? (·.key == t.key) = some t
  /-- A redeclaration has the class path and the name of exactly one test, which is the
  first declaration of its key and stands on the line that is reported, above it. -/
  redeclared_first : ∀ r ∈ f.redeclared, ∃ t ∈ f.tests,
    (t.classPath = r.classPath ∧ t.name = r.name) ∧ (∀ u ∈ f.tests, u.key = r.key → u = t) ∧
      ds.find? (·.key == r.key) = some t ∧ r.firstLine = t.line ∧ t.line < r.line
  /-- Declarations in different class paths have different keys. -/
  key_ne : ∀ d ∈ ds, ∀ e ∈ ds, d.classPath ≠ e.classPath → d.key ≠ e.key
  /-- The tests stand on ascending lines. -/
  tests_ascend : f.tests.Pairwise fun t u => t.line < u.line
  /-- The redeclarations are some of the declarations, in their order. -/
  redeclared_sublist : (f.redeclared.map Redeclaration.site).Sublist (ds.map Declaration.site)
  /-- The redeclarations stand on ascending lines. -/
  redeclared_ascend : f.redeclared.Pairwise fun r s => r.line < s.line

theorem find?_key {ds : List Declaration} (hds : ∀ d ∈ ds, Plain d.classPath) {d : Declaration}
    (hd : Plain d.classPath) : ds.find? (·.key == d.key) = ds.find? (·.sameTest d) := by
  induction ds with
  | nil => rfl
  | cons e ds ih =>
      have heq : (e.key == d.key) = e.sameTest d := by
        rw [Bool.eq_iff_iff, beq_iff_eq, sameTest_iff_key_eq (hds e (.head _)) hd]
      rw [List.find?_cons, List.find?_cons, heq, ih fun x hx => hds x (.tail _ hx)]

section

variable {ds : List Declaration} (hplain : ∀ d ∈ ds, Plain d.classPath)

include hplain

theorem settle_tests_plain : ∀ t ∈ (settle ds).tests, Plain t.classPath := fun t ht =>
  hplain t ((settle_tests_sublist ds).subset ht)

theorem settle_keys_nodup : ((settle ds).tests.map Declaration.key).Nodup := by
  have htests := settle_tests_plain hplain
  refine List.pairwise_map.2 ((settle_tests_pairwise ds).imp_of_mem fun ht hu hne hkey => ?_)
  rw [(sameTest_iff_key_eq (htests _ ht) (htests _ hu)).2 hkey] at hne
  cases hne

theorem settle_tests_unique : ∀ t ∈ (settle ds).tests, ∀ u ∈ (settle ds).tests,
    t.key = u.key → t = u :=
  List.inj_on_of_nodup_map (settle_keys_nodup hplain)

/-- The first declaration of a key is the test that is kept. -/
theorem find?_key_settle {d : Declaration} (hd : Plain d.classPath) :
    ds.find? (·.key == d.key) = (settle ds).tests.find? (·.sameTest d) := by
  rw [find?_key hplain hd, find?_settle]

theorem mem_settle_tests_iff (t : Declaration) :
    t ∈ (settle ds).tests ↔ ds.find? (·.key == t.key) = some t := by
  have htests := settle_tests_plain hplain
  constructor
  · intro ht
    rw [find?_key_settle hplain (htests t ht)]
    cases hfound : (settle ds).tests.find? (·.sameTest t) with
    | none => exact absurd t.sameTest_refl (List.find?_eq_none.1 hfound t ht)
    | some u =>
        have hu := List.mem_of_find?_eq_some hfound
        have hsame : u.sameTest t = true := by simpa using List.find?_some hfound
        have hkey := (sameTest_iff_key_eq (htests u hu) (htests t ht)).1 hsame
        rw [settle_tests_unique hplain u hu t ht hkey]
  · intro ht
    rw [find?_key_settle hplain (hplain t (List.mem_of_find?_eq_some ht))] at ht
    exact List.mem_of_find?_eq_some ht

theorem settle_redeclared_first (hlines : ds.Pairwise fun d e => d.line < e.line)
    {r : Redeclaration} (hr : r ∈ (settle ds).redeclared) :
    ∃ t ∈ (settle ds).tests, (t.classPath = r.classPath ∧ t.name = r.name) ∧
      (∀ u ∈ (settle ds).tests, u.key = r.key → u = t) ∧
      ds.find? (·.key == r.key) = some t ∧ r.firstLine = t.line ∧ t.line < r.line := by
  obtain ⟨before, d, after, first, hds, hfirst, rfl⟩ := settle_redeclared ds r hr
  have hd : Plain d.classPath := hplain d (by simp [hds])
  have hfound : ds.find? (·.sameTest d) = some first := by
    rw [hds, List.find?_append, hfirst, Option.some_or]
  have hmem : first ∈ (settle ds).tests := by
    rw [← find?_settle] at hfound
    exact List.mem_of_find?_eq_some hfound
  have hsame : first.sameTest d = true := by simpa using List.find?_some hfirst
  have hkey := (sameTest_iff_key_eq (settle_tests_plain hplain first hmem) hd).1 hsame
  have habove : first.line < d.line := by
    rw [hds] at hlines
    exact (List.pairwise_append.1 hlines).2.2 first (List.mem_of_find?_eq_some hfirst) d (.head _)
  simp only [Declaration.sameTest, Bool.and_eq_true, beq_iff_eq] at hsame
  refine ⟨first, hmem, ⟨hsame.2, hsame.1⟩, fun u hu hukey => ?_,
    (find?_key hplain hd).trans hfound, rfl, habove⟩
  exact settle_tests_unique hplain u hu first hmem (hukey.trans hkey.symm)

end

theorem settle_redeclared_ascend {ds : List Declaration}
    (hlines : ds.Pairwise fun d e => d.line < e.line) :
    (settle ds).redeclared.Pairwise fun r s => r.line < s.line := by
  have hsites : (ds.map Declaration.site).Pairwise fun a b => a.line < b.line :=
    List.pairwise_map.2 hlines
  have hredeclared := hsites.sublist (settle_redeclared_sublist ds)
  rw [List.pairwise_map] at hredeclared
  exact hredeclared

theorem settle_tests_sorted {ds : List Declaration}
    (hlines : ds.Pairwise fun d e => d.line < e.line) :
    (settle ds).tests.mergeSort Declaration.comesBefore = (settle ds).tests :=
  List.mergeSort_of_pairwise ((hlines.sublist (settle_tests_sublist ds)).imp fun h => by
    simp [Declaration.comesBefore, h])

/-- A file made of settled declarations keeps the first ones. -/
theorem keepsFirst_settle (path : String) {ds : List Declaration}
    (hplain : ∀ d ∈ ds, Plain d.classPath) (hlines : ds.Pairwise fun d e => d.line < e.line) :
    ParsedFile.KeepsFirst
      ⟨path, (settle ds).tests.mergeSort Declaration.comesBefore, (settle ds).redeclared⟩ ds := by
  rw [settle_tests_sorted hlines]
  exact
    { keys_nodup := settle_keys_nodup hplain
      mem_tests_iff := mem_settle_tests_iff hplain
      redeclared_first := fun _ hr => settle_redeclared_first hplain hlines hr
      key_ne := fun d hd e he hne hkey =>
        hne (className?_inj (hplain d hd) (hplain e he) (congrArg Prod.fst hkey))
      tests_ascend := hlines.sublist (settle_tests_sublist ds)
      redeclared_sublist := settle_redeclared_sublist ds
      redeclared_ascend := settle_redeclared_ascend hlines }

/-- The tests of an accepted source stand in the order in which they are declared. -/
theorem discoverIn_tests {rules : NamingRules} {source : String} {statements : List Statement}
    (h : readSource source = .ok statements) (path : String) :
    (discoverIn rules path statements).tests =
      (settle (testDeclarations rules statements)).tests := by
  have hlines : (testDeclarations rules statements).Pairwise fun d e => d.line < e.line :=
    List.pairwise_map.2 ((readSource_lines h).filter _)
  rw [discoverIn, declarations_ofModule]
  exact settle_tests_sorted hlines

/-- First declarations win.  The tests that the tree of a source declares stand on
ascending lines, and the file keeps the first one of each key as it is declared. -/
theorem discover_keeps_first {rules : NamingRules} {path source : String} {f : ParsedFile}
    (h : discover rules path source = .ok f) :
    ∃ statements, readSource source = .ok statements ∧
      (testDeclarations rules statements).Pairwise (fun d e => d.line < e.line) ∧
      f.KeepsFirst (testDeclarations rules statements) := by
  obtain ⟨statements, hread, rfl⟩ := discover_eq_ok.1 h
  have hlines : (testDeclarations rules statements).Pairwise fun d e => d.line < e.line :=
    List.pairwise_map.2 ((readSource_lines hread).filter _)
  have hplain : ∀ d ∈ testDeclarations rules statements, Plain d.classPath := by
    intro d hd name hname hcolon
    obtain ⟨definition, hdefinition, rfl⟩ := List.mem_map.1 hd
    rw [declaration_classPath] at hname
    have hopening := mem_openings (List.mem_filter.1 hdefinition).1 hname
    exact absurd (readSource_classNames hread hopening _ hcolon) (by decide)
  have hkeeps := keepsFirst_settle path hplain hlines
  rw [discoverIn, declarations_ofModule]
  exact ⟨statements, hread, hlines, hkeeps⟩

/-- A source that declares a test again in its class, in a second class of the same name,
and under the same name elsewhere. -/
def repeatedSource : String :=
  "class TestA:\n def test_a():0\n def test_a():1\nclass TestA:\n def test_a():2\ndef test_a():3\n"

theorem discover_keeps_first_repeated :
    ∃ f statements, discover .standard "test_shop.py" repeatedSource = .ok f ∧
      readSource repeatedSource = .ok statements ∧
      f.redeclared = [⟨"test_a", ["TestA"], 3, 2⟩, ⟨"test_a", ["TestA"], 5, 2⟩] ∧
      (testDeclarations .standard statements).Pairwise (fun d e => d.line < e.line) ∧
      f.KeepsFirst (testDeclarations .standard statements) := by
  have hredeclared : ((readSource repeatedSource).toOption.map fun ss =>
      (discoverIn .standard "test_shop.py" ss).redeclared) =
      some [⟨"test_a", ["TestA"], 3, 2⟩, ⟨"test_a", ["TestA"], 5, 2⟩] := by decide +kernel
  cases hread : readSource repeatedSource with
  | error e => simp [hread, Except.toOption] at hredeclared
  | ok statements =>
      have hdiscover : discover .standard "test_shop.py" repeatedSource =
          .ok (discoverIn .standard "test_shop.py" statements) :=
        discover_eq_ok.2 ⟨statements, hread, rfl⟩
      obtain ⟨statements', hread', hlines, hkeeps⟩ := discover_keeps_first hdiscover
      rw [hread] at hredeclared hread'
      cases hread'
      simp only [Except.toOption, Option.map_some, Option.some.injEq] at hredeclared
      exact ⟨_, statements, hdiscover, rfl, hredeclared, hlines, hkeeps⟩

end TestCensus
